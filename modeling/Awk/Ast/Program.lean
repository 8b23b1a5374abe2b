import Awk.Ast.Expr

/-! Statements, patterns and programs. -/

namespace Awk

/-- What a list of statements is the body of, which decides how it meets a jump out of it. -/
inductive BlockKind where
  | program
  | routine
  | iteration
  | simple
  deriving Repr, DecidableEq, Inhabited

/-- How redirected output reaches its target. -/
inductive RedirectKind where
  | truncate
  | append
  | pipe
  deriving Repr, DecidableEq

/-- Output that goes elsewhere than to standard output. -/
structure Redirect where
  kind : RedirectKind
  target : Expr
  deriving Repr

mutual

/-- A statement. -/
inductive Statement where
  | print (arguments : List Expr) (output : Option Redirect)
  | printf (arguments : List Expr) (output : Option Redirect)
  | expr (e : Expr)
  | if_ (condition : Expr) (yes : Block) (no : Option Block)
  | while_ (condition : Expr) (body : Block)
  | doWhile (body : Block) (condition : Expr)
  | for_ (start : Option Expr) (condition : Option Expr) (step : Option Expr) (body : Block)
  | forIn (name array : Name) (body : Block)
  | block (body : Block)
  | break_
  | continue_
  | next
  | return_ (value : Option Expr)
  | exit (status : Option Expr)
  /-- Deletes an element, or the whole array where there is no subscript. -/
  | delete (array : Name) (subscript : Option (List Expr))

/-- A list of statements. -/
inductive Block where
  | mk (kind : BlockKind) (statements : List Statement)

end

deriving instance Repr for Statement, Block

namespace Block

def kind : Block → BlockKind
  | mk k _ => k

def statements : Block → List Statement
  | mk _ ss => ss

instance : Inhabited Block := ⟨mk .simple []⟩

end Block

/-- Which records an action runs for. -/
inductive Pattern where
  | all
  | begin_
  | end_
  | regex (pattern : String)
  | expr (e : Expr)
  | not (inner : Pattern)
  | and (left right : Pattern)
  | or (left right : Pattern)
  /-- From a record that `first` selects to one that `last` selects. The number tells the ranges of
  a program apart. -/
  | range (id : Nat) (first last : Pattern)
  deriving Repr

/-- A pattern and what is done for the records that it selects. -/
structure Item where
  pattern : Pattern
  action : Block
  deriving Repr

/-- A function of the program. -/
structure Function where
  name : Name
  parameters : List Name
  body : Block
  span : Span
  deriving Repr

/-- A program: its items in order, its functions and how many range patterns it has. -/
structure Program where
  items : List Item
  functions : List Function
  ranges : Nat
  deriving Repr

namespace Pattern

def isBegin : Pattern → Bool
  | begin_ => true
  | _ => false

def isEnd : Pattern → Bool
  | end_ => true
  | _ => false

end Pattern

namespace Program

def empty : Program := ⟨[], [], 0⟩

/-- The function of a name. -/
def function? (p : Program) (name : Name) : Option Function := p.functions.find? (·.name = name)

def beginItems (p : Program) : List Item := p.items.filter (·.pattern.isBegin)

/-- The items that are tried for each record. -/
def mainItems (p : Program) : List Item :=
  p.items.filter fun i => !i.pattern.isBegin && !i.pattern.isEnd

def endItems (p : Program) : List Item := p.items.filter (·.pattern.isEnd)

/-- Whether the program needs input: unless every item is a `BEGIN` item. -/
def readsInput (p : Program) : Bool := p.items.any (!·.pattern.isBegin)

end Program

end Awk
