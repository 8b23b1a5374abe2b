import Awk.Ast.Program

/-! The expressions and the blocks inside of expressions, statements, patterns and programs, down to
any depth. -/

namespace Awk

namespace Target

def parts : Target Expr → List Expr
  | var _ => []
  | element _ subscript => subscript
  | field index => [index]

end Target

namespace InputSource

def parts : InputSource Expr → List Expr
  | main => []
  | file name => [name]
  | command text => [text]

end InputSource

namespace Term

/-- The expressions right inside of a term. -/
def parts : Term → List Expr
  | element _ ps => ps
  | group inner => [inner]
  | subscript ps => ps
  | call _ ps => ps
  | getline target source => (target.map Target.parts).getD [] ++ source.parts
  | value _ | var _ | op _ | regex _ => []

end Term

namespace Statement

/-- The expressions of a statement that are in none of its blocks. -/
def exprs : Statement → List Expr
  | print ps output => ps ++ (output.map Redirect.target).toList
  | printf ps output => ps ++ (output.map Redirect.target).toList
  | expr e => [e]
  | if_ condition _ _ => [condition]
  | while_ condition _ => [condition]
  | doWhile _ condition => [condition]
  | for_ start condition step _ => start.toList ++ condition.toList ++ step.toList
  | return_ value => value.toList
  | exit status => status.toList
  | delete _ subscript => subscript.getD []
  | forIn .. | block _ | break_ | continue_ | next => []

/-- The blocks right inside of a statement. -/
def blocks : Statement → List Block
  | if_ _ yes no => yes :: no.toList
  | while_ _ body => [body]
  | doWhile body _ => [body]
  | for_ _ _ _ body => [body]
  | forIn _ _ body => [body]
  | block body => [body]
  | print .. | printf .. | expr _ | break_ | continue_ | next | return_ _ | exit _ | delete .. => []

/-- The kind of the blocks of a statement: a loop has iterations. -/
def bodyKind : Statement → BlockKind
  | while_ .. | doWhile .. | for_ .. | forIn .. => .iteration
  | _ => .simple

theorem bodyKind_ne_program (s : Statement) : s.bodyKind ≠ .program := by
  cases s <;> nofun

end Statement

namespace Pattern

def exprs : Pattern → List Expr
  | all | begin_ | end_ | regex _ => []
  | expr e => [e]
  | not inner => inner.exprs
  | and left right => left.exprs ++ right.exprs
  | or left right => left.exprs ++ right.exprs
  | range _ first last => first.exprs ++ last.exprs

/-- The numbers of the ranges in a pattern. -/
def ranges : Pattern → List Nat
  | all | begin_ | end_ | regex _ | expr _ => []
  | not inner => inner.ranges
  | and left right => left.ranges ++ right.ranges
  | or left right => left.ranges ++ right.ranges
  | range id first last => id :: (first.ranges ++ last.ranges)

end Pattern

variable {P Q : Expr → Prop}

/-- `P` holds of an expression and of all expressions inside of it. -/
inductive Expr.Everywhere (P : Expr → Prop) : Expr → Prop
  | intro {e : Expr} : P e → (∀ t ∈ e, ∀ p ∈ t.parts, Everywhere P p) → Everywhere P e

/-- `P` holds of all expressions inside of a block, and none of the blocks inside of it is the
action of an item. -/
inductive Block.Everywhere (P : Expr → Prop) : Block → Prop
  | intro {b : Block} : (∀ s ∈ b.statements, ∀ e ∈ s.exprs, e.Everywhere P) →
      (∀ s ∈ b.statements, ∀ c ∈ s.blocks, c.kind ≠ .program) →
      (∀ s ∈ b.statements, ∀ c ∈ s.blocks, Everywhere P c) → Everywhere P b

/-- `P` holds of all expressions of a program, its functions are routines, and its actions are the
actions of items. -/
structure Program.Everywhere (P : Expr → Prop) (p : Program) : Prop where
  patterns : ∀ i ∈ p.items, ∀ e ∈ i.pattern.exprs, e.Everywhere P
  actions : ∀ i ∈ p.items, i.action.kind = .program ∧ i.action.Everywhere P
  functions : ∀ f ∈ p.functions, f.body.kind = .routine ∧ f.body.Everywhere P

/-- The blocks inside of a block are of the kinds that go with their statements. -/
inductive Block.Structured : Block → Prop
  | intro {b : Block} : (∀ s ∈ b.statements, ∀ c ∈ s.blocks, c.kind = s.bodyKind) →
      (∀ s ∈ b.statements, ∀ c ∈ s.blocks, Structured c) → Structured b

/-- The blocks of a program, which are the actions of items and the routines of functions, are
structured. -/
structure Program.Structured (p : Program) : Prop where
  actions : ∀ i ∈ p.items, i.action.kind = .program ∧ i.action.Structured
  functions : ∀ f ∈ p.functions, f.body.kind = .routine ∧ f.body.Structured

namespace Expr.Everywhere

theorem here {e : Expr} (h : e.Everywhere P) : P e := by
  obtain ⟨he, -⟩ := h
  exact he

theorem part {e p : Expr} {t : Term} (h : e.Everywhere P) (ht : t ∈ e) (hp : p ∈ t.parts) :
    p.Everywhere P := by
  obtain ⟨-, hparts⟩ := h
  exact hparts t ht p hp

theorem mono (hPQ : ∀ e, e.Everywhere P → Q e) {e : Expr} (h : e.Everywhere P) :
    e.Everywhere Q := by
  induction h with
  | intro he hparts ih => exact .intro (hPQ _ (.intro he hparts)) ih

end Expr.Everywhere

namespace Block.Everywhere

theorem expr {b : Block} {s : Statement} {e : Expr} (h : b.Everywhere P) (hs : s ∈ b.statements)
    (he : e ∈ s.exprs) : e.Everywhere P := by
  obtain ⟨hexprs, -⟩ := h
  exact hexprs s hs e he

theorem block {b c : Block} {s : Statement} (h : b.Everywhere P) (hs : s ∈ b.statements)
    (hc : c ∈ s.blocks) : c.kind ≠ .program ∧ c.Everywhere P := by
  obtain ⟨-, hkinds, hblocks⟩ := h
  exact ⟨hkinds s hs c hc, hblocks s hs c hc⟩

theorem mono (hPQ : ∀ e, e.Everywhere P → Q e) {b : Block} (h : b.Everywhere P) :
    b.Everywhere Q := by
  induction h with
  | intro hexprs hkinds _ ih =>
    exact .intro (fun s hs e he => (hexprs s hs e he).mono hPQ) hkinds ih

end Block.Everywhere

theorem Program.Everywhere.mono (hPQ : ∀ e, e.Everywhere P → Q e) {p : Program}
    (h : p.Everywhere P) : p.Everywhere Q where
  patterns i hi e he := (h.patterns i hi e he).mono hPQ
  actions i hi := ⟨(h.actions i hi).1, (h.actions i hi).2.mono hPQ⟩
  functions f hf := ⟨(h.functions f hf).1, (h.functions f hf).2.mono hPQ⟩

/-- Expressions and blocks that are admitted with all that is inside of them. -/
structure Admission where
  expr : Expr → Prop
  block : Block → Prop
  expr_part : ∀ {e t p}, expr e → t ∈ e → p ∈ t.parts → expr p
  block_expr : ∀ {b s e}, block b → s ∈ b.statements → e ∈ s.exprs → expr e
  block_block : ∀ {b s b'}, block b → s ∈ b.statements → b' ∈ s.blocks → block b'

def Admission.everywhere (P : Expr → Prop) : Admission where
  expr := Expr.Everywhere P
  block := Block.Everywhere P
  expr_part he ht hp := he.part ht hp
  block_expr hb hs he := hb.expr hs he
  block_block hb hs hc := (hb.block hs hc).2

end Awk
