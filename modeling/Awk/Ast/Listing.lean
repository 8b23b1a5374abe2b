import Awk.Ast.Program
import Awk.Unicode.TextSet

/-! Listings of programs: each expression as its terms in order, each statement on a line of its
own, each block between braces with its kind, indented by its depth. -/

/-! Text between double quotes: quotes, backslashes and the usual controls are escaped, and
characters that would not show are written by their code. -/

namespace Awk.Quoted

/-- Whether a character is written by its code. -/
def isHidden (c : Char) : Bool :=
  if c.toNat < 127 then c.toNat < 32 else Unicode.hiddenSet.contains c

/-- A character between quotes. -/
def encodeChar (c : Char) : List Char :=
  match c with
  | '"' => ['\\', '"']
  | '\\' => ['\\', '\\']
  | '\n' => ['\\', 'n']
  | '\r' => ['\\', 'r']
  | '\t' => ['\\', 't']
  | '\x00' => ['\\', '0']
  | c =>
    if isHidden c then '\\' :: 'u' :: '{' :: (Nat.toDigits 16 c.toNat ++ ['}']) else [c]

/-- A text with its quotes. -/
def encode (s : String) : String := String.ofList ('"' :: (s.toList.flatMap encodeChar ++ ['"']))

end Awk.Quoted

namespace Awk.Listing

mutual

def term : Term → String
  | .value v => Quoted.encode v.text
  | .var name => name
  | .element name subscript => name ++ "[" ++ String.intercalate ", " (exprs subscript) ++ "]"
  | .op o => o.display
  | .group inner => "(" ++ String.intercalate " " (terms inner) ++ ")"
  | .subscript parts => "(" ++ String.intercalate ", " (exprs parts) ++ ")"
  | .regex pattern => "/" ++ pattern ++ "/"
  | .call callee arguments =>
    callee.name ++ "(" ++ String.intercalate ", " (exprs arguments) ++ ")"
  | .getline target source => command source ++ "getline" ++ destination target ++ file source

def terms : List Term → List String
  | [] => []
  | t :: r => term t :: terms r

def exprs : List (List Term) → List String
  | [] => []
  | e :: r => String.intercalate " " (terms e) :: exprs r

def command : InputSource (List Term) → String
  | .command text => "(" ++ String.intercalate " " (terms text) ++ ") | "
  | _ => ""

def file : InputSource (List Term) → String
  | .file name => " < (" ++ String.intercalate " " (terms name) ++ ")"
  | _ => ""

def destination : Option (Target (List Term)) → String
  | none => ""
  | some t => " " ++ target t

def target : Target (List Term) → String
  | .var name => name
  | .element name subscript => name ++ "[" ++ String.intercalate ", " (exprs subscript) ++ "]"
  | .field index => "$(" ++ String.intercalate " " (terms index) ++ ")"

end

/-- An expression: its terms with blanks between them. -/
def expr (e : Expr) : String := String.intercalate " " (terms e)

def optionalExpr (e : Option Expr) : String := (e.map expr).getD ""

/-- Expressions with commas between them. -/
def commas (es : List Expr) : String := String.intercalate ", " (es.map expr)

def blockKind : BlockKind → String
  | .program => "Program"
  | .routine => "Routine"
  | .iteration => "Iteration"
  | .simple => "Simple"

/-- Blanks for a depth. -/
def indent (depth : Nat) : String := String.ofList (List.replicate (2 * depth) ' ')

def redirect : Option Redirect → String
  | none => ""
  | some r =>
    let sign := match r.kind with
      | .truncate => ">"
      | .append => ">>"
      | .pipe => "|"
    " " ++ sign ++ " " ++ expr r.target

/-- A statement's keyword with its arguments and redirection. -/
def output (keyword : String) (arguments : List Expr) (target : Option Redirect) : String :=
  keyword ++ (if arguments.isEmpty then "" else " " ++ commas arguments) ++ redirect target

mutual

/-- The lines of a statement. -/
def statement (depth : Nat) : Statement → List String
  | .print arguments target => [indent depth ++ output "print" arguments target]
  | .printf arguments target => [indent depth ++ output "printf" arguments target]
  | .expr e => [indent depth ++ expr e]
  | .if_ condition yes no =>
    (indent depth ++ "if " ++ expr condition) :: (block depth yes ++ otherwise depth no)
  | .while_ condition body => (indent depth ++ "while " ++ expr condition) :: block depth body
  | .doWhile body condition =>
    (indent depth ++ "do") :: (block depth body ++ [indent depth ++ "while " ++ expr condition])
  | .for_ start condition step body =>
    (indent depth ++ "for (" ++ optionalExpr start ++ "; " ++ optionalExpr condition ++ "; " ++
      optionalExpr step ++ ")") :: block depth body
  | .forIn name array body =>
    (indent depth ++ "for (" ++ name ++ " in " ++ array ++ ")") :: block depth body
  | .block body =>
    match block depth body with
    | first :: rest => (indent depth ++ first) :: rest
    | [] => []
  | .break_ => [indent depth ++ "break"]
  | .continue_ => [indent depth ++ "continue"]
  | .next => [indent depth ++ "next"]
  | .return_ none => [indent depth ++ "return"]
  | .return_ (some e) => [indent depth ++ "return " ++ expr e]
  | .exit none => [indent depth ++ "exit"]
  | .exit (some e) => [indent depth ++ "exit " ++ expr e]
  | .delete array none => [indent depth ++ "delete " ++ array]
  | .delete array (some subscript) =>
    [indent depth ++ "delete " ++ array ++ "[" ++ commas subscript ++ "]"]

def otherwise (depth : Nat) : Option Block → List String
  | none => []
  | some b => (indent depth ++ "else") :: block depth b

def statements (depth : Nat) : List Statement → List String
  | [] => []
  | s :: r => statement depth s ++ statements depth r

/-- The lines of a block. -/
def block (depth : Nat) : Block → List String
  | .mk kind body =>
    (indent depth ++ "\x7b # " ++ blockKind kind) ::
      (statements (depth + 1) body ++ [indent depth ++ "\x7d"])

end

def pattern : Pattern → String
  | .all => ""
  | .begin_ => "BEGIN"
  | .end_ => "END"
  | .regex p => "/" ++ p ++ "/"
  | .expr e => expr e
  | .not inner => "!(" ++ pattern inner ++ ")"
  | .and left right => "(" ++ pattern left ++ ") && (" ++ pattern right ++ ")"
  | .or left right => "(" ++ pattern left ++ ") || (" ++ pattern right ++ ")"
  | .range _ first last => pattern first ++ ", " ++ pattern last

def item (i : Item) : List String := pattern i.pattern :: block 0 i.action

def function (f : Function) : List String :=
  ("function " ++ f.name ++ "(" ++ String.intercalate ", " f.parameters ++ ")") :: block 0 f.body

/-- The functions in the order of their place in the program. -/
def orderedFunctions (p : Program) : List Function :=
  p.functions.mergeSort fun f g => f.span.start ≤ g.span.start

/-- A program: its functions, then its items. -/
def program (p : Program) : String :=
  String.join (((orderedFunctions p).flatMap function ++ p.items.flatMap item).map (· ++ "\n"))

end Awk.Listing
