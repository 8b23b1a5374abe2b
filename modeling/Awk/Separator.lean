import Awk.Regex

/-! Field separators: how text is divided into fields. Empty fields are dropped. -/

namespace Awk

/-- How text is divided. -/
inductive Separator where
  /-- Blanks, tabs and newlines. -/
  | blanks
  /-- Every character is a field. -/
  | characters
  | char (c : Char)
  | regex (r : Regex)
  deriving Repr

namespace Separator

/-- The separator of a text that needs no regular expression. -/
def simple? (text : String) : Option Separator :=
  match text.toList with
  | [] => some characters
  | [c] => if c = ' ' then some blanks else if c ≠ '\\' then some (char c) else none
  | _ => none

/-- Adds a character to the run that a list of runs starts with. -/
def extend (c : Char) : List (List Char) → List (List Char)
  | [] => [[c]]
  | w :: ws => (c :: w) :: ws

/-- The stretches of text between characters that satisfy `p`, the empty ones too. -/
def stretches (p : Char → Bool) (s : List Char) : List (List Char) :=
  s.foldr (fun c ws => if p c then [] :: ws else extend c ws) [[]]

/-- The longest runs of characters that do not satisfy `p`. -/
def runs (p : Char → Bool) (s : List Char) : List (List Char) :=
  (stretches p s).filter (!·.isEmpty)

def isBlank (c : Char) : Bool := c = ' ' || c = '\t' || c = '\n'

/-- Divides text. -/
def fields (sep : Separator) (s : List Char) : List (List Char) :=
  match sep with
  | blanks => runs isBlank s
  | characters => s.map fun c => [c]
  | char c => runs (· = c) s
  | regex r => (r.split s).filter (!·.isEmpty)

/-- Divides a string. -/
def split (sep : Separator) (text : String) : List String :=
  (sep.fields text.toList).map String.ofList

end Separator

end Awk
