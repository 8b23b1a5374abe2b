import Awk.Records
import Awk.Value

/-! The order of lines: by their keys in turn, which are ranges of fields or whole lines, as bytes
or as numbers. Lines whose keys are equal go by all their bytes. -/

namespace Awk.Shell

open Records (Bytes textOf bytesOf)

/-- How two keys are compared. -/
structure SortRule where
  numeric : Bool
  reverse : Bool
  /-- Whether blanks at the start of a key are dropped. -/
  trimmed : Bool
  deriving Repr, DecidableEq

/-- A key: the fields from `first` to `last`, or to the end of the line. -/
structure SortKey where
  first : Nat
  last : Option Nat
  rule : SortRule
  deriving Repr, DecidableEq

/-- How lines are sorted. -/
structure SortOptions where
  separator : Option UInt8
  rule : SortRule
  keys : List SortKey
  /-- Whether of lines with equal keys only the first is kept. -/
  unique : Bool
  operands : List String
  deriving Repr, DecidableEq

/-- The order of bytes, that of the first difference. -/
def bytesOrder : Bytes → Bytes → Ordering
  | [], [] => .eq
  | [], _ :: _ => .lt
  | _ :: _, [] => .gt
  | a :: r, b :: s => if a < b then .lt else if b < a then .gt else bytesOrder r s

def isLineBlank (b : UInt8) : Bool := b = 32 || b = 9

/-- The number that a key starts with, after blanks; zero if there is none. -/
def leadingNumber (key : Bytes) : Float :=
  let s := (textOf (key.dropWhile isLineBlank)).toList
  (Value.ofString (.ofList (s.takeWhile fun c => c.isDigit || c = '.' || c = '-'))).toReal

namespace SortRule

def standard : SortRule := ⟨false, false, false⟩

/-- The rule with what a letter asks for. -/
def withLetter (rule : SortRule) : Char → SortRule
  | 'n' => { rule with numeric := true }
  | 'r' => { rule with reverse := true }
  | 'b' => { rule with trimmed := true }
  | _ => rule

/-- The order of two keys. -/
def order (rule : SortRule) (a b : Bytes) : Ordering :=
  let trim := fun s : Bytes => if rule.trimmed then s.dropWhile isLineBlank else s
  let o :=
    if rule.numeric then
      let x := leadingNumber a
      let y := leadingNumber b
      if x < y then .lt else if y < x then .gt else .eq
    else bytesOrder (trim a) (trim b)
  if rule.reverse then o.swap else o

end SortRule

/-- The fields of a line: those between separators, or without one each a run of blanks with what
follows it. -/
def lineFields (separator : Option UInt8) (line : Bytes) : List Bytes :=
  match separator with
  | none => line.splitBy fun a b => isLineBlank a || !isLineBlank b
  | some c => line.foldr (fun b fields =>
      if b = c then [] :: fields
      else match fields with
        | [] => [[b]]
        | f :: fields => (b :: f) :: fields) [[]]

/-- The bytes of a line that a key takes. -/
def SortKey.of (key : SortKey) (separator : Option UInt8) (line : Bytes) : Bytes :=
  let fields := (lineFields separator line).drop (key.first - 1)
  let fields := match key.last with
    | some n => fields.take (n + 1 - key.first)
    | none => fields
  match separator with
  | some c => (fields.intersperse [c]).flatten
  | none => fields.flatten

namespace SortOptions

/-- The order of two lines by their keys alone. -/
def keyOrder (o : SortOptions) (a b : Bytes) : Ordering :=
  if o.keys.isEmpty then o.rule.order a b
  else o.keys.foldl (fun order key =>
    order.then (key.rule.order (key.of o.separator a) (key.of o.separator b))) .eq

/-- The order of two lines. -/
def order (o : SortOptions) (a b : Bytes) : Ordering :=
  let rest := if o.unique then .eq
    else if o.rule.reverse then (bytesOrder a b).swap
    else bytesOrder a b
  (o.keyOrder a b).then rest

/-- Sorts lines. -/
def sort (o : SortOptions) (ls : List Bytes) : List Bytes :=
  let sorted := ls.mergeSort fun a b => o.order a b ≠ .gt
  if o.unique then
    (sorted.foldl (fun kept l => match kept with
      | k :: _ => if o.keyOrder k l = .eq then kept else l :: kept
      | [] => [l]) []).reverse
  else sorted

/-- Adds a key that is written as its fields and letters, such as `2,3n`. -/
def addKey (o : SortOptions) (text : String) : SortOptions :=
  let number := fun s : List Char =>
    (Value.ofString (.ofList (s.takeWhile Char.isDigit))).toInteger.toNat
  let s := text.toList
  let first := s.takeWhile (· ≠ ',')
  let rest := (s.drop first.length).drop 1
  let last := if rest.isEmpty then none else some (number rest)
  let letters := s.filter Char.isAlpha
  let rule := if letters.isEmpty then o.rule else letters.foldl SortRule.withLetter .standard
  { o with keys := o.keys ++ [⟨number first, last, rule⟩] }

def setSeparator (o : SortOptions) (text : String) : SortOptions :=
  { o with separator := (bytesOf text).head? }

/-- Adds what the letters of an option ask for, to the keys without letters as well. -/
def addLetters (o : SortOptions) (letters : List Char) : SortOptions :=
  let rule := letters.foldl SortRule.withLetter o.rule
  let keys := o.keys.map fun k => if k.rule = o.rule then { k with rule } else k
  { o with rule, keys, unique := o.unique || letters.contains 'u' }

/-- Reads arguments. -/
def read : List String → SortOptions → SortOptions
  | [], o => o
  | "-k" :: key :: r, o => read r (o.addKey key)
  | "-t" :: c :: r, o => read r (o.setSeparator c)
  | a :: r, o =>
    match a.toList with
    | '-' :: 'k' :: key => read r (o.addKey (.ofList key))
    | '-' :: 't' :: c => read r (o.setSeparator (.ofList c))
    | '-' :: c :: letters => read r (o.addLetters (c :: letters))
    | _ => read r { o with operands := o.operands ++ [a] }

def ofArguments (arguments : List String) : SortOptions :=
  read arguments ⟨none, .standard, [], false, []⟩

end SortOptions

end Awk.Shell
