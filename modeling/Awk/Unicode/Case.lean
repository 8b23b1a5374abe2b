import Awk.Unicode.CaseTable
import Awk.Unicode.TextSet

/-! Changes of letter case. Capital and small forms are those of the standard, with the forms that
take several characters; a capital sigma that ends a word becomes the final small one. -/

namespace Awk.Unicode

/-- Characters `first` to `last`, every `stride`-th, moved by `shift`. -/
structure CaseRun where
  first : Nat
  last : Nat
  stride : Nat
  shift : Int
  deriving Repr

namespace CaseRun

/-- Reads one item of a case table. -/
def ofItem (item : List Char) : CaseRun :=
  let isSign := fun c => c = '+' || c = '~'
  let place := item.takeWhile (!isSign ·)
  let range := CharSet.rangeOf (place.filter (· ≠ '/'))
  let shift : Int := hexValue ((item.dropWhile (!isSign ·)).drop 1)
  { first := range.1
    last := range.2
    stride := if place.contains '/' then 2 else 1
    shift := if item.contains '~' then -shift else shift }

def covers (r : CaseRun) (c : Nat) : Bool :=
  r.first ≤ c && c ≤ r.last && (c - r.first) % r.stride = 0

/-- Where the first run that covers `c` takes it. -/
def apply (runs : List CaseRun) (c : Nat) : Nat :=
  match runs.find? (·.covers c) with
  | some r => (c + r.shift).toNat
  | none => c

end CaseRun

def lowerRuns : List CaseRun := (tableItems lowerTable).map CaseRun.ofItem

def upperRuns : List CaseRun := (tableItems upperTable).map CaseRun.ofItem

def foldRuns : List CaseRun := (tableItems foldTable).map CaseRun.ofItem

/-- Reads `c>x,y` items. -/
def longForms (table : List String) : List (Nat × List Nat) :=
  (table.flatMap (·.splitOn " ")).map fun item =>
    match item.splitOn ">" with
    | [c, forms] => (hexValue c.toList, (forms.splitOn ",").map fun f => hexValue f.toList)
    | _ => (0, [])

def longLower : List (Nat × List Nat) := longForms longLowerTable

def longUpper : List (Nat × List Nat) := longForms longUpperTable

/-- The form of a character by a table of long forms and runs. -/
def caseForm (long : List (Nat × List Nat)) (runs : List CaseRun) (c : Char) : List Char :=
  match long.lookup c.toNat with
  | some forms => forms.map Char.ofNat
  | none => [Char.ofNat (CaseRun.apply runs c.toNat)]

/-- The small form of a character by itself. -/
def lowerChar (c : Char) : List Char :=
  if c.toNat < 128 then [c.toLower] else caseForm longLower lowerRuns c

def upperChar (c : Char) : List Char :=
  if c.toNat < 128 then [c.toUpper] else caseForm longUpper upperRuns c

/-- Whether the first character that does not drop out of a comparison of case has case. -/
def leadsCased (s : List Char) : Bool :=
  match s.dropWhile caseIgnorableSet.contains with
  | c :: _ => casedSet.contains c
  | [] => false

/-- Small forms of the characters after `before`, which is reversed. -/
def lowerFrom (before : List Char) : List Char → List Char
  | [] => []
  | c :: r =>
    let form :=
      if c = 'Σ' then [if leadsCased before && !leadsCased r then 'ς' else 'σ'] else lowerChar c
    form ++ lowerFrom (c :: before) r

def toLower (s : String) : String := String.ofList (lowerFrom [] s.toList)

def toUpper (s : String) : String := String.ofList (s.toList.flatMap upperChar)

/-- Every character that is not its own representative where case is ignored, with the one that
is. -/
def foldPairs : List (Nat × Nat) :=
  foldRuns.flatMap fun r =>
    (List.range ((r.last - r.first) / r.stride + 1)).map fun i =>
      let c := r.first + i * r.stride
      (c, ((c : Int) + r.shift).toNat)

/-- A set with all characters that equal one of its own where case is ignored. -/
def CharSet.foldCase (s : CharSet) : CharSet :=
  let holds := CharSet.rangesHold s.ranges
  let met := CharSet.ofCodes ((foldPairs.filter fun p => holds p.1 || holds p.2).map (·.2))
  let added := foldPairs.filter fun p => CharSet.rangesHold met.ranges p.2
  s.union (CharSet.ofCodes (added.flatMap fun p => [p.1, p.2]))

end Awk.Unicode
