import Awk.Regex.Reader

/-! Classes of characters in brackets: characters, ranges, named classes and classes in brackets of
their own, with the operations of sets between them. -/

namespace Awk.Regex

open Unicode (CharSet)
open Reader

/-- A part of an expression, with how deep its constructs nest. -/
structure Nested (α : Type) where
  content : α
  depth : Nat
  deriving Repr

/-- The operations between the parts of a class, from the left. -/
inductive SetOperation where
  | intersection
  | difference
  | symmetricDifference
  deriving Repr, DecidableEq

namespace SetOperation

def apply : SetOperation → CharSet → CharSet → CharSet
  | intersection, s, t => s.inter t
  | difference, s, t => s.diff t
  | symmetricDifference, s, t => s.symmDiff t

/-- The operation that is written as a doubled character. -/
def ofChar? : Char → Option SetOperation
  | '&' => some intersection
  | '-' => some difference
  | '~' => some symmetricDifference
  | _ => none

end SetOperation

/-- The items read in one part of a class. -/
structure Items where
  members : CharSet := .empty
  count : Nat := 0
  depth : Nat := 0
  deriving Repr

namespace Items

def add (items : Items) (s : CharSet) (depth : Nat) : Items :=
  ⟨items.members.union s, items.count + 1, max items.depth depth⟩

/-- The items as one part: several are one level deeper than one. -/
def whole (items : Items) : Nested CharSet :=
  ⟨items.members, if items.count = 1 then items.depth else items.depth + 1⟩

end Items

/-- A class under way: the part left of the last operation, and the items after it. -/
structure Bracket where
  negated : Bool
  left : Option (SetOperation × Nested CharSet)
  items : Items
  deriving Repr

namespace Bracket

/-- What has been read, as one part. -/
def whole (f : Flags) (b : Bracket) : Nested CharSet :=
  let right := b.items.whole
  match b.left with
  | none => right
  | some (o, left) =>
    ⟨o.apply (f.foldCase left.content) (f.foldCase right.content),
      max left.depth right.depth + 1⟩

def add (b : Bracket) (s : CharSet) (depth : Nat) : Bracket :=
  { b with items := b.items.add s depth }

/-- Starts the part after an operation. -/
def operate (f : Flags) (b : Bracket) (o : SetOperation) : Bracket :=
  { b with left := some (o, b.whole f), items := {} }

/-- The class as a set. -/
def close (f : Flags) (b : Bracket) : Option (Nested CharSet) :=
  let inner := b.whole f
  (f.close b.negated inner.content).map fun s => ⟨s, inner.depth + 1⟩

end Bracket

/-- The code of an atom that can end a range. Without Unicode only ASCII characters can. -/
def Atom.code? (f : Flags) : Atom → Option Nat
  | .char c => if f.unicode || c.toNat < 128 then some c.toNat else none
  | .byte n => if f.unicode || n < 128 then some n else none
  | _ => none

/-- The set of an atom in a class. -/
def Atom.members? (f : Flags) : Atom → Option CharSet
  | .set s => some s
  | a => (a.code? f).map fun n => ⟨[(n, n)]⟩

/-- A character or an escape in a class. -/
def bracketAtom (f : Flags) : Reader Atom := do
  let c ← next
  if c = '\\' then escape f else return .char c

/-- An item of a class: an atom or a range between two. A hyphen before the closing bracket or
before another hyphen makes no range. -/
def bracketRange (f : Flags) : Reader CharSet := do
  let first ← bracketAtom f
  skipBlank f
  let single := do lift (first.members? f)
  match ← rest with
  | [] => invalid
  | '-' :: r =>
    let ahead := (if f.verbose then blankless r else r).head?
    if ahead = some ']' || ahead = some '-' then single
    else
      let _ ← nextSkip f
      let lo ← lift (first.code? f)
      let hi ← lift ((← bracketAtom f).code? f)
      require (lo ≤ hi)
      return ⟨[(lo, hi)]⟩
  | _ => single

/-- A named class such as `[:alpha:]` at the front, and what follows it. -/
def asciiClass? (f : Flags) (s : List Char) : Option (Option CharSet × List Char) :=
  match s with
  | '[' :: ':' :: r =>
    let (negated, r) := match r with
      | '^' :: r => (true, r)
      | _ => (false, r)
    match r.dropWhile (· ≠ ':') with
    | ':' :: ']' :: after =>
      (asciiSet? (.ofList (r.takeWhile (· ≠ ':')))).map fun s => (f.close negated s, after)
    | _ => none
  | _ => none

/-- The start of a class, after its bracket: whether it holds the other characters, and the hyphens
or the closing bracket that are its first members. -/
def openBracket (f : Flags) : Reader Bracket := do
  skipBlank f
  let negated := (← peek) = '^'
  if negated then
    let _ ← nextSkip f
  let hyphens ← takeAllSkip f (· = '-')
  let items := hyphens.foldl (fun (items : Items) _ => items.add ⟨[(45, 45)]⟩ 0) {}
  if (← peek) = ']' && hyphens.isEmpty then
    let _ ← nextSkip f
    return ⟨negated, none, items.add ⟨[(93, 93)]⟩ 0⟩
  else return ⟨negated, none, items⟩

/-- The rest of a class, inside the classes that are `outer`, innermost first. -/
def bracketRest (f : Flags) : Nat → List Bracket → Bracket → Reader (Nested CharSet)
  | 0, _, _ => invalid
  | n + 1, outer, b => do
    skipBlank f
    match ← rest with
    | [] => invalid
    | '[' :: _ =>
      match asciiClass? f (← rest) with
      | some (members, after) =>
        set after
        bracketRest f n outer (b.add (← lift members) 0)
      | none =>
        let _ ← next
        bracketRest f n (b :: outer) (← openBracket f)
    | ']' :: _ =>
      let _ ← next
      let closed ← lift (b.close f)
      match outer with
      | [] => return closed
      | b' :: outer => bracketRest f n outer (b'.add closed.content closed.depth)
    | c :: c' :: r =>
      match SetOperation.ofChar? c with
      | some o =>
        if c = c' then
          set r
          bracketRest f n outer (b.operate f o)
        else bracketRest f n outer (b.add (← bracketRange f) 0)
      | none => bracketRest f n outer (b.add (← bracketRange f) 0)
    | _ => bracketRest f n outer (b.add (← bracketRange f) 0)

/-- A class in brackets, after the first one. -/
def bracket (f : Flags) : Reader (Nested CharSet) := do
  let n := (← rest).length
  bracketRest f (n + 1) [] (← openBracket f)

end Awk.Regex
