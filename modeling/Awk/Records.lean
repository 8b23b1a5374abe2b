import Awk.Text.Utf8

/-! Records in a stream of bytes. A separator ends a record where it first occurs; the empty
separator stands for blank lines. -/

namespace Awk.Records

abbrev Bytes := List UInt8

def newline : UInt8 := 10

/-- The bytes of a text. -/
def bytesOf (text : String) : Bytes := text.toUTF8.data.toList

@[simp] theorem bytesOf_append (a b : String) : bytesOf (a ++ b) = bytesOf a ++ bytesOf b := by
  simp [bytesOf]

@[simp] theorem length_bytesOf (text : String) : (bytesOf text).length = text.utf8ByteSize := by
  simp [bytesOf]

@[simp] theorem bytesOf_eq_nil_iff {text : String} : bytesOf text = [] ↔ text = "" := by
  rw [← List.length_eq_zero_iff, length_bytesOf, String.utf8ByteSize_eq_zero_iff]

/-- The text of bytes. -/
def textOf (bytes : Bytes) : String := Utf8.decode ⟨bytes.toArray⟩

/-- Reads on until what has been read ends with a separator: the bytes before it and those past it.
The separator and what has been `taken` are given last byte first. -/
def cutAfter (reversed taken : Bytes) : Bytes → Option (Bytes × Bytes)
  | [] => none
  | b :: r =>
    if reversed.isPrefixOf (b :: taken) then
      some (((b :: taken).drop reversed.length).reverse, r)
    else cutAfter reversed (b :: taken) r

/-- The bytes up to where a separator first occurs, and the bytes past it. -/
def cut? (separator s : Bytes) : Option (Bytes × Bytes) := cutAfter separator.reverse [] s

/-- The lines up to the first empty one, and the bytes past that. Empty lines at the start do not
count. -/
def cutParagraph? (s : Bytes) : Option (Bytes × Bytes) :=
  cut? [newline, newline] (s.dropWhile (· = newline))

/-- The bytes without one newline at their end. -/
def chomp (s : Bytes) : Bytes := if s.getLast? = some newline then s.dropLast else s

/-- A record that is complete, and the bytes past it. -/
def complete? (separator s : Bytes) : Option (Bytes × Bytes) :=
  if separator.isEmpty then cutParagraph? s else cut? separator s

/-- The record that the end of the stream completes. -/
def final? (separator s : Bytes) : Option Bytes :=
  let record := if separator.isEmpty then chomp (s.dropWhile (· = newline)) else s
  if record.isEmpty then none else some record

/-- The next record of a stream of which nothing more will come, and the bytes past it. -/
def next (separator s : Bytes) : Option Bytes × Bytes :=
  match complete? separator s with
  | some (record, rest) => (some record, rest)
  | none => (final? separator s, [])

/-- Where there is no next record, nothing is left. -/
theorem next_rest {separator s : Bytes} (h : (next separator s).1 = none) :
    (next separator s).2 = [] := by
  unfold next at h ⊢
  split
  · rename_i hcomplete
    rw [hcomplete] at h
    cases h
  · rfl

end Awk.Records
