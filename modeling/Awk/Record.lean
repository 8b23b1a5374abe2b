/-! The current record: its text and its fields. A change of a field, or of how many there are,
joins the text anew. -/

namespace Awk

/-- The greatest number of fields. -/
def maxFields : Nat := 1048576

/-- A record. The fields count from 1; 0 is the whole text. -/
structure Record where
  text : String
  fields : List String
  deriving Repr, DecidableEq, Inhabited

namespace Record

def empty : Record := ⟨"", []⟩

def fieldCount (r : Record) : Nat := r.fields.length

/-- A field; one past the last is empty. -/
def field (r : Record) : Nat → String
  | 0 => r.text
  | n + 1 => r.fields.getD n ""

/-- Exactly `n` fields: the first of those given, and empty ones for any missing. -/
def resize (n : Nat) (fields : List String) : List String :=
  fields.take n ++ List.replicate (n - fields.length) ""

/-- The record of fields joined by a separator. -/
def ofFields (fields : List String) (separator : String) : Record :=
  ⟨separator.intercalate fields, fields⟩

/-- Sets field `index`, which counts from 1, with empty fields before it where there were none. -/
def setField (r : Record) (index : Nat) (value separator : String) : Record :=
  ofFields ((resize (max index r.fields.length) r.fields).set (index - 1) value) separator

/-- Sets how many fields there are. -/
def setCount (r : Record) (count : Nat) (separator : String) : Record :=
  ofFields (resize count r.fields) separator

end Record

end Awk
