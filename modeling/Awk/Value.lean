import Awk.Number.Canonical
import Awk.Number.Numeral

/-! The scalar of the language: one text, read as an integer, a real, a truth value or itself
according to its form. -/

namespace Awk

/-- The numeric reading of a value. Integers lie in the signed 64-bit range. -/
inductive Number where
  | integer (value : Int)
  | real (value : Float)
  deriving Repr

/-- A scalar. -/
structure Value where
  text : String
  deriving Repr, DecidableEq, Inhabited

namespace Value

def empty : Value := ⟨""⟩

def ofString (s : String) : Value := ⟨s⟩

def ofInt (i : Int) : Value := ⟨Int.text i⟩

def ofNat (n : Nat) : Value := ofInt n

/-- The value of a double is its canonical text. -/
def ofFloat (x : Float) : Value := ⟨Canonical.ofFloat x⟩

/-- `1` for true and `0` for false. -/
def ofBool (b : Bool) : Value := ⟨if b then "1" else "0"⟩

/-- Reads as a decimal real; integers do. -/
def isReal (v : Value) : Bool := (readReal v.text).isSome

/-- Reads as an integer in range. -/
def isInteger (v : Value) : Bool := (readInteger v.text).isSome

/-- Is `0` or `1`. -/
def isBool (v : Value) : Bool := v.text = "0" || v.text = "1"

/-- The double nearest to an integer. -/
def floatOfInt (i : Int) : Float := .ofInt i

/-- The value as a double; 0 if it is no number. -/
def toReal (v : Value) : Float :=
  match readReal v.text with
  | some x => x
  | none => 0.0

/-- The value as an integer, a real cut toward zero; 0 if it is no number. -/
def toInteger (v : Value) : Int :=
  match readInteger v.text with
  | some i => i
  | none => match readReal v.text with
    | some x => Float.toInteger x
    | none => 0

/-- Everything but the empty text and `0` is true. -/
def toBool (v : Value) : Bool := v.text ≠ "" && v.text ≠ "0"

/-- The numeric reading, an integer where possible. -/
def toNumber? (v : Value) : Option Number :=
  match readInteger v.text with
  | some i => some (.integer i)
  | none => (readReal v.text).map .real

/-- The order of two doubles; a NaN is equal to everything. -/
def compareReal (x y : Float) : Ordering :=
  if x < y then .lt else if y < x then .gt else .eq

/-- Two numbers compare as doubles, anything else compares by characters. -/
def compare (a b : Value) : Ordering :=
  if a.isReal && b.isReal then compareReal a.toReal b.toReal
  else Ord.compare a.text b.text

end Value

end Awk
