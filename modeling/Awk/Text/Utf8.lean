/-! Text from bytes. Well-formed sequences are decoded; each longest piece of what is not one
becomes a single replacement character. -/

namespace Awk.Utf8

/-- The character that stands for bytes that are none. -/
def replacement : Char := '\ufffd'

/-- The tail bytes that may follow a leading byte: how many, and the range of the first of them. The
range keeps out overlong forms, surrogates and what lies past the last code point. -/
def tail? (b : UInt8) : Option (Nat × UInt8 × UInt8) :=
  if 0xc2 ≤ b && b ≤ 0xdf then some (1, 0x80, 0xbf)
  else if b = 0xe0 then some (2, 0xa0, 0xbf)
  else if b = 0xed then some (2, 0x80, 0x9f)
  else if 0xe1 ≤ b && b ≤ 0xef then some (2, 0x80, 0xbf)
  else if b = 0xf0 then some (3, 0x90, 0xbf)
  else if b = 0xf4 then some (3, 0x80, 0x8f)
  else if 0xf1 ≤ b && b ≤ 0xf3 then some (3, 0x80, 0xbf)
  else none

/-- The bits that a leading byte of a sequence with `n` tail bytes gives. -/
def leadBits (b : UInt8) : Nat → Nat
  | 1 => b.toNat % 32
  | 2 => b.toNat % 16
  | _ => b.toNat % 8

/-- A sequence under way: the bits so far, the tail bytes to come and the range of the next one. -/
structure Sequence where
  bits : Nat
  missing : Nat
  low : UInt8
  high : UInt8
  deriving Repr

/-- What a byte starts where no sequence is under way: a character, a sequence or neither. -/
def start (b : UInt8) : List Char × Option Sequence :=
  if b < 0x80 then ([Char.ofNat b.toNat], none)
  else match tail? b with
    | some (n, low, high) => ([], some ⟨leadBits b n, n, low, high⟩)
    | none => ([replacement], none)

/-- What the next byte adds to the text. A byte that does not continue the sequence under way ends
it as one replacement character and starts afresh. -/
def step (state : Option Sequence) (b : UInt8) : List Char × Option Sequence :=
  match state with
  | none => start b
  | some p =>
    if p.low ≤ b && b ≤ p.high then
      let bits := p.bits * 64 + b.toNat % 64
      if p.missing ≤ 1 then ([Char.ofNat bits], none)
      else ([], some ⟨bits, p.missing - 1, 0x80, 0xbf⟩)
    else
      let (cs, next) := start b
      (replacement :: cs, next)

/-- Decodes bytes after a sequence that may be under way. -/
def decodeFrom (state : Option Sequence) : List UInt8 → List Char
  | [] => if state.isSome then [replacement] else []
  | b :: r => let (cs, next) := step state b; cs ++ decodeFrom next r

/-- The text of any bytes. -/
def decode (bytes : ByteArray) : String :=
  match String.fromUTF8? bytes with
  | some s => s
  | none => String.ofList (decodeFrom none bytes.data.toList)

end Awk.Utf8
