import Awk.Records

/-! Text and bytes that are collected piece by piece. -/

namespace Awk.Host

open Records (Bytes)

/-- The pieces of a text, last first, and how many bytes they have. -/
structure Buffer where
  pieces : List String
  size : Nat
  deriving Repr, DecidableEq

namespace Buffer

def empty : Buffer := ⟨[], 0⟩

def push (b : Buffer) (text : String) : Buffer := ⟨text :: b.pieces, b.size + text.utf8ByteSize⟩

/-- The text as a whole. -/
def text (b : Buffer) : String := String.join b.pieces.reverse

def isEmpty (b : Buffer) : Bool := b.size = 0

theorem text_empty : empty.text = "" := rfl

theorem text_push (b : Buffer) (text : String) : (b.push text).text = b.text ++ text := by
  simp [Buffer.text, push, String.join_append]

end Buffer

/-- Bytes that are yet to be written, in pieces, last first, and how many they are. -/
structure Pending where
  pieces : List Bytes
  size : Nat
  size_eq : size = pieces.reverse.flatten.length
  deriving Repr, DecidableEq

namespace Pending

/-- The bytes as a whole. -/
def bytes (p : Pending) : Bytes := p.pieces.reverse.flatten

def empty : Pending := ⟨[], 0, rfl⟩

def push (p : Pending) (s : Bytes) : Pending where
  pieces := s :: p.pieces
  size := p.size + s.length
  size_eq := by simp [p.size_eq]

/-- What is left when so many have been written. -/
def drop (p : Pending) (n : Nat) : Pending where
  pieces := [p.bytes.drop n]
  size := p.size - n
  size_eq := by simp [bytes, p.size_eq]

@[simp] theorem length_bytes (p : Pending) : p.bytes.length = p.size := p.size_eq.symm

@[simp] theorem bytes_empty : empty.bytes = [] := rfl

@[simp] theorem bytes_push (p : Pending) (s : Bytes) : (p.push s).bytes = p.bytes ++ s := by
  simp [bytes, push]

@[simp] theorem bytes_drop (p : Pending) (n : Nat) : (p.drop n).bytes = p.bytes.drop n := by
  simp [bytes, drop]

theorem bytes_eq_nil {p : Pending} (h : p.size = 0) : p.bytes = [] :=
  List.length_eq_zero_iff.mp (p.length_bytes.trans h)

end Pending

end Awk.Host
