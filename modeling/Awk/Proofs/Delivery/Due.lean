import Awk.Eval.Interpreter
import Awk.Proofs.Input.Reading
import Awk.Proofs.Number.Counting

/-! What the main input is to deliver. The operands say in which order inputs are opened, records are
handed out and assignments are carried out, and with which `NR` and `FNR`. -/

namespace Awk

open Host (Reader Streams Disk)
open Records (Bytes bytesOf textOf)

/-- A counter that has been advanced so many times. -/
def Value.counted : Nat → Value
  | 0 => .ofInt 0
  | n + 1 => Arithmetic.step (counted n) 1

theorem Value.counted_eq {n : Nat} (h : inRange n) : counted n = .ofNat n := by
  induction n with
  | zero => rfl
  | succ n ih =>
    have hn : inRange n := by
      rw [inRange_iff] at h ⊢
      simp only [minInteger, maxInteger] at h ⊢
      omega
    rw [counted, ih hn, Arithmetic.step_ofNat h]

namespace Delivery

def isRecord : Delivery → Bool
  | record .. => true
  | _ => false

end Delivery

/-- Records that are handed out in order, after so many of all inputs and so many of theirs. -/
def numbered : Nat → Nat → List Bytes → List Delivery
  | _, _, [] => []
  | k, j, r :: rs =>
    .record (textOf r) (.counted (k + 1)) (.counted (j + 1)) :: numbered (k + 1) (j + 1) rs

/-- An operand that is opened, as it is neither empty nor an assignment. -/
def isFile (operand : String) : Bool := !operand.isEmpty && (assignment? operand).isNone

/-- A name that standard input is opened under. No operand is needed for the empty one. -/
def isStandard (name : String) : Bool := name = "" || name = "-" || name = "/dev/stdin"

/-- What the main input of a run is read from: the operands, the separator of records, what stands in
for standard input, and the streams at the start. -/
structure Supply where
  operands : List String
  separator : String
  stdin : Option String
  streams : Streams

namespace Supply

def ofSettings (s : Settings) (streams : Streams) : Supply where
  operands := s.operands
  separator := ((Machine.startEnvironment s).value "RS").text
  stdin := s.stdin
  streams := streams

variable (S : Supply)

/-- What stands in for standard input. -/
def standIn? : Option Reader := S.stdin.map Reader.ofText

/-- What is opened for a name. -/
def reader? (name : String) : Option Reader :=
  if isStandard name then some (S.standIn?.getD Streams.standardInput)
  else (S.streams.openFile name).1.toOption

/-- Whether there is something to read under a name. -/
def readable (name : String) : Bool := (S.reader? name).any (·.source ≠ .directory)

/-- Whether a name is read from standard input. -/
def takesInput (name : String) : Bool := (S.reader? name).any (·.source = .input)

/-- An operand for standard input. -/
def isInput (operand : String) : Bool :=
  isFile operand && (isStandard operand || S.takesInput operand)

/-- Whether standard input is among the inputs. -/
def wantsInput : Bool :=
  S.operands.any S.isInput || (!S.operands.any isFile && S.takesInput "")

/-- The records of some bytes. -/
def split (s : Bytes) : List Bytes := Records.all (bytesOf S.separator) s

/-- The records that are read under a name. -/
def records (name : String) : List Bytes :=
  ((S.reader? name).map fun r => S.split (S.streams.toRead r)).getD []

/-- What is due from some operands on, where an input has been opened before or not, and after so
many records. -/
def due : Bool → Nat → List String → List Delivery
  | used, k, [] => if used then [] else .opened "" :: numbered k 0 (S.records "")
  | used, k, operand :: rest =>
    if operand.isEmpty then due used k rest
    else match assignment? operand with
      | some (name, value) => .assigned name ⟨Literal.unescape value⟩ :: due used k rest
      | none => .opened operand :: (numbered k 0 (S.records operand) ++
          due true (k + (S.records operand).length) rest)

/-- All that the main input is to deliver. -/
def deliveries : List Delivery := S.due false 0 S.operands

end Supply

/-- What standard input held after the last read. -/
def MainInput.held (i : MainInput) : Bytes := i.left.1 ++ i.left.2

/-- An element of `ARGV`. -/
def Environment.operand (env : Environment) (i : Nat) : Option Value :=
  (env.lookup "ARGV").bind fun v => (env.elements v.array)[Int.text i]?

namespace Supply

variable (S : Supply)

/-- Each operand that is a file leads to the file that it led to at the start, which has not
changed. -/
def SameFiles (d : Disk) : Prop := ∀ o ∈ S.operands, isFile o → !isStandard o →
  (d.openForReading o).toOption = (S.streams.disk.openForReading o).toOption ∧
    (d.read o).toOption = (S.streams.disk.read o).toOption

/-- Nothing but the main input has changed what it is read from: the files, the operands in `ARGV`,
and standard input if it is among the inputs, which holds what it held after the last read. -/
structure Undisturbed (m : Machine) : Prop where
  files : S.SameFiles m.streams.disk
  operands : ∀ i < S.operands.length, m.env.operand (i + 1) = S.operands[i]?.map (⟨·⟩)
  input : S.wantsInput → m.streams.inputBuffer ++ m.streams.input = m.input.held

instance (d : Disk) : Decidable (S.SameFiles d) :=
  inferInstanceAs (Decidable (∀ o ∈ S.operands, _ → _ → _ ∧ _))

instance (m : Machine) : Decidable (S.Undisturbed m) :=
  decidable_of_iff
    (S.SameFiles m.streams.disk ∧
      (∀ i < S.operands.length, m.env.operand (i + 1) = S.operands[i]?.map (⟨·⟩)) ∧
      (S.wantsInput → m.streams.inputBuffer ++ m.streams.input = m.input.held))
    ⟨fun h => ⟨h.1, h.2.1, h.2.2⟩, fun h => ⟨h.files, h.operands, h.input⟩⟩

end Supply

end Awk
