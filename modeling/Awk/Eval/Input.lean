import Awk.Eval.Inner
import Awk.Source.Literal

/-! The main input: the operands in order, each opened when the one before is used up, so that the
program may still change them. An operand of the form `name=value` is an assignment. Standard input
is read if no operand named a file. -/

namespace Awk

open Machine

/-- The name and the value of an assignment; the name is an identifier. -/
def assignment? (text : String) : Option (String × String) :=
  let s := text.toList
  let name := s.takeWhile (· ≠ '=')
  match name, s.drop name.length with
  | c :: r, _ :: value =>
    if (c.isAlpha || c = '_') && r.all fun d => d.isAlphanum || d = '_' then
      some (.ofList name, .ofList value)
    else none
  | _, _ => none

namespace MainInput

def modifyInput (f : MainInput → MainInput) : Act Unit :=
  modify fun m => { m with input := f m.input }

/-- Adds to what the main input has done. -/
def deliver (d : Delivery) : Act Unit := modifyInput fun i => { i with log := d :: i.log }

/-- Sets the status with which a program ends whose input cannot be read. -/
def fail (f : Host.Failure) : Act Unit := do
  reportFailure f
  modify fun m => { m with status := 2 }

/-- Makes a reader the one that is read now. -/
def openReader (r : Host.Reader) (name : String) : Act Unit := do
  modifyInput fun i => { i with current := some r }
  setScalar "FILENAME" ⟨name⟩
  setScalar "FNR" (.ofInt 0)
  deliver (.opened name)

/-- Opens standard input, or what stands in for it the first time. -/
def openStandard (name : String) : Act Unit := do
  let r := (← get).input.stdin.getD Host.Streams.standardInput
  modifyInput fun i => { i with stdin := none }
  openReader r name

/-- Takes up an operand. Says whether an input is open now. -/
def useOperand (operand : String) : Act Bool := do
  match assignment? operand with
  | some (name, value) =>
    assign (.scalar name) ⟨Literal.unescape value⟩
    deliver (.assigned name ⟨Literal.unescape value⟩)
    return false
  | none =>
    modifyInput fun i => { i with used := true }
    if operand = "-" || operand = "/dev/stdin" then
      openStandard operand
      return true
    else match ← withStreams (·.openFile operand) with
      | .ok r =>
        openReader r operand
        return true
      | .error cause =>
        fail ⟨.open_, operand, cause⟩
        return false

/-- Opens standard input if no operand has named a file. Says whether it did. -/
def openLast : Act Bool := do
  modifyInput fun i => { i with exhausted := true }
  if (← get).input.used then return false
  else
    modifyInput fun i => { i with used := true }
    openStandard ""
    return true

/-- Opens the next input among the operands below a count. Says whether there is one. -/
def openBelow (count : Int) : Nat → Run Bool
  | 0 => Run.outOfFuel
  | n + 1 => do
    let i := (← get).input
    if i.nextOperand < count then
      modifyInput fun i => { i with nextOperand := i.nextOperand + 1 }
      match ← element? "ARGV" (Int.text i.nextOperand) with
      | none => openBelow count n
      | some v =>
        if v.text.isEmpty then openBelow count n
        else if ← useOperand v.text then return true
        else openBelow count n
    else openLast

/-- Opens the next input. Says whether there is one. -/
def openNext (fuel : Nat) : Run Bool := do
  if (← get).input.exhausted then return false
  else openBelow (← scalar "ARGC").toInteger fuel

/-- Reads from the input that is open; at its end, or where it fails, none is open. -/
def readCurrent (r : Host.Reader) : Act (Option String) := do
  let separator ← scalar "RS"
  let (result, r, left) ← withStreams fun st =>
    let (result, r, st) := st.readRecord r separator.text
    ((result, r, st.inputBuffer, st.input), st)
  modifyInput fun i => { i with left }
  match result with
  | .ok (some record) =>
    modifyInput fun i => { i with current := some r }
    advanceCounter "NR"
    advanceCounter "FNR"
    deliver (.record record (← scalar "NR") (← scalar "FNR"))
    return some record
  | .ok none =>
    modifyInput fun i => { i with current := none }
    return none
  | .error cause =>
    modifyInput fun i => { i with current := none }
    fail ⟨.read, (← scalar "FILENAME").text, cause⟩
    return none

/-- The next record of the main input, which `NR` and `FNR` count. Then the commands go on. -/
def nextRecord (fuel : Nat) : Nat → Run (Option String)
  | 0 => Run.outOfFuel
  | n + 1 => do
    match (← get).input.current with
    | none => if ← openNext fuel then nextRecord fuel n else return none
    | some r =>
      match ← readCurrent r with
      | some record =>
        withStreams fun st => ((), st.pause)
        return some record
      | none => nextRecord fuel n

end MainInput

end Awk
