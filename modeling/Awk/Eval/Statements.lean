import Awk.Eval.Expression

/-! Statements, blocks and patterns. Before each statement of a block, and at its end, a jump that
is pending ends the block, which absorbs it or leaves it to the block around it according to its
kind. -/

namespace Awk

open Machine

/-- What becomes of a pending jump in a block: whether the block absorbs it, and what is reported.
Both clear it. -/
inductive Settlement where
  | leave
  | absorb
  | reported (d : Diagnostic)
  deriving Repr, DecidableEq

namespace BlockKind

/-- How a kind of block meets a jump. -/
def settlement : BlockKind → Flag → Settlement
  | .program, .break_ | .routine, .break_ => .reported .breakOutsideLoop
  | .program, .continue_ | .routine, .continue_ => .reported .continueOutsideLoop
  | .program, .next | .program, .return_ | .routine, .return_ => .absorb
  | .iteration, .break_ | .iteration, .continue_ => .absorb
  | _, _ => .leave

end BlockKind

namespace Inner

/-- Meets the pending jump at the end of a block, with the jump that is absorbed. -/
def settleFlag (kind : BlockKind) : Act Flag := do
  let flag ← getFlag
  match kind.settlement flag with
  | .leave => return .none
  | .absorb =>
    setFlag .none
    return flag
  | .reported d =>
    setFlag .none
    report d
    return .none

/-- One round of a loop's body. Says whether the loop goes on. -/
def pass (self : Inner) (body : Block) : Run Bool := do
  let absorbed ← self.block body
  let flag ← getFlag
  return absorbed ≠ .break_ && flag = .none

/-- Whether a loop's condition holds and leaves no jump pending. -/
def holds (self : Inner) (condition : Expr) : Run Bool := do
  let v ← self.value condition
  let flag ← getFlag
  return v.toBool && flag = .none

/-- Evaluates an expression for what it does. -/
def perform (self : Inner) (e : Option Expr) : Run Unit := do
  match e with
  | some e =>
    let _ ← self.operand e
  | none => return ()

/-- One round of a loop with a condition before its body and a step after it. -/
def round (self : Inner) (condition : Option Expr) (body : Block) (step : Option Expr) :
    Run Bool := do
  let goes ← match condition with
    | some c => self.holds c
    | none => pure true
  if goes then
    if ← self.pass body then
      self.perform step
      return true
    else return false
  else return false

/-- Writes text to standard output or where it is redirected to. -/
def write (self : Inner) (output : Option Redirect) (text : String) : Run Unit := do
  let target ← match output with
    | none => pure none
    | some r => do
      let name ← self.value r.target
      let kind : Host.OutputKind := match r.kind with
        | .truncate => .truncate
        | .append => .append
        | .pipe => .pipe
      pure (some (kind, name.text))
  match ← withStreams (·.write target text) with
  | none => return ()
  | some f => reportFailure f

/-- The text of a `print` statement. -/
def printed (self : Inner) (parts : List Expr) : Run String := do
  let text ← if parts.isEmpty then pure (← get).record.text
    else do
      let separator ← scalar "OFS"
      let values ← Run.collect self.value parts
      pure (separator.text.intercalate (values.map (·.text)))
  return text ++ (← scalar "ORS").text

/-- Runs a statement. -/
def statement (self : Inner) : Statement → Run Unit
  | .print parts output => do self.write output (← self.printed parts)
  | .printf [] _ => return ()
  | .printf (format :: parts) output => do
    let format ← self.value format
    let values ← Run.collect self.value parts
    self.write output (Printf.format format.text values)
  | .expr e => do
    let _ ← self.value e
  | .if_ condition yes no => do
    if (← self.value condition).toBool then
      let _ ← self.block yes
    else match no with
      | some no =>
        let _ ← self.block no
      | none => return ()
  | .while_ condition body => Run.repeatWhile (self.round condition body none) self.fuel
  | .doWhile body condition =>
    Run.repeatWhile (do if ← self.pass body then self.holds condition else return false) self.fuel
  | .for_ start condition step body => do
    self.perform start
    Run.repeatWhile (self.round condition body step) self.fuel
  | .forIn name array body => do
    let keys := (← get).env.keys array
    Run.forWhile (fun key => do
      assign (.scalar name) ⟨key⟩
      self.pass body) keys
  | .block body => do
    let _ ← self.block body
  | .break_ => raise .break_
  | .continue_ => raise .continue_
  | .next => raise .next
  | .return_ e => do
    let v ← match e with
      | some e => self.value e
      | none => pure .empty
    modifyEnv (·.setReturned v)
    raise .return_
  | .exit e => do
    match e with
    | some e =>
      let v ← self.value e
      modify fun m => { m with status := (v.toInteger % 256).toNat }
    | none => pure ()
    raise .exit
  | .delete array none => modifyEnv (·.clearElements array)
  | .delete array (some subscript) => do
    let key ← self.subscriptKey subscript
    modifyEnv (·.removeElement array key)

/-- Runs statements in order until a jump is pending. -/
def statements (self : Inner) (kind : BlockKind) : List Statement → Run Flag
  | [] => settleFlag kind
  | s :: ss => do
    if (← getFlag) = .none then
      note (.statement s)
      self.statement s
      self.statements kind ss
    else settleFlag kind

/-- Runs a block, with the jump that it absorbs. -/
def body (self : Inner) (b : Block) : Run Flag := self.statements b.kind b.statements

/-- Whether a range pattern is between its ends. -/
def inRange (id : Nat) : Act Bool := do return (← get).ranges.getD id false

def setRange (id : Nat) (active : Bool) : Act Unit := modify fun m =>
  { m with ranges :=
    (m.ranges ++ List.replicate (id + 1 - m.ranges.length) false).set id active }

/-- Whether a pattern selects the current record. -/
def selects (self : Inner) : Pattern → Run Bool
  | .all => return true
  | .begin_ | .end_ => return false
  | .regex pattern => recordMatches pattern
  | .expr e => do return (← self.value e).toBool
  | .not inner => do return !(← self.selects inner)
  | .and left right => do if ← self.selects left then self.selects right else return false
  | .or left right => do if ← self.selects left then return true else self.selects right
  | .range id first last => do
    let starts ← if ← inRange id then pure true else self.selects first
    if starts then
      let ends ← self.selects last
      setRange id (!ends)
      return true
    else return false

end Inner

end Awk
