import Awk.Eval.Statements

/-! Running programs: the `BEGIN` items, the main input record by record, and the `END` items. The
recursion of expressions and blocks through each other is closed here. -/

namespace Awk

open Machine

mutual

/-- Evaluates an expression up to its operand. -/
def evalOperand : Nat → Expr → Run Operand
  | 0, _ => Run.outOfFuel
  | n + 1, e => Inner.expression ⟨n, evalOperand n, runBlock n⟩ e

/-- Runs a block, with the jump that it absorbs. -/
def runBlock : Nat → Block → Run Flag
  | 0, _ => Run.outOfFuel
  | n + 1, b => Inner.body ⟨n, evalOperand n, runBlock n⟩ b

end

/-- Evaluation with some fuel. -/
def Inner.withFuel (n : Nat) : Inner := ⟨n, evalOperand n, runBlock n⟩

namespace Inner

/-- Runs items until one exits. -/
def runItems (self : Inner) : List Item → Run Unit
  | [] => return ()
  | i :: is => do
    let _ ← self.block i.action
    if (← getFlag) = .exit then return () else self.runItems is

/-- Tries the items for the current record. Says whether there may be another record. -/
def tryItems (self : Inner) : List Item → Run Bool
  | [] => return true
  | i :: is => do
    let selected ← self.selects i.pattern
    match ← getFlag with
    | .exit => return false
    | .next =>
      setFlag .none
      return true
    | _ =>
      if selected then
        let absorbed ← self.block i.action
        if (← getFlag) = .exit then return false
        else if absorbed = .next then return true
        else self.tryItems is
      else self.tryItems is

/-- Takes the next record through the items. Says whether there may be another. -/
def nextPass (self : Inner) (items : List Item) : Run Bool := do
  match ← MainInput.nextRecord self.fuel self.fuel with
  | none => return false
  | some record =>
    setRecord record
    note .record
    self.tryItems items

/-- Closes all streams. -/
def closeStreams : Act Unit := do
  let failures ← withStreams Host.Streams.closeAll
  failures.forM reportFailure

/-- Runs the program to its end, with its status. An exit before the `END` items goes to them, and
one in them ends the program. -/
def runProgram (self : Inner) : Run Nat := do
  modify fun m => { m with history := [] }
  let program := (← get).program
  self.runItems program.beginItems
  if (← getFlag) ≠ .exit && program.readsInput then
    Run.repeatWhile (self.nextPass program.mainItems) self.fuel
  setFlag .none
  note .ending
  self.runItems program.endItems
  setFlag .none
  closeStreams
  return (← get).status

end Inner

/-- What a program starts with besides its text. -/
structure Settings where
  programName : String := "awki"
  operands : List String := []
  /-- Assignments that come before everything else. -/
  assignments : List (String × String) := []
  fieldSeparator : Option String := none
  /-- What stands in for standard input. -/
  stdin : Option String := none
  environment : List (String × String) := []
  /-- Whether what is reported also goes to standard error. -/
  echo : Bool := false

namespace Machine

/-- The variables that every program has. -/
def standardVariables : List (Name × String) :=
  [("FS", " "), ("OFS", " "), ("ORS", "\n"), ("RS", "\n"), ("NR", "0"), ("NF", "0"),
   ("FNR", "0"), ("FILENAME", ""), ("SUBSEP", "\x1c"), ("RSTART", "0"), ("RLENGTH", "-1"),
   ("OFMT", "%.6g")]

/-- The variables that a program starts with. -/
def startEnvironment (s : Settings) : Environment :=
  let env := standardVariables.foldl (fun (env : Environment) (n, v) => env.setGlobal n ⟨v⟩) .empty
  let env := s.fieldSeparator.elim env fun fs => env.setGlobal "FS" ⟨fs⟩
  let env := env.modifyElements "ARGV" fun _ =>
    ((s.programName :: s.operands).zipIdx).foldl (fun es (a, i) => es.insert (Int.text i) ⟨a⟩) ∅
  let env := env.setGlobal "ARGC" (.ofNat (s.operands.length + 1))
  let env := env.modifyElements "ENVIRON" fun _ =>
    s.environment.foldl (fun es (n, v) => es.insert n ⟨v⟩) ∅
  s.assignments.foldl (fun env (n, v) => env.setGlobal n ⟨Literal.unescape v⟩) env

/-- A machine that is about to run a program. -/
def start (program : Program) (s : Settings) (streams : Host.Streams) : Machine where
  program
  env := startEnvironment s
  frames := []
  flag := .none
  history := []
  record := .empty
  regexes := .empty
  streams
  input := .start (s.stdin.map Host.Reader.ofText) streams
  ranges := List.replicate program.ranges false
  random := .ofSeed 0
  seed := .ofInt 0
  status := 0
  diagnostics := []
  echo := s.echo

/-- The fuel of a run, which no run uses up. -/
def plenty : Nat := Nat.pow 2 62

/-- Runs the program to its end, with its status. -/
def run (m : Machine) : Option (Nat × Machine) :=
  match (Inner.withFuel plenty).runProgram m with
  | .ok status m => some (status, m)
  | .error _ _ => none

/-- What has been reported, in order. -/
def reported (m : Machine) : List Diagnostic := m.diagnostics.reverse

end Machine

end Awk
