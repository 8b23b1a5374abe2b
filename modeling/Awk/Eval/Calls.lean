import Awk.Eval.Builtins
import Awk.Eval.Input

/-! Calls of functions of the program, and `getline`. An argument is passed by value, but one that
is a variable shares its array with the parameter. -/

namespace Awk.Inner

open Machine

/-- What an argument passes to its parameter. -/
def passArgument (self : Inner) (e : Expr) : Run Environment.Argument := do
  match e.name? with
  | some name =>
    let m ← get
    let (v, env) := m.env.obtain name
    set { m with env }
    return .shared v
  | none => return .value (← self.value e)

/-- Runs the body of a function with its parameters, with the value that it returns. -/
def enter (self : Inner) (f : Function) (passed : List Environment.Argument) : Run Value := do
  let missing := List.replicate (f.parameters.length - passed.length) Environment.Argument.nothing
  modifyEnv (·.push (f.parameters.zip (passed ++ missing)))
  let _ ← self.block f.body
  let m ← get
  let v := m.env.returnedValue
  set { m with env := m.env.pop.2 }
  return v

/-- Calls a function of the program. -/
def callUser (self : Inner) (name : Name) (parts : List Expr) : Run Value := do
  match (← get).program.function? name with
  | none =>
    report (.unknownFunction name)
    return .empty
  | some f =>
    if parts.length > f.parameters.length then
      report (.tooManyArguments name)
      return .empty
    else
      let passed ← Run.collect self.passArgument parts
      self.enter f passed

def call (self : Inner) (callee : Callee) (parts : List Expr) : Run Value :=
  match callee with
  | .builtin b => Builtin.call self b parts
  | .user name => self.callUser name parts

/-- What `getline` found. -/
inductive Fetched where
  | record (text : String)
  | atEnd
  | failed
  deriving Repr, DecidableEq

/-- Reads a record from a named source. -/
def fetch (self : Inner) (kind : Host.InputKind) (source : Expr) : Run Fetched := do
  let name ← self.value source
  let separator ← scalar "RS"
  match ← withStreams (·.read kind name.text separator.text) with
  | .ok (some record) => return .record record
  | .ok none => return .atEnd
  | .error f =>
    reportFailure f
    return .failed

/-- Reads a record for `getline`. One from a command counts in `NR`. -/
def fetchFrom (self : Inner) : InputSource Expr → Run Fetched
  | .main => do
    match ← MainInput.nextRecord self.fuel self.fuel with
    | some record => return .record record
    | none => return .atEnd
  | .file name => self.fetch .file name
  | .command text => do
    let fetched ← self.fetch .command text
    match fetched with
    | .record _ => advanceCounter "NR"
    | _ => pure ()
    return fetched

/-- The place that a target stands for. -/
def targetPlace (self : Inner) : Target Expr → Run Place
  | .var name => return .scalar name
  | .element name subscript => do return .element name (← self.subscriptKey subscript)
  | .field index => do
    let v ← self.value index
    return .field (← fieldIndex v)

/-- Reads a record into a target, or makes it the current one: 1, or 0 at the end of the input, or
-1 where it fails. -/
def getline (self : Inner) (target : Option (Target Expr)) (source : InputSource Expr) :
    Run Value := do
  match ← self.fetchFrom source with
  | .atEnd => return .ofInt 0
  | .failed => return .ofInt (-1)
  | .record text =>
    match target with
    | some t =>
      let p ← self.targetPlace t
      assign p ⟨text⟩
    | none => setRecord text
    return .ofInt 1

end Awk.Inner
