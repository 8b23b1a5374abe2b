import Awk.Arithmetic
import Awk.Ast.Program
import Awk.Diagnostic
import Awk.Environment
import Awk.Eval.Frame
import Awk.Host.Streams
import Awk.Random
import Awk.Record
import Awk.Separator

/-! The state of a running program, and what can be done to it without evaluating anything:
reporting, reading and assigning places, and keeping the record, its fields and `NF` together. -/

namespace Awk

/-- A jump that statements are yet to carry out. -/
inductive Flag where
  | none
  | break_
  | continue_
  | next
  | return_
  | exit
  deriving Repr, DecidableEq

/-- What a run of the program is seen to do. -/
inductive Event where
  /-- A statement starts. -/
  | statement (s : Statement)
  /-- A statement raises a jump, in place of what was pending. -/
  | jump (pending raised : Flag)
  /-- The items are about to be tried for a record. -/
  | record
  /-- The `END` items are about to run. -/
  | ending
  deriving Repr

/-- What the main input does on its way. -/
inductive Delivery where
  /-- An operand is carried out as an assignment. -/
  | assigned (name : Name) (value : Value)
  | opened (name : String)
  /-- A record is handed out, with what `NR` and `FNR` then are. -/
  | record (text : String) (number position : Value)
  deriving Repr, DecidableEq

/-- How far the main input has been read: the input open now, what stands in for standard input, the
next operand, whether one has been used, whether there are no more, what has been done, last first,
and what standard input held after the last read, in its buffer and outside. -/
structure MainInput where
  current : Option Host.Reader
  stdin : Option Host.Reader
  nextOperand : Nat
  used : Bool
  exhausted : Bool
  log : List Delivery
  left : Records.Bytes × Records.Bytes
  deriving Repr

namespace MainInput

def start (stdin : Option Host.Reader) (streams : Host.Streams) : MainInput :=
  ⟨none, stdin, 1, false, false, [], (streams.inputBuffer, streams.input)⟩

end MainInput

/-- A running program. -/
structure Machine where
  program : Program
  env : Environment
  /-- The expressions under evaluation, innermost first. -/
  frames : List (Frame Delayed)
  flag : Flag
  /-- What the run has done, last first. -/
  history : List Event
  record : Record
  regexes : RegexCache
  streams : Host.Streams
  input : MainInput
  /-- Which range patterns are between their ends, by number. -/
  ranges : List Bool
  random : Random
  seed : Value
  status : Nat
  /-- What has been reported, last first. -/
  diagnostics : List Diagnostic
  /-- Whether what is reported also goes to standard error. -/
  echo : Bool

/-- Something done to a machine, with a result. -/
abbrev Act := StateM Machine

namespace Machine

/-- Reports a diagnostic; the program goes on. -/
def report (d : Diagnostic) : Act Unit := modify fun m =>
  let m := { m with diagnostics := d :: m.diagnostics }
  if m.echo then
    { m with streams := { m.streams with
      console := m.streams.console.addErrors ("awki: " ++ d.message ++ "\n") } }
  else m

def setFlag (flag : Flag) : Act Unit := modify fun m => { m with flag }

def getFlag : Act Flag := do return (← get).flag

/-- Adds to what the run has done. -/
def note (e : Event) : Act Unit := modify fun m => { m with history := e :: m.history }

/-- Raises a jump, in place of one that is pending. -/
def raise (jump : Flag) : Act Unit := modify fun m =>
  { m with flag := jump, history := .jump m.flag jump :: m.history }

/-- The scalar of a name. -/
def scalar (name : Name) : Act Value := do return (← get).env.value name

def modifyEnv (f : Environment → Environment) : Act Unit :=
  modify fun m => { m with env := f m.env }

/-- Sets the scalar of a name and nothing else. -/
def setScalar (name : Name) (v : Value) : Act Unit := modifyEnv (·.setValue name v)

/-- The compiled expression of a pattern; one that is not valid is reported. -/
def regex? (pattern : String) : Act (Option Regex) := do
  let m ← get
  let (r, regexes) := m.regexes.get pattern
  set { m with regexes }
  if r.isNone then report (.invalidRegex pattern)
  return r

/-- Whether a text matches a pattern. One that is not valid matches nothing. -/
def isMatch (pattern text : String) : Act Bool := do
  match ← regex? pattern with
  | some r => return r.isMatch text
  | none => return false

/-- Whether the record matches a pattern. -/
def recordMatches (pattern : String) : Act Bool := do isMatch pattern (← get).record.text

/-- Divides a text as the separator `fs` says. One that is not valid leaves the text whole. -/
def splitText (text fs : String) : Act (List String) := do
  match Separator.simple? fs with
  | some sep => return sep.split text
  | none => match ← regex? fs with
    | some r => return (Separator.regex r).split text
    | none => return [text]

/-- Brings `NF` in line with the record. -/
def syncFieldCount : Act Unit := do
  setScalar "NF" (.ofNat (← get).record.fieldCount)

/-- Puts a new record in place. -/
def setRecord (text : String) : Act Unit := do
  let fields ← splitText text (← scalar "FS").text
  modify fun m => { m with record := ⟨text, fields⟩ }
  syncFieldCount

/-- Assigns a field. One that is too far is reported, and nothing changes. -/
def setField (index : Nat) (v : Value) : Act Unit := do
  if index = 0 then setRecord v.text
  else if index > maxFields then report (.fieldIndexTooLarge index)
  else
    let ofs ← scalar "OFS"
    modify fun m => { m with record := m.record.setField index v.text ofs.text }
    syncFieldCount

/-- Makes the record have as many fields as `NF` has been set to. Too many are reported, and the
record stays. -/
def resizeRecord (count : Int) : Act Unit := do
  let count := count.toNat
  if count > maxFields then report (.fieldIndexTooLarge count)
  else
    let ofs ← scalar "OFS"
    modify fun m => { m with record := m.record.setCount count ofs.text }
  syncFieldCount

/-- The value of a place. An element that is not there is made. -/
def getPlace : Place → Act Value
  | .scalar name => scalar name
  | .element name key => do
    let m ← get
    let (v, env) := m.env.element name key
    set { m with env }
    return v
  | .field index => do return .ofString ((← get).record.field index)

/-- Assigns to a place. `NF` and fields change the record. -/
def assign (p : Place) (v : Value) : Act Unit :=
  match p with
  | .scalar name => do
    setScalar name v
    if name = "NF" then resizeRecord v.toInteger
  | .element name key => modifyEnv (·.setElement name key v)
  | .field index => setField index v

/-- An element, if it is there. -/
def element? (name key : String) : Act (Option Value) := do
  let env := (← get).env
  return (env.lookup name).bind fun v => (env.elements v.array)[key]?

/-- The key of several subscripts. -/
def joinSubscript (parts : List Value) : Act String :=
  match parts with
  | [v] => return v.text
  | _ => do
    let separator ← scalar "SUBSEP"
    return separator.text.intercalate (parts.map (·.text))

/-- The index of a field. A negative one is reported and counts as 0. -/
def fieldIndex (v : Value) : Act Nat := do
  let i := v.toInteger
  if i < 0 then
    report (.negativeFieldIndex i)
    return 0
  else return i.toNat

/-- Adds one to a counter. -/
def advanceCounter (name : Name) : Act Unit := do
  setScalar name (Arithmetic.step (← scalar name) 1)

/-- Arithmetic; a division by zero is reported and gives 0. -/
def arithmetic (o : Operator) (a b : Value) : Act Value :=
  match Arithmetic.apply o a b with
  | some v => return v
  | none => do
    report .divisionByZero
    return .ofInt 0

/-- Applies an operation on the streams. -/
def withStreams {α : Type} (f : Host.Streams → α × Host.Streams) : Act α := do
  let m ← get
  let (a, streams) := f m.streams
  set { m with streams }
  return a

def reportFailure (f : Host.Failure) : Act Unit := report (.io f.name f.cause.message)

/-- The status of an operation on the streams, as a value; a failure is reported and is -1. -/
def ioStatus : Except Host.Failure Int → Act Value
  | .ok status => return .ofInt status
  | .error f => do
    reportFailure f
    return .ofInt (-1)

/-- Starts the evaluation of an expression. -/
def beginFrame : Act Unit := modify fun m => { m with frames := .empty :: m.frames }

def endFrame : Act Unit := modify fun m => { m with frames := m.frames.tail }

/-- Changes the innermost frame. -/
def modifyFrame (f : Frame Delayed → Frame Delayed) : Act Unit := modify fun m =>
  match m.frames with
  | top :: rest => { m with frames := f top :: rest }
  | [] => m

/-- Whether something holds of the innermost frame. -/
def frameHas (p : Frame Delayed → Bool) : Act Bool := do return (← get).frames.head?.any p

end Machine

end Awk
