import Awk.Eval.Inner
import Awk.Printf
import Awk.Text.Position
import Awk.Text.Replacement
import Awk.Unicode.Case

/-! The built-in functions. Their arguments come as operands, so that a variable can be filled or
changed and a regular expression can be taken as a pattern. -/

namespace Awk.Builtin

open Machine Awk.Inner

/-- The value of an argument; empty if there is none. -/
def argument (o : Option Operand) : Act Value :=
  match o with
  | some o => valueOf o
  | none => return .empty

/-- The pattern of an argument; empty if there is none. -/
def patternArgument (o : Option Operand) : Act String :=
  match o with
  | some o => patternOf o
  | none => return ""

/-- The values of arguments in order. -/
def arguments : List Operand → Act (List Value)
  | [] => return []
  | o :: os => do
    let v ← valueOf o
    return v :: (← arguments os)

/-- A function of a real number. -/
def ofReal (f : Float → Float) (o : Option Operand) : Act Value := do
  return .ofFloat (f (← argument o).toReal)

/-- The number of characters of a text, or of elements of an array that has any. -/
def lengthOf (o : Option Operand) : Act Value := do
  match o with
  | none => return .ofNat (← get).record.text.length
  | some o =>
    let env := (← get).env
    let elements := match o with
      | .place (.scalar name) => env.count name
      | _ => 0
    if elements > 0 then return .ofNat elements
    else return .ofNat (← valueOf o).text.length

/-- The fields that a text is divided into by a separator, by the one in `FS` if none is given. -/
def pieces (text : String) (separator : Option Operand) : Act (List String) := do
  match separator with
  | some (.regex pattern) =>
    match ← regex? pattern with
    | some r => return (Separator.regex r).split text
    | none => return [text]
  | some o => splitText text (← valueOf o).text
  | none => splitText text (← scalar "FS").text

/-- Makes texts the elements of an array, which count from 1. -/
def fillArray (name : Name) (texts : List String) : Act Unit := modifyEnv fun env =>
  env.modifyElements name fun _ =>
    (texts.zipIdx 1).foldl (fun es (text, i) => es.insert (Int.text i) ⟨text⟩) ∅

/-- Divides a text into the elements of an array, with their number. -/
def splitInto (text array separator : Option Operand) : Act Value := do
  let text ← argument text
  match array with
  | some (.place (.scalar name)) =>
    let texts ← pieces text.text separator
    fillArray name texts
    return .ofNat texts.length
  | _ =>
    report .notAVariable
    return .ofInt 0

/-- Replaces the first match in a place, or all, with the number of replacements. Without a match
the place is not assigned to. -/
def substitute (pattern replacement target : Option Operand) (all : Bool) : Act Value := do
  let pattern ← patternArgument pattern
  let replacement ← argument replacement
  match target with
  | none => at_ pattern replacement (.field 0)
  | some (.place p) => at_ pattern replacement p
  | some _ =>
    report .notAssignable
    return .ofInt 0
where
  at_ (pattern : String) (replacement : Value) (p : Place) : Act Value := do
    let text ← getPlace p
    match ← regex? pattern with
    | none => return .ofInt 0
    | some r =>
      let (pieces, tail) := r.pieces text.text.toList
      let (result, n) := Replacement.replace pieces tail replacement.text.toList all
      if n > 0 then assign p ⟨.ofList result⟩
      return .ofNat n

/-- Looks for a match and says where it is, also in `RSTART` and `RLENGTH`. -/
def locate (text pattern : Option Operand) : Act Value := do
  let text ← argument text
  let pattern ← patternArgument pattern
  let found := (← regex? pattern).bind (·.find? text.text)
  let (start, size) : Int × Int := match found with
    | some m => (m.start + 1, m.stop - m.start)
    | none => (0, -1)
  assign (.scalar "RSTART") (.ofInt start)
  assign (.scalar "RLENGTH") (.ofInt size)
  return .ofInt start

/-- Seeds the random numbers, with the seed before. Without an argument the seed is the time, which
is taken to stand still. -/
def seed (o : Option Operand) : Act Value := do
  let v ← match o with
    | some o => valueOf o
    | none => pure (.ofInt 0)
  let m ← get
  set { m with random := .ofSeed (UInt64.ofInt v.toInteger), seed := v }
  return m.seed

def random : Act Value := do
  let m ← get
  let (x, random) := m.random.next
  set { m with random }
  return .ofFloat x

/-- Formats arguments by the first of them. -/
def formatted : List Value → Value
  | [] => .empty
  | format :: values => ⟨Printf.format format.text values⟩

/-- The integer part of a value. -/
def integerPart (v : Value) : Value :=
  if v.isInteger then .ofInt v.toInteger else .ofFloat (Float.truncated v.toReal)

/-- Applies a function to arguments of a number that it takes. -/
def apply (b : Builtin) (os : List Operand) : Act Value := do
  match b with
  | .length => lengthOf os[0]?
  | .index =>
    let s ← argument os[0]?
    let t ← argument os[1]?
    return .ofNat (Position.index t.text.toList s.text.toList)
  | .substr =>
    let s ← argument os[0]?
    let start ← argument os[1]?
    let count ← os[2]?.mapM valueOf
    return ⟨.ofList (Position.substring s.text.toList start.toReal (count.map (·.toReal)))⟩
  | .split => splitInto os[0]? os[1]? os[2]?
  | .sub => substitute os[0]? os[1]? os[2]? false
  | .gsub => substitute os[0]? os[1]? os[2]? true
  | .matches => locate os[0]? os[1]?
  | .sprintf => return formatted (← arguments os)
  | .tolower => return ⟨Unicode.toLower (← argument os[0]?).text⟩
  | .toupper => return ⟨Unicode.toUpper (← argument os[0]?).text⟩
  | .atan2 =>
    let y ← argument os[0]?
    let x ← argument os[1]?
    return .ofFloat (Float.atan2 y.toReal x.toReal)
  | .cos => ofReal Float.cos os[0]?
  | .exp => ofReal Float.exp os[0]?
  | .log => ofReal Float.log os[0]?
  | .sin => ofReal Float.sin os[0]?
  | .sqrt => ofReal Float.sqrt os[0]?
  | .int => return integerPart (← argument os[0]?)
  | .rand => random
  | .srand => seed os[0]?
  | .close =>
    let name ← argument os[0]?
    ioStatus (← withStreams (·.close name.text))
  | .fflush =>
    let name ← os[0]?.mapM valueOf
    match ← withStreams (·.flush (name.map (·.text))) with
    | none => return .ofInt 0
    | some f => ioStatus (.error f)
  | .system =>
    let command ← argument os[0]?
    ioStatus (← withStreams (·.system command.text))

/-- Calls a function: a number of arguments that it does not take is reported. -/
def call (self : Inner) (b : Builtin) (parts : List Expr) : Run Value := do
  if b.accepts parts.length then
    let os ← Run.collect self.operand parts
    b.apply os
  else
    report (.wrongArgumentCount b.name)
    return .empty

end Awk.Builtin
