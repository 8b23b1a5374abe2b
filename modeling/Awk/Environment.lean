import Std.Data.TreeMap.Basic
import Awk.Source.Token
import Awk.Value

/-! Variables and their scopes. A variable is a scalar and an array at once. The array is held apart
from the variable, so that a parameter can share it. A name is looked up in the blocks of the active
calls, innermost first, and then among the globals. -/

namespace Awk

/-- The elements of an array, in the order of their keys. -/
abbrev Elements := Std.TreeMap String Value

/-- A variable: its scalar and which array is its own. -/
structure Variable where
  value : Value
  array : Nat
  deriving Repr, DecidableEq

/-- Variables by name. A name occurs once. -/
abbrev Scope := List (Name × Variable)

namespace Scope

def get? (s : Scope) (name : Name) : Option Variable := s.lookup name

/-- Sets the variable of a name, which keeps its place. -/
def put (s : Scope) (name : Name) (v : Variable) : Scope :=
  match s with
  | [] => [(name, v)]
  | (n, w) :: r => if n = name then (n, v) :: r else (n, w) :: put r name v

end Scope

/-- The variables of an active call and the value that it returns so far. -/
structure CallBlock where
  locals : Scope
  returned : Value
  deriving Repr

/-- All variables. The arrays that are not in `arrays` are empty, and those from `nextArray` on are
not in use. -/
structure Environment where
  globals : Scope
  /-- The active calls, innermost first. -/
  blocks : List CallBlock
  returned : Value
  arrays : Std.TreeMap Nat Elements
  nextArray : Nat

namespace Environment

def empty : Environment := ⟨[], [], .empty, ∅, 0⟩

/-- The variable that a name stands for, in blocks and globals. -/
def findIn (name : Name) (globals : Scope) : List CallBlock → Option Variable
  | [] => globals.get? name
  | b :: bs => b.locals.get? name <|> findIn name globals bs

/-- The variable that a name stands for. -/
def lookup (env : Environment) (name : Name) : Option Variable :=
  findIn name env.globals env.blocks

/-- Changes the variable in the innermost block that has the name. -/
def putIn (name : Name) (v : Variable) : List CallBlock → Option (List CallBlock)
  | [] => none
  | b :: bs =>
    if (b.locals.get? name).isSome then some ({ b with locals := b.locals.put name v } :: bs)
    else (putIn name v bs).map (b :: ·)

/-- Sets the variable that a name stands for. A name that stands for none becomes a global. -/
def put (env : Environment) (name : Name) (v : Variable) : Environment :=
  match putIn name v env.blocks with
  | some blocks => { env with blocks }
  | none => { env with globals := env.globals.put name v }

/-- A variable of its own, which is empty. -/
def fresh (env : Environment) (value : Value) : Variable × Environment :=
  (⟨value, env.nextArray⟩, { env with nextArray := env.nextArray + 1 })

/-- The variable that a name stands for. A name that stands for none becomes a global. -/
def obtain (env : Environment) (name : Name) : Variable × Environment :=
  match env.lookup name with
  | some v => (v, env)
  | none =>
    let (v, env) := env.fresh .empty
    (v, env.put name v)

/-- The scalar of a name; empty if there is none. -/
def value (env : Environment) (name : Name) : Value :=
  ((env.lookup name).map (·.value)).getD .empty

/-- Sets the scalar of a name. -/
def setValue (env : Environment) (name : Name) (value : Value) : Environment :=
  let (v, env) := env.obtain name
  env.put name { v with value }

/-- Sets the scalar of a global. -/
def setGlobal (env : Environment) (name : Name) (value : Value) : Environment :=
  match env.globals.get? name with
  | some v => { env with globals := env.globals.put name { v with value } }
  | none =>
    let (v, env) := env.fresh value
    { env with globals := env.globals.put name v }

/-- The elements of an array. -/
def elements (env : Environment) (array : Nat) : Elements := env.arrays.getD array ∅

/-- Changes the elements of an array. -/
def modifyArray (env : Environment) (array : Nat) (f : Elements → Elements) : Environment :=
  let es := env.elements array
  let arrays := env.arrays.erase array
  { env with arrays := arrays.insert array (f es) }

/-- Changes the array of a name. -/
def modifyElements (env : Environment) (name : Name) (f : Elements → Elements) : Environment :=
  let (v, env) := env.obtain name
  env.modifyArray v.array f

/-- An element of the array of a name, which is made if there is none. -/
def element (env : Environment) (name : Name) (key : String) : Value × Environment :=
  let (v, env) := env.obtain name
  match (env.elements v.array)[key]? with
  | some x => (x, env)
  | none => (.empty, env.modifyArray v.array (·.insert key .empty))

/-- Whether a name has an element; a name that stands for nothing has none. -/
def hasElement (env : Environment) (name : Name) (key : String) : Bool :=
  match env.lookup name with
  | some v => (env.elements v.array).contains key
  | none => false

def setElement (env : Environment) (name : Name) (key : String) (value : Value) : Environment :=
  env.modifyElements name (·.insert key value)

def removeElement (env : Environment) (name : Name) (key : String) : Environment :=
  env.modifyElements name (·.erase key)

def clearElements (env : Environment) (name : Name) : Environment :=
  env.modifyElements name fun _ => ∅

/-- The keys of a name's array in order. -/
def keys (env : Environment) (name : Name) : List String :=
  match env.lookup name with
  | some v => (env.elements v.array).keys
  | none => []

/-- The number of elements of a name's array. -/
def count (env : Environment) (name : Name) : Nat :=
  match env.lookup name with
  | some v => (env.elements v.array).size
  | none => 0

/-- The number of active calls. -/
def depth (env : Environment) : Nat := env.blocks.length

/-- What a parameter starts as: empty, a value of its own, or the scalar and the array of a
variable. -/
inductive Argument where
  | nothing
  | value (v : Value)
  | shared (source : Variable)
  deriving Repr, DecidableEq

/-- Puts a parameter in front of the locals that a call is to have. -/
def bind (env : Environment) (name : Name) (locals : Scope) : Argument → Scope × Environment
  | .nothing => let (v, env) := env.fresh .empty; (Scope.put locals name v, env)
  | .value x => let (v, env) := env.fresh x; (Scope.put locals name v, env)
  | .shared v => (Scope.put locals name v, env)

/-- The locals of a call from its parameters. -/
def bindAll (env : Environment) (parameters : List (Name × Argument)) : Scope × Environment :=
  parameters.foldl (fun (locals, env) (name, a) => env.bind name locals a) ([], env)

/-- Enters a call. -/
def push (env : Environment) (parameters : List (Name × Argument)) : Environment :=
  let (locals, env) := env.bindAll parameters
  { env with blocks := ⟨locals, .empty⟩ :: env.blocks }

/-- Leaves the innermost call, with the value that it returns. -/
def pop (env : Environment) : Option Value × Environment :=
  match env.blocks with
  | [] => (none, env)
  | b :: blocks => (some b.returned, { env with blocks })

/-- Sets the value that the innermost call returns, or the one outside of calls. -/
def setReturned (env : Environment) (value : Value) : Environment :=
  match env.blocks with
  | [] => { env with returned := value }
  | b :: blocks => { env with blocks := { b with returned := value } :: blocks }

/-- The value that the innermost call returns so far. -/
def returnedValue (env : Environment) : Value :=
  match env.blocks with
  | [] => env.returned
  | b :: _ => b.returned

end Environment

end Awk
