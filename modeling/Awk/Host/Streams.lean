import Awk.Host.Commands

/-! Redirected output and secondary input. A stream is opened when it is first used and stays open
under its name until it is closed. What is written to a file or to a command is collected first. A
record is read, and a text written, with nothing between; then the commands go on. -/

namespace Awk.Host

open Records (Bytes bytesOf textOf)

/-- How much is collected before it is written, and how much is read at once. -/
def blockSize : Nat := 8192

/-- Where the bytes of an input come from once its buffer is used up. -/
inductive Source where
  /-- Nothing more comes. -/
  | ended
  | file (number offset : Nat)
  /-- Standard input, whose buffer all its readers share. -/
  | input
  /-- What a command is yet to print. -/
  | blocks (rest : List Bytes)
  | directory
  deriving Repr, DecidableEq

/-- An input that is being read: what has been taken from its source but not used, and the
source. -/
structure Reader where
  buffer : Bytes
  source : Source
  deriving Repr, DecidableEq

namespace Reader

/-- A reader of given bytes. -/
def ofBytes (s : Bytes) : Reader := ⟨s, .ended⟩

def ofText (text : String) : Reader := .ofBytes (bytesOf text)

end Reader

/-- Where collected bytes go. -/
inductive Sink where
  /-- A file, and the place for the next bytes unless they go to its end. -/
  | file (target : Disk.Writable) (position : Option Nat)
  /-- The input of a command. -/
  | command (child : Nat)
  deriving Repr, DecidableEq

def Sink.isFile : Sink → Bool
  | .file .. => true
  | .command _ => false

/-- A sink and the bytes that have been collected for it. -/
structure Writer where
  sink : Sink
  pending : Pending
  deriving Repr, DecidableEq

/-- An output that is open. -/
inductive Output where
  | writer (w : Writer)
  | errors
  deriving Repr, DecidableEq

def Output.isFile : Output → Bool
  | .writer w => w.sink.isFile
  | .errors => false

/-- An input that is open, and the command that it is read from, if it is one. -/
structure Input where
  reader : Reader
  child : Option Nat
  deriving Repr, DecidableEq

/-- How output reaches a name. -/
inductive OutputKind where
  | truncate
  | append
  | pipe
  deriving Repr, DecidableEq

/-- What a name is read as. -/
inductive InputKind where
  | file
  | command
  deriving Repr, DecidableEq

/-- The streams with all that they reach: the world, standard input as far as it is taken but not
used, the streams open by name, the commands that have been started, what runs them and how often it
has been asked, and the names of files that are open until a close is done. -/
structure Streams extends World where
  inputBuffer : Bytes
  outputs : List (String × Output)
  inputs : List (String × Input)
  commands : Commands
  children : List Child
  count : Nat
  closing : List String

/-- The table with the entry of a name replaced. -/
def putEntry {α : Type} (name : String) (a : α) : List (String × α) → List (String × α)
  | [] => [(name, a)]
  | (n, b) :: r => if n = name then (n, a) :: r else (n, b) :: putEntry name a r

/-- The table without the entry of a name. -/
def dropEntry {α : Type} (name : String) (table : List (String × α)) : List (String × α) :=
  table.filter (·.1 ≠ name)

namespace Streams

def startWith (commands : Commands) (disk : Disk) (input : Bytes) (kind : ConsoleKind) :
    Streams where
  disk
  input
  console := .ofKind kind
  ended := []
  sought := []
  inputBuffer := []
  outputs := []
  inputs := []
  commands
  children := []
  count := 0
  closing := []

/-- The names of the files that are open for output. One that is being closed still is. -/
def writing (st : Streams) : List String :=
  (st.outputs.filter (·.2.isFile)).map (·.1) ++ st.closing

/-- Asks what runs the commands. -/
def call (st : Streams) (c : Call) : c.Answer × Streams :=
  let result := st.commands.answer ⟨st.count, st.children, st.writing⟩ c st.toWorld
  (result.1, { st with toWorld := result.2, count := st.count + 1 })

/-- Lets the commands go on. -/
def pause (st : Streams) : Streams := (st.call .pause).2

/-- Does something, after which the commands go on. -/
def thenPause {α : Type} (result : α × Streams) : α × Streams := (result.1, result.2.pause)

/-- Counts a command that has been started. -/
def addChild (st : Streams) (command : String) : Nat × Streams :=
  (st.children.length, { st with children := st.children ++ [⟨command, []⟩] })

/-- Counts bytes that a command has taken. -/
def give (st : Streams) (child : Nat) (s : Bytes) : Streams :=
  { st with children := st.children.modify child fun c => { c with given := c.given ++ s } }

/-- Gives bytes to a command. -/
def send (st : Streams) (child : Nat) (s : Bytes) : Except (Cause × Nat) Unit × Streams :=
  match st.call (.send child s) with
  | (.ok (), st) => (.ok (), st.give child s)
  | (.error (cause, n), st) => (.error (cause, n), st.give child (s.take n))

/-- Writes bytes to a file at a place. -/
def store (st : Streams) (target : Disk.Writable) (position : Option Nat) (s : Bytes) :
    Except Cause (Option Nat × Streams) :=
  match target with
  | .file n => .ok (position.map (· + s.length), { st with disk := st.disk.write n position s })
  | .device .full => .error .noSpace
  | .device .output => .ok (position, { st with console := st.console.addOutput (textOf s) })
  | .device .errors => .ok (position, { st with console := st.console.addErrors (textOf s) })
  | .device _ => .ok (position, st)

/-- Writes bytes to a sink. A failure comes with how many have been taken. -/
def transfer (st : Streams) (sink : Sink) (s : Bytes) : Except (Cause × Nat) Sink × Streams :=
  if s.isEmpty then (.ok sink, st)
  else match sink with
    | .file target position => match st.store target position s with
      | .ok (position, st) => (.ok (.file target position), st)
      | .error cause => (.error (cause, 0), st)
    | .command child => match st.send child s with
      | (.ok (), st) => (.ok (.command child), st)
      | (.error e, st) => (.error e, st)

/-- Writes what has been collected. A failure leaves what has not been taken. -/
def flushWriter (st : Streams) (w : Writer) : Except Cause Unit × Writer × Streams :=
  match st.transfer w.sink w.pending.bytes with
  | (.ok sink, st) => (.ok (), ⟨sink, .empty⟩, st)
  | (.error (cause, n), st) => (.error cause, { w with pending := w.pending.drop n }, st)

/-- Collects bytes. As many as a block are written at once. -/
def collect (st : Streams) (w : Writer) (s : Bytes) : Except Cause Unit × Writer × Streams :=
  if s.length ≥ blockSize then
    match st.transfer w.sink s with
    | (.ok sink, st) => (.ok (), { w with sink }, st)
    | (.error (cause, _), st) => (.error cause, w, st)
  else (.ok (), { w with pending := w.pending.push s }, st)

/-- Adds bytes. Those that do not fit into what may still be collected have that written first. -/
def writeWriter (st : Streams) (w : Writer) (s : Bytes) : Except Cause Unit × Writer × Streams :=
  if w.pending.size + s.length > blockSize then
    match st.flushWriter w with
    | (.ok (), w, st) => st.collect w s
    | failed => failed
  else st.collect w s

def flushOutput (st : Streams) (o : Output) : Except Cause Unit × Output × Streams :=
  match o with
  | .errors => (.ok (), o, st)
  | .writer w =>
    let result := st.flushWriter w
    (result.1, .writer result.2.1, result.2.2)

def writeOutput (st : Streams) (o : Output) (text : String) :
    Except Cause Unit × Output × Streams :=
  match o with
  | .errors => (.ok (), o, { st with console := st.console.addErrors text })
  | .writer w =>
    let result := st.writeWriter w (bytesOf text)
    (result.1, .writer result.2.1, result.2.2)

/-- Puts the output of a name in place. -/
def putOutput (st : Streams) (name : String) (o : Output) : Streams :=
  { st with outputs := putEntry name o st.outputs }

/-- Flushes one of the outputs. -/
def flushEntry (st : Streams) (entry : String × Output) : Streams :=
  let result := st.flushOutput entry.2
  (result.2.2.putOutput entry.1 result.2.1).pause

/-- Flushes the console and all outputs. A failure shows at the next write or at the close. -/
def flushAll (st : Streams) : Streams :=
  st.outputs.foldl flushEntry { st with console := st.console.flush }

/-- Notes a name whose file is not there. -/
def seek (st : Streams) (name : String) : Streams :=
  if st.disk.lacks name then { st with sought := name :: st.sought } else st

/-- Notes that standard input has nothing more. -/
def seekInput (st : Streams) : Streams :=
  if st.input.isEmpty then { st with sought := "/dev/stdin" :: st.sought } else st

/-- Opens a name for output. -/
def openOutput (st : Streams) (kind : OutputKind) (name : String) :
    Except Failure Output × Streams :=
  match kind with
  | .pipe =>
    let st := st.flushAll
    if name.toList.contains '\x00' then (.error ⟨.spawn, name, .nulInCommand⟩, st)
    else match st.call (.feed name) with
      | (.error cause, st) => (.error ⟨.spawn, name, cause⟩, st)
      | (.ok (), st) =>
        let (child, st) := st.addChild name
        (.ok (.writer ⟨.command child, .empty⟩), st)
  | kind =>
    if name = "/dev/stderr" then (.ok .errors, st)
    else
      let st := st.seek name
      match st.disk.openForWriting name (kind = .append) with
      | .error cause => (.error ⟨.open_, name, cause⟩, st)
      | .ok (target, disk) =>
        let position := if kind = .append then none else some 0
        (.ok (.writer ⟨.file target position, .empty⟩), { st with disk })

/-- The output that is open under a name, or one that is opened for it. -/
def obtainOutput (st : Streams) (kind : OutputKind) (name : String) :
    Except Failure Output × Streams :=
  match st.outputs.lookup name with
  | some o => (.ok o, st)
  | none =>
    match st.openOutput kind name with
    | (.ok o, st) => (.ok o, st.putOutput name o)
    | failed => failed

/-- The failure of a write to a name. -/
def failedWrite {α : Type} (name : String) : Except Cause α → Option Failure
  | .ok _ => none
  | .error cause => some ⟨.write, name, cause⟩

/-- Writes text to a name. A name that is open is used as it was opened. -/
def writeTo (st : Streams) (kind : OutputKind) (name text : String) : Option Failure × Streams :=
  match st.obtainOutput kind name with
  | (.error f, st) => (some f, st)
  | (.ok o, st) =>
    let result := st.writeOutput o text
    (failedWrite name result.1, result.2.2.putOutput name result.2.1)

/-- Prints text. -/
def print (st : Streams) (text : String) : Streams :=
  { st with console := st.console.print text }

/-- Prints text, or writes it to a name. -/
def write (st : Streams) (target : Option (OutputKind × String)) (text : String) :
    Option Failure × Streams :=
  match target with
  | none => thenPause (none, st.print text)
  | some (kind, name) =>
    if kind ≠ .pipe && (name = "-" || name = "/dev/stdout") then thenPause (none, st.print text)
    else thenPause (st.writeTo kind name text)

/-- Takes the next block of a reader's source; none if there is no more. -/
def fill (st : Streams) (r : Reader) : Except Cause (Option (Reader × Streams)) :=
  match r.source with
  | .ended => .ok none
  | .directory => .error .isADirectory
  | .blocks [] => .ok none
  | .blocks (block :: rest) => .ok (some (⟨r.buffer ++ block, .blocks rest⟩, st))
  | .file n offset =>
    let block := ((st.disk.bytes n).drop offset).take blockSize
    if block.isEmpty then .ok none
    else .ok (some (⟨r.buffer ++ block, .file n (offset + block.length)⟩, st))
  | .input =>
    let block := st.input.take blockSize
    if block.isEmpty then .ok none
    else .ok (some (⟨r.buffer ++ block, .input⟩, { st with input := st.input.drop blockSize }))

/-- Reads a record that is not all in the buffer, taking at most `n` blocks from the source. -/
def readBlocks (separator : Bytes) : Nat → Streams → Reader →
    Except Cause (Option Bytes) × Reader × Streams
  | 0, st, r => (.ok (Records.final? separator r.buffer), { r with buffer := [] }, st)
  | n + 1, st, r =>
    match st.fill r with
    | .error cause => (.error cause, r, st)
    | .ok none =>
      let st := if r.source = .input then st.seekInput else st
      (.ok (Records.final? separator r.buffer), { r with buffer := [] }, st)
    | .ok (some (r, st)) => match Records.complete? separator r.buffer with
      | some (record, rest) => (.ok (some record), { r with buffer := rest }, st)
      | none => readBlocks separator n st r

/-- More blocks than a source has left. -/
def blocksLeft (st : Streams) (r : Reader) : Nat :=
  match r.source with
  | .file n _ => (st.disk.bytes n).length / blockSize + 2
  | .input => st.input.length / blockSize + 2
  | .blocks rest => rest.length + 1
  | .ended | .directory => 1

/-- Reads a record, from the buffer alone if it holds one. -/
def readBytes (st : Streams) (r : Reader) (separator : Bytes) :
    Except Cause (Option Bytes) × Reader × Streams :=
  match Records.complete? separator r.buffer with
  | some (record, rest) => (.ok (some record), { r with buffer := rest }, st)
  | none => readBlocks separator (st.blocksLeft r) st r

/-- Reads the next record of a reader. -/
def readRecord (st : Streams) (r : Reader) (separator : String) :
    Except Cause (Option String) × Reader × Streams :=
  let shared := r.source = .input
  let r := if shared then { r with buffer := st.inputBuffer } else r
  let (result, r, st) := st.readBytes r (bytesOf separator)
  let (r, st) := if shared then ({ r with buffer := [] }, { st with inputBuffer := r.buffer })
    else (r, st)
  (result.map (·.map textOf), r, st)

/-- A reader of standard input. -/
def standardInput : Reader := ⟨[], .input⟩

/-- Opens a file for reading. -/
def openFile (st : Streams) (name : String) : Except Cause Reader × Streams :=
  match st.disk.openForReading name with
  | .ok (.file n) => (.ok ⟨[], .file n 0⟩, st)
  | .ok .directory => (.ok ⟨[], .directory⟩, st)
  | .ok (.device .input) => (.ok standardInput, st)
  | .ok _ => (.ok (.ofBytes []), st)
  | .error cause => (.error cause, st.seek name)

/-- Opens a name for input. -/
def openInput (st : Streams) (kind : InputKind) (name : String) : Except Failure Input × Streams :=
  match kind with
  | .file =>
    if name = "-" || name = "/dev/stdin" then (.ok ⟨standardInput, none⟩, st)
    else match st.openFile name with
      | (.ok r, st) => (.ok ⟨r, none⟩, st)
      | (.error cause, st) => (.error ⟨.open_, name, cause⟩, st)
  | .command =>
    let st := st.flushAll
    if name.toList.contains '\x00' then (.error ⟨.spawn, name, .nulInCommand⟩, st)
    else match st.call (.listen name) with
      | (.error cause, st) => (.error ⟨.spawn, name, cause⟩, st)
      | (.ok blocks, st) =>
        let (child, st) := st.addChild name
        (.ok ⟨⟨[], .blocks blocks⟩, some child⟩, st)

/-- The input that is open under a name, or one that is opened for it. -/
def obtainInput (st : Streams) (kind : InputKind) (name : String) :
    Except Failure Input × Streams :=
  match st.inputs.lookup name with
  | some i => (.ok i, st)
  | none =>
    match st.openInput kind name with
    | (.ok i, st) => (.ok i, { st with inputs := putEntry name i st.inputs })
    | failed => failed

/-- Reads the next record from a name. A name that is open is used as it was opened. -/
def readFrom (st : Streams) (kind : InputKind) (name separator : String) :
    Except Failure (Option String) × Streams :=
  match st.obtainInput kind name with
  | (.error f, st) => (.error f, st)
  | (.ok i, st) =>
    let result := st.readRecord i.reader separator
    (result.1.mapError (⟨.read, name, ·⟩), { result.2.2 with
      inputs := putEntry name { i with reader := result.2.1 } result.2.2.inputs })

def read (st : Streams) (kind : InputKind) (name separator : String) :
    Except Failure (Option String) × Streams :=
  thenPause (st.readFrom kind name separator)

/-- Lets go of a command and waits for its end. -/
def await (st : Streams) (child : Nat) : Except Cause Int × Streams :=
  (st.call (.hangUp child)).2.call (.wait child)

/-- Lets go of an output that could not be flushed. What is left is tried once more, and a command is
not waited for. -/
def abandon (st : Streams) (w : Writer) : Streams :=
  let (_, w, st) := st.flushWriter w
  match w.sink with
  | .file .. => st
  | .command child => (st.call (.hangUp child)).2

/-- Ends an output that is no longer among those that are open, with its status. -/
def finish (st : Streams) (o : Output) : Except Cause Int × Streams :=
  match o with
  | .errors => (.ok 0, st)
  | .writer w => match st.flushWriter w with
    | (.error cause, w, st) => (.error cause, st.abandon w)
    | (.ok (), w, st) => match w.sink with
      | .file .. => (.ok 0, st)
      | .command child => st.await child

/-- Closes the output of a name, with its status; -1 if there is none. -/
def closeOutput (st : Streams) (name : String) : Except Failure Int × Streams :=
  match st.outputs.lookup name with
  | none => (.ok (-1), st)
  | some o =>
    let result := { st with outputs := dropEntry name st.outputs }.finish o
    (result.1.mapError (⟨.write, name, ·⟩), result.2)

/-- Ends an input that is no longer among those that are open, with its status. -/
def endInput (st : Streams) (i : Input) : Except Cause Int × Streams :=
  match i.child with
  | none => (.ok 0, st)
  | some child => st.await child

/-- Closes what is open under a name, an output before an input, with the last status; -1 if nothing
is open. An output that fails to close leaves the input open. -/
def closeName (st : Streams) (name : String) : Except Failure Int × Streams :=
  match st.closeOutput name with
  | (.error f, st) => (.error f, st)
  | (.ok status, st) => match st.inputs.lookup name with
    | none => (.ok status, st)
    | some i =>
      let result := { st with inputs := dropEntry name st.inputs }.endInput i
      (result.1.mapError (⟨.write, name, ·⟩), result.2)

/-- Closes one name after the other, with all that fails. -/
def closeEach (st : Streams) : List String → List Failure × Streams
  | [] => ([], st)
  | name :: names =>
    let result := thenPause (st.closeName name)
    let rest := result.2.closeEach names
    match result.1 with
    | .ok _ => rest
    | .error f => (f :: rest.1, rest.2)

/-- Does something during which the files that are open for output count as open. -/
def whileClosing {α : Type} (st : Streams) (f : Streams → α × Streams) : α × Streams :=
  let result := f { st with closing := st.writing }
  (result.1, { result.2 with closing := st.closing })

/-- Closes a name, with its status. -/
def close (st : Streams) (name : String) : Except Failure Int × Streams :=
  st.whileClosing fun st => thenPause (st.closeName name)

/-- Flushes the output of a name, if it is open, or everything. -/
def flush (st : Streams) (name : Option String) : Option Failure × Streams :=
  match name with
  | none => (none, st.flushAll)
  | some name => match st.outputs.lookup name with
    | none => (none, st)
    | some o =>
      let result := st.flushOutput o
      thenPause (failedWrite name result.1, result.2.2.putOutput name result.2.1)

/-- Runs a command to its end, with its status. -/
def system (st : Streams) (command : String) : Except Failure Int × Streams :=
  let st := st.flushAll
  if command.toList.contains '\x00' then (.error ⟨.spawn, command, .nulInCommand⟩, st)
  else
    let result := st.call (.run command)
    (result.1.mapError (⟨.spawn, command, ·⟩), result.2)

/-- Closes everything, with all that fails. -/
def closeAll (st : Streams) : List Failure × Streams :=
  let names := st.outputs.map (·.1) ++ st.inputs.map (·.1)
  let result := st.whileClosing (·.closeEach names)
  (result.1, { result.2 with console := result.2.console.flush })

end Streams

end Awk.Host
