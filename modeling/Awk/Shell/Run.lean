import Awk.Host.Streams
import Awk.Shell.Script
import Awk.Shell.Tools

/-! Running command lines. A command reads what is left of the input and adds to the output and to
the complaints; the files pass from one command to the next. This is one way to run the commands of
a program, each at once when all that it reads is known. -/

namespace Awk.Shell

open Host (Disk Cause)
open Records (Bytes bytesOf textOf)

/-- How a shell ends before the end of its script. -/
inductive Stop where
  | exited (status : Nat)
  | killed
  deriving Repr, DecidableEq

/-- What the end of an inner shell is for the shell around it, which has the number that is
killed. -/
def around : Option Stop → Option Stop
  | some .killed => some .killed
  | _ => none

/-- A shell under way: the last status, how it has ended if it has, what it wrote, what it works on,
and the names given to commands that lead nowhere. -/
structure State where
  status : Nat
  stop : Option Stop
  output : Bytes
  errors : Bytes
  disk : Disk
  input : Bytes
  values : List (String × String)
  sought : List String

/-- The number that the shell gives as its own. -/
def processNumber : String := "4711"

namespace State

def value (st : State) (name : String) : String :=
  if name = "?" then toString st.status
  else if name = "$" then processNumber
  else if name = "#" then "0"
  else (st.values.lookup name).getD ""

/-- Adds a part of a word to the fields so far, the last of which is open: its text and whether any
of it is quoted. An unquoted value is divided at its blanks. -/
def expandPart (st : State) (fields : List (String × Bool)) (p : Part) : List (String × Bool) :=
  let add := fun (s : String) (quoted : Bool) =>
    match fields.getLast? with
    | some (t, q) => fields.dropLast ++ [(t ++ s, q || quoted)]
    | none => [(s, quoted)]
  match p with
  | .text s quoted => add s quoted
  | .parameter name true => add (st.value name) true
  | .parameter name false =>
    let pieces := (st.value name).toList.splitBy fun a b =>
      (a = ' ' || a = '\n') = (b = ' ' || b = '\n')
    pieces.foldl (fun fields piece =>
      let blank := piece.any fun c => c = ' ' || c = '\n'
      match fields.getLast? with
      | some (t, q) =>
        if blank then fields ++ [("", false)]
        else fields.dropLast ++ [(t ++ .ofList piece, q)]
      | none => [(.ofList piece, false)]) fields

/-- The fields of a word. An empty one counts only if it is quoted. -/
def expand (st : State) (w : Word) : List String :=
  ((w.foldl st.expandPart [("", false)]).filter fun (t, q) => q || !t.isEmpty).map (·.1)

/-- A word as one field. -/
def text (st : State) (w : Word) : String := " ".intercalate (st.expand w)

def complain (st : State) (status : Nat) (text : String) : State :=
  { st with status, errors := st.errors ++ bytesOf text }

/-- Notes the names that lead nowhere. -/
def seek (st : State) (names : List String) : State :=
  { st with sought := names.filter st.disk.lacks ++ st.sought }

/-- Sets a variable. -/
def assign (st : State) (name value : String) : State :=
  { st with values := (name, value) :: st.values }

end State

/-- Where a stream goes. -/
inductive Destination where
  | output
  | errors
  | file (number : Nat)
  | nowhere
  deriving Repr, DecidableEq

/-- The streams of a command: its input, if it is not the shell's, and where its output and its
complaints go. -/
structure Plumbing where
  input : Option Bytes
  output : Destination
  errors : Destination

/-- Follows redirections in order. -/
def redirect (st : State) : Plumbing → List Redirection → Except String (Plumbing × State)
  | p, [] => .ok (p, st)
  | p, r :: rs =>
    let target := st.text r.target
    let st := st.seek [target]
    match r.kind with
    | .input => match st.disk.read target with
      | .ok s => redirect st { p with input := some s } rs
      | .error cause =>
        .error ("cannot open " ++ target ++ ": " ++
          (if cause = .notFound then "No such file" else plain cause))
    | .duplicate =>
      let d := if target = "1" then p.output else if target = "2" then p.errors else .nowhere
      redirect st (if r.stream = 2 then { p with errors := d } else { p with output := d }) rs
    | kind =>
      match st.disk.openForWriting target (kind = .append) with
      | .error cause =>
        .error ("cannot create " ++ target ++ ": " ++
          (if cause = .notFound then "Directory nonexistent" else plain cause))
      | .ok (w, disk) =>
        let d := match w with
          | .file n => Destination.file n
          | .device .output => .output
          | .device .errors => .errors
          | .device _ => .nowhere
        redirect { st with disk }
          (if r.stream = 2 then { p with errors := d } else { p with output := d }) rs

/-- Delivers what a command wrote. -/
def deliver (st : State) (d : Destination) (s : Bytes) : State :=
  match d with
  | .output => { st with output := st.output ++ s }
  | .errors => { st with errors := st.errors ++ s }
  | .file n => if s.isEmpty then st else { st with disk := st.disk.write n none s }
  | .nowhere => st

/-- Runs `run` with streams redirected. A redirection that fails is complained about. -/
def withRedirections (st : State) (rs : List Redirection) (run : State → State) : State :=
  match redirect st ⟨none, .output, .errors⟩ rs with
  | .error e => st.complain 2 ("sh: 1: " ++ e ++ "\n")
  | .ok (p, st) =>
    let inner := run { st with input := p.input.getD st.input, output := [], errors := [] }
    let outer := { inner with
      output := st.output
      errors := st.errors
      input := if p.input.isSome then st.input else inner.input }
    deliver (deliver outer p.output inner.output) p.errors inner.errors

/-- The name and the value of a word that sets a variable. -/
def assignment? (w : String) : Option (String × String) :=
  let s := w.toList
  let name := s.takeWhile isNamePart
  match s.drop name.length with
  | '=' :: value =>
    if name.head?.any isNameStart then some (.ofList name, .ofList value) else none
  | _ => none

/-- The values that `read` gives to so many names: the words of a line, the last with all that is
left. -/
def readValues : Nat → List Char → List String
  | 0, _ => []
  | 1, line => [.ofList (((line.dropWhile (· = ' ')).reverse.dropWhile (· = ' ')).reverse)]
  | n + 1, line =>
    let line := line.dropWhile (· = ' ')
    .ofList (line.takeWhile (· ≠ ' ')) :: readValues n (line.dropWhile (· ≠ ' '))

/-- Reads a line of the input into variables. It fails at the end of the input. -/
def readLine (st : State) (names : List String) : State :=
  let line := st.input.takeWhile (· ≠ Records.newline)
  let rest := st.input.drop line.length
  let values := readValues names.length (textOf line).toList
  let st := (names.zip values).foldl (fun st (name, value) => st.assign name value) st
  { st with input := rest.drop 1, status := if rest.isEmpty then 1 else 0 }

/-- Runs a command that the shell itself knows; none of that name is none. -/
def builtin? (st : State) (name : String) (arguments : List String) : Option State :=
  match name with
  | "exit" =>
    let stop := fun (st : State) (status : Nat) => { st with status, stop := some (.exited status) }
    match arguments with
    | [] => some (stop st st.status)
    | a :: _ =>
      if a.isEmpty || !a.toList.all Char.isDigit then
        some (stop (st.complain 2 ("sh: 1: exit: Illegal number: " ++ a ++ "\n")) 2)
      else some (stop st ((Value.ofString a).toInteger % 256).toNat)
  | "kill" =>
    let signals := arguments.filter (·.startsWith "-")
    let targets := arguments.filter fun a => !a.startsWith "-"
    if signals = ["-0"] then some { st with status := 0 }
    else if targets.getLast? = some processNumber then some { st with stop := some .killed }
    else some (st.complain 1 "sh: 1: kill: No such process\n\n")
  | "read" => some (readLine st (arguments.filter (· ≠ "-r")))
  | "export" =>
    let settings := arguments.filterMap assignment?
    some { st with status := 0, values := settings.reverse ++ st.values }
  | "cd" =>
    let place := arguments.headD "/"
    match st.disk.openForReading place with
    | .ok .directory => some { st with status := 0 }
    | _ => some (st.complain 2 ("sh: 1: cd: can't cd to " ++ place ++ "\n"))
  | "unset" | "set" | "umask" | "wait" | "." => some { st with status := 0 }
  | _ => none

/-- The name of a tool without the directory that tools are in. -/
def toolName (name : String) : String :=
  match Host.Path.pieces [] name.toList with
  | ["", "bin", tool] | ["", "usr", "bin", tool] => tool
  | _ => name

/-- Complains that a name is no command. What asked for the command comes before its name. -/
def unknownCommand (st : State) (asker name : String) : State :=
  let isThere := match st.disk.openForReading name with
    | .ok _ => name.toList.contains '/'
    | .error _ => false
  if isThere then st.complain 126 ("sh: 1: " ++ asker ++ name ++ ": Permission denied\n")
  else st.complain 127 ("sh: 1: " ++ asker ++ name ++ ": not found\n")

/-- Runs a command by its name. -/
def runNamed (st : State) (asker name : String) (arguments : List String) : State :=
  match builtin? st name arguments with
  | some st => st
  | none => match tool? (toolName name) arguments st.disk st.input with
    | none => unknownCommand st asker name
    | some o =>
      { st with
        status := o.status
        output := st.output ++ o.output
        errors := st.errors ++ bytesOf o.errors
        disk := o.disk
        input := o.input }

/-- Runs a simple command. One that `exec` runs is the last. -/
def runSimple (st : State) (words : List Word) : State :=
  let fields := words.flatMap st.expand
  let settings := fields.takeWhile fun w => (assignment? w).isSome
  match fields.drop settings.length with
  | [] =>
    { st with
      status := 0
      values := (settings.filterMap assignment?).reverse ++ st.values }
  | "exec" :: name :: arguments =>
    let st := runNamed (st.seek arguments) "exec: " name arguments
    { st with stop := st.stop <|> some (.exited st.status) }
  | name :: arguments => runNamed (st.seek arguments) "" name arguments

/-- How often a loop runs at most, which none does. -/
def loopLimit : Nat := Nat.pow 2 62

/-- Repeats `body` while `test` says so and nothing stops it. The status is that of the last
`body`. -/
def repeatWhile (test : State → Bool × State) (body : State → State) : Nat → Nat → State → State
  | 0, _, st => st
  | n + 1, status, st =>
    match test st with
    | (true, st) =>
      let st := body st
      if st.stop.isSome then st else repeatWhile test body n st.status st
    | (false, st) => if st.stop.isSome then st else { st with status }

/-- Runs a script. After a stop nothing more runs. -/
def run (st : State) (script : Script) : State :=
  if st.stop.isSome then st
  else match script with
    | .nothing => st
    | .simple words rs => withRedirections st rs fun st => runSimple st words
    | .redirected body rs => withRedirections st rs fun st => run st body
    | .subshell body =>
      let inner := run st body
      { inner with stop := around inner.stop, values := st.values }
    | .negated body =>
      let st := run st body
      { st with status := if st.status = 0 then 1 else 0 }
    | .choice test yes no =>
      let st := run st test
      if st.status = 0 then run st yes else run { st with status := 0 } no
    | .loop wanted test body =>
      repeatWhile
        (fun st =>
          let st := run st test
          ((st.status = 0) = wanted && st.stop.isNone, st))
        (fun st => run st body) loopLimit 0 st
    | .forEach name words body =>
      (words.flatMap st.expand).foldl (fun st value => run (st.assign name value) body)
        { st with status := 0 }
    | .pipe first second =>
      let left := run { st with output := [] } first
      let middle := { left with
        output := st.output, input := left.output, stop := none, status := 0
        values := st.values }
      let right := run middle second
      { right with
        stop := around right.stop <|> around left.stop
        input := left.input
        values := st.values }
    | .andThen first second =>
      let st := run st first
      if st.status = 0 then run st second else st
    | .orElse first second =>
      let st := run st first
      if st.status = 0 then st else run st second
    | .sequence first second => run (run st first) second

/-- What a command line leaves: its status, -1 if it was killed, all that it wrote, and the names
that lead nowhere. -/
structure Result where
  status : Int
  output : Bytes
  errors : Bytes
  disk : Disk
  input : Bytes
  sought : List String

/-- Runs a command line on files and an input. -/
def execute (disk : Disk) (input : Bytes) (command : String) : Result :=
  match parse command with
  | .error fault => ⟨2, [], bytesOf ("sh: 1: " ++ fault.message ++ "\n"), disk, input, []⟩
  | .ok script =>
    let st := run ⟨0, none, [], [], disk, input, [], []⟩ script
    let status : Int := match st.stop with
      | some (.exited n) => n
      | some .killed => -1
      | none => st.status
    ⟨status, st.output, st.errors, st.disk, st.input, st.sought⟩

/-- Runs a command on the world, with standard input unless it is given what it reads. Where what it
prints goes is left open. -/
def carryOut (w : Host.World) (command : String) (given : Option Bytes) : Result × Host.World :=
  let r := execute w.disk (given.getD w.input) command
  let sought := if given.isNone && w.input.isEmpty then "/dev/stdin" :: w.sought else w.sought
  (r, { w with
    disk := r.disk
    input := if given.isSome then w.input else r.input
    console := w.console.addErrors (textOf r.errors)
    sought := r.sought ++ sought })

/-- Puts what a command has printed on the console. -/
def display (w : Host.World) (r : Result) : Host.World :=
  { w with console := w.console.addOutput (textOf r.output) }

/-- Notes the status of a command that has ended. -/
def conclude (w : Host.World) (child : Nat) (r : Result) : Host.World :=
  { w with ended := (child, r.status) :: w.ended }

/-- Runs a command that is written to, if it ends before it has read all that it has been given. -/
def leaveOff (now : Host.Moment) (w : Host.World) (child : Nat) : Host.World :=
  match now.children[child]?, w.ended.lookup child with
  | some c, none =>
    let (r, w') := carryOut w c.command (some c.given)
    if r.input.isEmpty then w else conclude (display w' r) child r
  | _, _ => w

/-- What is answered where a command runs at once: one that is read from when it is started, and one
that is written to when the program lets go of it, or when another runs if it does not read on. -/
def answer (now : Host.Moment) (c : Host.Call) (w : Host.World) : c.Answer × Host.World :=
  match c with
  | .pause => ((), w)
  | .feed _ => (.ok (), w)
  | .listen command =>
    let (r, w) := carryOut w command none
    (.ok [r.output], conclude w now.children.length r)
  | .run command =>
    let w := (List.range now.children.length).foldl (leaveOff now) w
    let (r, w) := carryOut w command none
    (.ok r.status, display w r)
  | .send child _ => (if (w.ended.lookup child).isSome then .error (.brokenPipe, 0) else .ok (), w)
  | .hangUp child =>
    match now.children[child]?, w.ended.lookup child with
    | some c, none =>
      let (r, w) := carryOut w c.command (some c.given)
      ((), conclude (display w r) child r)
    | _, _ => ((), w)
  | .wait child => (.ok ((w.ended.lookup child).getD 0), w)

def commands : Host.Commands := ⟨answer⟩

end Awk.Shell

namespace Awk.Host.Streams

/-- Streams whose commands the shell runs. -/
def start (disk : Disk) (input : Records.Bytes) (kind : ConsoleKind) : Streams :=
  .startWith Shell.commands disk input kind

end Awk.Host.Streams
