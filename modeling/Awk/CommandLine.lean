import Awk.Ast.Listing
import Awk.Eval.Interpreter
import Awk.Grammar.Program
import Awk.Options
import Awk.Shell.Run
import Awk.Source.Report

/-! The program that a command line runs, from its arguments and the system that it finds to its
status, what it prints and the system that it leaves. -/

namespace Awk.CommandLine

open Host (Disk Cause Streams)
open Records (Bytes bytesOf textOf)

def usage : String :=
  "usage: awki [-F fs] [-v var=value] [--debug] 'program' [file ...]\n" ++
  "       awki [-F fs] [-v var=value] [--debug] -f progfile [file ...]"

def version : String := "awki 0.1.0"

/-- What a command finds: files, standard input and its environment. -/
structure System where
  disk : Disk
  input : Bytes
  environment : List (String × String)

/-- What a command leaves: its status, what it printed, the files, and the names that it looked for,
unless they lead to a file. -/
structure Outcome where
  status : Nat
  output : String
  errors : String
  disk : Disk
  sought : List String

namespace Outcome

/-- Ends before any program runs. -/
def stop (system : System) (status : Nat) (output errors : String) : Outcome :=
  ⟨status, output, errors, system.disk, []⟩

def ofMachine (status : Nat) (m : Machine) : Outcome :=
  let console := m.streams.console
  ⟨status, console.output.text, console.errors.text, m.streams.disk, m.streams.sought⟩

/-- Adds names that were looked for. -/
def seek (o : Outcome) (names : List String) : Outcome := { o with sought := names ++ o.sought }

end Outcome

/-- The status of an error that is found before the program runs. -/
def errorStatus : Nat := 2

/-- The status of a command line that cannot be taken apart. -/
def crashStatus : Nat := 101

/-- Reads a file of program text, which may be standard input. -/
def readText (system : System) (name : String) : Except Cause (String × System) := do
  let (bytes, system) ← match system.disk.openForReading name with
    | .ok (.device .input) => .ok (system.input, { system with input := [] })
    | _ => (system.disk.read name).map (·, system)
  let text := textOf bytes
  if bytesOf text = bytes then return (text, system) else throw .notUtf8

/-- Reads files of program text one after the other. An error comes with the name of its file. -/
def readTexts (system : System) : List String → Except (String × Cause) (List String × System)
  | [] => .ok ([], system)
  | name :: names => do
    let (text, system) ← (readText system name).mapError (name, ·)
    let (texts, system) ← readTexts system names
    return (text :: texts, system)

/-- The files that program text is in. -/
def programFiles : ProgramText → List String
  | .given _ => []
  | .files names => names

/-- The name that a program is reported under. -/
def programName : ProgramText → String
  | .files [name] => name
  | _ => "<program>"

/-- The program's text. Those of several files are joined by newlines. -/
def programText (system : System) : ProgramText → Except (String × Cause) (String × System)
  | .given text => .ok (text, system)
  | .files names => do
    let (texts, system) ← readTexts system names
    return ("\n".intercalate texts, system)

/-- What the options settle for the program. -/
def settings (options : Options) (system : System) : Settings where
  operands := options.operands
  assignments := options.assignments
  fieldSeparator := options.fieldSeparator
  environment := system.environment
  echo := true

/-- Runs the program that the options name. -/
def runProgram (options : Options) (system : System) : Option Outcome :=
  match programText system options.program with
  | .error (name, cause) =>
    some (.stop system errorStatus "" ("awki: can't open program file \x60" ++ name ++ "\x60: " ++
      cause.message ++ "\n"))
  | .ok (text, system) => match parse text with
    | .error e =>
      some (.stop system errorStatus "" (Report.render (programName options.program) text e))
    | .ok program =>
      let streams := Streams.start system.disk system.input .shared
      let streams := if options.debug then
          { streams with console := streams.console.addErrors (Listing.program program ++ "\n") }
        else streams
      (Machine.start program (settings options system) streams).run.map fun (status, m) =>
        .ofMachine status m

/-- Runs a command line. There is no outcome only if the fuel runs out. -/
def run (arguments : List String) (system : System) : Option Outcome :=
  match Request.ofArguments arguments with
  | .ok .help => some (.stop system 0 (usage ++ "\n") "")
  | .ok .version => some (.stop system 0 (version ++ "\n") "")
  | .ok (.run options) => (runProgram options system).map (·.seek (programFiles options.program))
  | .error (.indivisible argument) =>
    let text := "awki: " ++ (UsageError.indivisible argument).message ++ "\n"
    some (.stop system crashStatus "" text)
  | .error e => some (.stop system errorStatus "" ("awki: " ++ e.message ++ "\n" ++ usage ++ "\n"))

end Awk.CommandLine
