import Awk.CommandLine

/-! The program that runs a command line. Files and standard input are taken in when they are first
looked for: the command line runs again, from its start, until it looks for nothing that is there
and not yet taken in. Only then what it printed and what it left in files goes out. -/

namespace Awk.CommandLine

open Host (Disk Path)
open Records (Bytes textOf)

/-- What has been taken in, and the names that need not be looked for again. -/
structure Intake where
  system : System
  known : List String

/-- The bytes of a file; none if it cannot be read. -/
def readFile? (name : String) : IO (Option Bytes) := do
  try return some (← IO.FS.readBinFile name).toList
  catch _ => return none

/-- The variables of this process. -/
def readEnvironment : IO (List (String × String)) := do
  let text := textOf ((← readFile? "/proc/self/environ").getD [])
  return (text.splitOn "\x00").filterMap fun entry =>
    match entry.splitOn "=" with
    | name :: value :: rest => some (name, "=".intercalate (value :: rest))
    | _ => none

/-- Whether a path leads to a directory. -/
def leadsToDirectory (p : Path) : IO Bool := do
  try (← IO.FS.realPath (if p.key.isEmpty then "." else p.key)).isDir
  catch _ => return false

/-- Takes in what a name leads to, with the directories on the way. -/
def takeIn (intake : Intake) (name : String) : IO Intake := do
  if intake.known.contains name then return intake
  let system := intake.system
  let known := name :: intake.known
  if name = "/dev/stdin" then
    return ⟨{ system with input := (← readFile? name).getD [] }, known⟩
  let p := Path.ofString name
  if p.key.startsWith "/dev/" then return ⟨system, known⟩
  let directories ← (p.ancestors ++ [p]).filterM leadsToDirectory
  let disk := directories.foldl Disk.addDirectory system.disk
  if directories.contains p || disk.names.contains p.key then return ⟨{ system with disk }, known⟩
  match ← readFile? name with
  | some bytes => return ⟨{ system with disk := disk.add name bytes }, known⟩
  | none => return ⟨{ system with disk }, known⟩

/-- Runs a command line with all that it looks for. -/
partial def settle (arguments : List String) (intake : Intake) : IO (Intake × Option Outcome) := do
  match run arguments intake.system with
  | none => return (intake, none)
  | some outcome =>
    if outcome.sought.all intake.known.contains then return (intake, some outcome)
    else settle arguments (← outcome.sought.foldlM takeIn intake)

/-- Brings the files to what a run left of them. -/
def putOut (before after : Disk) : IO Unit := do
  for (key, number) in after.names.toList do
    let bytes := after.bytes number
    if (before.names[key]?).map before.bytes ≠ some bytes then
      IO.FS.writeBinFile key (ByteArray.mk bytes.toArray)
  for (key, _) in before.names.toList do
    unless after.names.contains key do IO.FS.removeFile key

/-- Runs a command line in this process. -/
def perform (arguments : List String) : IO UInt32 := do
  let (intake, outcome) ← settle arguments ⟨⟨.empty, [], ← readEnvironment⟩, []⟩
  match outcome with
  | none => return 1
  | some outcome =>
    (← IO.getStdout).putStr outcome.output
    (← IO.getStdout).flush
    (← IO.getStderr).putStr outcome.errors
    putOut intake.system.disk outcome.disk
    return outcome.status.toUInt32

end Awk.CommandLine

def main (arguments : List String) : IO UInt32 := Awk.CommandLine.perform arguments
