import Std.Data.TreeMap.Basic
import Awk.Host.Failure
import Awk.Records

/-! Files. A name leads to a file, whose bytes stay while it is open, whatever becomes of the name.
There are a few devices, and directories where files can be made. -/

namespace Awk.Host

open Records (Bytes)

/-- What a name is taken for before its file is looked up: absolute or not, its parts, and whether
it ends like a directory's. -/
structure Path where
  absolute : Bool
  parts : List String
  directory : Bool
  deriving Repr, DecidableEq

namespace Path

/-- Takes a part off the end for `..`, which stays where there is none. -/
def up (absolute : Bool) (parts : List String) : List String :=
  match parts.getLast? with
  | none => if absolute then [] else [".."]
  | some ".." => parts ++ [".."]
  | some _ => parts.dropLast

/-- The pieces of a name between slashes, after the characters of the first that have been
`taken`, last first. -/
def pieces (taken : List Char) : List Char → List String
  | [] => [.ofList taken.reverse]
  | c :: r => if c = '/' then .ofList taken.reverse :: pieces [] r else pieces (c :: taken) r

def ofString (name : String) : Path :=
  let absolute := name.startsWith "/"
  let pieces := pieces [] name.toList
  let parts := pieces.foldl (fun parts p =>
    if p.isEmpty || p = "." then parts
    else if p = ".." then up absolute parts
    else parts ++ [p]) []
  ⟨absolute, parts, pieces.getLast?.any fun p => p.isEmpty || p = "." || p = ".."⟩

/-- The name that all paths to one place share. -/
def key (p : Path) : String := (if p.absolute then "/" else "") ++ "/".intercalate p.parts

/-- The directories on the way, from the outside in. -/
def ancestors (p : Path) : List Path :=
  (List.range p.parts.length).map fun n => { p with parts := p.parts.take n }

end Path

/-- The files: their numbers by name, their bytes by number, the first number not in use, and the
directories. -/
structure Disk where
  names : Std.TreeMap String Nat
  contents : Std.TreeMap Nat Bytes
  next : Nat
  directories : List String

/-- A file that is no file of a disk. -/
inductive Device where
  /-- Takes everything and is empty. -/
  | null
  /-- Takes nothing. -/
  | full
  | input
  | output
  | errors
  deriving Repr, DecidableEq

/-- What a name stands for. -/
inductive Location where
  | file (number : Nat)
  | device (d : Device)
  | directory
  /-- No file, though there could be one under this key. -/
  | vacant (key : String)
  deriving Repr, DecidableEq

namespace Disk

/-- The directories that always are. The first is the one that names start in. -/
def standardDirectories : List String :=
  ["", "/", "/tmp", "/dev", "/etc", "/usr", "/bin", "/var", "/home", ".."]

def empty : Disk := ⟨∅, ∅, 0, standardDirectories⟩

def isDirectory (d : Disk) (p : Path) : Bool := d.directories.contains p.key

def device? : String → Option Device
  | "/dev/null" => some .null
  | "/dev/full" => some .full
  | "/dev/stdin" => some .input
  | "/dev/stdout" => some .output
  | "/dev/stderr" => some .errors
  | _ => none

/-- Why the directories on the way to a name cannot be passed. -/
def obstacle? (d : Disk) (p : Path) : Option Cause :=
  (p.ancestors.find? fun q => !d.isDirectory q).map fun q =>
    if (d.names.contains q.key) || (device? q.key).isSome then .notADirectory else .notFound

/-- What a name stands for. -/
def locate (d : Disk) (name : String) : Except Cause Location :=
  let p := Path.ofString name
  if name.toList.contains '\x00' then .error .nulInName
  else if name.isEmpty then .error .notFound
  else if name.utf8ByteSize ≥ 4096 || p.parts.any (·.utf8ByteSize > 255) then .error .nameTooLong
  else match d.obstacle? p with
    | some cause => .error cause
    | none =>
      if d.isDirectory p then .ok .directory
      else match d.names[p.key]?, device? p.key with
        | some n, _ => .ok (.file n)
        | none, some dev => .ok (.device dev)
        | none, none => .ok (.vacant p.key)

/-- Whether a name leads nowhere, though a file or a directory that is not there could make it lead
somewhere. -/
def lacks (d : Disk) (name : String) : Bool :=
  match d.locate name with
  | .ok (.vacant _) | .error .notFound => true
  | _ => false

/-- The bytes of a file. -/
def bytes (d : Disk) (number : Nat) : Bytes := d.contents.getD number []

def setBytes (d : Disk) (number : Nat) (bytes : Bytes) : Disk :=
  { d with contents := d.contents.insert number bytes }

/-- Makes a file, which is empty. -/
def create (d : Disk) (key : String) : Nat × Disk :=
  (d.next, { d with
    names := d.names.insert key d.next
    contents := d.contents.insert d.next []
    next := d.next + 1 })

/-- Makes a directory. -/
def addDirectory (d : Disk) (p : Path) : Disk :=
  if d.isDirectory p then d else { d with directories := p.key :: d.directories }

/-- Puts a file of given bytes under a name, and makes the directories on the way to it. -/
def add (d : Disk) (name : String) (bytes : Bytes) : Disk :=
  let p := Path.ofString name
  let d := p.ancestors.foldl addDirectory d
  let (number, d) := d.create p.key
  d.setBytes number bytes

/-- Takes a name away from its file. -/
def remove (d : Disk) (key : String) : Disk := { d with names := d.names.erase key }

/-- What can be written to. -/
inductive Writable where
  | file (number : Nat)
  | device (dev : Device)
  deriving Repr, DecidableEq

/-- Opens a name for writing. A file that is not there is made; one that is there loses its bytes
unless they are to be kept. -/
def openForWriting (d : Disk) (name : String) (keep : Bool) : Except Cause (Writable × Disk) :=
  match d.locate name with
  | .error cause => .error cause
  | .ok .directory => .error .isADirectory
  | .ok location =>
    if (Path.ofString name).directory then .error .isADirectory
    else match location with
      | .device dev => .ok (.device dev, d)
      | .file n => .ok (.file n, if keep then d else d.setBytes n [])
      | .vacant key => let (n, d) := d.create key; .ok (.file n, d)
      | .directory => .error .isADirectory

/-- Writes bytes into a file at a position, or at its end. A gap is filled with zeros. -/
def write (d : Disk) (number : Nat) (position : Option Nat) (bytes : Bytes) : Disk :=
  let old := d.bytes number
  let at_ := position.getD old.length
  let start := old.take at_ ++ List.replicate (at_ - old.length) 0
  d.setBytes number (start ++ bytes ++ old.drop (at_ + bytes.length))

/-- What a name leads to for reading: something that is there, and is a directory if the name ends
like one. -/
def openForReading (d : Disk) (name : String) : Except Cause Location :=
  match d.locate name with
  | .error cause => .error cause
  | .ok .directory => .ok .directory
  | .ok (.vacant _) => .error .notFound
  | .ok location =>
    if (Path.ofString name).directory then .error .notADirectory else .ok location

/-- The bytes that a name leads to. -/
def read (d : Disk) (name : String) : Except Cause Bytes :=
  match d.openForReading name with
  | .error cause => .error cause
  | .ok .directory => .error .isADirectory
  | .ok (.file n) => .ok (d.bytes n)
  | .ok _ => .ok []

/-- The files in the directory where names start, by name. -/
def files (d : Disk) : List (String × Bytes) :=
  (d.names.toList.filter fun (key, _) => !key.toList.contains '/').map fun (key, n) =>
    (key, d.bytes n)

end Disk

end Awk.Host
