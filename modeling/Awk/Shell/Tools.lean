import Awk.Host.Disk
import Awk.Printf
import Awk.Shell.Sort

/-! The tools that command lines can run: what they read, write and answer. -/

namespace Awk.Shell

open Host (Disk Cause)
open Records (Bytes bytesOf textOf newline)

/-- What a tool leaves: its status, what it wrote, the files and the input that it did not take. -/
structure Outcome where
  status : Nat
  output : Bytes
  errors : String
  disk : Disk
  input : Bytes

namespace Outcome

/-- A tool that writes and takes no input. -/
def wrote (disk : Disk) (input : Bytes) (output : Bytes) : Outcome := ⟨0, output, "", disk, input⟩

/-- A tool that only answers. -/
def answered (disk : Disk) (input : Bytes) (status : Nat) : Outcome := ⟨status, [], "", disk, input⟩

/-- A tool that complains. -/
def failed (disk : Disk) (input : Bytes) (status : Nat) (errors : String) : Outcome :=
  ⟨status, [], errors, disk, input⟩

end Outcome

/-- The text of a cause without its number. -/
def plain : Cause → String
  | .notFound => "No such file or directory"
  | .notADirectory => "Not a directory"
  | .isADirectory => "Is a directory"
  | .noSpace => "No space left on device"
  | .nameTooLong => "File name too long"
  | c => c.message

/-- The lines of bytes, without their ends. -/
def lines (s : Bytes) : List Bytes :=
  if s.isEmpty then [] else
    (Records.chomp s).foldr (fun b ls =>
      if b = newline then [] :: ls
      else match ls with
        | [] => [[b]]
        | l :: ls => (b :: l) :: ls) [[]]

def unlines (ls : List Bytes) : Bytes := ls.flatMap fun l => l ++ [newline]

/-- The value of octal digits, up to three. -/
def octal (digits : List Char) : Nat := digits.foldl (fun n d => 8 * n + (d.toNat - '0'.toNat)) 0

def isOctal (c : Char) : Bool := '0' ≤ c && c ≤ '7'

/-- Text with its escapes replaced. An octal code follows the backslash, or a zero after it. -/
def unescape (zero : Bool) : Nat → List Char → List Char
  | 0, s => s
  | _, [] => []
  | n + 1, '\\' :: c :: r =>
    match c with
    | 'a' => '\x07' :: unescape zero n r
    | 'b' => '\x08' :: unescape zero n r
    | 'f' => '\x0c' :: unescape zero n r
    | 'n' => '\n' :: unescape zero n r
    | 'r' => '\r' :: unescape zero n r
    | 't' => '\t' :: unescape zero n r
    | 'v' => '\x0b' :: unescape zero n r
    | '\\' => '\\' :: unescape zero n r
    | _ =>
      let digits := if zero then (if c = '0' then (r.take 3).takeWhile isOctal else [])
        else ((c :: r).take 3).takeWhile isOctal
      if zero && c = '0' then
        Char.ofNat (octal digits % 256) :: unescape zero n (r.drop digits.length)
      else if !zero && !digits.isEmpty then
        Char.ofNat (octal digits % 256) :: unescape zero n ((c :: r).drop digits.length)
      else '\\' :: c :: unescape zero n r
  | n + 1, c :: r => c :: unescape zero n r

def unescaped (zero : Bool) (text : String) : String :=
  .ofList (unescape zero (text.length + 1) text.toList)

/-- What a tool says about a file that it cannot read. -/
def complaint (tool : String) (name : String) (cause : Cause) : String :=
  let text := match tool with
    | "sort" => "cannot read: " ++ name
    | "head" | "tail" => "cannot open '" ++ name ++ "' for reading"
    | "tac" => "failed to open '" ++ name ++ "' for reading"
    | "rev" => "cannot open " ++ name
    | _ => name
  tool ++ ": " ++ text ++ ": " ++ plain cause ++ "\n"

/-- The bytes of operands in turn, `-` being the input, and the complaints about those that cannot
be read. -/
def gather (tool : String) (disk : Disk) (input : Bytes) : List String → Bytes × List String
  | [] => ([], [])
  | name :: names =>
    let (rest, errors) := gather tool disk (if name = "-" then [] else input) names
    if name = "-" then (input ++ rest, errors)
    else match disk.read name with
      | .ok s => (s ++ rest, errors)
      | .error cause => (rest, complaint tool name cause :: errors)

/-- A tool that turns the bytes of its operands, or its input where there are none, into others. -/
def filter (tool : String) (disk : Disk) (input : Bytes) (operands : List String)
    (f : Bytes → Bytes) : Outcome :=
  let (s, errors) := gather tool disk input (if operands.isEmpty then ["-"] else operands)
  let taken := operands.isEmpty || operands.contains "-"
  ⟨if errors.isEmpty then 0 else 1, f s, String.join errors, disk, if taken then [] else input⟩

/-- Sorts the lines of its operands, all of which must be there. -/
def sortFiles (disk : Disk) (input : Bytes) (arguments : List String) : Outcome :=
  let o := SortOptions.ofArguments arguments
  let result := filter "sort" disk input o.operands fun s => unlines (o.sort (lines s))
  if result.status = 0 then result
  else
    let (_, errors) := gather "sort" disk input o.operands
    .failed disk input 2 (errors.headD "")

/-- The options at the front, by letters, and the operands. -/
def options (arguments : List String) : List Char × List String :=
  let isOption := fun a : String => a.startsWith "-" && a ≠ "-"
  ((arguments.filter isOption).flatMap (·.toList.drop 1), arguments.filter (!isOption ·))

/-- Lines without those that repeat the one before, each with its count if that is wanted; of them
only those that are repeated, or only those that are not. -/
def uniqueLines (letters : List Char) (ls : List Bytes) : List Bytes :=
  let groups := ls.foldr (fun l (gs : List (Bytes × Nat)) =>
    match gs with
    | (m, n) :: gs => if l = m then (m, n + 1) :: gs else (l, 1) :: (m, n) :: gs
    | [] => [(l, 1)]) []
  let wanted := groups.filter fun (_, n) =>
    (n > 1 || !letters.contains 'd') && (n = 1 || !letters.contains 'u')
  wanted.map fun (l, n) =>
    if letters.contains 'c' then bytesOf (Printf.format "%7d " [.ofNat n]) ++ l else l

/-- The characters that a set of `tr` lists, with ranges. -/
def characters : List Char → List Char
  | a :: '-' :: b :: r =>
    if a ≤ b then (List.range (b.toNat - a.toNat + 1)).map (fun i => Char.ofNat (a.toNat + i)) ++
      characters r
    else characters r
  | c :: r => c :: characters r
  | [] => []

def namedCharacters (set : String) : List Char :=
  match set with
  | "[:lower:]" => characters "a-z".toList
  | "[:upper:]" => characters "A-Z".toList
  | "[:digit:]" => characters "0-9".toList
  | "[:space:]" => " \t\n\x0b\x0c\r".toList
  | _ => characters (unescaped false set).toList

/-- Replaces or deletes characters. -/
def transliterate (delete : Bool) (first second : String) (s : Bytes) : Bytes :=
  let set := namedCharacters first
  let images := namedCharacters second
  bytesOf (.ofList ((textOf s).toList.filterMap fun c =>
    match set.findIdx? (· = c) with
    | none => some c
    | some i => if delete then none else (images[i]? <|> images.getLast?) <|> some c))

/-- The counts that are asked for of lines, words and bytes; all if none is. -/
def counts (letters : List Char) (s : Bytes) : List Nat :=
  let isBlank := fun b : UInt8 => b = 32 || (9 ≤ b && b ≤ 13)
  let words := (s.foldl (fun (n, inside) b =>
    if isBlank b then (n, false) else (if inside then n else n + 1, true)) (0, false)).1
  let all := [('l', s.count newline), ('w', words), ('c', s.length)]
  (if letters.isEmpty then all else all.filter fun (c, _) => letters.contains c).map (·.2)

/-- Counts in columns of a width, with a name. -/
def countRow (width : Nat) (ns : List Nat) (name : String) : String :=
  " ".intercalate (ns.map fun n => Printf.format "%*d" [.ofNat width, .ofNat n]) ++
    (if name.isEmpty then "" else " " ++ name) ++ "\n"

/-- Counts what is in the operands, with the totals of several. The columns are as wide as the count
of all bytes, and at least seven wide for an input of unknown size. -/
def countFiles (disk : Disk) (input : Bytes) (letters : List Char) (operands : List String) :
    Outcome :=
  let names := if operands.isEmpty then [""] else operands
  let texts := names.map fun name =>
    (name, if name.isEmpty || name = "-" then .ok input else disk.read name)
  let rows := texts.filterMap fun
    | (name, .ok s) => some (name, s)
    | (_, .error _) => none
  let errors := texts.filterMap fun
    | (name, .error cause) => some (complaint "wc" name cause)
    | (_, .ok _) => none
  let total := (rows.map (·.2)).flatten
  let unknown := names.any fun name => name.isEmpty || name = "-"
  let width := if names.length = 1 && (counts letters []).length = 1 then 1
    else max (toString total.length).length (if unknown then 7 else 1)
  let sums := if names.length > 1 then
      let columns := rows.map fun (_, s) => counts letters s
      let zero := (counts letters []).map fun _ => 0
      countRow width (columns.foldl (List.zipWith (· + ·)) zero) "total"
    else ""
  let text := String.join (rows.map fun (name, s) => countRow width (counts letters s) name) ++ sums
  ⟨if errors.isEmpty then 0 else 1, bytesOf text, String.join errors, disk,
    if unknown then [] else input⟩

/-- The numbers from `first` by `step` up to `last`. -/
def numbers (first step last : Int) : List Int :=
  let n := if step > 0 then (last - first) / step + 1
    else if step < 0 then (first - last) / -step + 1
    else 0
  (List.range n.toNat).map fun (i : Nat) => first + step * i

/-- A count after an option such as `-n 3` or `-3`, and the operands. -/
def countOption : List String → Nat × List String
  | "-n" :: n :: r => ((Value.ofString n).toInteger.toNat, r)
  | a :: r =>
    if a.startsWith "-n" then
      ((Value.ofString (String.ofList (a.toList.drop 2))).toInteger.toNat, r)
    else if a.startsWith "-" && a ≠ "-" then
      ((Value.ofString (String.ofList (a.toList.drop 1))).toInteger.toNat, r)
    else (10, a :: r)
  | [] => (10, [])

/-- Whether the condition of `test` holds. -/
def condition (disk : Disk) : List String → Bool
  | ["!", a] => a.isEmpty
  | "!" :: r => !condition disk r
  | [a] => !a.isEmpty
  | ["-n", a] => !a.isEmpty
  | ["-z", a] => a.isEmpty
  | ["-d", a] => match disk.openForReading a with
    | .ok .directory => true
    | _ => false
  | ["-f", a] => match disk.openForReading a with
    | .ok (.file _) => true
    | _ => false
  | ["-s", a] => match disk.read a with
    | .ok s => !s.isEmpty
    | .error _ => false
  | ["-e", a] | ["-r", a] | ["-w", a] => (disk.openForReading a).isOk
  | [a, o, b] =>
    let order := compare (Value.ofString a).toInteger (Value.ofString b).toInteger
    match o with
    | "=" => a = b
    | "!=" => a ≠ b
    | "-eq" => order = .eq
    | "-ne" => order ≠ .eq
    | "-lt" => order = .lt
    | "-le" => order ≠ .gt
    | "-gt" => order = .gt
    | "-ge" => order ≠ .lt
    | _ => false
  | _ => false

/-- Takes names away from files. -/
def removeFiles (disk : Disk) (input : Bytes) (force : Bool) (names : List String) : Outcome :=
  names.foldl (fun o name =>
    match o.disk.openForReading name with
    | .ok (.file _) => { o with disk := o.disk.remove (Host.Path.ofString name).key }
    | .ok _ => { o with
        status := 1, errors := o.errors ++ "rm: cannot remove '" ++ name ++ "': Is a directory\n" }
    | .error cause =>
      if force then o
      else { o with
        status := 1
        errors := o.errors ++ "rm: cannot remove '" ++ name ++ "': " ++ plain cause ++ "\n" })
    (.answered disk input 0)

/-- Makes files where there are none. -/
def touchFiles (disk : Disk) (input : Bytes) (names : List String) : Outcome :=
  names.foldl (fun o name =>
    match o.disk.openForWriting name true with
    | .ok (_, disk) => { o with disk }
    | .error cause => { o with
        status := 1
        errors := o.errors ++ "touch: cannot touch '" ++ name ++ "': " ++ plain cause ++ "\n" })
    (.answered disk input 0)

/-- Copies a file to another name. -/
def copyFile (tool : String) (disk : Disk) (input : Bytes) (source target : String) : Outcome :=
  match disk.read source with
  | .error cause =>
    .failed disk input 1 (tool ++ ": cannot stat '" ++ source ++ "': " ++ plain cause ++ "\n")
  | .ok s => match disk.openForWriting target false with
    | .ok (.file n, disk) => .answered (disk.write n none s) input 0
    | .ok (_, disk) => .answered disk input 0
    | .error cause =>
      .failed disk input 1
        (tool ++ ": cannot create regular file '" ++ target ++ "': " ++ plain cause ++ "\n")

/-- Formats the arguments, again and again while there are more than the format takes. -/
def formatAll (format : String) : Nat → List String → String
  | 0, _ => ""
  | n + 1, arguments =>
    let used := (Printf.pieces format.toList).countP fun
      | .conversion _ c => c ≠ '%'
      | _ => false
    let text := Printf.format format (arguments.map .ofString)
    if used = 0 || arguments.length ≤ used then text
    else text ++ formatAll format n (arguments.drop used)

/-- Runs a tool by its name; none of that name is none. -/
def tool? (name : String) (arguments : List String) (disk : Disk) (input : Bytes) :
    Option Outcome :=
  let (letters, operands) := options arguments
  match name with
  | ":" | "true" | "sleep" | "sync" => some (.answered disk input 0)
  | "false" => some (.answered disk input 1)
  | "echo" =>
    let (words, stop) := match arguments with
      | "-n" :: r => (r, "")
      | r => (r, "\n")
    some (.wrote disk input (bytesOf (unescaped true (" ".intercalate words) ++ stop)))
  | "printf" =>
    match arguments with
    | [] => some (.failed disk input 2 "sh: 1: printf: usage: printf format [arg ...]\n")
    | "--" :: format :: r | format :: r =>
      let format := unescaped false format
      some (.wrote disk input (bytesOf (formatAll format (r.length + 1) r)))
  | "cat" => some (filter "cat" disk input operands id)
  | "sort" => some (sortFiles disk input arguments)
  | "uniq" => some (filter "uniq" disk input operands fun s =>
      unlines (uniqueLines letters (lines s)))
  | "rev" => some (filter "rev" disk input operands fun s =>
      unlines ((lines s).map fun l => bytesOf (.ofList (textOf l).toList.reverse)))
  | "tac" => some (filter "tac" disk input operands fun s => unlines (lines s).reverse)
  | "head" =>
    let (n, operands) := countOption arguments
    some (filter "head" disk input operands fun s =>
      if (lines s).length ≤ n then s else unlines ((lines s).take n))
  | "tail" =>
    let (n, operands) := countOption arguments
    some (filter "tail" disk input operands fun s =>
      if (lines s).length ≤ n then s
      else ((lines s).take ((lines s).length - n)).foldl (fun s l => s.drop (l.length + 1)) s)
  | "wc" => some (countFiles disk input letters operands)
  | "tr" => some (filter "tr" disk input []
      (transliterate (letters.contains 'd') (operands.getD 0 "") (operands.getD 1 "")))
  | "seq" =>
    let ns := match arguments.map fun a => (Value.ofString a).toInteger with
      | [last] => numbers 1 1 last
      | [first, last] => numbers first 1 last
      | [first, step, last] => numbers first step last
      | _ => []
    some (.wrote disk input (unlines (ns.map fun n => bytesOf (Int.text n))))
  | "test" => some (.answered disk input (if condition disk arguments then 0 else 1))
  | "[" =>
    if arguments.getLast? = some "]" then
      some (.answered disk input (if condition disk arguments.dropLast then 0 else 1))
    else some (.failed disk input 2 "sh: 1: [: missing ]\n")
  | "rm" => some (removeFiles disk input (letters.contains 'f') operands)
  | "touch" => some (touchFiles disk input operands)
  | "cp" => some (copyFile "cp" disk input (operands.getD 0 "") (operands.getD 1 ""))
  | "mv" =>
    let o := copyFile "mv" disk input (operands.getD 0 "") (operands.getD 1 "")
    some (if o.status = 0 then
      { o with disk := o.disk.remove (Host.Path.ofString (operands.getD 0 "")).key } else o)
  | "tee" =>
    let disk := operands.foldl (fun disk name =>
      match disk.openForWriting name (letters.contains 'a') with
      | .ok (.file n, disk) => disk.write n none input
      | _ => disk) disk
    some (.wrote disk [] input)
  | "ls" => some (.wrote disk input (unlines (disk.files.map fun (n, _) => bytesOf n)))
  | _ => none

end Awk.Shell
