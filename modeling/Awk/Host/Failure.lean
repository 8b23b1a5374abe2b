/-! Why the system refuses to open, read or write something. -/

namespace Awk.Host

/-- The cause that the system gives. -/
inductive Cause where
  | notFound
  | notADirectory
  | isADirectory
  | noSpace
  | nameTooLong
  | nulInName
  | nulInCommand
  | notUtf8
  | brokenPipe
  /-- Any other, by its text. -/
  | other (text : String)
  deriving Repr, DecidableEq

namespace Cause

/-- The text of a cause that has a number in the system. -/
def numbered (text : String) (number : Nat) : String := text ++ s!" (os error {number})"

def message : Cause → String
  | notFound => numbered "No such file or directory" 2
  | notADirectory => numbered "Not a directory" 20
  | isADirectory => numbered "Is a directory" 21
  | noSpace => numbered "No space left on device" 28
  | nameTooLong => numbered "File name too long" 36
  | nulInName => "file name contained an unexpected NUL byte"
  | nulInCommand => "nul byte found in provided data"
  | notUtf8 => "stream did not contain valid UTF-8"
  | brokenPipe => numbered "Broken pipe" 32
  | other text => text

end Cause

/-- What was being done. -/
inductive Action where
  | open_
  | spawn
  | write
  | read
  deriving Repr, DecidableEq

/-- An operation on a stream that failed. -/
structure Failure where
  action : Action
  name : String
  cause : Cause
  deriving Repr, DecidableEq

namespace Failure

def message (f : Failure) : String :=
  let start := match f.action with
    | .open_ => "can't open"
    | .spawn => "can't run"
    | .write => "error writing"
    | .read => "error reading"
  start ++ " \x60" ++ f.name ++ "\x60: " ++ f.cause.message

end Failure

end Awk.Host
