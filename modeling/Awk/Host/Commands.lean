import Awk.Host.Console
import Awk.Host.Disk

/-! Commands. The program starts them by their text and goes on beside them; whatever runs them is
not part of it. So what they do is a parameter: it is asked whenever the program turns to a command
and whenever the program is done with something, and then answers and may change what the program
and the commands have in common. -/

namespace Awk.Host

open Records (Bytes)

/-- What the program and the commands have in common: the files, standard input as far as nobody has
taken it, and the console; the commands that have ended, by number, with their statuses; and the
names that were looked for and lead nowhere, which standard input joins at its end. -/
structure World where
  disk : Disk
  input : Bytes
  console : Console
  ended : List (Nat × Int)
  sought : List String

/-- A command that the program has started to read from it or to write to it, and what it has been
given to read. -/
structure Child where
  command : String
  given : Bytes
  deriving Repr, DecidableEq

/-- What commands are asked. Those that the program has started are numbered in turn. -/
inductive Call where
  /-- The program is done with something, and the commands go on. -/
  | pause
  /-- A command is started that will be given what it reads. -/
  | feed (command : String)
  /-- A command is started that is read from. -/
  | listen (command : String)
  /-- A command is started, and the program waits for its end. -/
  | run (command : String)
  /-- A command is given bytes to read. -/
  | send (child : Nat) (s : Bytes)
  /-- The program lets go of a command's input or output. -/
  | hangUp (child : Nat)
  /-- The program waits for a command's end. -/
  | wait (child : Nat)
  deriving Repr, DecidableEq

/-- What a call is answered. A command that is read from is answered with all that it is going to
print, in the blocks in which it will come; one that breaks off while it is given bytes, with how
many of them it has taken; one that ends, with its status. -/
@[reducible] def Call.Answer : Call → Type
  | .pause | .hangUp _ => Unit
  | .feed _ => Except Cause Unit
  | .listen _ => Except Cause (List Bytes)
  | .send _ _ => Except (Cause × Nat) Unit
  | .run _ | .wait _ => Except Cause Int

/-- The moment of a call: how many there have been before, the commands that have been started, and
the names of the files that the program has open for output. -/
structure Moment where
  count : Nat
  children : List Child
  writing : List String
  deriving Repr, DecidableEq

/-- What commands do: how each call is answered, and the world that it leaves. No two calls come at
the same moment, so whatever course commands take is that of some `Commands`. -/
structure Commands where
  answer : Moment → (c : Call) → World → c.Answer × World

end Awk.Host
