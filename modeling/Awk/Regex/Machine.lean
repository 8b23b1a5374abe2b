import Awk.Regex.Class

/-! The machine that runs a pattern over text. All ways to match are followed at once, one character
at a time, in order of preference; a way that reaches a place where a preferred one has been is
dropped, so that the work is bounded by the length of the text times the size of the code. -/

namespace Awk.Regex

open Unicode (CharSet)

/-- An instruction. Control goes on to the next one unless another place is given. -/
inductive Instruction where
  | set (members : CharSet)
  | look (test : Look)
  | jump (target : Nat)
  /-- Goes to both places, of which the first is preferred. -/
  | split (preferred other : Nat)
  | accept
  deriving Repr, Inhabited

/-- The instructions of a pattern. -/
abbrev Code := Array Instruction

namespace Pattern

/-- How many instructions a pattern takes. -/
def codeSize : Pattern → Nat
  | empty => 0
  | set _ => 1
  | look _ => 1
  | concat p q => p.codeSize + q.codeSize
  | alternate p q => p.codeSize + q.codeSize + 2
  | repeated 0 none _ p => p.codeSize + 2
  | repeated (n + 1) none _ p => (n + 1) * p.codeSize + 1
  | repeated least (some most) _ p => least * p.codeSize + (most - least) * (p.codeSize + 1)
  | group _ p => p.codeSize

/-- A choice between going on and leaving. -/
def choose (greedy : Bool) (stay leave : Nat) : Instruction :=
  if greedy then .split stay leave else .split leave stay

/-- Appends the instructions of a pattern. Any number of rounds is at least one round, or none; the
jump past the right side of an alternation is set when that side stands. -/
def emit : Pattern → Code → Code
  | empty, code => code
  | set s, code => code.push (.set s)
  | look l, code => code.push (.look l)
  | concat p q, code => q.emit (p.emit code)
  | alternate p q, code =>
    let code := p.emit (code.push (.split (code.size + 1) (code.size + p.codeSize + 2)))
    let leave := code.size
    let code := q.emit (code.push (.jump leave))
    code.setIfInBounds leave (.jump code.size)
  | repeated 0 none greedy p, code =>
    let stay := code.size + 1
    let leave := stay + p.codeSize + 1
    (p.emit (code.push (choose greedy stay leave))).push (choose greedy stay leave)
  | repeated (n + 1) none greedy p, code =>
    let code := Nat.repeat p.emit n code
    let stay := code.size
    (p.emit code).push (choose greedy stay (stay + p.codeSize + 1))
  | repeated least (some most) greedy p, code =>
    let code := Nat.repeat p.emit least code
    let leave := code.size + (most - least) * (p.codeSize + 1)
    Nat.repeat (fun code : Code => p.emit (code.push (choose greedy (code.size + 1) leave)))
      (most - least) code
  | group _ p, code => p.emit code

/-- The code of a pattern. -/
def compile (p : Pattern) : Code := (p.emit #[]).push .accept

end Pattern

/-- A way to match: the instruction that it waits at, and where the match starts. -/
structure Thread where
  place : Nat
  start : Nat
  deriving Repr, DecidableEq

/-- The threads met at one place of the text: the instructions where a thread has been, the threads
that wait for a character, least preferred first, and where a match starts that ends here. -/
structure Front where
  seen : Array Bool
  waiting : List Thread
  matched : Option Nat
  deriving Repr

namespace Front

/-- Follows a thread to all the instructions that it reaches without a character: those in `todo`,
most preferred first. A match ends it, as what is left is less preferred. -/
def follow (code : Code) (before after : Option Char) (start : Nat) :
    Nat → List Nat → Front → Front
  | 0, _, front => front
  | _, [], front => front
  | n + 1, i :: todo, front =>
    if front.seen.getD i true then follow code before after start n todo front
    else
      let front := { front with seen := front.seen.set! i true }
      match code[i]? with
      | none => follow code before after start n todo front
      | some .accept => { front with matched := some start }
      | some (.jump j) => follow code before after start n (j :: todo) front
      | some (.split j k) => follow code before after start n (j :: k :: todo) front
      | some (.look l) =>
        let todo := if l.holds before after then (i + 1) :: todo else todo
        follow code before after start n todo front
      | some (.set _) =>
        follow code before after start n todo
          { front with waiting := ⟨i, start⟩ :: front.waiting }

/-- Follows one thread, unless a preferred one has matched. -/
def enter (code : Code) (before after : Option Char) (front : Front) (t : Thread) : Front :=
  if front.matched.isSome then front
  else follow code before after t.start (2 * code.size + 2) [t.place] front

/-- Follows threads, most preferred first. -/
def ofThreads (code : Code) (before after : Option Char) (threads : List Thread) : Front :=
  threads.foldl (enter code before after) ⟨.replicate code.size false, [], none⟩

/-- The threads that take a character, most preferred first. -/
def advance (code : Code) (c : Char) (front : Front) : List Thread :=
  front.waiting.foldl (fun threads t =>
    match code[t.place]? with
    | some (Instruction.set s) =>
      if s.contains c then ⟨t.place + 1, t.start⟩ :: threads else threads
    | _ => threads) []

end Front

/-- A stretch of text, by the numbers of the characters before its ends. -/
structure Match where
  start : Nat
  stop : Nat
  deriving Repr, DecidableEq

/-- The threads at a place of the text. While nothing has matched, one more may start here. -/
def arrive (code : Code) (before after : Option Char) (place : Nat) (threads : List Thread)
    (found : Option Match) : Front :=
  Front.ofThreads code before after
    (if found.isNone then threads ++ [⟨0, place⟩] else threads)

/-- The match that a front makes, or the one found before. -/
def Front.match? (front : Front) (place : Nat) (found : Option Match) : Option Match :=
  (front.matched.map fun start => ⟨start, place⟩) <|> found

/-- Runs threads over the text that follows, of which `place` characters have gone before and
`before` is the last. -/
def search (code : Code) (before : Option Char) (place : Nat) (threads : List Thread)
    (found : Option Match) : List Char → Option Match
  | [] => (arrive code before none place threads found).match? place found
  | c :: r =>
    let front := arrive code before (some c) place threads found
    let found := front.match? place found
    let threads := front.advance code c
    if threads.isEmpty && found.isSome then found
    else search code (some c) (place + 1) threads found r

end Awk.Regex
