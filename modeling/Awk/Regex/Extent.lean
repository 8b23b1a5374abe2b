import Awk.Regex.Pattern
import Awk.Unicode.ByteRange
import Std.Data.HashMap

/-! How much room an automaton over encoded text would take that a pattern is turned into. A pattern
is accepted if the automata for both directions of reading fit.

States are numbered as they are made. States of a set that would be the same are made once, as far
as a memory of fixed size still holds the first of them: a later state takes the place of another
with the same hash, so that the room depends on the numbers. -/

namespace Awk.Regex

open Unicode (CharSet ByteRange)

/-- The direction that an automaton reads in. -/
inductive Direction where
  | forward
  | backward
  deriving Repr, DecidableEq

/-- How many states an automaton has so far, and how many bytes they take. -/
structure Extent where
  states : Nat := 0
  bytes : Nat := 0
  deriving Repr, DecidableEq

namespace Extent

/-- What a state takes, without the edges that it keeps in a list. -/
def stateBytes : Nat := 32

/-- What an edge takes that carries a range of bytes. -/
def edgeBytes : Nat := 8

/-- What an edge takes that carries nothing. -/
def branchBytes : Nat := 4

/-- The most that an automaton may take. -/
def maxBytes : Nat := 10485760

/-- One state more, with lists of edges that take `extra`. -/
def push (e : Extent) (extra : Nat) : Extent := ⟨e.states + 1, e.bytes + stateBytes + extra⟩

def fits (e : Extent) : Bool := e.bytes ≤ maxBytes

end Extent

/-- The steps of making an automaton: states that always take the same room, sets of characters
past ASCII by their encoded forms, and several steps in turn. -/
inductive Plan where
  | fixed (extent : Extent)
  | encoded (rows : List (List ByteRange))
  | both (first second : Plan)
  | times (n : Nat) (body : Plan)
  deriving Repr

namespace Plan

def nothing : Plan := fixed {}

/-- A state with lists of edges that take `extra`. -/
def state (extra : Nat) : Plan := fixed (Extent.push {} extra)

/-- Several states without lists of edges. -/
def plain (n : Nat) : Plan := fixed ⟨n, n * Extent.stateBytes⟩

/-- A state that two branches leave. -/
def fork : Plan := state (2 * Extent.branchBytes)

/-- One plan after another. -/
def append : Plan → Plan → Plan
  | fixed a, fixed b => fixed ⟨a.states + b.states, a.bytes + b.bytes⟩
  | p, q => both p q

instance : Append Plan := ⟨append⟩

/-- A plan carried out several times. -/
def copies (n : Nat) : Plan → Plan
  | fixed a => fixed ⟨n * a.states, n * a.bytes⟩
  | p => times n p

/-- The plan of the `nth` branch of an alternation, from 0: each branch takes an edge of the state
that they leave, which is made after the second together with the one where they meet. -/
def branch (nth : Nat) (p : Plan) : Plan :=
  let p := p ++ fixed ⟨0, Extent.branchBytes⟩
  if nth = 1 then p ++ plain 2 else p

end Plan

/-- The texts that leave a state of a tree of texts, in lists of those between two texts that end at
the state. The last list is that after the last end. An end makes a new list unless no text has left
the state since an earlier end. -/
def splitAtEnds (texts : List (List UInt8)) : List (List (List UInt8)) :=
  let (done, current, _) := texts.foldl
    (fun (done, current, left) t =>
      if !t.isEmpty then (done, t :: current, true)
      else if !left && !done.isEmpty then (done, current, left)
      else (current.reverse :: done, [], left))
    (([], [], false) : List (List (List UInt8)) × List (List UInt8) × Bool)
  (current.reverse :: done).reverse

/-- The plan of a tree of texts that share their starts, down to a depth. Each list of texts takes a
state, with an edge for each first byte, and another state branches to these. -/
def treePlan : Nat → List (List UInt8) → Plan
  | 0, _ => .nothing
  | depth + 1, texts =>
    let lists := splitAtEnds texts
    let plans := lists.map fun list =>
      let firsts := (list.filterMap List.head?).eraseDups
      let below := firsts.map fun b =>
        let rest := list.filterMap fun t => if t.head? = some b then t.tail? else none
        if rest.all List.isEmpty then .nothing else treePlan depth rest
      let own := match firsts.length with
        | 0 => Plan.nothing
        | 1 => Plan.state 0
        | n => Plan.state (n * Extent.edgeBytes)
      below.foldl (· ++ ·) own
    let edges := (lists.filter (!·.isEmpty)).length + (lists.length - 1)
    plans.foldl (· ++ ·) (.state (edges * Extent.branchBytes))

/-- The plan of an alternation of texts. -/
def textsPlan (d : Direction) (texts : List (List UInt8)) : Plan :=
  let texts := match d with
    | .forward => texts
    | .backward => texts.map List.reverse
  .state 0 ++ treePlan (texts.foldl (fun n t => max n t.length) 0) texts

namespace Pattern

/-- The plan of a set: a state for each byte of a single character, and a state with an edge for
each range of ASCII characters. -/
def setPlan (s : CharSet) : Plan :=
  let rows := s.byteRows
  if (set s).isLiteral then .plain rows.flatten.length
  else if rows.all (·.length = 1) then .state 0 ++ .state (rows.length * Extent.edgeBytes)
  else .encoded rows

/-- The encoded text of a pattern that is one, as far as it goes. -/
def textBytes (p : Pattern) : List UInt8 :=
  p.parts.flatMap fun
    | set ⟨(lo, _) :: _⟩ => String.utf8EncodeChar (Char.ofNat lo)
    | _ => []

/-- Whether a pattern matches one text only, which is not empty. -/
def isText (p : Pattern) : Bool := !p.parts.isEmpty && p.parts.all isLiteral

/-- The plan of a pattern that is the `nth` branch of an alternation with all after it, or, where
`nth` is 0, stands by itself. -/
def plan (d : Direction) (nth : Nat) : Pattern → Plan
  | empty => close (.state 0)
  | set s => close (setPlan s)
  | look _ => close (.state 0)
  | concat p q =>
    let first := p.plan d 0
    let second := q.plan d 0
    close (match d with
      | .forward => first ++ second
      | .backward => second ++ first)
  | alternate p q =>
    if nth = 0 && p.isText && q.branches.all isText then
      textsPlan d ((p :: q.branches).map textBytes)
    else .branch nth (p.plan d 0) ++ q.plan d (nth + 1)
  | repeated least most _ p =>
    let body := p.plan d 0
    close (match least, most with
      | 0, some 1 => .fork ++ body ++ .state 0
      | 0, none =>
        if (p.leastLength.getD 0) = 0 then body ++ .fork ++ .fork ++ .state 0 else .fork ++ body
      | n, none => .copies n body ++ .fork
      | n, some m =>
        let first := if n = 0 then .state 0 else .copies n body
        if n = m then first else first ++ .state 0 ++ .copies (m - n) (.fork ++ body))
  | group _ p =>
    let body := p.plan d 0
    close (match d with
      | .forward => .state 0 ++ body ++ .state 0
      | .backward => body)
where
  close (p : Plan) : Plan := if nth = 0 then p else .branch nth p

/-- The plan of the whole automaton for a pattern: what skips the text before a match, the pattern,
which is a group when it is read forward, and the end of a match. -/
def wholePlan (d : Direction) (p : Pattern) : Plan :=
  let fixed := match d with
    | .forward => p.leads .textStart
    | .backward => p.trails .textEnd
  let skip := if fixed then .state 0 else .fork ++ setPlan ⟨[(0, 127)]⟩
  skip ++ (group 0 p).plan d 0 ++ .state 0

end Pattern

/-- An edge of a state: the bytes that it carries and the number of the state after it. -/
structure Edge where
  range : ByteRange
  next : Nat
  deriving Repr, DecidableEq

/-- A hash of numbers: each is taken in by an exclusive or and a product. -/
def hashNumbers (numbers : List Nat) : UInt64 :=
  numbers.foldl (fun h n => (h ^^^ n.toUInt64) * 1099511628211) 14695981039346656037

/-- Makes the states of one set for reading forward: what is made so far, and the states that are
remembered, by their hashes. -/
structure Sharing where
  extent : Extent
  known : Std.HashMap UInt64 (List Edge × Nat)

namespace Sharing

/-- How many states are remembered. -/
def slots : UInt64 := 10000

/-- The number of a state with given edges, and what is made after it. -/
def state (s : Sharing) (edges : List Edge) : Nat × Sharing :=
  let slot := hashNumbers (edges.flatMap fun e =>
    [e.range.first.toNat, e.range.last.toNat, e.next]) % slots
  let made := fun (_ : Unit) =>
    let id := s.extent.states
    (id, ⟨s.extent.push (edges.length * Extent.edgeBytes), s.known.insert slot (edges, id)⟩)
  match s.known[slot]? with
  | some (known, id) => if known = edges then (id, s) else made ()
  | none => made ()

end Sharing

/-- A state that may yet get edges: those that it has, and the range of the edge that is under
way. -/
structure OpenState where
  edges : List Edge
  last : ByteRange
  deriving Repr

/-- Makes the states along a path that is done, the last first, and gives the number of the first.
A path without states leads to `target`. -/
def closePath (target : Nat) : List OpenState → Sharing → Nat × Sharing
  | [], s => (target, s)
  | o :: path, s =>
    let (next, s) := closePath target path s
    s.state (o.edges ++ [⟨o.last, next⟩])

/-- Takes in the next row of a set: the states of the path after the ranges that both share are
made, and the state where they part gets another edge. -/
def addRow (target : Nat) : List OpenState → List ByteRange → Sharing → List OpenState × Sharing
  | o :: path, r :: row, s =>
    if o.last = r then
      let (path, s) := addRow target path row s
      (o :: path, s)
    else
      let (next, s) := closePath target path s
      (⟨o.edges ++ [⟨o.last, next⟩], r⟩ :: row.map (⟨[], ·⟩), s)
  | _, row, s => (row.map (⟨[], ·⟩), s)

/-- The extent after the states of a set for reading forward. Rows that start alike share the states
of their start, and the states that follow are shared as far as they are remembered. -/
def Extent.pushForward (e : Extent) (rows : List (List ByteRange)) : Extent :=
  let target := e.states
  let (path, s) := rows.foldl (fun (path, s) row => addRow target path row s)
    (([], ⟨e.push 0, {}⟩) : List OpenState × Sharing)
  (closePath target path s).2.extent

/-- How many states are remembered for reading backward. -/
def backwardSlots : UInt64 := 1000

/-- The extent after the states of a set for reading backward: rows that start alike share the
states of their start, which are the last to be read, as far as they are remembered. -/
def Extent.pushBackward (e : Extent) (rows : List (List ByteRange)) : Extent :=
  let meet := e.states + 1
  let start := (e.push (rows.length * branchBytes)).push 0
  (rows.foldl
    (fun (s : Sharing) row =>
      (row.foldl
        (fun ((last, s) : Nat × Sharing) r =>
          let slot := hashNumbers [last, r.first.toNat, r.last.toNat] % backwardSlots
          let edges := [⟨r, last⟩]
          match s.known[slot]? with
          | some (known, id) => if known = edges then (id, s) else made s slot edges
          | none => made s slot edges)
        (meet, s)).2)
    ⟨start, {}⟩).extent
where
  made (s : Sharing) (slot : UInt64) (edges : List Edge) : Nat × Sharing :=
    (s.extent.states, ⟨s.extent.push 0, s.known.insert slot (edges, s.extent.states)⟩)

namespace Plan

/-- Repeats a step while the automaton fits. -/
def whileFits (step : Extent → Extent) : Nat → Extent → Extent
  | 0, e => e
  | n + 1, e => if e.fits then whileFits step n (step e) else e

/-- The extent after a plan is carried out, or one that is too large already. -/
def run (d : Direction) : Plan → Extent → Extent
  | fixed a, e => ⟨e.states + a.states, e.bytes + a.bytes⟩
  | encoded rows, e =>
    match d with
    | .forward => e.pushForward rows
    | .backward => e.pushBackward rows
  | both p q, e => q.run d (p.run d e)
  | times n p, e => whileFits (p.run d) n e

end Plan

namespace Pattern

/-- Whether the automaton of a pattern for a direction fits. -/
def fitsIn (d : Direction) (p : Pattern) : Bool := ((p.wholePlan d).run d {}).fits

/-- Whether the automata of a pattern fit. -/
def fits (p : Pattern) : Bool := p.fitsIn .forward && p.fitsIn .backward

end Pattern

end Awk.Regex
