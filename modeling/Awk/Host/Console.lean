import Awk.Host.Buffer

/-! Standard output and standard error. -/

namespace Awk.Host

/-- Where standard output goes. -/
inductive ConsoleKind where
  /-- Kept for the caller; commands do not write there. -/
  | captured
  /-- Thrown away. -/
  | silent
  /-- Shared with commands, and so written line by line. -/
  | shared
  deriving Repr, DecidableEq

/-- Standard output, with the start of a line that is held back, and standard error. -/
structure Console where
  kind : ConsoleKind
  output : Buffer
  held : Buffer
  errors : Buffer
  deriving Repr, DecidableEq

namespace Console

def ofKind (kind : ConsoleKind) : Console := ⟨kind, .empty, .empty, .empty⟩

/-- A text up to its last newline, and the rest. -/
def splitLines (text : String) : String × String :=
  let reversed := text.toList.reverse
  let tail := reversed.takeWhile (· ≠ '\n')
  (.ofList (reversed.drop tail.length).reverse, .ofList tail.reverse)

/-- Sends on what is held back. -/
def flush (c : Console) : Console :=
  if c.held.isEmpty then c else { c with output := c.output.push c.held.text, held := .empty }

/-- How much of the start of a line can be held back. -/
def lineCapacity : Nat := 1024

/-- Holds back the start of a line. What does not fit beside what is held sends that on first, and
what does not fit at all is not held. -/
def hold (c : Console) (tail : String) : Console :=
  let size := tail.utf8ByteSize
  let c := if c.held.size + size > lineCapacity then c.flush else c
  if size ≥ lineCapacity then { c with output := c.output.push tail }
  else { c with held := c.held.push tail }

/-- Prints a text. -/
def print (c : Console) (text : String) : Console :=
  match c.kind with
  | .captured => { c with output := c.output.push text }
  | .silent => c
  | .shared =>
    let (lines, tail) := splitLines text
    if lines.isEmpty then c.hold tail
    else
      let c := c.flush
      { c with output := c.output.push lines }.hold tail

/-- Adds what a command printed. -/
def addOutput (c : Console) (text : String) : Console :=
  match c.kind with
  | .shared => { c with output := c.output.push text }
  | _ => c

def addErrors (c : Console) (text : String) : Console := { c with errors := c.errors.push text }

/-- Empties what is kept. -/
def clear (c : Console) : Console := { c with output := .empty }

/-! What is printed comes out in the order of the prints. -/

theorem splitLines_eq (text : String) :
    splitLines text =
      (.ofList (text.toList.reverse.dropWhile (· ≠ '\n')).reverse,
        .ofList (text.toList.reverse.takeWhile (· ≠ '\n')).reverse) := by
  have hdrop (s : List Char) : s.drop (s.takeWhile (· ≠ '\n')).length = s.dropWhile (· ≠ '\n') := by
    have hparts : s.takeWhile (· ≠ '\n') ++ s.dropWhile (· ≠ '\n') = s :=
      List.takeWhile_append_dropWhile
    calc s.drop (s.takeWhile (· ≠ '\n')).length
        = (s.takeWhile (· ≠ '\n') ++ s.dropWhile (· ≠ '\n')).drop
            (s.takeWhile (· ≠ '\n')).length := by rw [hparts]
      _ = s.dropWhile (· ≠ '\n') := List.drop_left
  rw [splitLines, hdrop]

theorem splitLines_append (text : String) :
    (splitLines text).1 ++ (splitLines text).2 = text := by
  apply String.toList_injective
  rw [splitLines_eq, String.toList_append, String.toList_ofList, String.toList_ofList,
    ← List.reverse_append, List.takeWhile_append_dropWhile, List.reverse_reverse]

theorem newline_notMem_tail (text : String) : '\n' ∉ (splitLines text).2.toList := by
  intro hmem
  rw [splitLines_eq, String.toList_ofList, List.mem_reverse] at hmem
  simpa using List.all_eq_true.mp List.all_takeWhile _ hmem

/-- What a console has been given: what it sent on, then what it holds back. -/
def given (c : Console) : String := c.output.text ++ c.held.text

/-- What every console keeps. Only a shared one holds anything back, the start of a line that fits. -/
structure Lined (c : Console) : Prop where
  size : c.held.size = c.held.text.utf8ByteSize
  fits : c.held.size ≤ lineCapacity
  line : '\n' ∉ c.held.text.toList
  shared : c.kind ≠ .shared → c.held.text = ""

theorem lined_of_held {c : Console} (h : c.held = .empty) : c.Lined where
  size := by rw [h]; rfl
  fits := by rw [h]; exact Nat.zero_le _
  line := by rw [h, Buffer.text_empty]; simp
  shared _ := by rw [h, Buffer.text_empty]

theorem lined_ofKind (kind : ConsoleKind) : (ofKind kind).Lined := lined_of_held rfl

theorem kind_flush (c : Console) : c.flush.kind = c.kind := by
  unfold flush
  split <;> rfl

theorem kind_hold (c : Console) (tail : String) : (c.hold tail).kind = c.kind := by
  simp only [hold]
  split <;> split <;> simp only [kind_flush]

theorem kind_print (c : Console) (text : String) : (c.print text).kind = c.kind := by
  unfold print
  split
  · rfl
  · rfl
  · simp only
    split
    · exact kind_hold c _
    · rw [kind_hold, kind_flush]

namespace Lined

variable {c : Console} {tail : String}

theorem flush (h : c.Lined) : c.flush.Lined ∧ c.flush.held.text = "" ∧ c.flush.given = c.given := by
  unfold Console.flush
  split
  · rename_i hempty
    have hsize : c.held.size = 0 := by simpa [Buffer.isEmpty] using hempty
    exact ⟨h, String.utf8ByteSize_eq_zero_iff.mp (h.size.symm.trans hsize), rfl⟩
  · refine ⟨lined_of_held rfl, rfl, ?_⟩
    rw [given, given, Buffer.text_push, Buffer.text_empty, String.append_empty]

theorem hold (h : c.Lined) (hkind : c.kind = .shared) (hline : '\n' ∉ tail.toList) :
    (c.hold tail).Lined ∧ (c.hold tail).given = c.given ++ tail := by
  -- The first step leaves a console that has room for the tail or holds nothing.
  obtain ⟨d, hd, hlined, hgiven, hshared, hroom⟩ : ∃ d : Console,
      (if c.held.size + tail.utf8ByteSize > lineCapacity then c.flush else c) = d ∧ d.Lined ∧
        d.given = c.given ∧ d.kind = .shared ∧
        (d.held.size + tail.utf8ByteSize ≤ lineCapacity ∨ d.held.text = "") := by
    refine ⟨_, rfl, ?_⟩
    split
    · exact ⟨h.flush.1, h.flush.2.2, (kind_flush c).trans hkind, .inr h.flush.2.1⟩
    · exact ⟨h, rfl, hkind, .inl (by omega)⟩
  have hnone : d.held.text = "" ↔ d.held.size = 0 := by
    rw [hlined.size, String.utf8ByteSize_eq_zero_iff]
  simp only [Console.hold, hd]
  split
  · have htext : d.held.text = "" := hroom.elim (fun hfits => hnone.mpr (by omega)) id
    refine ⟨⟨hlined.size, hlined.fits, hlined.line, hlined.shared⟩, ?_⟩
    rw [← hgiven, given, given, Buffer.text_push, htext, String.append_empty, String.append_empty]
  · have hsize : (d.held.push tail).size = d.held.size + tail.utf8ByteSize := rfl
    refine ⟨⟨?_, ?_, ?_, fun hother => absurd hshared hother⟩, ?_⟩
    · rw [hsize, Buffer.text_push, String.utf8ByteSize_append, hlined.size]
    · rw [hsize]
      rcases hroom with hfits | htext
      · exact hfits
      · have := hnone.mp htext
        omega
    · rw [Buffer.text_push, String.toList_append, List.mem_append]
      exact fun hmem => hmem.elim hlined.line hline
    · rw [← hgiven, given, given, Buffer.text_push, String.append_assoc]

theorem print (h : c.Lined) (hkind : c.kind ≠ .silent) (text : String) :
    (c.print text).Lined ∧ (c.print text).given = c.given ++ text := by
  unfold Console.print
  split
  case h_1 hcaptured =>
    have hheld : c.held.text = "" := h.shared (by rw [hcaptured]; decide)
    refine ⟨⟨h.size, h.fits, h.line, h.shared⟩, ?_⟩
    rw [given, given, Buffer.text_push, hheld, String.append_empty, String.append_empty]
  case h_2 hsilent => exact absurd hsilent hkind
  case h_3 hshared =>
    have htail := newline_notMem_tail text
    have hparts := splitLines_append text
    simp only
    split
    · rename_i hnone
      rw [String.isEmpty_iff.mp hnone, String.empty_append] at hparts
      rw [hparts] at htail ⊢
      exact h.hold hshared htail
    · -- The lines go out behind what was held, and the tail is the start of a new one.
      obtain ⟨hlined, hheld, hgiven⟩ := h.flush
      let d : Console := { c.flush with output := c.flush.output.push (splitLines text).1 }
      have hd : d.Lined := ⟨hlined.size, hlined.fits, hlined.line, hlined.shared⟩
      obtain ⟨hrest, htext⟩ := hd.hold ((kind_flush c).trans hshared) htail
      refine ⟨hrest, htext.trans ?_⟩
      have hlines : d.given = c.given ++ (splitLines text).1 := by
        rw [← hgiven, given, given, Buffer.text_push, hheld, String.append_empty,
          String.append_empty]
      rw [hlines, String.append_assoc, hparts]

theorem printAll (h : c.Lined) (hkind : c.kind ≠ .silent) (texts : List String) :
    (texts.foldl Console.print c).Lined ∧
      (texts.foldl Console.print c).given = c.given ++ String.join texts := by
  induction texts generalizing c with
  | nil => exact ⟨h, String.append_empty.symm⟩
  | cons text texts ih =>
    obtain ⟨hlined, hgiven⟩ := h.print hkind text
    obtain ⟨hrest, hall⟩ := ih hlined (by rwa [kind_print])
    exact ⟨hrest, by rw [List.foldl_cons, hall, hgiven, String.join_cons, String.append_assoc]⟩

end Lined

/-- Once it is flushed, a console that is not silent has sent on all that was printed, in order. -/
theorem output_printAll {kind : ConsoleKind} (hkind : kind ≠ .silent) (texts : List String) :
    (texts.foldl print (ofKind kind)).flush.output.text = String.join texts := by
  obtain ⟨hlined, hgiven⟩ := (lined_ofKind kind).printAll hkind texts
  obtain ⟨-, hheld, hflushed⟩ := hlined.flush
  have hstart : (ofKind kind).given = "" := by
    rw [given, ofKind, Buffer.text_empty, String.append_empty]
  rw [given, hheld, String.append_empty] at hflushed
  rw [hflushed, hgiven, hstart, String.empty_append]

end Console

end Awk.Host
