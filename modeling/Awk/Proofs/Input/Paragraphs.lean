import Awk.Proofs.Input.Reading
import Awk.Proofs.Text.Decoding

/-! Reading with the empty separator. The records are the longest runs of lines that are not empty,
however many empty lines there are before, between and after them, and whether or not the last line
ends. -/

namespace Awk

namespace Records

variable {s record rest : Bytes} {run : List Bytes}

/-! What reads with one separator give. -/

/-- Reads with one separator, whatever it is, give all records of some bytes and nothing more. -/
theorem takeEach_replicate (separator s : Bytes) (n : Nat) :
    takeEach s (List.replicate n separator) =
      ((all separator s).map some).take n ++
        List.replicate (n - (all separator s).length) none := by
  induction n generalizing s with
  | zero => simp [takeEach]
  | succ n ih =>
    rw [List.replicate_succ, takeEach]
    cases hnext : (next separator s).1 with
    | none =>
      rw [next_rest hnext, takeEach_nil, all_of_none hnext, List.length_replicate]
      rfl
    | some record =>
      rw [all_of_some (Prod.ext hnext rfl), ih]
      simp

/-! Lines and runs. -/

/-- The lines of some bytes: what newlines divide them into, the last of which is empty where
nothing follows the last newline. -/
def lines (s : Bytes) : List Bytes := s.splitOn newline

/-- The longest runs of lines that are not empty. -/
def runs (lines : List Bytes) : List (List Bytes) := (lines.splitOn []).filter (· ≠ [])

/-- The lines of a run with newlines between them. -/
def joined (run : List Bytes) : Bytes := [newline].intercalate run

@[simp] theorem joined_lines (s : Bytes) : joined (lines s) = s := List.intercalate_splitOn newline

@[simp] theorem joined_singleton (line : Bytes) : joined [line] = line :=
  List.intercalate_singleton

@[simp] theorem lines_nil : lines [] = [[]] := rfl

theorem lines_newline (s r : Bytes) : lines (s ++ newline :: r) = lines s ++ lines r :=
  List.splitOnP_append_cons s r (beq_self_eq_true newline)

theorem lines_newline_cons (s : Bytes) : lines (newline :: s) = [] :: lines s :=
  lines_newline [] s

@[simp] theorem runs_blank : runs [[]] = [] := rfl

/-- An empty line divides runs. -/
theorem runs_append_blank (lines lines' : List Bytes) :
    runs (lines ++ [] :: lines') = runs lines ++ runs lines' := by
  have hsplit : (lines ++ [] :: lines').splitOn [] = lines.splitOn [] ++ lines'.splitOn [] :=
    List.splitOnP_append_cons lines lines' (beq_self_eq_true [])
  rw [runs, hsplit, List.filter_append]
  rfl

@[simp] theorem runs_blank_cons (lines : List Bytes) : runs ([] :: lines) = runs lines :=
  runs_append_blank [] lines

/-- Lines none of which is empty are one run. -/
theorem runs_of_ne_nil {lines : List Bytes} (hlines : lines ≠ []) (h : ∀ line ∈ lines, line ≠ []) :
    runs lines = [lines] := by
  have hsplit : lines.splitOn [] = [lines] :=
    List.splitOnP_eq_singleton fun line hline => beq_eq_false_iff_ne.mpr (h line hline)
  rw [runs, hsplit, List.filter_singleton]
  simp [hlines]

theorem runs_newline_cons (s : Bytes) : runs (lines (newline :: s)) = runs (lines s) := by
  rw [lines_newline_cons, runs_blank_cons]

theorem runs_append_newline (s : Bytes) : runs (lines (s ++ [newline])) = runs (lines s) := by
  rw [lines_newline, lines_nil, runs_append_blank]
  exact List.append_nil _

theorem runs_dropWhile (s : Bytes) :
    runs (lines (s.dropWhile (· = newline))) = runs (lines s) := by
  induction s with
  | nil => rfl
  | cons b s ih =>
    by_cases hb : b = newline
    · rw [List.dropWhile_cons_of_pos (by simpa using hb), ih, hb, runs_newline_cons]
    · rw [List.dropWhile_cons_of_neg (by simpa using hb)]

/-- Two newlines divide runs. -/
theorem runs_newlines (s s' : Bytes) :
    runs (lines (s ++ newline :: newline :: s')) = runs (lines s) ++ runs (lines s') := by
  rw [lines_newline, lines_newline_cons, runs_append_blank]

theorem runs_replicate_append (n : Nat) (s : Bytes) :
    runs (lines (List.replicate n newline ++ s)) = runs (lines s) := by
  induction n with
  | zero => rfl
  | succ n ih => rw [List.replicate_succ, List.cons_append, runs_newline_cons, ih]

theorem runs_append_replicate (n : Nat) (s : Bytes) :
    runs (lines (s ++ List.replicate n newline)) = runs (lines s) := by
  induction n with
  | zero => rw [List.replicate_zero, List.append_nil]
  | succ n ih => rw [List.replicate_succ', ← List.append_assoc, runs_append_newline, ih]

theorem runs_append_replicate_append (n : Nat) (s s' : Bytes) :
    runs (lines (s ++ List.replicate (n + 2) newline ++ s')) =
      runs (lines s) ++ runs (lines s') := by
  rw [List.append_assoc]
  show runs (lines (s ++ newline :: newline :: (List.replicate n newline ++ s'))) = _
  rw [runs_newlines, runs_replicate_append]

/-- Bytes without an empty line: no newline is at the start, at the end or behind another. -/
structure Solid (s : Bytes) : Prop where
  start : ∀ r, s ≠ newline :: r
  ending : ∀ r, s ≠ r ++ [newline]
  inner : ∀ r r', s ≠ r ++ newline :: newline :: r'

theorem joined_append {lines lines' : List Bytes} (h : lines ≠ []) (h' : lines' ≠ []) :
    joined (lines ++ lines') = joined lines ++ newline :: joined lines' := by
  induction lines with
  | nil => exact absurd rfl h
  | cons line lines ih =>
    by_cases hlines : lines = []
    · subst hlines
      unfold joined
      rw [List.singleton_append, List.intercalate_cons_of_ne_nil h', List.intercalate_singleton,
        List.append_assoc, List.singleton_append]
    · unfold joined at ih ⊢
      rw [List.cons_append, List.intercalate_cons_of_ne_nil (List.append_ne_nil_of_left_ne_nil hlines _),
        ih hlines, List.intercalate_cons_of_ne_nil hlines]
      simp

/-- The lines of solid bytes are a run. -/
theorem Solid.runs_lines (h : Solid s) (hs : s ≠ []) : runs (lines s) = [lines s] := by
  refine runs_of_ne_nil (List.splitOn_ne_nil newline s) fun line hline => ?_
  rintro rfl
  obtain ⟨before, after, hlines⟩ := List.append_of_mem hline
  have hbytes : s = joined (before ++ [] :: after) := by rw [← hlines, joined_lines]
  by_cases hbefore : before = []
  · subst hbefore
    by_cases hafter : after = []
    · subst hafter
      exact hs hbytes
    · refine h.start (joined after) (hbytes.trans ?_)
      exact joined_append (List.cons_ne_nil [] []) hafter
  · by_cases hafter : after = []
    · subst hafter
      exact h.ending (joined before) (hbytes.trans (joined_append hbefore (List.cons_ne_nil _ _)))
    · refine h.inner (joined before) (joined after) (hbytes.trans ?_)
      rw [joined_append hbefore (List.cons_ne_nil _ _)]
      exact congrArg (joined before ++ newline :: ·)
        (joined_append (List.cons_ne_nil [] []) hafter)

/-! Paragraphs. -/

/-- A record that stands before the first empty line, behind the newlines at the start, is solid. -/
theorem FirstCut.solid {t : Bytes} (h : FirstCut [newline, newline] t record rest)
    (hstart : ∀ r, t ≠ newline :: r) : record ≠ [] ∧ Solid record := by
  refine ⟨?_, ?_, ?_, ?_⟩
  · rintro rfl
    exact hstart _ h.bytes
  · rintro r rfl
    exact hstart _ h.bytes
  · rintro r rfl
    have hearlier := h.first r (newline :: rest) (by simp [h.bytes])
    rw [List.length_append] at hearlier
    exact Nat.not_succ_le_self _ hearlier
  · rintro r r' rfl
    have hearlier := h.first r (r' ++ [newline, newline] ++ rest) (by simp [h.bytes])
    rw [List.length_append] at hearlier
    exact absurd hearlier (by simp)

/-- The record that the end of the bytes completes is solid, if there is one. -/
theorem chomp_solid {t : Bytes} (h : ¬ [newline, newline] <:+: t) (hstart : ∀ r, t ≠ newline :: r)
    (ht : t ≠ []) : chomp t ≠ [] ∧ Solid (chomp t) ∧ runs (lines t) = runs (lines (chomp t)) := by
  have hinner {s : Bytes} (hs : s <+: t) : ∀ r r', s ≠ r ++ newline :: newline :: r' := by
    rintro r r' rfl
    have hbroken : [newline, newline] <:+: r ++ newline :: newline :: r' := ⟨r, r', by simp⟩
    exact h (hbroken.trans hs.isInfix)
  by_cases hlast : t.getLast? = some newline
  · obtain ⟨s, rfl⟩ := List.getLast?_eq_some_iff.mp hlast
    have hchomp : chomp (s ++ [newline]) = s := by
      rw [chomp, if_pos hlast, List.dropLast_concat]
    have hs : s ≠ [] := by
      rintro rfl
      exact hstart [] rfl
    rw [hchomp]
    refine ⟨hs, ⟨?_, ?_, hinner (List.prefix_append _ _)⟩, runs_append_newline s⟩
    · rintro r rfl
      exact hstart _ rfl
    · rintro r rfl
      exact hinner List.prefix_rfl r [] (by simp)
  · have hchomp : chomp t = t := if_neg hlast
    rw [hchomp]
    refine ⟨ht, ⟨hstart, ?_, hinner List.prefix_rfl⟩, rfl⟩
    rintro r rfl
    exact hlast List.getLast?_concat

/-- The records of bytes with the empty separator are their runs of lines. -/
theorem all_nil (s : Bytes) : all [] s = (runs (lines s)).map joined := by
  induction hlength : s.length using Nat.strong_induction_on generalizing s with
  | _ k ih =>
    have hstart (r : Bytes) : s.dropWhile (· = newline) ≠ newline :: r := by
      intro hnewline
      have hhead := List.head?_dropWhile_not (fun b => decide (b = newline)) s
      rw [hnewline] at hhead
      simp at hhead
    rw [← runs_dropWhile]
    generalize ht : s.dropWhile (· = newline) = t at hstart
    have hcomplete : complete? [] s = cut? [newline, newline] t := by
      rw [← ht]
      rfl
    obtain ⟨hnone, hwhole⟩ | ⟨record, rest, hsome, hcut⟩ :=
      cut?_cases (List.cons_ne_nil newline [newline]) t
    · have hnext : next [] s = (final? [] s, []) := next_of_none (hcomplete.trans hnone)
      by_cases hempty : t = []
      · have hfinal : final? [] s = none := by
          unfold final?
          dsimp only
          rw [ht, hempty]
          rfl
        rw [all_of_none (by rw [hnext, hfinal]), hempty]
        rfl
      · obtain ⟨hne, hsolid, hruns⟩ := chomp_solid hwhole hstart hempty
        have hfinal : final? [] s = some (chomp t) := by
          unfold final?
          dsimp only
          rw [ht]
          simp [hne]
        rw [all_of_some (hnext.trans (by rw [hfinal])), hruns, hsolid.runs_lines hne]
        simp [all_of_none]
    · have hnext : next [] s = (some record, rest) := by
        rw [next, hcomplete, hsome]
      obtain ⟨hne, hsolid⟩ := hcut.solid hstart
      have hlt : rest.length < k := hlength ▸ next_length hnext
      rw [all_of_some hnext, ih rest.length hlt rest rfl, hcut.bytes, List.append_assoc]
      show _ = List.map joined (runs (lines (record ++ newline :: newline :: rest)))
      rw [runs_newlines, hsolid.runs_lines hne]
      simp

/-! The text of a run. -/

/-- What a list is divided into has its elements, without those it is divided at. -/
theorem mem_of_mem_splitOn {α : Type} [BEq α] [LawfulBEq α] {a : α}
    {l piece : List α}
    (h : piece ∈ l.splitOn a) : a ∉ piece ∧ ∀ x ∈ piece, x ∈ l := by
  induction l generalizing piece with
  | nil =>
    rw [List.splitOn_nil, List.mem_singleton] at h
    subst h
    exact ⟨List.not_mem_nil, fun _ hy => absurd hy List.not_mem_nil⟩
  | cons x l ih =>
    rw [List.splitOn_cons_eq_if_modifyHead] at h
    split at h
    · obtain rfl | hmem := List.mem_cons.mp h
      · exact ⟨List.not_mem_nil, fun _ hy => absurd hy List.not_mem_nil⟩
      · exact ⟨(ih hmem).1, fun y hy => List.mem_cons_of_mem x ((ih hmem).2 y hy)⟩
    · rename_i hx
      have hne : a ≠ x := fun heq => hx (beq_iff_eq.mpr heq.symm)
      obtain ⟨first, others, hsplit⟩ := List.exists_cons_of_ne_nil (List.splitOn_ne_nil a l)
      rw [hsplit] at ih h
      obtain rfl | hmem := List.mem_cons.mp h
      · obtain ⟨hnot, hall⟩ := ih List.mem_cons_self
        exact ⟨List.not_mem_cons_of_ne_of_not_mem hne hnot, List.cons_subset_cons x hall⟩
      · obtain ⟨hnot, hall⟩ := ih (List.mem_cons_of_mem first hmem)
        exact ⟨hnot, fun y hy => List.mem_cons_of_mem x (hall y hy)⟩

/-- A run has lines, and each of them has bytes none of which is a newline. -/
theorem lines_of_mem_runs (h : run ∈ runs (lines s)) :
    run ≠ [] ∧ ∀ line ∈ run, line ≠ [] ∧ newline ∉ line := by
  obtain ⟨hrun, hne⟩ := List.mem_filter.mp h
  refine ⟨by simpa using hne, fun line hline => ⟨?_, ?_⟩⟩
  · rintro rfl
    exact (mem_of_mem_splitOn hrun).1 hline
  · exact (mem_of_mem_splitOn ((mem_of_mem_splitOn hrun).2 line hline)).1

theorem exists_first_line (h : run ≠ []) :
    ∃ line ∈ run, ∃ more, (textOf (joined run)).toList = (textOf line).toList ++ more := by
  obtain ⟨line, others, rfl⟩ := List.exists_cons_of_ne_nil h
  refine ⟨line, List.mem_cons_self, ?_⟩
  by_cases hothers : others = []
  · subst hothers
    exact ⟨[], by rw [joined_singleton, List.append_nil]⟩
  · refine ⟨'\n' :: (textOf (joined others)).toList, ?_⟩
    rw [← List.singleton_append, joined_append (List.cons_ne_nil line []) hothers,
      joined_singleton, textOf_newline]
    simp

theorem exists_last_line (h : run ≠ []) :
    ∃ line ∈ run, ∃ more, (textOf (joined run)).toList = more ++ (textOf line).toList := by
  obtain ⟨others, line, rfl⟩ := (List.eq_nil_or_concat' run).resolve_left h
  refine ⟨line, List.mem_append_right _ (List.mem_singleton_self line), ?_⟩
  by_cases hothers : others = []
  · subst hothers
    exact ⟨[], by rw [List.nil_append, joined_singleton, List.nil_append]⟩
  · refine ⟨(textOf (joined others)).toList ++ ['\n'], ?_⟩
    rw [joined_append hothers (List.cons_ne_nil line []), joined_singleton, textOf_newline]
    simp

/-- The text of a run is that of its lines with newlines between them, and neither empty nor with a
newline at its start or its end. -/
theorem textOf_run (h : run ∈ runs (lines s)) :
    textOf (joined run) = "\n".intercalate (run.map textOf) ∧ textOf (joined run) ≠ "" ∧
      (textOf (joined run)).toList.head? ≠ some '\n' ∧
      (textOf (joined run)).toList.getLast? ≠ some '\n' := by
  obtain ⟨hne, hlines⟩ := lines_of_mem_runs h
  have htext {line : Bytes} (hline : line ∈ run) :
      (textOf line).toList ≠ [] ∧ '\n' ∉ (textOf line).toList := by
    obtain ⟨hempty, hnewline⟩ := hlines line hline
    refine ⟨fun hnil => hempty ?_, mt newline_mem_of_textOf hnewline⟩
    exact textOf_eq_empty_iff.mp (String.toList_eq_nil_iff.mp hnil)
  obtain ⟨first, hfirst, more, hhead⟩ := exists_first_line hne
  obtain ⟨last, hlast, before, hend⟩ := exists_last_line hne
  obtain ⟨hfirstText, hfirstNot⟩ := htext hfirst
  obtain ⟨hlastText, hlastNot⟩ := htext hlast
  refine ⟨textOf_intercalate run, ?_, ?_, ?_⟩
  · rw [Ne, ← String.toList_eq_nil_iff, hhead]
    exact List.append_ne_nil_of_left_ne_nil hfirstText more
  · rw [hhead, List.head?_append_of_ne_nil _ hfirstText]
    exact fun hnewline => hfirstNot (List.mem_of_head? hnewline)
  · rw [hend, List.getLast?_append_of_ne_nil _ hlastText]
    exact fun hnewline => hlastNot (List.mem_of_getLast? hnewline)

end Records

namespace Host.Streams

open Records

/-- Reading with the empty separator gives, one after the other and however the source comes in
blocks, the longest runs of lines that are not empty, and nothing more. The text of each is that of
its lines, with newlines between them alone, and however many empty lines there are before the first
run, behind the last and between two makes no difference. -/
theorem readEach_paragraphs (st : Streams) (r : Reader) (hsource : r.source ≠ .directory) :
    (∀ n, st.readEach r (List.replicate n "") =
      ((runs (lines (st.toRead r))).map (.ok <| some <| textOf <| joined ·)).take n ++
        List.replicate (n - (runs (lines (st.toRead r))).length) (.ok none)) ∧
    (∀ run ∈ runs (lines (st.toRead r)),
      textOf (joined run) = "\n".intercalate (run.map textOf) ∧ textOf (joined run) ≠ "" ∧
      (textOf (joined run)).toList.head? ≠ some '\n' ∧
      (textOf (joined run)).toList.getLast? ≠ some '\n') ∧
    (∀ n s s', runs (lines (List.replicate n newline ++ s)) = runs (lines s) ∧
      runs (lines (s ++ List.replicate n newline)) = runs (lines s) ∧
      runs (lines (s ++ List.replicate (n + 2) newline ++ s')) =
        runs (lines s) ++ runs (lines s')) := by
  refine ⟨fun n => ?_, fun run => textOf_run, fun n s s' => ⟨runs_replicate_append n s,
    runs_append_replicate n s, runs_append_replicate_append n s s'⟩⟩
  rw [st.readEach_eq hsource, List.map_replicate, bytesOf_eq_nil_iff.mpr rfl, takeEach_replicate,
    all_nil]
  simp [List.map_take, Function.comp_def]

/-- Empty lines at both ends and between two paragraphs, the second of which does not end, with a
character that its line breaks off and a byte that is none. -/
theorem readEach_paragraphs_broken :
    let bytes : Bytes := [10, 10, 97, 0xc3, 10, 0xa9, 98, 10, 10, 10, 0xff, 99]
    let st := start .empty bytes .silent
    standardInput.source ≠ .directory ∧
      ((∀ n, st.readEach standardInput (List.replicate n "") =
        ([.ok (some "a\ufffd\n\ufffdb"), .ok (some "\ufffdc")] : List (Except Cause _)).take n ++
          List.replicate (n - 2) (.ok none)) ∧
      ∀ run ∈ runs (lines bytes), textOf (joined run) = "\n".intercalate (run.map textOf)) := by
  intro bytes st
  have hsource : standardInput.source ≠ .directory := by decide
  obtain ⟨hreads, htexts, -⟩ := st.readEach_paragraphs standardInput hsource
  have hanswers : (runs (lines (st.toRead standardInput))).map
      (fun run => (.ok (some (textOf (joined run))) : Except Cause (Option String))) =
        [.ok (some "a\ufffd\n\ufffdb"), .ok (some "\ufffdc")] := by
    decide +kernel
  have hlength : (runs (lines (st.toRead standardInput))).length = 2 := by
    simpa using congrArg List.length hanswers
  refine ⟨hsource, fun n => ?_, fun run hrun => (htexts run hrun).1⟩
  rw [hreads, hanswers, hlength]

end Host.Streams

end Awk
