import Mathlib.Data.List.Basic
import Awk.Proofs.Regex.Searching
import Awk.Text.Replacement

/-! What a replacement leaves as it was. The text is cut at the matches of a series and put together
again, with some of the matches expanded: all characters outside these stay, in their order. -/

namespace Awk

variable {size place : Nat} {m : Regex.Match} {ms : List Regex.Match} {last : Option Nat}
  {text replacement s t : List Char}

namespace Regex

/-- Matches that follow one another up to a place. -/
inductive Ordered (size : Nat) : Nat → List Match → Prop
  | nil (place : Nat) : Ordered size place []
  | cons {place : Nat} {m : Match} {ms : List Match} : m.Within place size →
      Ordered size m.stop ms → Ordered size place (m :: ms)

theorem Ordered.weaken (h : Ordered size place ms) {low : Nat} (hle : low ≤ place) :
    Ordered size low ms := by
  cases h with
  | nil => exact .nil low
  | cons hm hms => exact .cons ⟨Nat.le_trans hle hm.low_le, hm.start_le, hm.stop_le⟩ hms

/-- The stretch of a text between two places. -/
def slice (text : List Char) (start stop : Nat) : List Char := (text.take stop).drop start

/-- A text from a place on, cut at its matches. -/
def cutFrom (text : List Char) (place : Nat) : List Match → List Piece × List Char
  | [] => ([], text.drop place)
  | m :: ms =>
    (⟨slice text place m.start, slice text m.start m.stop⟩ :: (cutFrom text m.stop ms).1,
      (cutFrom text m.stop ms).2)

theorem slice_append_drop {start stop : Nat} (h : start ≤ stop) (text : List Char) :
    slice text start stop ++ text.drop stop = text.drop start := by
  obtain ⟨n, rfl⟩ := Nat.exists_eq_add_of_le h
  rw [slice, List.drop_take, Nat.add_sub_cancel_left, ← List.drop_drop, List.take_append_drop]

theorem length_slice {start stop : Nat} (h : stop ≤ text.length) :
    (slice text start stop).length = stop - start := by
  rw [slice, List.length_drop, List.length_take, Nat.min_eq_left h]

theorem isEmpty_slice {start stop : Nat} (h : start ≤ stop) (hstop : stop ≤ text.length) :
    (slice text start stop).isEmpty = decide (start = stop) := by
  have hlength : (slice text start stop).length = stop - start := length_slice hstop
  rw [Bool.eq_iff_iff, List.isEmpty_iff, ← List.length_eq_zero_iff, hlength, decide_eq_true_eq]
  omega

theorem take_drop (text : List Char) (start stop : Nat) :
    (text.drop start).take (stop - start) = slice text start stop :=
  List.drop_take.symm

theorem drop_drop_sub {start stop : Nat} (h : start ≤ stop) (text : List Char) :
    (text.drop start).drop (stop - start) = text.drop stop := by
  rw [List.drop_drop, Nat.add_sub_cancel' h]

theorem getLast?_slice {start stop : Nat} (h : start ≤ stop) (text : List Char) :
    (slice text start stop).getLast?.or (text.take start).getLast? =
      (text.take stop).getLast? := by
  have htake : text.take stop = text.take start ++ slice text start stop := by
    obtain ⟨n, rfl⟩ := Nat.exists_eq_add_of_le h
    rw [slice, List.drop_take, Nat.add_sub_cancel_left, List.take_add]
  rw [htake, List.getLast?_append]

/-! A series of matches. -/

/-- The matches in a text from a place on, given the end of the last one: each is the next. -/
inductive Series (r : Regex) (text : List Char) : Nat → Option Nat → List Match → Prop
  | done {place : Nat} {last : Option Nat} :
      r.nextMatch (text.take place).getLast? place last (text.drop place) = none →
      Series r text place last []
  | next {place : Nat} {last : Option Nat} {m : Match} {ms : List Match} :
      r.nextMatch (text.take place).getLast? place last (text.drop place) = some m →
      Series r text m.stop (some m.stop) ms → Series r text place last (m :: ms)

/-- The pieces of a text are cut at the whole series of its matches, which follow one another. -/
theorem piecesFrom_series (r : Regex) {n : Nat} (hplace : place ≤ text.length)
    (hn : text.length < place + n ∨ last = some place ∧ text.length ≤ place + n) :
    ∃ ms, Series r text place last ms ∧ Ordered text.length place ms ∧
      r.piecesFrom n (text.take place).getLast? place last (text.drop place) =
        cutFrom text place ms := by
  -- After the first match each takes at least one character, so the steps outlast the text.
  induction n generalizing place last with
  | zero =>
    obtain hlt | ⟨hlast, hle⟩ := hn
    · omega
    · refine ⟨[], .done ?_, .nil _, rfl⟩
      by_contra hnext
      obtain ⟨m, hnext⟩ := Option.ne_none_iff_exists'.mp hnext
      obtain ⟨hwithin, hfurther⟩ := within_nextMatch hnext
      have hstop := hwithin.stop_le
      have hless := hfurther hlast
      rw [List.length_drop] at hstop
      omega
  | succ n ih =>
    rw [piecesFrom]
    cases hnext : r.nextMatch (text.take place).getLast? place last (text.drop place) with
    | none => exact ⟨[], .done hnext, .nil _, rfl⟩
    | some m =>
      obtain ⟨hwithin, hfurther⟩ := within_nextMatch hnext
      rw [List.length_drop, Nat.add_sub_cancel' hplace] at hwithin
      obtain ⟨hlow, hle, hstop⟩ := hwithin
      have hleft : text.length ≤ m.stop + n := by
        obtain hlt | ⟨hlast, hle⟩ := hn
        · omega
        · have hless := hfurther hlast
          omega
      obtain ⟨ms, hseries, hordered, hcut⟩ := ih hstop (.inr ⟨rfl, hleft⟩)
      refine ⟨m :: ms, .next hnext hseries, .cons ⟨hlow, hle, hstop⟩ hordered, ?_⟩
      simp only [take_drop, drop_drop_sub hlow, drop_drop_sub hle, Option.orElse_eq_orElse,
        Option.orElse_eq_or, Option.or_assoc, getLast?_slice hlow, getLast?_slice hle, hcut,
        cutFrom]

theorem pieces_series (r : Regex) (text : List Char) :
    ∃ ms, Series r text 0 none ms ∧ Ordered text.length 0 ms ∧
      r.pieces text = cutFrom text 0 ms :=
  piecesFrom_series r (Nat.zero_le _) (.inl (by omega))

end Regex

namespace Replacement

open Regex

/-- The matches that count: one that is empty and stands right after the last that counted does
not. -/
def countedFrom (last : Option Nat) : List Match → List Match
  | [] => []
  | m :: ms =>
    if m.start = m.stop ∧ last = some m.start then countedFrom last ms
    else m :: countedFrom (some m.stop) ms

/-- The matches that are replaced. -/
def chosen (all : Bool) (ms : List Match) : List Match :=
  if all then countedFrom none ms else ms.take 1

/-- One text is another, which begins at a place, with matches replaced and the characters outside
them as they are. -/
inductive Rewritten (replacement : List Char) : Nat → List Match → List Char → List Char → Prop
  | rest (place : Nat) (s : List Char) : Rewritten replacement place [] s s
  | replaced {place : Nat} {m : Match} {ms : List Match} {gap matched s t : List Char} :
      m.start = place + gap.length → m.stop = m.start + matched.length →
      Rewritten replacement m.stop ms s t →
      Rewritten replacement place (m :: ms) (gap ++ (matched ++ s))
        (gap ++ (expand matched replacement ++ t))

/-- An `&` puts the matches back. -/
theorem Rewritten.eq_of_matched (h : Rewritten ['&'] place ms s t) : t = s := by
  induction h with
  | rest place s => rfl
  | @replaced place m ms gap matched s t _ _ _ ih =>
    have hexpand : expand matched ['&'] = matched := List.append_nil matched
    rw [hexpand, ih]

/-- Pieces that are put together as they are make the text. -/
theorem restored_cut (h : Ordered text.length place ms) :
    restored (cutFrom text place ms).1 ++ (cutFrom text place ms).2 = text.drop place := by
  induction h with
  | nil => rfl
  | @cons place m ms hm _ ih =>
    simp only [cutFrom, restored, List.flatMap_cons, List.append_assoc] at ih ⊢
    rw [ih, slice_append_drop hm.start_le, slice_append_drop hm.low_le]

/-- Pieces of which the first are put together with their matches replaced. -/
theorem rewritten_cut (replacement : List Char) (h : Ordered text.length place ms) (n : Nat) :
    Rewritten replacement place (ms.take n) (text.drop place)
      (replaced replacement ((cutFrom text place ms).1.take n) ++
        restored ((cutFrom text place ms).1.drop n) ++ (cutFrom text place ms).2) := by
  induction h generalizing n with
  | nil place =>
    rw [List.take_nil, cutFrom, List.take_nil, List.drop_nil]
    exact .rest place _
  | @cons place m ms hm hms ih =>
    cases n with
    | zero =>
      have hrestored := restored_cut (.cons hm hms)
      rw [List.take_zero, List.take_zero, List.drop_zero, replaced, List.flatMap_nil,
        List.nil_append, hrestored]
      exact .rest place _
    | succ n =>
      have hlow := hm.low_le
      have hle := hm.start_le
      have hgap : (slice text place m.start).length = m.start - place :=
        length_slice (Nat.le_trans hle hm.stop_le)
      have hmatched : (slice text m.start m.stop).length = m.stop - m.start :=
        length_slice hm.stop_le
      have htext : text.drop place =
          slice text place m.start ++ (slice text m.start m.stop ++ text.drop m.stop) := by
        rw [slice_append_drop hle, slice_append_drop hlow]
      rw [htext]
      simp only [cutFrom, List.take_succ_cons, List.drop_succ_cons, replaced, List.flatMap_cons,
        List.append_assoc] at ih ⊢
      exact .replaced (by omega) (by omega) (ih n)

/-- Leaving out the pieces without any text leaves out the matches that do not count. -/
theorem filter_cut (h : Ordered text.length place ms) :
    ((cutFrom text place ms).1.filter fun q => !(q.gap.isEmpty && q.matched.isEmpty)) =
        (cutFrom text place (countedFrom (some place) ms)).1 ∧
      (cutFrom text place ms).2 = (cutFrom text place (countedFrom (some place) ms)).2 := by
  induction h with
  | nil place => exact ⟨rfl, rfl⟩
  | @cons place m ms hm _ ih =>
    have hgap := isEmpty_slice hm.low_le (Nat.le_trans hm.start_le hm.stop_le)
    have hmatched := isEmpty_slice hm.start_le hm.stop_le
    rw [countedFrom]
    by_cases hskip : m.start = m.stop ∧ some place = some m.start
    · -- A match that is left out does not move the place where the next piece is cut.
      obtain ⟨hempty, hplace⟩ := hskip
      obtain rfl : m.stop = place := by rw [← hempty, ← Option.some_inj, hplace]
      rw [decide_eq_true hempty.symm] at hgap
      rw [decide_eq_true hempty] at hmatched
      rw [if_pos ⟨hempty, hplace⟩]
      simpa only [cutFrom, List.filter_cons, hgap, hmatched, Bool.and_self, Bool.not_true,
        Bool.false_eq_true, if_false] using ih
    · have hkept : ¬(place = m.start ∧ m.start = m.stop) := by
        rw [Option.some_inj] at hskip
        tauto
      rw [if_neg hskip]
      simp only [cutFrom, List.filter_cons, hgap, hmatched, ← Bool.decide_and, hkept, decide_false,
        Bool.not_false, if_true, ih, and_self]

theorem counted_cut (h : Ordered text.length place ms) :
    counted (cutFrom text place ms).1 = (cutFrom text place (countedFrom none ms)).1 ∧
      (cutFrom text place ms).2 = (cutFrom text place (countedFrom none ms)).2 := by
  cases h with
  | nil => exact ⟨rfl, rfl⟩
  | @cons _ m ms hm hms =>
    obtain ⟨hpieces, htail⟩ := filter_cut hms
    rw [countedFrom, if_neg (by simp)]
    simp only [cutFrom, counted, hpieces, htail, and_self]

theorem ordered_countedFrom (h : Ordered size place ms) (last : Option Nat) :
    Ordered size place (countedFrom last ms) := by
  induction h generalizing last with
  | nil place => exact .nil place
  | @cons place m ms hm _ ih =>
    rw [countedFrom]
    split
    · exact (ih last).weaken (Nat.le_trans hm.low_le hm.start_le)
    · exact .cons hm (ih _)

theorem length_cut (text : List Char) (place : Nat) (ms : List Match) :
    (cutFrom text place ms).1.length = ms.length := by
  induction ms generalizing place with
  | nil => rfl
  | cons m ms ih => exact congrArg Nat.succ (ih m.stop)

/-- Of the matches that count, the first is the first of all. -/
theorem take_countedFrom (ms : List Match) : (countedFrom none ms).take 1 = ms.take 1 := by
  cases ms with
  | nil => rfl
  | cons m ms =>
    rw [countedFrom, if_neg (by simp)]
    rfl

/-- A replacement changes the matches that it counts and no other text. -/
theorem replace_cut (replacement : List Char) (all : Bool) (h : Ordered text.length 0 ms) :
    Rewritten replacement 0 (chosen all ms) text
        (replace (cutFrom text 0 ms).1 (cutFrom text 0 ms).2 replacement all).1 ∧
      (replace (cutFrom text 0 ms).1 (cutFrom text 0 ms).2 replacement all).2 =
        (chosen all ms).length := by
  obtain ⟨hpieces, htail⟩ := counted_cut h
  have hrewritten := rewritten_cut replacement (ordered_countedFrom h none)
  generalize hn : (if all then (countedFrom none ms).length
    else min 1 (countedFrom none ms).length) = n
  have hle : n ≤ (countedFrom none ms).length := by
    rw [← hn]
    split <;> omega
  have hchosen : (countedFrom none ms).take n = chosen all ms := by
    cases all with
    | true =>
      rw [← hn, if_pos rfl, List.take_length]
      rfl
    | false =>
      rw [← hn, if_neg Bool.false_ne_true, List.take_eq_take_min.symm, take_countedFrom]
      rfl
  unfold replace
  simp only [hpieces, htail, length_cut, hn]
  rw [← hchosen, List.length_take, Nat.min_eq_left hle]
  exact ⟨hrewritten n, rfl⟩

/-- Only matched text is changed. Whatever the matches are that follow one another in a text, of
`sub` the first and of `gsub` all that count are replaced, and as many are reported; the matches of
an expression are its whole series, and `&` puts them all back. -/
theorem replace_matched (text replacement : List Char) (all : Bool) :
    (∀ ms, Ordered text.length 0 ms →
      Rewritten replacement 0 (chosen all ms) text
          (replace (cutFrom text 0 ms).1 (cutFrom text 0 ms).2 replacement all).1 ∧
        (replace (cutFrom text 0 ms).1 (cutFrom text 0 ms).2 replacement all).2 =
          (chosen all ms).length) ∧
      ∀ r : Regex,
        (∃ ms, Series r text 0 none ms ∧ Ordered text.length 0 ms ∧
          r.pieces text = cutFrom text 0 ms) ∧
        (replace (r.pieces text).1 (r.pieces text).2 ['&'] all).1 = text := by
  refine ⟨fun ms h => replace_cut replacement all h, fun r => ?_⟩
  obtain ⟨ms, hseries, hordered, hpieces⟩ := pieces_series r text
  refine ⟨⟨ms, hseries, hordered, hpieces⟩, ?_⟩
  rw [hpieces]
  exact (replace_cut ['&'] all hordered).1.eq_of_matched

/-- An empty match right behind another one does not count, and those further on do. -/
theorem replace_matched_adjacent :
    Ordered 3 0 [⟨0, 1⟩, ⟨1, 1⟩, ⟨2, 2⟩, ⟨3, 3⟩] ∧
      Rewritten ['<', '&', '>'] 0 [⟨0, 1⟩, ⟨2, 2⟩, ⟨3, 3⟩] ['a', 'ñ', 'b']
        ['<', 'a', '>', 'ñ', '<', '>', 'b', '<', '>'] := by
  have hordered : Ordered 3 0 [⟨0, 1⟩, ⟨1, 1⟩, ⟨2, 2⟩, ⟨3, 3⟩] :=
    .cons ⟨by decide, by decide, by decide⟩ <| .cons ⟨by decide, by decide, by decide⟩ <|
      .cons ⟨by decide, by decide, by decide⟩ <| .cons ⟨by decide, by decide, by decide⟩ (.nil 3)
  exact ⟨hordered, ((replace_matched ['a', 'ñ', 'b'] ['<', '&', '>'] true).1 _ hordered).1⟩

end Replacement

/-! Replacements that stand for themselves. A backslash before each backslash and each `&` of a text
makes a replacement of it that is the text, whatever is matched. What carries this is that a
replacement is read from left to right with one character of its past: only where it ends in a
backslash whose meaning is still open does what stands behind it change how it is read. -/

namespace Replacement

variable {c : Char}

/-- A text with a backslash before each backslash and each `&`. -/
def quote (s : List Char) : List Char :=
  s.flatMap fun c => if c = '\\' ∨ c = '&' then ['\\', c] else [c]

/-- The backslashes at the end of a text. -/
def trailing (r : List Char) : List Char := r.reverse.takeWhile (· = '\\')

/-- The last character is a backslash that no backslash before it takes the meaning from. -/
def EndsOpen (r : List Char) : Prop := (trailing r).length % 2 = 1

instance (r : List Char) : Decidable (EndsOpen r) := inferInstanceAs (Decidable (_ = _))

theorem endsOpen_concat (r : List Char) : EndsOpen (r ++ ['\\']) ↔ ¬ EndsOpen r := by
  have htrailing : trailing (r ++ ['\\']) = '\\' :: trailing r := by
    simp [trailing]
  rw [EndsOpen, htrailing, List.length_cons, EndsOpen]
  omega

/-- Only the backslashes behind the last other character count. -/
theorem endsOpen_append_cons (h : c ≠ '\\') (front r : List Char) :
    EndsOpen (front ++ c :: r) ↔ EndsOpen r := by
  have htrailing : trailing (front ++ c :: r) = trailing r := by
    simp only [trailing, List.reverse_append, List.reverse_cons, List.append_assoc,
      List.singleton_append, List.takeWhile_append]
    split
    · rename_i hall
      rw [List.takeWhile_cons_of_neg (by simpa using h), List.append_nil]
      exact (List.takeWhile_prefix _).eq_of_length hall |>.symm
    · rfl
  rw [EndsOpen, htrailing, EndsOpen]

/-- Two backslashes in front take the meaning from each other. -/
theorem endsOpen_pair (r : List Char) : EndsOpen ('\\' :: '\\' :: r) ↔ EndsOpen r := by
  have hreverse : ('\\' :: '\\' :: r).reverse = r.reverse ++ ['\\', '\\'] := by
    rw [List.reverse_cons, List.reverse_cons, List.append_assoc, List.singleton_append]
  have hpair : ['\\', '\\'].takeWhile (· = '\\') = ['\\', '\\'] := rfl
  rw [EndsOpen, EndsOpen, trailing, trailing, hreverse, List.takeWhile_append, hpair]
  split
  · rename_i hall
    rw [List.length_append, hall, List.length_cons, List.length_cons, List.length_nil,
      Nat.add_mod_right]
  · exact Iff.rfl

/-- A character that has no meaning of its own stands for itself. -/
theorem expand_plain (h : c ≠ '\\') (h' : c ≠ '&') (matched r : List Char) :
    expand matched (c :: r) = c :: expand matched r := by
  rw [expand]
  · exact fun _ hc => absurd hc h
  · exact fun _ hc => absurd hc h
  · exact h'

/-- So does a backslash in front of such a character. -/
theorem expand_backslash (h : c ≠ '\\') (h' : c ≠ '&') (matched r : List Char) :
    expand matched ('\\' :: c :: r) = '\\' :: c :: expand matched r := by
  rw [expand, expand_plain h h']
  · rintro _ - ⟨⟩
    exact h' rfl
  · rintro _ - ⟨⟩
    exact h rfl
  · decide

/-- What is quoted stands for itself. -/
theorem expand_quote (matched s : List Char) : expand matched (quote s) = s := by
  induction s with
  | nil => rfl
  | cons c s ih =>
    have hcons : quote (c :: s) = (if c = '\\' ∨ c = '&' then ['\\', c] else [c]) ++ quote s :=
      List.flatMap_cons
    rw [hcons]
    split
    · rename_i hc
      obtain rfl | rfl := hc
      · exact congrArg ('\\' :: ·) ih
      · exact congrArg ('&' :: ·) ih
    · rename_i hc
      obtain ⟨hbackslash, hand⟩ := not_or.mp hc
      rw [List.singleton_append, expand_plain hbackslash hand, ih]

/-- Behind a text that does not end open a replacement starts anew. -/
theorem expand_append (matched : List Char) {r : List Char} (h : ¬ EndsOpen r) (s : List Char) :
    expand matched (r ++ s) = expand matched r ++ expand matched s := by
  fun_induction expand matched r with
  | case1 => rfl
  | case2 r ih =>
    have hr : ¬ EndsOpen r := mt (endsOpen_append_cons (by decide) ['\\'] r).mpr h
    exact congrArg ('&' :: ·) (ih hr)
  | case3 r ih =>
    have hr : ¬ EndsOpen r := mt (endsOpen_pair r).mpr h
    exact congrArg ('\\' :: ·) (ih hr)
  | case4 r ih =>
    have hr : ¬ EndsOpen r := mt (endsOpen_append_cons (by decide) [] r).mpr h
    rw [List.cons_append, expand, ih hr, List.append_assoc]
  | case5 c r hand hpair hc ih =>
    by_cases hbackslash : c = '\\'
    · -- A backslash here stands for itself for what is next, so it must not be the last.
      subst hbackslash
      cases r with
      | nil => exact absurd rfl h
      | cons d r =>
        have hd : d ≠ '\\' := fun hd => hpair r rfl (hd ▸ rfl)
        have hd' : d ≠ '&' := fun hd => hand r rfl (hd ▸ rfl)
        have hr : ¬ EndsOpen (d :: r) := by
          rw [← List.nil_append (d :: r), endsOpen_append_cons hd]
          exact mt (endsOpen_append_cons hd ['\\'] r).mpr h
        rw [List.cons_append, List.cons_append, expand_backslash hd hd', ← expand_plain hd hd',
          ← List.cons_append, ih hr, List.cons_append]
    · have hr : ¬ EndsOpen r := mt (endsOpen_append_cons hbackslash [] r).mpr h
      rw [List.cons_append, expand_plain hbackslash hc, ih hr, List.cons_append]

/-- The last backslash of a text that ends open takes the meaning from what stands behind it. -/
theorem expand_open (matched : List Char) {r : List Char} (h : EndsOpen r) :
    ∃ t, expand matched r = t ++ ['\\'] ∧
      ∀ s c, c = '\\' ∨ c = '&' →
        expand matched (r ++ c :: s) = t ++ c :: expand matched s := by
  obtain rfl | ⟨front, last, rfl⟩ := r.eq_nil_or_concat'
  · exact absurd h (by decide)
  by_cases hlast : last = '\\'
  · subst hlast
    have hfront : ¬ EndsOpen front := (endsOpen_concat front).mp h
    refine ⟨expand matched front, expand_append matched hfront _, fun s c hc => ?_⟩
    rw [List.append_assoc, expand_append matched hfront]
    obtain rfl | rfl := hc <;> rfl
  · exact absurd ((endsOpen_append_cons hlast front []).mp h) (by decide)

/-- Any text can be a replacement: a backslash before each backslash and each `&` makes it stand for
itself, whatever is matched. A replacement is read piece by piece, unless a piece ends open, and
there an `&` stands for the match; behind a piece that ends open it stands for itself, as does a
backslash. -/
theorem expand_quoted (matched : List Char) :
    (∀ s, expand matched (quote s) = s ∧
      ∀ ps, replaced (quote s) ps = ps.flatMap fun p => p.gap ++ s) ∧
    (∀ r s, ¬ EndsOpen r → expand matched (r ++ s) = expand matched r ++ expand matched s) ∧
    (∀ r s, ¬ EndsOpen r →
      expand matched (r ++ '&' :: s) = expand matched r ++ (matched ++ expand matched s)) ∧
    ∀ r, EndsOpen r → ∃ t, expand matched r = t ++ ['\\'] ∧
      ∀ s c, c = '\\' ∨ c = '&' →
        expand matched (r ++ c :: s) = t ++ c :: expand matched s := by
  refine ⟨fun s => ⟨expand_quote matched s, fun ps => ?_⟩, fun r s h => expand_append matched h s,
    fun r s h => ?_, fun r h => expand_open matched h⟩
  · simp only [replaced, expand_quote]
  · rw [expand_append matched h, expand]

/-- Behind `\\\&`, which is a backslash and an `&`, an `&` is the match; behind `\\\`, which ends
open, it is none. -/
theorem expand_quoted_run :
    ¬ EndsOpen ['\\', '\\', '\\', '&'] ∧
      expand ['m'] (['\\', '\\', '\\', '&'] ++ ['&', 'x']) = ['\\', '&', 'm', 'x'] ∧
      EndsOpen ['\\', '\\', '\\'] ∧
      ∃ t, expand ['m'] ['\\', '\\', '\\'] = t ++ ['\\'] ∧
        expand ['m'] (['\\', '\\', '\\'] ++ ['&', 'x']) = t ++ ['&', 'x'] := by
  have hrun : ¬ EndsOpen ['\\', '\\', '\\', '&'] := by decide
  have hopen : EndsOpen ['\\', '\\', '\\'] := by decide
  obtain ⟨-, -, hand, hescaped⟩ := expand_quoted ['m']
  obtain ⟨t, hlast, hbehind⟩ := hescaped _ hopen
  exact ⟨hrun, hand _ ['x'] hrun, hopen, t, hlast, hbehind ['x'] '&' (.inr rfl)⟩

/-- `a\&b` as it is written. -/
example : expand ['m'] (quote ['a', '\\', '&', 'b']) = ['a', '\\', '&', 'b'] := by decide

end Replacement

end Awk
