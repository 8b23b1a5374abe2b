import Mathlib.Data.List.Infix
import Mathlib.Tactic.Linarith
import Awk.Records

/-! Separators in bytes. Reading on until a separator ends what has been read stops where the
separator first stands, whatever of it repeats or overlaps, so that records which are taken one
after the other are the pieces between separators. -/

namespace Awk.Records

variable {separator s record rest taken : Bytes}

/-- The separator stands right behind the record, and nowhere earlier. -/
structure FirstCut (separator s record rest : Bytes) : Prop where
  bytes : s = record ++ separator ++ rest
  first : ∀ before after, s = before ++ separator ++ after → record.length ≤ before.length

theorem FirstCut.unique {record' rest' : Bytes} (h : FirstCut separator s record rest)
    (h' : FirstCut separator s record' rest') : record' = record ∧ rest' = rest := by
  have hlength : record'.length = record.length :=
    Nat.le_antisymm (h'.first _ _ h.bytes) (h.first _ _ h'.bytes)
  have hsame := h'.bytes.symm.trans h.bytes
  rw [List.append_assoc, List.append_assoc] at hsame
  obtain ⟨hrecord, hrest⟩ := List.append_inj hsame hlength
  exact ⟨hrecord, (List.append_right_inj separator).mp hrest⟩

/-- A separator that ends what has been read, and has not done so before, stands there first. -/
theorem FirstCut.of_ends {b : UInt8} {r : Bytes} (h : ¬ separator <:+: taken.reverse)
    (hbytes : (b :: taken).reverse = record ++ separator) :
    FirstCut separator (taken.reverse ++ b :: r) record r where
  bytes := by
    rw [← hbytes]
    simp
  first before after hs := by
    by_contra hlt
    have hlength := congrArg List.length hbytes
    simp only [List.length_reverse, List.length_cons, List.length_append] at hlength
    have hwhole : before ++ separator <+: taken.reverse ++ b :: r := by
      rw [hs]
      exact List.prefix_append _ _
    have hle : (before ++ separator).length ≤ taken.reverse.length := by
      simp only [List.length_append, List.length_reverse]
      omega
    have hbefore : before ++ separator <+: taken.reverse :=
      List.prefix_of_prefix_length_le hwhole (List.prefix_append _ _) hle
    exact h ((List.suffix_append before separator).isInfix.trans hbefore.isInfix)

/-- Where a separator has not ended what is read so far, reading on comes to where it first stands,
or it stands nowhere. -/
theorem cutAfter_cases (taken s : Bytes) (h : ¬ separator <:+: taken.reverse) :
    (cutAfter separator.reverse taken s = none ∧ ¬ separator <:+: taken.reverse ++ s) ∨
      ∃ record rest, cutAfter separator.reverse taken s = some (record, rest) ∧
        FirstCut separator (taken.reverse ++ s) record rest := by
  induction s generalizing taken with
  | nil =>
    left
    rw [List.append_nil]
    exact ⟨rfl, h⟩
  | cons b r ih =>
    rw [cutAfter]
    split
    · rename_i hends
      right
      have hsuffix : separator <:+ (b :: taken).reverse := by
        rw [← List.reverse_prefix, List.reverse_reverse]
        exact List.isPrefixOf_iff_prefix.mp hends
      obtain ⟨record, hrecord⟩ := hsuffix
      have hdrop : ((b :: taken).drop separator.reverse.length).reverse = record := by
        have hreverse : b :: taken = separator.reverse ++ record.reverse := by
          rw [← List.reverse_append, hrecord, List.reverse_reverse]
        rw [hreverse, List.drop_left, List.reverse_reverse]
      rw [hdrop]
      exact ⟨record, r, rfl, .of_ends h hrecord.symm⟩
    · rename_i hends
      have hnone : ¬ separator <:+: (b :: taken).reverse := by
        rw [List.reverse_cons, List.infix_concat_iff]
        rintro (hsuffix | hinfix)
        · rw [← List.reverse_cons, ← List.reverse_prefix, List.reverse_reverse] at hsuffix
          exact hends (List.isPrefixOf_iff_prefix.mpr hsuffix)
        · exact h hinfix
      have hsplit : taken.reverse ++ b :: r = (b :: taken).reverse ++ r := by simp
      rw [hsplit]
      exact ih (b :: taken) hnone

theorem cut?_cases (h : separator ≠ []) (s : Bytes) :
    (cut? separator s = none ∧ ¬ separator <:+: s) ∨
      ∃ record rest, cut? separator s = some (record, rest) ∧ FirstCut separator s record rest :=
  cutAfter_cases [] s fun hinfix => h (List.infix_nil.mp hinfix)

/-- A separator that is there is still the first one, whatever follows. -/
theorem cutAfter_append {reversed : Bytes} (h : cutAfter reversed taken s = some (record, rest))
    (t : Bytes) : cutAfter reversed taken (s ++ t) = some (record, rest ++ t) := by
  induction s generalizing taken with
  | nil => cases h
  | cons b r ih =>
    rw [cutAfter] at h
    rw [List.cons_append, cutAfter]
    split at h
    · rename_i hends
      cases h
      rw [if_pos hends]
    · rename_i hends
      rw [if_neg hends]
      exact ih h

theorem cutAfter_length {reversed : Bytes}
    (h : cutAfter reversed taken s = some (record, rest)) : rest.length < s.length := by
  induction s generalizing taken with
  | nil => cases h
  | cons b r ih =>
    rw [cutAfter] at h
    split at h
    · cases h
      exact Nat.lt_succ_self _
    · exact (ih h).trans (Nat.lt_succ_self _)

/-- A record that is complete is so whatever follows. -/
theorem complete?_append (h : complete? separator s = some (record, rest)) (t : Bytes) :
    complete? separator (s ++ t) = some (record, rest ++ t) := by
  unfold complete? at h ⊢
  split at h
  · rename_i hempty
    rw [if_pos hempty]
    unfold cutParagraph? at h ⊢
    have hline : (s.dropWhile (· = newline)).isEmpty = false := by
      refine Bool.eq_false_iff.mpr fun hnone => ?_
      rw [List.isEmpty_iff.mp hnone] at h
      cases h
    rw [List.dropWhile_append, hline]
    exact cutAfter_append h t
  · rename_i hne
    rw [if_neg hne]
    exact cutAfter_append h t

theorem complete?_length (h : complete? separator s = some (record, rest)) :
    rest.length < s.length := by
  unfold complete? at h
  split at h
  · have hdrop := (List.dropWhile_suffix (l := s) (fun b => decide (b = newline))).length_le
    exact (cutAfter_length h).trans_le hdrop
  · exact cutAfter_length h

/-- A record takes up bytes. -/
theorem next_length (h : next separator s = (some record, rest)) : rest.length < s.length := by
  unfold next at h
  split at h
  · rename_i hcomplete
    cases h
    exact complete?_length hcomplete
  · rename_i hnone
    obtain ⟨hfinal, rfl⟩ := Prod.mk.inj h
    refine List.length_pos_of_ne_nil ?_
    rintro rfl
    unfold final? at hfinal
    split at hfinal <;> cases hfinal

theorem next_of_complete? (h : complete? separator s = some (record, rest)) (t : Bytes) :
    next separator (s ++ t) = (some record, rest ++ t) := by
  simp only [next, complete?_append h t]

theorem next_of_none (h : complete? separator s = none) :
    next separator s = (final? separator s, []) := by
  simp only [next, h]

@[simp] theorem next_nil (separator : Bytes) : next separator [] = (none, []) := by
  cases h : complete? separator [] with
  | some found => exact absurd (complete?_length h) (Nat.not_lt_zero _)
  | none =>
    rw [next_of_none h, final?]
    split <;> rfl

/-! Records between separators. -/

/-- All the bytes that are left, if there are any. -/
def leftover (s : Bytes) : Option Bytes := if s = [] then none else some s

theorem next_cases (h : separator ≠ []) (s : Bytes) :
    (next separator s = (leftover s, []) ∧ ¬ separator <:+: s) ∨
      ∃ record rest, next separator s = (some record, rest) ∧ FirstCut separator s record rest := by
  have hcomplete : complete? separator s = cut? separator s := by
    unfold complete?
    rw [if_neg (mt List.isEmpty_iff.mp h)]
  obtain ⟨hnone, hinfix⟩ | ⟨record, rest, hsome, hcut⟩ := cut?_cases h s
  · left
    rw [next_of_none (hcomplete.trans hnone), final?, if_neg (mt List.isEmpty_iff.mp h), leftover]
    refine ⟨?_, hinfix⟩
    cases s <;> rfl
  · right
    rw [next, hcomplete, hsome]
    exact ⟨record, rest, rfl, hcut⟩

/-- What one read after the other gives, each with its separator. -/
def takeEach : Bytes → List Bytes → List (Option Bytes)
  | _, [] => []
  | s, separator :: separators =>
    (next separator s).1 :: takeEach (next separator s).2 separators

/-- From the bytes at the position on, each read gives those up to where its separator first stands,
and goes on past it. The first whose separator stands nowhere gives what is left, and there is
nothing after that. -/
inductive Takes : Bytes → List Bytes → List (Option Bytes) → Prop
  | done (s : Bytes) : Takes s [] []
  | record {separator s record rest : Bytes} {separators : List Bytes}
      {answers : List (Option Bytes)} : FirstCut separator s record rest →
      Takes rest separators answers → Takes s (separator :: separators) (some record :: answers)
  | rest {separator s : Bytes} {separators : List Bytes} : ¬ separator <:+: s →
      Takes s (separator :: separators) (leftover s :: List.replicate separators.length none)

theorem takeEach_nil (separators : List Bytes) :
    takeEach [] separators = List.replicate separators.length none := by
  induction separators with
  | nil => rfl
  | cons separator separators ih => simp [takeEach, ih, List.replicate_succ]

theorem takes_takeEach {separators : List Bytes} (h : ∀ b ∈ separators, b ≠ []) (s : Bytes) :
    Takes s separators (takeEach s separators) := by
  induction separators generalizing s with
  | nil => exact .done s
  | cons separator separators ih =>
    obtain ⟨hseparator, hseparators⟩ := List.forall_mem_cons.mp h
    rw [takeEach]
    obtain ⟨hnext, hinfix⟩ | ⟨record, rest, hnext, hcut⟩ := next_cases hseparator s
    · rw [hnext, takeEach_nil]
      exact .rest hinfix
    · rw [hnext]
      exact .record hcut (ih hseparators rest)

/-- The bytes are pieces, each with a separator behind it that stands nowhere earlier, and a last
piece without one. -/
structure Split (separator s : Bytes) (pieces : List Bytes) (last : Bytes) : Prop where
  bytes : s = pieces.flatMap (· ++ separator) ++ last
  leftmost : ∀ piece ∈ pieces, ∀ before after,
    piece ++ separator = before ++ separator ++ after → after = []
  last : ¬ separator <:+: last

theorem FirstCut.leftmost (h : FirstCut separator s record rest) {before after : Bytes}
    (hpiece : record ++ separator = before ++ separator ++ after) : after = [] := by
  have hfirst := h.first before (after ++ rest) (by simp [h.bytes, hpiece])
  have hlength := congrArg List.length hpiece
  simp only [List.length_append] at hlength
  exact List.length_eq_zero_iff.mp (by omega)

theorem Split.cons (hcut : FirstCut separator s record rest) {pieces : List Bytes} {last : Bytes}
    (h : Split separator rest pieces last) : Split separator s (record :: pieces) last where
  bytes := by
    rw [hcut.bytes, h.bytes]
    simp
  leftmost := List.forall_mem_cons.mpr ⟨fun _ _ => hcut.leftmost, h.leftmost⟩
  last := h.last

/-- The pieces of a split, without the last where that is empty. -/
def pieceRecords (pieces : List Bytes) (last : Bytes) : List Bytes :=
  pieces ++ (leftover last).toList

/-- Reading with one separator gives the pieces of the bytes, and nothing after them. -/
theorem exists_split (h : separator ≠ []) (s : Bytes) :
    ∃ pieces last, Split separator s pieces last ∧ ∀ n,
      takeEach s (List.replicate n separator) =
        ((pieceRecords pieces last).map some).take n ++
          List.replicate (n - (pieceRecords pieces last).length) none := by
  induction hlength : s.length using Nat.strong_induction_on generalizing s with
  | _ k ih =>
    obtain ⟨hnext, hinfix⟩ | ⟨record, rest, hnext, hcut⟩ := next_cases h s
    · refine ⟨[], s, ⟨rfl, nofun, hinfix⟩, fun n => ?_⟩
      cases n with
      | zero => simp [takeEach]
      | succ n =>
        rw [List.replicate_succ, takeEach, hnext, takeEach_nil]
        by_cases hs : s = [] <;> simp [pieceRecords, leftover, hs, List.replicate_succ]
    · have hlt : rest.length < k := hlength ▸ next_length hnext
      obtain ⟨pieces, last, hsplit, hreads⟩ := ih rest.length hlt rest rfl
      refine ⟨record :: pieces, last, hsplit.cons hcut, fun n => ?_⟩
      cases n with
      | zero => simp [takeEach]
      | succ n =>
        rw [List.replicate_succ, takeEach, hnext, hreads]
        simp [pieceRecords]

/-! All records of some bytes. -/

/-- The first records of some bytes, so many at most. -/
def upTo (separator : Bytes) : Nat → Bytes → List Bytes
  | 0, _ => []
  | n + 1, s => match next separator s with
    | (some record, rest) => record :: upTo separator n rest
    | (none, _) => []

/-- The records of some bytes, each of which takes up some of them. -/
def all (separator s : Bytes) : List Bytes := upTo separator s.length s

theorem upTo_of_none (h : (next separator s).1 = none) (n : Nat) : upTo separator n s = [] := by
  cases n with
  | zero => rfl
  | succ n =>
    rw [upTo]
    split
    · rename_i hsome
      rw [hsome] at h
      cases h
    · rfl

theorem upTo_of_some (h : next separator s = (some record, rest)) (n : Nat) :
    upTo separator (n + 1) s = record :: upTo separator n rest := by
  rw [upTo, h]

theorem upTo_of_le {n : Nat} (h : s.length ≤ n) : upTo separator n s = all separator s := by
  have hboth {n k : Nat} {s : Bytes} (hn : s.length ≤ n) (hk : s.length ≤ k) :
      upTo separator n s = upTo separator k s := by
    induction n generalizing k s with
    | zero =>
      obtain rfl := List.length_eq_zero_iff.mp (Nat.le_zero.mp hn)
      have hnil : (next separator []).1 = none := by simp
      rw [upTo_of_none hnil, upTo_of_none hnil]
    | succ n ih =>
      cases hnext : next separator s with
      | mk r rest =>
        cases r with
        | none => rw [upTo_of_none (by rw [hnext]), upTo_of_none (by rw [hnext])]
        | some record =>
          have hlt := next_length hnext
          obtain ⟨k, rfl⟩ := Nat.exists_eq_add_one_of_ne_zero (show k ≠ 0 by omega)
          rw [upTo_of_some hnext, upTo_of_some hnext]
          exact congrArg _ (ih (Nat.le_of_lt_succ (hlt.trans_le hn))
            (Nat.le_of_lt_succ (hlt.trans_le hk)))
  exact hboth h le_rfl

theorem all_of_some (h : next separator s = (some record, rest)) :
    all separator s = record :: all separator rest := by
  have hlt := next_length h
  rw [← upTo_of_le (Nat.le_succ s.length), upTo_of_some h, upTo_of_le hlt.le]

theorem all_of_none (h : (next separator s).1 = none) : all separator s = [] := upTo_of_none h _

end Awk.Records
