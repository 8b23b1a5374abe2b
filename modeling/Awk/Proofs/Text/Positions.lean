import Awk.Proofs.Number.Rounding
import Awk.Text.Position

/-! Characters by position. What `substring` cuts out are exactly the characters whose positions,
counted from 1, lie in a window, wherever that begins and ends; and a text that occurs in another
one stands at the positions that `index` says. -/

namespace Awk.Position

variable {p q : Int → Prop} [DecidablePred p] [DecidablePred q]
  {s before word after needle : List Char}

/-- The characters at the positions of which `p` holds. -/
def select (p : Int → Prop) [DecidablePred p] (s : List Char) : List Char :=
  ((s.zipIdx 1).filter fun (_, k) => p k).map Prod.fst

theorem select_congr (h : ∀ k : Int, 1 ≤ k → k ≤ s.length → (p k ↔ q k)) :
    select p s = select q s := by
  unfold select
  refine congrArg _ (List.filter_congr fun (c, k) hk => ?_)
  obtain ⟨hlow, hhigh, -⟩ := List.mem_zipIdx hk
  exact decide_eq_decide.mpr (h k (by omega) (by omega))

/-- A stretch of which `p` holds, between characters of which it does not. -/
theorem select_stretch
    (hbefore : ∀ k : Int, 1 ≤ k → k ≤ before.length → ¬ p k)
    (hword : ∀ k : Int, before.length < k → k ≤ before.length + word.length → p k)
    (hafter : ∀ k : Int, before.length + word.length < k →
      k ≤ before.length + word.length + after.length → ¬ p k) :
    select p (before ++ word ++ after) = word := by
  have hnone : (before.zipIdx 1).filter (fun (_, k) => p k) = [] := by
    refine List.filter_eq_nil_iff.mpr fun (c, k) hk => ?_
    obtain ⟨hlow, hhigh, -⟩ := List.mem_zipIdx hk
    exact decide_eq_true_iff.not.mpr (hbefore k (by omega) (by omega))
  have hall : (word.zipIdx (1 + before.length)).filter (fun (_, k) => p k) =
      word.zipIdx (1 + before.length) := by
    refine List.filter_eq_self.mpr fun (c, k) hk => ?_
    obtain ⟨hlow, hhigh, -⟩ := List.mem_zipIdx hk
    exact decide_eq_true (hword k (by omega) (by omega))
  have hrest : (after.zipIdx (1 + (before ++ word).length)).filter (fun (_, k) => p k) = [] := by
    refine List.filter_eq_nil_iff.mpr fun (c, k) hk => ?_
    obtain ⟨hlow, hhigh, -⟩ := List.mem_zipIdx hk
    rw [List.length_append] at hlow hhigh
    exact decide_eq_true_iff.not.mpr (hafter k (by omega) (by omega))
  rw [select, List.zipIdx_append, List.zipIdx_append, List.filter_append, List.filter_append, hnone,
    hall, hrest, List.nil_append, List.append_nil, List.zipIdx_map_fst]

/-- A window of a text, by dropping what is before it and taking its length. -/
theorem take_drop_eq_select (first stop : Int) (h : 1 ≤ first) (s : List Char) :
    (s.drop (first - 1).toNat).take (stop - first).toNat =
      select (fun k => first ≤ k ∧ k < stop) s := by
  have hsplit : s = s.take (first - 1).toNat ++
      (s.drop (first - 1).toNat).take (stop - first).toNat ++
      (s.drop (first - 1).toNat).drop (stop - first).toNat := by
    rw [List.append_assoc, List.take_append_drop, List.take_append_drop]
  conv_rhs => rw [hsplit]
  rw [select_stretch]
  all_goals
    intro k
    simp only [List.length_take, List.length_drop]
    omega

section

variable {start : Float} {i n : Int}

/-- From an integer on, as many characters as another one says. -/
theorem substring_eq_select {length : Float} (hstart : Float.rounded start = .int i)
    (hlength : Float.rounded length = .int n) (s : List Char) :
    substring s start (some length) = select (fun k => i ≤ k ∧ k < i + n) s := by
  simp only [substring, hstart, Option.map_some, hlength, lower, upper]
  rw [take_drop_eq_select _ _ (by omega)]
  exact select_congr fun k _ _ => by omega

/-- From an integer to the end. -/
theorem substring_eq_select_end (hstart : Float.rounded start = .int i) (s : List Char) :
    substring s start none = select (fun k => i ≤ k) s := by
  simp only [substring, hstart, Option.map_none, lower, upper]
  rw [take_drop_eq_select _ _ (by omega)]
  exact select_congr fun k _ _ => by omega

/-- A stretch of a text is cut out by its position and its length. -/
theorem substring_stretch {length : Float}
    (hstart : Float.rounded start = .int (before.length + 1 : Nat))
    (hlength : Float.rounded length = .int word.length) :
    substring (before ++ word ++ after) start (some length) = word := by
  rw [substring_eq_select hstart hlength]
  exact select_stretch (fun k => by omega) (fun k => by omega) fun k => by omega

end

/-! Where a text occurs. -/

theorem exists_of_index_go {place : Nat} (h : index.go needle place s ≠ 0) :
    ∃ before after, s = before ++ needle ++ after ∧
      index.go needle place s = place + before.length := by
  induction s generalizing place with
  | nil =>
    rw [index.go] at h ⊢
    split at h
    · rename_i hempty
      rw [List.isEmpty_iff.mp hempty]
      exact ⟨[], [], rfl, rfl⟩
    · exact absurd rfl h
  | cons c r ih =>
    rw [index.go] at h ⊢
    split at h
    · rename_i hprefix
      obtain ⟨after, hafter⟩ := List.isPrefixOf_iff_prefix.mp hprefix
      rw [if_pos hprefix]
      exact ⟨[], after, hafter.symm, rfl⟩
    · rename_i hprefix
      obtain ⟨before, after, hs, hplace⟩ := ih h
      rw [if_neg hprefix, hplace, hs]
      exact ⟨c :: before, after, rfl, by rw [List.length_cons]; omega⟩

/-- A text that is found stands in the other one, at the position that is said. -/
theorem exists_of_index (h : index needle s ≠ 0) :
    ∃ before after, s = before ++ needle ++ after ∧ index needle s = before.length + 1 := by
  obtain ⟨before, after, hs, hplace⟩ := exists_of_index_go h
  exact ⟨before, after, hs, hplace.trans (Nat.add_comm ..)⟩

end Awk.Position
