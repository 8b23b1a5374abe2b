import Awk.Proofs.Grammar.Numbering
import Awk.Proofs.Ranges.Blind

/-! What the test of a range does: which of its ends are evaluated, and what becomes of its state.
The states of the other ranges stay as they are, and so does what the other patterns answer, unless
an end has side effects. -/

namespace Awk

open Machine Run

/-- Whether a range is between its ends. -/
def Machine.active (m : Machine) (id : Nat) : Bool := m.ranges.getD id false

theorem Machine.active_congr {m m' : Machine} (h : m'.ranges = m.ranges) (id : Nat) :
    m'.active id = m.active id := congrArg (·.getD id false) h

namespace Inner

/-- Whether a pattern selects the record, if that does not run out of fuel. -/
def answer (self : Inner) (p : Pattern) (m : Machine) : Option Bool :=
  match self.selects p m with
  | .ok selected _ => some selected
  | .error _ _ => none

theorem answer_eq {self : Inner} {p : Pattern} {m m' : Machine} {b : Bool}
    (h : self.selects p m = .ok b m') : self.answer p m = some b := by
  unfold answer
  rw [h]

/-- Testing `p` leaves what `q` answers as it is. -/
def Unaffected (self : Inner) (p q : Pattern) (m : Machine) : Prop :=
  match self.selects p m with
  | .ok _ m' => self.answer q m' = self.answer q m
  | .error _ _ => True

instance (self : Inner) (p q : Pattern) (m : Machine) : Decidable (self.Unaffected p q m) := by
  unfold Unaffected
  split <;> infer_instance

theorem Unaffected.answer_eq {self : Inner} {p q : Pattern} {m m' : Machine} {b : Bool}
    (h : self.Unaffected p q m) (hp : self.selects p m = .ok b m') :
    self.answer q m' = self.answer q m := by
  unfold Unaffected at h
  rw [hp] at h
  exact h

/-- The test of a range: it is skipped over, opened or gone through. The last test of it decides
whether it goes on. -/
inductive RangeStep (self : Inner) (id : Nat) (first last : Pattern) (m : Machine) :
    Bool → Machine → Prop
  | skipped {m' : Machine} : m.active id = false →
      self.selects first m = .ok false m' → RangeStep self id first last m false m'
  | opened {ends : Bool} {m₁ m₂ : Machine} : m.active id = false →
      self.selects first m = .ok true m₁ → self.selects last m₁ = .ok ends m₂ →
      RangeStep self id first last m true (setRange id (!ends) m₂).2
  | inside {ends : Bool} {m₂ : Machine} : m.active id = true →
      self.selects last m = .ok ends m₂ →
      RangeStep self id first last m true (setRange id (!ends) m₂).2

/-- The test of a range, once it is known whether the range has begun. -/
def finishRange (self : Inner) (id : Nat) (last : Pattern) (starts : Bool) : Run Bool := do
  if starts then
    let ends ← self.selects last
    setRange id (!ends)
    return true
  else return false

theorem selects_range (self : Inner) (id : Nat) (first last : Pattern) (m : Machine) :
    self.selects (.range id first last) m =
      if m.active id then self.finishRange id last true m
      else (self.selects first >>= self.finishRange id last) m := by
  have hread : self.selects (.range id first last) m =
      (if m.active id then self.finishRange id last true
        else self.selects first >>= self.finishRange id last : Run Bool) m := rfl
  rw [hread]
  split <;> rfl

theorem finishRange_ok {self : Inner} {id : Nat} {last : Pattern} {m m' : Machine} {b : Bool}
    (h : self.finishRange id last true m = .ok b m') :
    ∃ ends m₁, self.selects last m = .ok ends m₁ ∧ b = true ∧ m' = (setRange id (!ends) m₁).2 := by
  obtain ⟨ends, m₁, hlast, h⟩ := bind_eq_ok h
  cases h
  exact ⟨ends, m₁, hlast, rfl, rfl⟩

theorem rangeStep {self : Inner} {id : Nat} {first last : Pattern} {m m' : Machine} {b : Bool}
    (h : self.selects (.range id first last) m = .ok b m') :
    RangeStep self id first last m b m' := by
  rw [selects_range] at h
  split at h
  · rename_i hactive
    obtain ⟨ends, m₁, hlast, rfl, rfl⟩ := finishRange_ok h
    exact .inside hactive hlast
  · rename_i hactive
    have hactive : m.active id = false := Bool.eq_false_iff.mpr hactive
    obtain ⟨starts, m₁, hfirst, h⟩ := bind_eq_ok h
    cases starts with
    | false =>
      cases h
      exact .skipped hactive hfirst
    | true =>
      obtain ⟨ends, m₂, hlast, rfl, rfl⟩ := finishRange_ok h
      exact .opened hactive hfirst hlast

/-- A range selects a record where it has begun before or begins. -/
theorem RangeStep.selected_iff {self : Inner} {id : Nat} {first last : Pattern} {m m' : Machine}
    {b : Bool} (h : RangeStep self id first last m b m') :
    b = true ↔ m.active id = true ∨ self.answer first m = some true := by
  cases h with
  | skipped hactive hfirst => simp [hactive, answer_eq hfirst]
  | opened hactive hfirst hlast => simp [answer_eq hfirst]
  | inside hactive hlast => simp [hactive]

/-- A range with a number for its state takes no more room. -/
theorem setRange_eq {id : Nat} {m : Machine} (hid : id < m.ranges.length) (active : Bool) :
    (setRange id active m).2 = m.withRanges (m.ranges.set id active) := by
  have hnone : id + 1 - m.ranges.length = 0 := by omega
  show m.withRanges ((m.ranges ++ List.replicate (id + 1 - m.ranges.length) false).set id active) = _
  rw [hnone, List.replicate_zero, List.append_nil]

/-- Neither end of a range has side effects from `m` that change what `q` answers. -/
def Harmless (self : Inner) (first last q : Pattern) (m : Machine) : Prop :=
  self.Unaffected last q m ∧
    match self.selects first m with
    | .ok _ m' => self.answer q m' = self.answer q m ∧ self.Unaffected last q m'
    | .error _ _ => True

instance (self : Inner) (first last q : Pattern) (m : Machine) :
    Decidable (self.Harmless first last q m) := by
  unfold Harmless
  split <;> infer_instance

theorem Harmless.first_ok {self : Inner} {first last q : Pattern} {m m' : Machine} {b : Bool}
    (h : self.Harmless first last q m) (hfirst : self.selects first m = .ok b m') :
    self.answer q m' = self.answer q m ∧ self.Unaffected last q m' := by
  have hafter := h.2
  rw [hfirst] at hafter
  exact hafter

theorem Harmless.first {self : Inner} {first last q : Pattern} {m : Machine}
    (h : self.Harmless first last q m) : self.Unaffected first q m := by
  have hafter := h.2
  unfold Unaffected
  split at hafter
  · exact hafter.1
  · trivial

section

variable {n id : Nat} {first last q : Pattern} {m m' : Machine} {b : Bool}

/-- A pattern without ranges leaves the ranges as they are. -/
theorem ranges_eq_of_selects {p : Pattern} (hp : p.ranges = [])
    (h : (withFuel n).selects p m = .ok b m') : m'.ranges = m.ranges := by
  have hsame := (rangeless_selects n hp m).ranges_eq
  rw [h] at hsame
  exact hsame

/-- A test that runs out of fuel has set no range. -/
theorem ranges_eq_of_error {p : Pattern} (hp : p.Shallow) {e : OutOfFuel}
    (h : (withFuel n).selects p m = .error e m') : m'.ranges = m.ranges := by
  have hflat {p : Pattern} (hp : p.ranges = []) {m : Machine}
      (h : (withFuel n).selects p m = .error e m') : m'.ranges = m.ranges := by
    have hsame := (rangeless_selects n hp m).ranges_eq
    rw [h] at hsame
    exact hsame
  cases p with
  | range id first last =>
    obtain ⟨hfirst, hlast⟩ := hp
    have hfinish {starts : Bool} {m : Machine}
        (h : (withFuel n).finishRange id last starts m = .error e m') : m'.ranges = m.ranges := by
      cases starts with
      | false => cases h
      | true =>
        cases hended : (withFuel n).selects last m with
        | error e₁ m₁ =>
          have hsame : (withFuel n).finishRange id last true m = .error e₁ m₁ := bind_error hended
          rw [hsame] at h
          cases h
          exact hflat hlast hended
        | ok ends m₁ =>
          have hsame : (withFuel n).finishRange id last true m =
            .ok true (setRange id (!ends) m₁).2 := bind_ok hended
          rw [hsame] at h
          cases h
    rw [selects_range] at h
    split at h
    · exact hfinish h
    · cases hstarted : (withFuel n).selects first m with
      | error e₁ m₁ =>
        rw [bind_error hstarted] at h
        cases h
        exact hflat hfirst hstarted
      | ok starts m₁ =>
        rw [bind_ok hstarted] at h
        exact (hfinish h).trans (ranges_eq_of_selects hfirst hstarted)
  | _ => exact hflat hp h

/-- It answers the same whatever the ranges are. -/
theorem answer_withRanges (hq : q.ranges = []) (rs : List Bool) :
    (withFuel n).answer q (m.withRanges rs) = (withFuel n).answer q m := by
  unfold answer
  rw [(rangeless_selects n hq m).blind rs]
  cases (withFuel n).selects q m <;> rfl

namespace RangeStep

variable (h : RangeStep (withFuel n) id first last m b m') (hfirst : first.ranges = [])
  (hlast : last.ranges = []) (hid : id < m.ranges.length)

include h hfirst hlast hid

/-- Where a range is not skipped over, its last end decides whether it goes on, after the first end
or without it. -/
theorem cases_ends :
    b = false ∧ (withFuel n).selects first m = .ok false m' ∧ m.active id = false ∨
      ∃ ends m₁ m₂, b = true ∧ (m₁ = m ∨ (withFuel n).selects first m = .ok true m₁) ∧
        (withFuel n).selects last m₁ = .ok ends m₂ ∧
        m' = m₂.withRanges (m.ranges.set id (!ends)) := by
  cases h with
  | skipped hactive hskipped => exact .inl ⟨rfl, hskipped, hactive⟩
  | @opened ends m₁ m₂ hactive hopened hended =>
    have h₁ : m₁.ranges = m.ranges := ranges_eq_of_selects hfirst hopened
    have h₂ : m₂.ranges = m.ranges := (ranges_eq_of_selects hlast hended).trans h₁
    refine .inr ⟨ends, m₁, m₂, rfl, .inr hopened, hended, ?_⟩
    rw [← h₂] at hid ⊢
    exact setRange_eq hid _
  | @inside ends m₂ hactive hended =>
    have h₂ : m₂.ranges = m.ranges := ranges_eq_of_selects hlast hended
    refine .inr ⟨ends, m, m₂, rfl, .inl rfl, hended, ?_⟩
    rw [← h₂] at hid ⊢
    exact setRange_eq hid _

theorem length_eq : m'.ranges.length = m.ranges.length := by
  obtain ⟨-, hskipped, -⟩ | ⟨ends, m₁, m₂, -, -, -, rfl⟩ := h.cases_ends hfirst hlast hid
  · rw [ranges_eq_of_selects hfirst hskipped]
  · exact List.length_set

theorem active_ne {other : Nat} (hne : other ≠ id) : m'.active other = m.active other := by
  obtain ⟨-, hskipped, -⟩ | ⟨ends, m₁, m₂, -, -, -, rfl⟩ := h.cases_ends hfirst hlast hid
  · exact active_congr (ranges_eq_of_selects hfirst hskipped) other
  · show (m.ranges.set id (!ends)).getD other false = m.ranges.getD other false
    rw [List.getD_eq_getElem?_getD, List.getD_eq_getElem?_getD, List.getElem?_set_ne hne.symm]

/-- A range goes on where it selects a record that its last end does not. -/
theorem active_iff (hlast' : (withFuel n).Unaffected first last m) :
    m'.active id = true ↔ b = true ∧ (withFuel n).answer last m ≠ some true := by
  obtain ⟨rfl, hskipped, hactive⟩ | ⟨ends, m₁, m₂, rfl, h₁, hended, rfl⟩ :=
    h.cases_ends hfirst hlast hid
  · rw [active_congr (ranges_eq_of_selects hfirst hskipped) id, hactive]
    simp
  · have hanswer : (withFuel n).answer last m = some ends := by
      rcases h₁ with rfl | hopened
      · exact Inner.answer_eq hended
      · rw [← hlast'.answer_eq hopened]
        exact Inner.answer_eq hended
    have hset : (m₂.withRanges (m.ranges.set id (!ends))).active id = !ends := by
      show (m.ranges.set id (!ends)).getD id false = !ends
      rw [List.getD_eq_getElem?_getD, List.getElem?_set_self hid]
      rfl
    rw [hset, hanswer]
    simp

/-- Where the ends have no side effects, other patterns answer as they did before. -/
theorem answer_eq (hq : q.ranges = []) (hquiet : (withFuel n).Harmless first last q m) :
    (withFuel n).answer q m' = (withFuel n).answer q m := by
  obtain ⟨-, hskipped, -⟩ | ⟨ends, m₁, m₂, -, rfl | hopened, hended, rfl⟩ :=
    h.cases_ends hfirst hlast hid
  · exact (hquiet.first_ok hskipped).1
  · rw [answer_withRanges hq]
    exact hquiet.1.answer_eq hended
  · rw [answer_withRanges hq]
    obtain ⟨hopens, hends⟩ := hquiet.first_ok hopened
    exact (hends.answer_eq hended).trans hopens

end RangeStep

end

end Inner

end Awk
