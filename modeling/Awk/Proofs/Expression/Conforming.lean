import Awk.Proofs.Expression.Build

/-! Trees as the grammar derives them. Precedence keeps their operators apart but for one case: a
sign at the right end of what a power or a step is applied to. -/

namespace Awk

namespace Operator

/-- A sign, or `!`. -/
def isSign (o : Operator) : Bool := o = .plus || o = .neg || o = .not

theorem precedence_le (o : Operator) : o.precedence ≤ 15 := by
  cases o <;> decide

/-- Between three and twelve all operators of a precedence group to the left. -/
theorem leftToRight_of_precedence {o : Operator} (h : 3 ≤ o.precedence) (h' : o ≠ .pow) :
    o.associativity = .leftToRight := by
  cases o <;> first | rfl | contradiction

theorem bindsTighter_of_lt {q p : Operator} (h : p.precedence < q.precedence) :
    q.bindsTighter p := by
  simp [bindsTighter, h]

theorem bindsTighter_of_le {q p : Operator} (h : p.precedence ≤ q.precedence)
    (hp : p.associativity = .leftToRight) : q.bindsTighter p := by
  rcases Nat.lt_or_eq_of_le h with hlt | heq
  · exact bindsTighter_of_lt hlt
  · simp [bindsTighter, heq, hp]

theorem not_bindsTighter_of_lt {q p : Operator} (h : q.precedence < p.precedence) :
    ¬ q.bindsTighter p := by
  have hle : ¬ p.precedence < q.precedence := by omega
  have hne : q.precedence ≠ p.precedence := by omega
  simp [bindsTighter, hle, hne]

theorem not_bindsTighter_of_le {q p : Operator} (h : q.precedence ≤ p.precedence)
    (hp : p.associativity = .rightToLeft) : ¬ q.bindsTighter p := by
  have hle : ¬ p.precedence < q.precedence := by omega
  simp [bindsTighter, hle, hp]

/-- A sign gives way to a power and to a step. -/
theorem not_bindsTighter_of_isSign {q p : Operator} (hq : q.isSign) (hp : p = .pow ∨ p.isAfter) :
    ¬ q.bindsTighter p := by
  cases q <;> first
    | exact absurd hq (by decide)
    | (cases p <;> first | decide | exact absurd hp (by decide))

end Operator

namespace Tree

/-- Precedence keeps the operators of a tree apart, but that under a power or a step a sign may
stand on the right spine. -/
inductive Conforms : Tree → Prop
  | operand {t : Term} : (∀ o, t ≠ .op o) → Conforms (operand t)
  | before {o : Operator} {t : Tree} : o.fixity = .before → t.Conforms →
      (∀ p ∈ t.leftSpine, ¬ o.bindsTighter p) → Conforms (before o t)
  | after {t : Tree} {o : Operator} : o.fixity = .after → t.Conforms →
      ((∃ q ∈ t.rightSpine, q.isSign) ∨ ∀ q ∈ t.rightSpine, q.bindsTighter o) →
      Conforms (after t o)
  | between {o : Operator} {l r : Tree} : o.fixity = .between → l.Conforms → r.Conforms →
      ((o = .pow ∧ ∃ q ∈ l.rightSpine, q.isSign) ∨ ∀ q ∈ l.rightSpine, q.bindsTighter o) →
      (∀ p ∈ r.leftSpine, ¬ o.bindsTighter p) → Conforms (between o l r)

/-- No power and no step is applied to what has a sign on its right spine. -/
def SignFree : Tree → Prop
  | operand _ => True
  | before _ t => t.SignFree
  | after t _ => t.SignFree ∧ ∀ q ∈ t.rightSpine, ¬ q.isSign
  | between o l r => l.SignFree ∧ r.SignFree ∧ (o = .pow → ∀ q ∈ l.rightSpine, ¬ q.isSign)

theorem Conforms.placed {t : Tree} (h : t.Conforms) : t.Placed := by
  induction h with
  | operand ht => exact .operand ht
  | before ho _ _ ih => exact .before ho ih
  | after ho _ _ ih => exact .after ho ih
  | between ho _ _ _ _ ihl ihr => exact .between ho ihl ihr

theorem Conforms.separated {t : Tree} (h : t.Conforms) (hs : t.SignFree) : t.Separated := by
  induction h with
  | operand ht => exact .operand ht
  | before ho _ hleft ih => exact .before ho (ih hs) hleft
  | after ho _ hright ih =>
    obtain ⟨hs, hsign⟩ := hs
    rcases hright with ⟨q, hq, hqs⟩ | hright
    · exact absurd hqs (hsign q hq)
    · exact .after ho (ih hs) hright
  | between ho _ _ hright hleft ihl ihr =>
    obtain ⟨hsl, hsr, hsign⟩ := hs
    rcases hright with ⟨hpow, q, hq, hqs⟩ | hright
    · exact absurd hqs (hsign hpow q hq)
    · exact .between ho (ihl hsl) (ihr hsr) hright hleft

theorem Separated.signFree {t : Tree} (h : t.Separated) : t.SignFree := by
  induction h with
  | operand => trivial
  | before _ _ _ ih => exact ih
  | after ho _ hright ih =>
    refine ⟨ih, fun q hq hqs => ?_⟩
    exact Operator.not_bindsTighter_of_isSign hqs (.inr (Operator.isAfter_iff.mpr ho)) (hright q hq)
  | between _ _ _ hright _ ihl ihr =>
    refine ⟨ihl, ihr, fun hpow q hq hqs => ?_⟩
    exact Operator.not_bindsTighter_of_isSign hqs (.inl hpow) (hright q hq)

/-- A tree of the grammar is the one that precedence builds if and only if no power and no step has
a sign under it. -/
theorem Conforms.build_written_iff {t : Tree} (h : t.Conforms) :
    build t.written = some t ↔ t.SignFree := by
  rw [build_eq_some_iff h.placed.wellFormed_written h.placed.explicit_written.symm]
  exact ⟨Separated.signFree, h.separated⟩

end Tree

end Awk
