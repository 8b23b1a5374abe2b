import Awk.Proofs.Conduct.Evaluation
import Awk.Proofs.Order.Commute
import Awk.Shell.Run

/-! Concatenation that is written as nothing. An operand behind another one is evaluated before what
is pending to its left is applied, and behind an operator it is evaluated after that. So the
operator can be written out where the two commute. -/

namespace Awk

open Machine Run

namespace Algebra

variable {ι : Type} (A : Algebra Run ι)

/-- Whether each operand that stands behind another one commutes with applying what binds tighter
than a concatenation there. -/
def Interchanges : Expr → Frame ι → Machine → Prop
  | [], _, _ => True
  | t :: e, f, m =>
    ((∀ o, t ≠ .op o) → f.value → Commute (A.operand t) (A.pushOperator .concat f) m) ∧
      ∀ g m', A.pushTerm t f m = .ok g m' → Interchanges e g m'

theorem pushOperator_value {o : Operator} {f g : Frame ι} {m m' : Machine}
    (h : A.pushOperator o f m = .ok g m') : g.value = o.isAfter := by
  unfold pushOperator at h
  split at h
  · cases h
    rfl
  · obtain ⟨f₁, m₁, -, hg⟩ := bind_eq_ok h
    cases hg
    rfl

theorem pushOperand_value {i : ι} {f g : Frame ι} {m m' : Machine}
    (h : A.pushOperand i f m = .ok g m') : g.value = true := by
  unfold pushOperand at h
  split at h
  · obtain ⟨f₁, m₁, -, hg⟩ := bind_eq_ok h
    cases hg
    rfl
  · cases h
    rfl

/-- A frame knows whether an operand stands last on it. -/
theorem pushTerm_value {t : Term} {f g : Frame ι} {m m' : Machine}
    (h : A.pushTerm t f m = .ok g m') : g.value = t.leavesValue := by
  obtain ⟨o, rfl⟩ | hop := t.op_or_operand
  · exact A.pushOperator_value h
  · rw [A.pushTerm_operand hop] at h
    obtain ⟨i, m₁, -, hg⟩ := bind_eq_ok h
    rw [A.pushOperand_value hg, Expr.leavesValue_operand hop]

/-- An operand that commutes with what a concatenation applies can be evaluated behind it. -/
theorem pushTerm_concat {t : Term} (ht : ∀ o, t ≠ .op o) {f : Frame ι} (hf : f.value = true)
    {m : Machine} (h : Commute (A.operand t) (A.pushOperator .concat f) m) :
    A.pushTerm t f m = (do A.pushTerm t (← A.pushOperator .concat f) : Run (Frame ι)) m := by
  have hearly : A.pushTerm t f = (do
      let i ← A.operand t
      let g ← A.pushOperator .concat f
      return g.pushOperand i) := by
    rw [A.pushTerm_operand ht]
    simp only [pushOperand, hf, if_true]
  rw [hearly, h.bind fun i g => return g.pushOperand i]
  cases hg : A.pushOperator .concat f m with
  | error e m₁ => rw [bind_error hg, bind_error hg]
  | ok g m₁ =>
    have hlate : A.pushTerm t g = (do return g.pushOperand (← A.operand t)) := by
      rw [A.pushTerm_operand ht]
      simp [pushOperand, A.pushOperator_value hg, Operator.isAfter, Operator.fixity]
    rw [bind_ok hg, bind_ok hg, hlate]

/-- Writing the concatenations out changes nothing where each operand behind another one commutes
with what the concatenation applies. -/
theorem Interchanges.pushTerms {e : Expr} {f : Frame ι} {m : Machine} (h : A.Interchanges e f m) :
    A.pushTerms e f m = A.pushTerms (e.explicit f.value) f m := by
  induction e generalizing f m with
  | nil => rfl
  | cons t e ih =>
    obtain ⟨hcommute, hrest⟩ := h
    have htail : A.pushTerms (t :: e) f m =
        (do A.pushTerms (Expr.explicit t.leavesValue e) (← A.pushTerm t f) : Run (Frame ι)) m := by
      show (do A.pushTerms e (← A.pushTerm t f) : Run (Frame ι)) m = _
      cases hg : A.pushTerm t f m with
      | error x m₁ => rw [bind_error hg, bind_error hg]
      | ok g m₁ => rw [bind_ok hg, bind_ok hg, ih (hrest g m₁ hg), A.pushTerm_value hg]
    rw [htail, Expr.explicit_head]
    obtain ⟨o, rfl⟩ | hop := t.op_or_operand
    · rfl
    cases hf : f.value with
    | false =>
      rw [Expr.explicit_operand hop]
      rfl
    | true =>
      rw [Expr.explicit_operand hop]
      show _ = (do
        let g ← A.pushOperator .concat f
        let g ← A.pushTerm t g
        A.pushTerms (Expr.explicit t.leavesValue e) g : Run (Frame ι)) m
      rw [← bind_assoc]
      exact bind_congr_left (A.pushTerm_concat hop hf (hcommute hop hf)) _

theorem Interchanges.run {e : Expr} {m : Machine} (h : A.Interchanges e .empty m) :
    A.run e m = A.run (e.explicit false) m :=
  bind_congr_left (Interchanges.pushTerms A h) A.finish

end Algebra

/-- Whether each operand that stands behind another one is deferred, where `value` says whether an
operand stands before the expression. -/
def Expr.joinsDeferred : Bool → Expr → Bool
  | _, [] => true
  | _, .op o :: e => joinsDeferred o.isAfter e
  | value, t :: e => (!value || t.isDeferred) && joinsDeferred true e

theorem Expr.joinsDeferred_operand {t : Term} (ht : ∀ o, t ≠ .op o) (value : Bool) (e : Expr) :
    joinsDeferred value (t :: e) = ((!value || t.isDeferred) && joinsDeferred true e) := by
  cases t with
  | op o => exact absurd rfl (ht o)
  | _ => rfl

/-- A deferred operand commutes with everything. -/
theorem Inner.interchanges_of_joinsDeferred (self : Inner) {e : Expr} {f : Frame Delayed}
    (h : e.joinsDeferred f.value) (m : Machine) : self.algebra.Interchanges e f m := by
  induction e generalizing f m with
  | nil => trivial
  | cons t e ih =>
    have hrest : Expr.joinsDeferred t.leavesValue e := by
      obtain ⟨o, rfl⟩ | hop := t.op_or_operand
      · exact h
      · rw [Expr.joinsDeferred_operand hop, Bool.and_eq_true_iff] at h
        rw [Expr.leavesValue_operand hop]
        exact h.2
    refine ⟨fun hop hf => ?_, fun g m' hg => ih ?_ m'⟩
    · rw [Expr.joinsDeferred_operand hop, hf] at h
      obtain ⟨d, hd, -⟩ := self.operandOf_deferred (Bool.and_eq_true_iff.mp h).1
      have hoperand : self.algebra.operand t = pure d := hd
      rw [hoperand]
      exact .pure_left d _ m
    · rwa [self.algebra.pushTerm_value hg]

/-- Evaluating an expression is evaluating it with its concatenations written out, where each
operand that stands behind another one commutes with applying what binds tighter than the
concatenation to its left. -/
theorem evalOperand_explicit {n : Nat} {e : Expr} {m : Machine}
    (h : (Inner.withFuel n).algebra.Interchanges e .empty m) :
    evalOperand (n + 1) e m = evalOperand (n + 1) (e.explicit false) m := by
  show (do (Inner.withFuel n).settle (← (Inner.withFuel n).terms e) : Run Operand) m =
    (do (Inner.withFuel n).settle (← (Inner.withFuel n).terms (e.explicit false)) : Run Operand) m
  rw [Inner.terms_withFuel, Inner.terms_withFuel]
  exact bind_congr_left (Algebra.Interchanges.run _ h) _

/-- `x++ a["k"] y`. -/
def steppedJoin : Expr :=
  [.var "x", .op .postIncr, .element "a" [[.value ⟨"k"⟩]], .var "y"]

def joinStart : Machine := .start .empty {} (.start .empty [] .captured)

theorem interchanges_steppedJoin :
    (Inner.withFuel 2).algebra.Interchanges steppedJoin .empty joinStart := by
  refine ⟨fun _ => nofun, ?_⟩
  rintro _ _ ⟨⟩
  refine ⟨fun h => absurd rfl (h _), ?_⟩
  rintro _ _ ⟨⟩
  refine ⟨fun _ _ => rfl, ?_⟩
  rintro _ _ ⟨⟩
  refine ⟨fun _ _ => rfl, ?_⟩
  rintro _ _ ⟨⟩
  trivial

theorem evalOperand_steppedJoin :
    (Inner.withFuel 2).algebra.Interchanges steppedJoin .empty joinStart ∧
      evalOperand 3 steppedJoin joinStart =
        evalOperand 3 [.var "x", .op .postIncr, .op .concat, .element "a" [[.value ⟨"k"⟩]],
          .op .concat, .var "y"] joinStart :=
  ⟨interchanges_steppedJoin, evalOperand_explicit interchanges_steppedJoin⟩

end Awk
