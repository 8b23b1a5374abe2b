import Awk.Proofs.Expression.Spelling

/-! The evaluation by precedence in any algebra. With trees for operands it only puts operators over
operands; where that comes to a tree, in any other algebra it computes the value of the tree. -/

namespace Awk

namespace Algebra

variable {μ : Type → Type} {ι : Type} [Monad μ] (A : Algebra μ ι)

/-- The operand that stands for nothing. -/
def blank : μ ι := A.operand (.value .empty)

def reduce (f : Frame ι) : μ (Frame ι) :=
  match f.takeReduction? with
  | some (r, f) => do return f.complete (← A.apply r)
  | none => do
    A.malformed
    return Frame.empty.pushOperand (← A.blank)

def reduceWhile (p : Frame ι → Bool) : Nat → Frame ι → μ (Frame ι)
  | 0, f => return f
  | n + 1, f => do if p f then reduceWhile p n (← A.reduce f) else return f

def pushOperator (o : Operator) (f : Frame ι) : μ (Frame ι) := do
  if o.isBefore then return f.pushOp o
  else return (← A.reduceWhile (·.shouldReduce o) f.pending.length f).pushOp o

def pushOperand (i : ι) (f : Frame ι) : μ (Frame ι) := do
  if f.value then return (← A.pushOperator .concat f).pushOperand i
  else return f.pushOperand i

def pushTerm : Term → Frame ι → μ (Frame ι)
  | .op o, f => A.pushOperator o f
  | t, f => do A.pushOperand (← A.operand t) f

def pushTerms : List Term → Frame ι → μ (Frame ι)
  | [], f => return f
  | t :: ts, f => do pushTerms ts (← A.pushTerm t f)

/-- What is left on a frame whose operators are applied. -/
def result (f : Frame ι) : μ ι := do
  if f.slots.isEmpty then A.blank
  else match f.result? with
    | some i => return i
    | none => do
      A.malformed
      A.blank

def finish (f : Frame ι) : μ ι := do
  A.result (← A.reduceWhile Frame.hasPending f.pending.length f)

/-- Evaluates an expression by precedence. -/
def run (e : Expr) : μ ι := do A.finish (← A.pushTerms e .empty)

theorem pushTerm_operand {t : Term} (ht : ∀ o, t ≠ .op o) (f : Frame ι) :
    A.pushTerm t f = (do A.pushOperand (← A.operand t) f) := by
  cases t with
  | op o => exact absurd rfl (ht o)
  | _ => rfl

end Algebra

/-- Whether the operator is one for that many operands. -/
def Reduction.fits : Reduction ι → Bool
  | .unary o _ => o.fixity ≠ .between
  | .binary o _ _ => o.fixity = .between

namespace Tree

/-- Puts operators over their operands. -/
def algebra : Algebra Option Tree where
  operand t := some (operand t)
  apply r := if r.fits then some (ofReduction r) else none
  malformed := none

/-- The tree that precedence gives an expression, if it has a structure. -/
def build (e : Expr) : Option Tree := algebra.run e

end Tree

section Evaluation

variable {μ : Type → Type} {ι : Type} [Monad μ] (A : Algebra μ ι)

/-- The values of what stands on a frame of trees, computed from left to right. -/
def evalSlots : List (Slot Tree) → μ (List (Slot ι))
  | [] => return []
  | .op o :: slots => do return .op o :: (← evalSlots slots)
  | .operand t :: slots => do
    let slots ← evalSlots slots
    return .operand (← t.evaluate A) :: slots

def Frame.eval (f : Frame Tree) : μ (Frame ι) := do
  return ⟨← evalSlots A f.slots, f.pending, f.value⟩

end Evaluation

variable {μ : Type → Type} {ι : Type}

/-- What the innermost operator is applied to, by where it stands. -/
theorem Frame.takeReduction_cases {f g : Frame ι} {r : Reduction ι}
    (h : f.takeReduction? = some (r, g)) :
    ∃ slots, g = { f with slots } ∧
      ((∃ o i, o.isBefore ∧ r = .unary o i ∧ f.slots = .operand i :: .op o :: slots) ∨
       (∃ o i, o.isAfter ∧ r = .unary o i ∧ f.slots = .op o :: .operand i :: slots) ∨
       (∃ o i j, ¬ o.isBefore ∧ r = .binary o i j ∧
        f.slots = .operand j :: .op o :: .operand i :: slots)) := by
  obtain ⟨slots, pending, value⟩ := f
  unfold Frame.takeReduction? at h
  split at h
  · rename_i i o slots hs
    split at h
    · rename_i ho
      cases h
      exact ⟨slots, rfl, .inl ⟨o, i, ho, rfl, hs⟩⟩
    · rename_i ho
      split at h
      · rename_i left slots
        cases h
        exact ⟨slots, rfl, .inr (.inr ⟨o, left, i, ho, rfl, hs⟩)⟩
      · cases h
  · rename_i o i slots hs
    split at h
    · rename_i ho
      cases h
      exact ⟨slots, rfl, .inr (.inl ⟨o, i, ho, rfl, hs⟩)⟩
    · cases h
  · cases h

/-- A step on trees takes the innermost operator with its operands, which it is made for. -/
theorem Tree.reduce_cases {f f' : Frame Tree} (h : algebra.reduce f = some f') :
    ∃ r slots, f.takeReduction? = some (r, { f with slots }) ∧ r.fits ∧
      f' = Frame.complete { f with slots } (ofReduction r) := by
  unfold Algebra.reduce at h
  split at h
  · rename_i r g hr
    obtain ⟨slots, rfl, -⟩ := Frame.takeReduction_cases hr
    obtain ⟨t, ht, hf'⟩ := Option.bind_eq_some_iff.mp h
    simp only [algebra] at ht
    split at ht
    · rename_i hfits
      cases ht
      cases hf'
      exact ⟨r, slots, hr, hfits, rfl⟩
    · cases ht
  · cases h

theorem Tree.pushOperator_value {o : Operator} {f f' : Frame Tree}
    (h : algebra.pushOperator o f = some f') : f'.value = o.isAfter := by
  unfold Algebra.pushOperator at h
  split at h
  · cases h
    rfl
  · obtain ⟨g, -, hf'⟩ := Option.bind_eq_some_iff.mp h
    cases hf'
    rfl

theorem Tree.pushOperand_value {t : Tree} {f f' : Frame Tree}
    (h : algebra.pushOperand t f = some f') : f'.value = true := by
  unfold Algebra.pushOperand at h
  split at h
  · obtain ⟨g, -, hf'⟩ := Option.bind_eq_some_iff.mp h
    cases hf'
    rfl
  · cases h
    rfl

/-- A frame knows whether an operand stands last on it. -/
theorem Tree.pushTerm_value {t : Term} {f f' : Frame Tree}
    (h : algebra.pushTerm t f = some f') : f'.value = t.leavesValue := by
  obtain ⟨o, rfl⟩ | hop := t.op_or_operand
  · exact pushOperator_value h
  · rw [Algebra.pushTerm_operand _ hop] at h
    rw [Expr.leavesValue_operand hop]
    exact pushOperand_value h

section Lawful

variable [Monad μ] [LawfulMonad μ] (A : Algebra μ ι)

open Awk.Tree (algebra build)

theorem Frame.eval_pushOp (o : Operator) (f : Frame Tree) :
    (do return (← f.eval A).pushOp o) = (f.pushOp o).eval A := by
  simp [Frame.eval, Frame.pushOp, evalSlots]

theorem Frame.eval_pushOperand (t : Tree) (f : Frame Tree) :
    (do let f ← f.eval A; return f.pushOperand (← t.evaluate A)) = (f.pushOperand t).eval A := by
  simp [Frame.eval, Frame.pushOperand, evalSlots]

namespace Algebra

/-- Putting an operator over its operands on a frame of trees is applying it to their values. -/
theorem eval_reduce {f f' : Frame Tree} (h : algebra.reduce f = some f') :
    (do A.reduce (← f.eval A)) = f'.eval A := by
  obtain ⟨r, slots, hr, -, rfl⟩ := Tree.reduce_cases h
  obtain ⟨_, hg, ⟨o, t, ho, rfl, hs⟩ | ⟨o, t, ho, rfl, hs⟩ | ⟨o, l, t, ho, rfl, hs⟩⟩ :=
    Frame.takeReduction_cases hr
  · cases hg
    simp [Frame.eval, hs, evalSlots, reduce, Frame.takeReduction?, ho, Frame.complete,
      Frame.pushOperand, Tree.ofReduction, Tree.evaluate]
  · cases hg
    have hb := Operator.not_isBefore_of_isAfter ho
    simp [Frame.eval, hs, evalSlots, reduce, Frame.takeReduction?, ho, hb, Frame.complete,
      Frame.pushOperand, Tree.ofReduction, Tree.evaluate]
  · cases hg
    simp [Frame.eval, hs, evalSlots, reduce, Frame.takeReduction?, ho, Frame.complete,
      Frame.pushOperand, Tree.ofReduction, Tree.evaluate]

theorem eval_reduceWhile {p : Frame Tree → Bool} {q : Frame ι → Bool}
    (hpq : ∀ f slots, q ⟨slots, f.pending, f.value⟩ = p f) (n : Nat) {f f' : Frame Tree}
    (h : algebra.reduceWhile p n f = some f') :
    (do A.reduceWhile q n (← f.eval A)) = f'.eval A := by
  induction n generalizing f with
  | zero =>
    cases h
    simp [reduceWhile]
  | succ n ih =>
    have htest : (do A.reduceWhile q (n + 1) (← f.eval A)) =
        if p f then (do A.reduceWhile q n (← A.reduce (← f.eval A))) else f.eval A := by
      simp only [Frame.eval, reduceWhile, bind_assoc, pure_bind, hpq]
      split <;> simp
    rw [htest]
    unfold reduceWhile at h
    split at h
    · rename_i hp
      obtain ⟨g, hg, hf'⟩ := Option.bind_eq_some_iff.mp h
      rw [if_pos hp, ← ih hf', ← eval_reduce A hg, bind_assoc]
    · rename_i hp
      cases h
      rw [if_neg hp]

theorem eval_pushOperator (o : Operator) {f f' : Frame Tree}
    (h : algebra.pushOperator o f = some f') :
    (do A.pushOperator o (← f.eval A)) = f'.eval A := by
  unfold pushOperator at h
  split at h
  · rename_i ho
    cases h
    rw [← Frame.eval_pushOp]
    simp only [pushOperator, ho, if_true]
  · rename_i ho
    obtain ⟨g, hg, hf'⟩ := Option.bind_eq_some_iff.mp h
    cases hf'
    have hloop := eval_reduceWhile (q := (·.shouldReduce o)) A (fun _ _ => rfl) _ hg
    rw [← Frame.eval_pushOp, ← hloop]
    simp [Frame.eval, pushOperator, ho]

theorem eval_pushTerm {t : Term} {f f' : Frame Tree} (h : algebra.pushTerm t f = some f')
    (hf : f.value → ∃ o, t = .op o) : (do A.pushTerm t (← f.eval A)) = f'.eval A := by
  obtain ⟨o, rfl⟩ | hop := t.op_or_operand
  · exact eval_pushOperator A o h
  · have hv : f.value = false := Bool.eq_false_iff.mpr fun hv =>
      have ⟨o, he⟩ := hf hv
      hop o he
    rw [pushTerm_operand _ hop] at h
    simp [algebra, pushOperand, hv] at h
    rw [← h, ← Frame.eval_pushOperand]
    simp [Frame.eval, pushTerm_operand _ hop, pushOperand, hv, Tree.evaluate]

theorem eval_pushTerms {e : Expr} {f f' : Frame Tree} (h : algebra.pushTerms e f = some f')
    (he : e.explicit f.value = e) : (do A.pushTerms e (← f.eval A)) = f'.eval A := by
  induction e generalizing f with
  | nil =>
    cases h
    simp [pushTerms]
  | cons t e ih =>
    obtain ⟨g, hg, hf'⟩ := Option.bind_eq_some_iff.mp h
    obtain ⟨ht, he⟩ := Expr.explicit_cons he
    rw [← Tree.pushTerm_value hg] at he
    rw [← ih hf' he, ← eval_pushTerm A hg ht, bind_assoc]
    rfl

theorem eval_finish {f : Frame Tree} {t : Tree} (h : algebra.finish f = some t) :
    (do A.finish (← f.eval A)) = t.evaluate A := by
  obtain ⟨g, hg, ht⟩ := Option.bind_eq_some_iff.mp h
  have hloop := eval_reduceWhile (q := Frame.hasPending) A (fun _ _ => rfl) _ hg
  have hresult : (do A.result (← g.eval A)) = t.evaluate A := by
    obtain ⟨slots, pending, value⟩ := g
    match slots with
    | [] =>
      cases ht
      simp [Frame.eval, evalSlots, result, blank, Tree.evaluate]
    | [.operand u] =>
      cases ht
      simp [Frame.eval, evalSlots, result, Frame.result?]
    | [.op o] => cases ht
    | .operand u :: s :: slots => cases ht
    | .op o :: s :: slots => cases ht
  rw [← hresult, ← hloop]
  simp [Frame.eval, finish]

/-- Where an expression has a tree, its value in any algebra is that of the tree. -/
theorem run_eq_evaluate {e : Expr} {t : Tree} (h : Tree.build e = some t)
    (he : e.explicit false = e) : A.run e = t.evaluate A := by
  obtain ⟨f, hf, ht⟩ := Option.bind_eq_some_iff.mp h
  rw [← eval_finish A ht, ← eval_pushTerms A hf he]
  simp [Frame.eval, run, Frame.empty, evalSlots]

end Algebra

end Lawful

end Awk
