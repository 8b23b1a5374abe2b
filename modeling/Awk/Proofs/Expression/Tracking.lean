import Mathlib.Data.List.Forall2
import Awk.Proofs.Expression.Stack

/-! What is kept along a tree. An evaluation of an expression that comes to a tree applies the
operators of that tree, so what holds of operands and is handed on by each operator of the tree
holds of its result. What is kept may also be that two evaluations do the same. -/

namespace Awk

open Machine Run

/-- A property of trees that all parts of a tree share with it. -/
structure Tree.Hereditary (N : Tree → Prop) : Prop where
  before : ∀ {o t}, N (.before o t) → N t
  after : ∀ {o t}, N (.after t o) → N t
  left : ∀ {o l r}, N (.between o l r) → N l
  right : ∀ {o l r}, N (.between o l r) → N r

theorem Tree.Hereditary.any : Hereditary fun _ => True :=
  ⟨fun _ => trivial, fun _ => trivial, fun _ => trivial, fun _ => trivial⟩

/-- That a value stands in `R` to the tree that it is the value of in either evaluation, where the
operands are as `P` says and the trees as `N` says. -/
structure Algebra.Tracks {ι : Type} (L : Run.Logic) (P : Term → Prop) (N : Tree → Prop)
    (R : Tree → ι → Prop) (A B : Algebra Run ι) : Prop where
  hereditary : Tree.Hereditary N
  operand : ∀ {x}, P x → (∀ o, x ≠ .op o) →
    L.holds (A.operand x) (B.operand x) (R (.operand x))
  before : ∀ {o t i}, o.fixity = .before → N (.before o t) → R t i →
    L.holds (A.apply (.unary o i)) (B.apply (.unary o i)) (R (.before o t))
  after : ∀ {o t i}, o.fixity = .after → N (.after t o) → R t i →
    L.holds (A.apply (.unary o i)) (B.apply (.unary o i)) (R (.after t o))
  between : ∀ {o l r i j}, o.fixity = .between → N (.between o l r) → R l i → R r j →
    L.holds (A.apply (.binary o i j)) (B.apply (.binary o i j)) (R (.between o l r))

/-- The same operators, and operands in relation. -/
inductive Slot.Matches {ι : Type} (R : Tree → ι → Prop) : Slot Tree → Slot ι → Prop
  | operand {t : Tree} {i : ι} : R t i → Matches R (.operand t) (.operand i)
  | op (o : Operator) : Matches R (.op o) (.op o)

structure Frame.Matches {ι : Type} (R : Tree → ι → Prop) (f : Frame Tree) (g : Frame ι) : Prop where
  slots : List.Forall₂ (Slot.Matches R) f.slots g.slots
  pending : g.pending = f.pending
  value : g.value = f.value

namespace Frame.Matches

variable {ι : Type} {R : Tree → ι → Prop} {f : Frame Tree} {g : Frame ι}

theorem pushOp (h : Matches R f g) (o : Operator) : Matches R (f.pushOp o) (g.pushOp o) :=
  ⟨.cons (.op o) h.slots, congrArg (o :: ·) h.pending, rfl⟩

theorem pushOperand (h : Matches R f g) {t : Tree} {i : ι} (ht : R t i) :
    Matches R (f.pushOperand t) (g.pushOperand i) :=
  ⟨.cons (.operand ht) h.slots, h.pending, rfl⟩

theorem complete {slots : List (Slot Tree)} {gslots : List (Slot ι)}
    (hs : List.Forall₂ (Slot.Matches R) slots gslots) (hp : g.pending = f.pending) {t : Tree}
    {i : ι} (ht : R t i) :
    Matches R ({ f with slots }.complete t) ({ g with slots := gslots }.complete i) :=
  ⟨.cons (.operand ht) hs, congrArg List.tail hp, rfl⟩

end Frame.Matches

/-- The trees that stand on a frame are as `N` says. -/
def Frame.Bears (N : Tree → Prop) (f : Frame Tree) : Prop := ∀ t, .operand t ∈ f.slots → N t

namespace Frame.Bears

open Awk.Tree (algebra)

variable {N : Tree → Prop} {f f' : Frame Tree}

theorem of_pushOp {o : Operator} (h : (f.pushOp o).Bears N) : f.Bears N :=
  fun t ht => h t (.tail _ ht)

theorem of_pushOperand {t : Tree} (h : (f.pushOperand t).Bears N) : f.Bears N :=
  fun t ht => h t (.tail _ ht)

/-- What is left on a frame is the tree that it comes to. -/
theorem of_result {t : Tree} (hf : algebra.result f = some t) (ht : N t) : f.Bears N := by
  obtain ⟨slots, pending, value⟩ := f
  match slots with
  | [] => exact nofun
  | [.operand u] =>
    cases hf
    intro v hv
    cases List.mem_singleton.mp hv
    exact ht
  | [.op o] => cases hf
  | .operand u :: s :: slots => cases hf
  | .op o :: s :: slots => cases hf

variable (hN : Tree.Hereditary N)

include hN

/-- What stands on a frame is part of what stands there later. -/
theorem of_reduce (hf : algebra.reduce f = some f') (h : f'.Bears N) : f.Bears N := by
  obtain ⟨r, slots, hr, hfits, rfl⟩ := Tree.reduce_cases hf
  have hrest (t : Tree) (ht : .operand t ∈ slots) : N t := h t (.tail _ ht)
  have hroot : N (Tree.ofReduction r) := h _ (.head _)
  obtain ⟨_, hs, ⟨o, t, ho, rfl, hfs⟩ | ⟨o, t, ho, rfl, hfs⟩ | ⟨o, l, t, ho, rfl, hfs⟩⟩ :=
    Frame.takeReduction_cases hr
  · cases hs
    rw [Tree.ofReduction, if_pos ho] at hroot
    intro u hu
    rw [hfs] at hu
    rcases List.mem_cons.mp hu with hu | hu
    · cases hu
      exact hN.before hroot
    · rcases List.mem_cons.mp hu with hu | hu
      · cases hu
      · exact hrest u hu
  · cases hs
    rw [Tree.ofReduction, if_neg (Operator.not_isBefore_of_isAfter ho)] at hroot
    intro u hu
    rw [hfs] at hu
    rcases List.mem_cons.mp hu with hu | hu
    · cases hu
    · rcases List.mem_cons.mp hu with hu | hu
      · cases hu
        exact hN.after hroot
      · exact hrest u hu
  · cases hs
    intro u hu
    rw [hfs] at hu
    rcases List.mem_cons.mp hu with hu | hu
    · cases hu
      exact hN.right hroot
    · rcases List.mem_cons.mp hu with hu | hu
      · cases hu
      · rcases List.mem_cons.mp hu with hu | hu
        · cases hu
          exact hN.left hroot
        · exact hrest u hu

theorem of_reduceWhile {p : Frame Tree → Bool} (n : Nat)
    (hf : algebra.reduceWhile p n f = some f') (h : f'.Bears N) : f.Bears N := by
  induction n generalizing f with
  | zero =>
    cases hf
    exact h
  | succ n ih =>
    unfold Algebra.reduceWhile at hf
    split at hf
    · obtain ⟨f₁, hf₁, hf⟩ := Option.bind_eq_some_iff.mp hf
      exact of_reduce hN hf₁ (ih hf)
    · cases hf
      exact h

theorem of_pushOperator {o : Operator} (hf : algebra.pushOperator o f = some f')
    (h : f'.Bears N) : f.Bears N := by
  unfold Algebra.pushOperator at hf
  split at hf
  · cases hf
    exact h.of_pushOp
  · obtain ⟨f₁, hf₁, hf⟩ := Option.bind_eq_some_iff.mp hf
    cases hf
    exact of_reduceWhile hN _ hf₁ h.of_pushOp

theorem of_pushTerm {x : Term} (hf : algebra.pushTerm x f = some f') (h : f'.Bears N) :
    f.Bears N := by
  obtain ⟨o, rfl⟩ | hop := x.op_or_operand
  · exact of_pushOperator hN hf h
  · rw [Algebra.pushTerm_operand _ hop] at hf
    have hpush : algebra.pushOperand (.operand x) f = some f' := hf
    unfold Algebra.pushOperand at hpush
    split at hpush
    · obtain ⟨f₁, hf₁, hf⟩ := Option.bind_eq_some_iff.mp hpush
      cases hf
      exact of_pushOperator hN hf₁ h.of_pushOperand
    · cases hpush
      exact h.of_pushOperand

theorem of_pushTerms {e : Expr} (hf : algebra.pushTerms e f = some f') (h : f'.Bears N) :
    f.Bears N := by
  induction e generalizing f with
  | nil =>
    cases hf
    exact h
  | cons x e ih =>
    obtain ⟨f₁, hf₁, hf⟩ := Option.bind_eq_some_iff.mp hf
    exact of_pushTerm hN hf₁ (ih hf)

theorem of_finish {t : Tree} (hf : algebra.finish f = some t) (ht : N t) : f.Bears N := by
  obtain ⟨f₁, hf₁, hf⟩ := Option.bind_eq_some_iff.mp hf
  exact of_reduceWhile hN _ hf₁ (of_result hf ht)

end Frame.Bears

namespace Algebra.Tracks

variable {ι : Type} {L : Run.Logic} {P : Term → Prop} {N : Tree → Prop} {R : Tree → ι → Prop}
  {A B : Algebra Run ι} (h : A.Tracks L P N R B)

open Awk.Tree (algebra build)
open Awk.Frame (Bears)

include h

theorem reduce {f f' : Frame Tree} {g : Frame ι} (hf : algebra.reduce f = some f')
    (hN : f'.Bears N) (hg : f.Matches R g) :
    L.holds (A.reduce g) (B.reduce g) (f'.Matches R) := by
  obtain ⟨r, slots, hr, hfits, rfl⟩ := Tree.reduce_cases hf
  have hroot : N (Tree.ofReduction r) := hN _ (.head _)
  obtain ⟨hslots, hpending, -⟩ := hg
  obtain ⟨_, hs, ⟨o, t, ho, rfl, hfs⟩ | ⟨o, t, ho, rfl, hfs⟩ | ⟨o, l, t, ho, rfl, hfs⟩⟩ :=
    Frame.takeReduction_cases hr
  · cases hs
    rw [hfs] at hslots
    obtain ⟨gslots, gpending, gvalue⟩ := g
    obtain _ | ⟨⟨ht⟩, _ | ⟨⟨⟩, hslots⟩⟩ := hslots
    simp only [Algebra.reduce, Frame.takeReduction?, ho, if_true, Tree.ofReduction] at hroot ⊢
    refine L.bind (h.before (Operator.isBefore_iff.mp ho) hroot ht) fun i hi => L.pure ?_
    exact Frame.Matches.complete (g := ⟨_, gpending, gvalue⟩) hslots hpending hi
  · cases hs
    rw [hfs] at hslots
    obtain ⟨gslots, gpending, gvalue⟩ := g
    obtain _ | ⟨⟨⟩, _ | ⟨⟨ht⟩, hslots⟩⟩ := hslots
    have hb := Operator.not_isBefore_of_isAfter ho
    rw [Tree.ofReduction, if_neg hb] at hroot
    simp only [Algebra.reduce, Frame.takeReduction?, ho, hb, if_true, Tree.ofReduction]
    refine L.bind (h.after (Operator.isAfter_iff.mp ho) hroot ht) fun i hi => L.pure ?_
    exact Frame.Matches.complete (g := ⟨_, gpending, gvalue⟩) hslots hpending hi
  · cases hs
    rw [hfs] at hslots
    obtain ⟨gslots, gpending, gvalue⟩ := g
    obtain _ | ⟨⟨ht⟩, _ | ⟨⟨⟩, _ | ⟨⟨hl⟩, hslots⟩⟩⟩ := hslots
    simp only [Algebra.reduce, Frame.takeReduction?, ho, Tree.ofReduction]
    refine L.bind (h.between (of_decide_eq_true hfits) hroot hl ht) fun i hi => L.pure ?_
    exact Frame.Matches.complete (g := ⟨_, gpending, gvalue⟩) hslots hpending hi

theorem reduceWhile {p : Frame Tree → Bool} {q : Frame ι → Bool}
    (hpq : ∀ f g, f.Matches R g → q g = p f) (n : Nat) {f f' : Frame Tree} {g : Frame ι}
    (hf : algebra.reduceWhile p n f = some f') (hN : f'.Bears N) (hg : f.Matches R g) :
    L.holds (A.reduceWhile q n g) (B.reduceWhile q n g) (f'.Matches R) := by
  induction n generalizing f g with
  | zero =>
    cases hf
    exact L.pure hg
  | succ n ih =>
    unfold Algebra.reduceWhile at hf ⊢
    rw [hpq f g hg]
    split at hf
    · rename_i hp
      obtain ⟨f₁, hf₁, hf⟩ := Option.bind_eq_some_iff.mp hf
      rw [if_pos hp, if_pos hp]
      exact L.bind (h.reduce hf₁ (.of_reduceWhile h.hereditary n hf hN) hg) fun g₁ hg₁ =>
        ih hf hg₁
    · rename_i hp
      cases hf
      rw [if_neg hp, if_neg hp]
      exact L.pure hg

theorem pushOperator (o : Operator) {f f' : Frame Tree} {g : Frame ι}
    (hf : algebra.pushOperator o f = some f') (hN : f'.Bears N) (hg : f.Matches R g) :
    L.holds (A.pushOperator o g) (B.pushOperator o g) (f'.Matches R) := by
  unfold Algebra.pushOperator at hf ⊢
  split at hf
  · rename_i ho
    cases hf
    rw [if_pos ho, if_pos ho]
    exact L.pure (hg.pushOp o)
  · rename_i ho
    obtain ⟨f₁, hf₁, hf⟩ := Option.bind_eq_some_iff.mp hf
    cases hf
    have htest (f : Frame Tree) (g : Frame ι) (hg : f.Matches R g) :
        g.shouldReduce o = f.shouldReduce o := by
      simp only [Frame.shouldReduce, hg.pending, hg.value]
    rw [if_neg ho, if_neg ho, hg.pending]
    exact L.bind (h.reduceWhile htest _ hf₁ hN.of_pushOp hg) fun g₁ hg₁ => L.pure (hg₁.pushOp o)

theorem pushOperand {t : Tree} {i : ι} (ht : R t i) {f f' : Frame Tree} {g : Frame ι}
    (hf : algebra.pushOperand t f = some f') (hN : f'.Bears N) (hg : f.Matches R g) :
    L.holds (A.pushOperand i g) (B.pushOperand i g) (f'.Matches R) := by
  unfold Algebra.pushOperand at hf ⊢
  rw [hg.value]
  split at hf
  · rename_i hv
    obtain ⟨f₁, hf₁, hf⟩ := Option.bind_eq_some_iff.mp hf
    cases hf
    rw [if_pos hv, if_pos hv]
    exact L.bind (h.pushOperator .concat hf₁ hN.of_pushOperand hg) fun g₁ hg₁ =>
      L.pure (hg₁.pushOperand ht)
  · rename_i hv
    cases hf
    rw [if_neg hv, if_neg hv]
    exact L.pure (hg.pushOperand ht)

theorem pushTerm {x : Term} (hx : P x) {f f' : Frame Tree} {g : Frame ι}
    (hf : algebra.pushTerm x f = some f') (hN : f'.Bears N) (hg : f.Matches R g) :
    L.holds (A.pushTerm x g) (B.pushTerm x g) (f'.Matches R) := by
  obtain ⟨o, rfl⟩ | hop := x.op_or_operand
  · exact h.pushOperator o hf hN hg
  · rw [Algebra.pushTerm_operand _ hop] at hf ⊢
    rw [Algebra.pushTerm_operand _ hop]
    exact L.bind (h.operand hx hop) fun i hi => h.pushOperand hi hf hN hg

theorem pushTerms {e : Expr} (he : ∀ x ∈ e, P x) {f f' : Frame Tree} {g : Frame ι}
    (hf : algebra.pushTerms e f = some f') (hN : f'.Bears N) (hg : f.Matches R g) :
    L.holds (A.pushTerms e g) (B.pushTerms e g) (f'.Matches R) := by
  induction e generalizing f g with
  | nil =>
    cases hf
    exact L.pure hg
  | cons x e ih =>
    obtain ⟨f₁, hf₁, hf⟩ := Option.bind_eq_some_iff.mp hf
    obtain ⟨hx, he⟩ := List.forall_mem_cons.mp he
    exact L.bind (h.pushTerm hx hf₁ (.of_pushTerms h.hereditary hf hN) hg) fun g₁ hg₁ =>
      ih he hf hg₁

theorem finish (hblank : P (.value .empty)) {f : Frame Tree} {g : Frame ι} {t : Tree}
    (hf : algebra.finish f = some t) (ht : N t) (hg : f.Matches R g) :
    L.holds (A.finish g) (B.finish g) (R t) := by
  obtain ⟨f₁, hf₁, hf⟩ := Option.bind_eq_some_iff.mp hf
  have htest (f : Frame Tree) (g : Frame ι) (hg : f.Matches R g) :
      g.hasPending = f.hasPending := by
    simp only [Frame.hasPending, hg.pending]
  rw [← hg.pending] at hf₁
  refine L.bind (h.reduceWhile htest _ hf₁ (.of_result hf ht) hg) fun g₁ hg₁ => ?_
  obtain ⟨slots, pending, value⟩ := f₁
  obtain ⟨gslots, gpending, gvalue⟩ := g₁
  match slots, gslots, hg₁.slots with
  | [], _, .nil =>
    cases hf
    exact h.operand hblank nofun
  | [.operand u], _, .cons (.operand hu) .nil =>
    cases hf
    exact L.pure hu
  | [.op o], _, _ => cases hf
  | .operand u :: s :: slots, _, _ => cases hf
  | .op o :: s :: slots, _, _ => cases hf

/-- What is handed on by each operator of its tree holds of the result of an expression. -/
theorem run {e : Expr} {t : Tree} (ht : build e = some t) (hN : N t) (he : ∀ x ∈ e, P x)
    (hblank : P (.value .empty)) : L.holds (A.run e) (B.run e) (R t) := by
  obtain ⟨f, hf, ht⟩ := Option.bind_eq_some_iff.mp ht
  have hstart : Frame.Matches R .empty (.empty : Frame ι) := ⟨.nil, rfl, rfl⟩
  exact L.bind (h.pushTerms he hf (.of_finish h.hereditary ht hN) hstart) fun g hg =>
    h.finish hblank ht hN hg

end Algebra.Tracks

end Awk
