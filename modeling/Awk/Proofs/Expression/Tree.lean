import Awk.Eval.Frame

/-! Operator trees: what an expression comes to when each operator is put over its operands. A tree
spells a list of terms, and its value is computed in post-order once operands and operators have a
meaning. -/

namespace Awk

/-- A term is an operator or an operand. -/
theorem Term.op_or_operand (t : Term) : (∃ o, t = .op o) ∨ ∀ o, t ≠ .op o := by
  cases t with
  | op o => exact .inl ⟨o, rfl⟩
  | _ => exact .inr nofun

/-- Operands, and operators over what they are applied to. -/
inductive Tree where
  | operand (t : Term)
  | before (o : Operator) (t : Tree)
  | after (t : Tree) (o : Operator)
  | between (o : Operator) (l r : Tree)

/-- A meaning of operands and operators, and what is done where an expression has no structure. -/
structure Algebra (μ : Type → Type) (ι : Type) where
  operand : Term → μ ι
  apply : Reduction ι → μ ι
  malformed : μ Unit

namespace Tree

/-- The terms from left to right. -/
def terms : Tree → Expr
  | operand t => [t]
  | before o t => .op o :: t.terms
  | after t o => t.terms ++ [.op o]
  | between o l r => l.terms ++ .op o :: r.terms

/-- The operators with a left operand that are met going down to the left. -/
def leftSpine : Tree → List Operator
  | operand _ | before _ _ => []
  | after t o => o :: t.leftSpine
  | between o l _ => o :: l.leftSpine

/-- The operators that are met going down to the right. -/
def rightSpine : Tree → List Operator
  | operand _ => []
  | before o t => o :: t.rightSpine
  | after _ o => [o]
  | between o _ r => o :: r.rightSpine

/-- Every operator stands on its side of its operands; those on the right edge of its left operand
bind tighter than it does; and it does not bind tighter than those on the left edge of its right
operand. -/
inductive Separated : Tree → Prop
  | operand {t : Term} : (∀ o, t ≠ .op o) → Separated (operand t)
  | before {o : Operator} {t : Tree} : o.fixity = .before → t.Separated →
      (∀ p ∈ t.leftSpine, ¬ o.bindsTighter p) → Separated (before o t)
  | after {t : Tree} {o : Operator} : o.fixity = .after → t.Separated →
      (∀ q ∈ t.rightSpine, q.bindsTighter o) → Separated (after t o)
  | between {o : Operator} {l r : Tree} : o.fixity = .between → l.Separated → r.Separated →
      (∀ q ∈ l.rightSpine, q.bindsTighter o) → (∀ p ∈ r.leftSpine, ¬ o.bindsTighter p) →
      Separated (between o l r)

/-- Every operator stands on its side of its operands. -/
inductive Placed : Tree → Prop
  | operand {t : Term} : (∀ o, t ≠ .op o) → Placed (operand t)
  | before {o : Operator} {t : Tree} : o.fixity = .before → t.Placed → Placed (before o t)
  | after {t : Tree} {o : Operator} : o.fixity = .after → t.Placed → Placed (after t o)
  | between {o : Operator} {l r : Tree} : o.fixity = .between → l.Placed → r.Placed →
      Placed (between o l r)

theorem Separated.placed {t : Tree} (h : t.Separated) : t.Placed := by
  induction h with
  | operand ht => exact .operand ht
  | before ho _ _ ih => exact .before ho ih
  | after ho _ _ ih => exact .after ho ih
  | between ho _ _ _ _ ihl ihr => exact .between ho ihl ihr

/-- The value of a tree: each operator is applied once, to the values of its own operands and after
them. -/
def evaluate {μ : Type → Type} {ι : Type} [Monad μ] (A : Algebra μ ι) : Tree → μ ι
  | operand t => A.operand t
  | before o t => do A.apply (.unary o (← t.evaluate A))
  | after t o => do A.apply (.unary o (← t.evaluate A))
  | between o l r => do
    let l ← l.evaluate A
    let r ← r.evaluate A
    A.apply (.binary o l r)

/-- The tree of an operator over what it is applied to. -/
def ofReduction : Reduction Tree → Tree
  | .unary o t => if o.isBefore then before o t else after t o
  | .binary o l r => between o l r

end Tree

namespace Operator

theorem isBefore_iff {o : Operator} : o.isBefore ↔ o.fixity = .before := decide_eq_true_iff

theorem isAfter_iff {o : Operator} : o.isAfter ↔ o.fixity = .after := decide_eq_true_iff

theorem fixity_ne {o : Operator} {f g : Fixity} (ho : o.fixity = f) (h : f ≠ g) : o.fixity ≠ g := by
  rwa [ho]

theorem isAfter_eq_false {o : Operator} (h : o.fixity ≠ .after) : o.isAfter = false :=
  decide_eq_false h

theorem isBefore_eq_false {o : Operator} (h : o.fixity ≠ .before) : o.isBefore = false :=
  decide_eq_false h

theorem not_isBefore_of_isAfter {o : Operator} (h : o.isAfter) : ¬ o.isBefore := by
  rw [isAfter_iff] at h
  rw [isBefore_iff, h]
  nofun

/-- An operator behind its operand is applied before whatever else can follow an operand. -/
theorem bindsTighter_of_isAfter {o p : Operator} (ho : o.isAfter) (hp : ¬ p.isBefore) :
    o.bindsTighter p := by
  cases o <;> first | contradiction | (cases p <;> first | rfl | contradiction)

end Operator

end Awk
