import Awk.Proofs.Conduct.Evaluation

/-! The evaluator recovers a tree from operator precedence: on the terms of a separated tree it does
what computing the tree in post-order does. -/

namespace Awk

/-- Evaluating the terms of a tree whose operators precedence keeps apart applies exactly its
operators, each to the results of its own subtrees, in post-order, and gives the result of the
root. -/
theorem evalOperand_terms {t : Tree} (h : t.Separated) (n : Nat) :
    evalOperand (n + 1) t.terms =
      (do (Inner.withFuel n).settle (← t.evaluate (Inner.withFuel n).algebra) : Run Operand) := by
  have hterms : (Inner.withFuel n).terms t.terms = t.evaluate (Inner.withFuel n).algebra := by
    rw [Inner.terms_withFuel]
    exact Algebra.run_eq_evaluate _ (Tree.build_terms h) h.placed.explicit_terms
  show (do (Inner.withFuel n).settle (← (Inner.withFuel n).terms t.terms)) = _
  rw [hterms]

/-- `- x ^ 2 + $ i ++`, where a sign, a power, a sum, a field and a step meet. -/
def mixedTree : Tree :=
  .between .add (.before .neg (.between .pow (.operand (.var "x")) (.operand (.value (.ofInt 2)))))
    (.after (.before .field (.operand (.var "i"))) .postIncr)

theorem mixedTree_separated : mixedTree.Separated := by
  have hx : Tree.Separated (.operand (.var "x")) := .operand nofun
  have hi : Tree.Separated (.operand (.var "i")) := .operand nofun
  have htwo : Tree.Separated (.operand (.value (.ofInt 2))) := .operand nofun
  refine .between rfl (.before rfl (.between rfl hx htwo ?_ ?_) ?_)
    (.after rfl (.before rfl hi ?_) ?_) ?_ ?_ <;> decide

theorem evalOperand_mixedTree :
    evalOperand 1 mixedTree.terms =
      (do (Inner.withFuel 0).settle (← mixedTree.evaluate (Inner.withFuel 0).algebra) :
        Run Operand) :=
  evalOperand_terms mixedTree_separated 0

namespace Inner

/-- What can come of a tree: an operand comes of its term, and an operator is applied to what has
come of its own subtrees. -/
inductive Computes (self : Inner) : Tree → Delayed → Prop
  | operand {t : Term} {d : Delayed} {m m' : Machine} : self.operandOf t m = .ok d m' →
      Computes self (.operand t) d
  | before {o : Operator} {t : Tree} {i d : Delayed} {m m' : Machine} : Computes self t i →
      self.apply (.unary o i) m = .ok d m' → Computes self (.before o t) d
  | after {t : Tree} {o : Operator} {i d : Delayed} {m m' : Machine} : Computes self t i →
      self.apply (.unary o i) m = .ok d m' → Computes self (.after t o) d
  | between {o : Operator} {l r : Tree} {i j d : Delayed} {m m' : Machine} : Computes self l i →
      Computes self r j → self.apply (.binary o i j) m = .ok d m' →
      Computes self (.between o l r) d

open Run

theorem tracks_computes (n : Nat) :
    (withFuel n).algebra.Tracks (.keeps fun _ => True) (fun _ => True) (fun _ => True)
      (withFuel n).Computes (withFuel n).algebra := by
  have hblind := keeps_algebra_any (keptBy_any n)
  have hoperand (x : Term) : Keeps (fun _ => True) ((withFuel n).algebra.operand x) fun _ => True :=
    hblind.operand x
  have happly (r : Reduction Delayed) :
      Keeps (fun _ => True) ((withFuel n).algebra.apply r) fun _ => True := hblind.apply r
  refine ⟨.any, fun {x} _ _ => ?_, fun {o t i} _ _ hi => ?_, fun {o t i} _ _ hi => ?_,
    fun {o l r i j} _ _ hi hj => ?_⟩
  · exact (hoperand x).result.mono fun d ⟨_, _, h⟩ => .operand h
  · exact (happly (.unary o i)).result.mono fun d ⟨_, _, h⟩ => .before hi h
  · exact (happly (.unary o i)).result.mono fun d ⟨_, _, h⟩ => .after hi h
  · exact (happly (.binary o i j)).result.mono fun d ⟨_, _, h⟩ => .between hi hj h

/-- What an expression evaluates to comes of the tree that precedence gives it. -/
theorem terms_computes {e : Expr} {t : Tree} (ht : Tree.build e = some t) {n : Nat} {m m' : Machine}
    {d : Delayed} (h : (withFuel n).terms e m = .ok d m') : (withFuel n).Computes t d := by
  rw [terms_withFuel] at h
  exact ((tracks_computes n).run ht trivial (fun _ _ => trivial) trivial m trivial).value d m' h

end Inner

end Awk
