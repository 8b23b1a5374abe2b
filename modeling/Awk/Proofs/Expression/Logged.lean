import Awk.Proofs.Conduct.Keeps
import Awk.Proofs.Expression.Reduction

/-! Evaluations that keep a log: which operators they apply, and where they find that operands and
operators do not stand as they should. The log is kept on the side: without it, an evaluation is the
one by precedence. -/

namespace Awk

open Run

/-- What an evaluation does with what has been pushed. -/
inductive Deed (ι : Type) where
  | applied (r : Reduction ι)
  | malformed

/-- A run with a log of what it has done, last first, also where it runs out of fuel. -/
abbrev Logged (δ : Type) := EStateM OutOfFuel (Machine × List δ)

namespace Logged

variable {δ α β : Type}

/-- A run that is not logged. -/
def plain (x : Run α) : Logged δ α := fun (m, log) =>
  match x m with
  | .ok a m' => .ok a (m', log)
  | .error e m' => .error e (m', log)

def note (d : δ) : Logged δ Unit := fun (m, log) => .ok () (m, d :: log)

/-- An outcome without the log. -/
def forget : EStateM.Result OutOfFuel (Machine × List δ) α → Outcome α
  | .ok a s => .ok a s.1
  | .error e s => .error e s.1

def deeds : EStateM.Result OutOfFuel (Machine × List δ) α → List δ
  | .ok _ s | .error _ s => s.2

/-- `x` does what `y` does, with a log on the side. -/
def Follows (x : Logged δ α) (y : Run α) : Prop := ∀ m log, forget (x (m, log)) = y m

namespace Follows

theorem pure (a : α) : Follows (Pure.pure a : Logged δ α) (Pure.pure a) := fun _ _ => rfl

theorem plain (x : Run α) : Follows (plain x : Logged δ α) x := by
  intro m log
  show forget (match x m with | .ok a m' => .ok a (m', log) | .error e m' => .error e (m', log)) = _
  cases x m <;> rfl

theorem note (d : δ) {x : Logged δ α} {y : Run α} (hx : Follows x y) :
    Follows (do note d; x) y :=
  fun m log => hx m (d :: log)

theorem bind {x : Logged δ α} {y : Run α} {f : α → Logged δ β} {g : α → Run β} (hx : Follows x y)
    (hf : ∀ a, Follows (f a) (g a)) : Follows (x >>= f) (y >>= g) := by
  intro m log
  have hm := hx m log
  show forget (EStateM.bind x f (m, log)) = _
  cases h : x (m, log) with
  | ok a s =>
    rw [h] at hm
    simp only [EStateM.bind, h]
    rw [bind_ok hm.symm]
    exact hf a s.1 s.2
  | error e s =>
    rw [h] at hm
    simp only [EStateM.bind, h]
    rw [bind_error hm.symm]
    rfl

theorem ite {c : Prop} [Decidable c] {x x' : Logged δ α} {y y' : Run α} (hx : Follows x y)
    (hx' : Follows x' y') : Follows (if c then x else x') (if c then y else y') := by
  split
  · exact hx
  · exact hx'

end Follows

/-- Whatever the machine, `x` ends with a result and a log as `Q` says, or out of fuel with a log
as `E` says. -/
def Does (E : List δ → Prop) (x : Logged δ α) (log : List δ)
    (Q : α → List δ → Prop) : Prop :=
  ∀ m, match x (m, log) with
    | .ok a s => Q a s.2
    | .error _ s => E s.2

namespace Does

variable {E : List δ → Prop} {log : List δ} {Q : α → List δ → Prop}
  {R : β → List δ → Prop}

theorem ok {x : Logged δ α} {m : Machine} {a : α} {s : Machine × List δ} (h : Does E x log Q)
    (hx : x (m, log) = .ok a s) : Q a s.2 := by
  have hm := h m
  rw [hx] at hm
  exact hm

theorem error {x : Logged δ α} {m : Machine} {e : OutOfFuel} {s : Machine × List δ}
    (h : Does E x log Q) (hx : x (m, log) = .error e s) : E s.2 := by
  have hm := h m
  rw [hx] at hm
  exact hm

theorem pure {a : α} (h : Q a log) : Does E (Pure.pure a) log Q := fun _ => h

theorem bind {x : Logged δ α} {f : α → Logged δ β} (hx : Does E x log Q)
    (hf : ∀ a log', Q a log' → Does E (f a) log' R) : Does E (x >>= f) log R := by
  intro m
  show match EStateM.bind x f (m, log) with | .ok a s => R a s.2 | .error _ s => E s.2
  cases h : x (m, log) with
  | ok a s =>
    simp only [EStateM.bind, h]
    exact hf a s.2 (hx.ok h) s.1
  | error e s =>
    simp only [EStateM.bind, h]
    exact hx.error h

theorem mono {x : Logged δ α} {Q' : α → List δ → Prop} (hx : Does E x log Q)
    (hQ : ∀ a log', Q a log' → Q' a log') : Does E x log Q' := by
  intro m
  cases h : x (m, log) with
  | ok a s => exact hQ a s.2 (hx.ok h)
  | error e s => exact hx.error h

theorem note {d : δ} {x : Logged δ α} (hx : Does E x (d :: log) Q) :
    Does E (do Logged.note d; x) log Q := fun m => hx m

/-- What is not logged leaves the log as it is. -/
theorem plain {x : Run α} (hok : ∀ a, Q a log) (herror : ∀ m e m', x m = .error e m' → E log) :
    Does E (Logged.plain x) log Q := by
  intro m
  have hplain : Logged.plain x (m, log) = match x m with
    | .ok a m' => .ok a (m', log)
    | .error e m' => .error e (m', log) := rfl
  rw [hplain]
  cases hx : x m with
  | ok a m' => exact hok a
  | error e m' => exact herror m e m' hx

end Does

end Logged

namespace Algebra

variable {ι : Type} (A : Algebra Run ι)

/-- The algebra that keeps a log. -/
def logged : Algebra (Logged (Deed ι)) ι where
  operand t := Logged.plain (A.operand t)
  apply r := do
    Logged.note (.applied r)
    Logged.plain (A.apply r)
  malformed := do
    Logged.note .malformed
    Logged.plain A.malformed

open Logged

theorem logged_reduce (f : Frame ι) : Follows (A.logged.reduce f) (A.reduce f) := by
  unfold reduce
  split
  · exact .bind (.note _ (.plain _)) fun _ => .pure _
  · exact .bind (.note _ (.plain _)) fun _ => .bind (.plain _) fun _ => .pure _

theorem logged_reduceWhile (p : Frame ι → Bool) (n : Nat) (f : Frame ι) :
    Follows (A.logged.reduceWhile p n f) (A.reduceWhile p n f) := by
  induction n generalizing f with
  | zero => exact .pure f
  | succ n ih => exact .ite (.bind (A.logged_reduce f) ih) (.pure f)

theorem logged_pushOperator (o : Operator) (f : Frame ι) :
    Follows (A.logged.pushOperator o f) (A.pushOperator o f) :=
  .ite (.pure _) (.bind (A.logged_reduceWhile _ _ f) fun _ => .pure _)

theorem logged_pushOperand (i : ι) (f : Frame ι) :
    Follows (A.logged.pushOperand i f) (A.pushOperand i f) :=
  .ite (.bind (A.logged_pushOperator _ f) fun _ => .pure _) (.pure _)

theorem logged_pushTerm (t : Term) (f : Frame ι) :
    Follows (A.logged.pushTerm t f) (A.pushTerm t f) := by
  obtain ⟨o, rfl⟩ | ht := t.op_or_operand
  · exact A.logged_pushOperator o f
  · rw [pushTerm_operand _ ht, pushTerm_operand _ ht]
    exact .bind (.plain _) fun i => A.logged_pushOperand i f

theorem logged_pushTerms (e : Expr) (f : Frame ι) :
    Follows (A.logged.pushTerms e f) (A.pushTerms e f) := by
  induction e generalizing f with
  | nil => exact .pure f
  | cons t e ih => exact .bind (A.logged_pushTerm t f) ih

theorem logged_result (f : Frame ι) : Follows (A.logged.result f) (A.result f) := by
  refine .ite (.plain _) ?_
  cases f.result? with
  | some i => exact .pure i
  | none => exact .bind (.note _ (.plain _)) fun _ => .plain _

/-- Without its log, a logged evaluation is the evaluation itself. -/
theorem logged_run (e : Expr) : Follows (A.logged.run e) (A.run e) :=
  .bind (A.logged_pushTerms e _) fun f =>
    .bind (A.logged_reduceWhile _ _ f) fun g => A.logged_result g

end Algebra

end Awk
