import Awk.Eval.Interpreter
import Awk.Proofs.Conduct.Keeps
import Awk.Proofs.Expression.Reduction

/-! The evaluator's stack of frames. Where operands and operators are blind to the frames, the
evaluation of an expression is the one by precedence on a frame of its own, and the frames below
stay as they are. -/

namespace Awk

open Machine Run

/-! Ways of saying what runs have in common, as far as they carry over to runs that go on. -/

/-- A way of saying of two runs what they have in common and what their results satisfy, which
carries over to runs that go on. -/
structure Run.Logic where
  holds : ∀ {α : Type}, Run α → Run α → (α → Prop) → Prop
  pure : ∀ {α : Type} {Q : α → Prop} {a : α}, Q a → holds (Pure.pure a) (Pure.pure a) Q
  bind : ∀ {α β : Type} {Q : α → Prop} {R : β → Prop} {x y : Run α} {f g : α → Run β},
    holds x y Q → (∀ a, Q a → holds (f a) (g a) R) → holds (x >>= f) (y >>= g) R

/-- What a run keeps, whatever the other one does. -/
def Run.Logic.keeps (J : Conduct → Prop) : Run.Logic where
  holds x _ Q := Run.Keeps J x Q
  pure ha := .pure ha
  bind hx hf := hx.bind hf

namespace Run.Logic

variable (L : Run.Logic) {α β : Type} {Q : α → Prop} {R : β → Prop}

theorem mono {x y : Run α} {Q' : α → Prop} (h : L.holds x y Q) (hQ : ∀ a, Q a → Q' a) :
    L.holds x y Q' := by
  have hpure := L.bind h fun a ha => L.pure (hQ a ha)
  rwa [bind_pure, bind_pure] at hpure

theorem any {x y : Run α} (h : L.holds x y Q) : L.holds x y fun _ => True :=
  L.mono h fun _ _ => trivial

/-- A step whose result does not matter. -/
theorem andThen {x y : Run α} {f g : α → Run β} (h : L.holds x y Q)
    (hf : ∀ a, L.holds (f a) (g a) R) : L.holds (x >>= f) (y >>= g) R :=
  L.bind h fun a _ => hf a

theorem ite {c : Prop} [Decidable c] {x y x' y' : Run α} (hx : L.holds x x' Q)
    (hy : L.holds y y' Q) : L.holds (if c then x else y) (if c then x' else y') Q := by
  split
  · exact hx
  · exact hy

theorem forWhile {f g : α → Run Bool} (h : ∀ a, L.holds (f a) (g a) fun _ => True)
    (as : List α) : L.holds (Run.forWhile f as) (Run.forWhile g as) fun _ => True := by
  induction as with
  | nil => exact L.pure trivial
  | cons a as ih => exact L.andThen (h a) fun _ => L.ite ih (L.pure trivial)

end Run.Logic

/-! The evaluation on a frame of its own. -/

/-- That the parts of an evaluation obey a logic. -/
structure Algebra.Obeys {ι : Type} (L : Run.Logic) (A : Algebra Run ι) : Prop where
  operand : ∀ t, L.holds (A.operand t) (A.operand t) fun _ => True
  apply : ∀ r, L.holds (A.apply r) (A.apply r) fun _ => True
  malformed : L.holds A.malformed A.malformed fun _ => True

namespace Algebra.Obeys

variable {ι : Type} {L : Run.Logic} {A : Algebra Run ι} (h : A.Obeys L)

include h

theorem reduce (f : Frame ι) : L.holds (A.reduce f) (A.reduce f) fun _ => True := by
  unfold Algebra.reduce
  split
  · exact L.andThen (h.apply _) fun _ => L.pure trivial
  · exact L.andThen h.malformed fun _ => L.andThen (h.operand _) fun _ => L.pure trivial

theorem reduceWhile (p : Frame ι → Bool) (n : Nat) (f : Frame ι) :
    L.holds (A.reduceWhile p n f) (A.reduceWhile p n f) fun _ => True := by
  induction n generalizing f with
  | zero => exact L.pure trivial
  | succ n ih => exact L.ite (L.andThen (h.reduce f) ih) (L.pure trivial)

theorem pushOperator (o : Operator) (f : Frame ι) :
    L.holds (A.pushOperator o f) (A.pushOperator o f) fun _ => True :=
  L.ite (L.pure trivial) (L.andThen (h.reduceWhile _ _ f) fun _ => L.pure trivial)

theorem pushOperand (i : ι) (f : Frame ι) :
    L.holds (A.pushOperand i f) (A.pushOperand i f) fun _ => True :=
  L.ite (L.andThen (h.pushOperator _ f) fun _ => L.pure trivial) (L.pure trivial)

theorem pushTerm (t : Term) (f : Frame ι) :
    L.holds (A.pushTerm t f) (A.pushTerm t f) fun _ => True := by
  cases t with
  | op o => exact h.pushOperator o f
  | _ => exact L.andThen (h.operand _) fun i => h.pushOperand i f

theorem pushTerms (e : Expr) (f : Frame ι) :
    L.holds (A.pushTerms e f) (A.pushTerms e f) fun _ => True := by
  induction e generalizing f with
  | nil => exact L.pure trivial
  | cons t e ih => exact L.andThen (h.pushTerm t f) ih

theorem finish (f : Frame ι) : L.holds (A.finish f) (A.finish f) fun _ => True := by
  refine L.andThen (h.reduceWhile _ _ f) fun g => ?_
  unfold Algebra.result
  refine L.ite (h.operand _) ?_
  split
  · exact L.pure trivial
  · exact L.andThen h.malformed fun _ => h.operand _

theorem run (e : Expr) : L.holds (A.run e) (A.run e) fun _ => True :=
  L.andThen (h.pushTerms e _) h.finish

end Algebra.Obeys

/-- Whether evaluating an operand does nothing yet: a group is evaluated when its value is
needed. -/
def Term.isDeferred : Term → Bool
  | .value _ | .var _ | .group _ | .regex _ => true
  | _ => false

namespace Inner

/-- The operand of a term that is not an operator. -/
def operandOf (self : Inner) : Term → Run Delayed
  | .op _ => return .ofValue .empty
  | .value v => return .ofValue v
  | .var name => return .ready (.place (.scalar name))
  | .element name subscript => do
    return .ready (.place (.element name (← self.subscriptKey subscript)))
  | .group inner => return .group inner
  | .subscript parts => do return .ofValue ⟨← self.subscriptKey parts⟩
  | .regex pattern => return .ready (.regex pattern)
  | .call callee parts => do return .ofValue (← self.call callee parts)
  | .getline target source => do return .ofValue (← self.getline target source)

/-- What operands and operators mean to the evaluator. -/
def algebra (self : Inner) : Algebra Run Delayed where
  operand := self.operandOf
  apply := self.apply
  malformed := report .malformedExpression

/-- The operand of a deferred term is there before anything is done. -/
theorem operandOf_deferred (self : Inner) {t : Term} (ht : t.isDeferred) :
    ∃ d, self.operandOf t = pure d ∧ d.isNull = false := by
  cases t with
  | value v => exact ⟨_, rfl, rfl⟩
  | var name => exact ⟨_, rfl, rfl⟩
  | group inner => exact ⟨_, rfl, rfl⟩
  | regex pattern => exact ⟨_, rfl, rfl⟩
  | _ => cases ht

theorem pushTerm_operand (self : Inner) {t : Term} (ht : ∀ o, t ≠ .op o) :
    self.pushTerm t = self.operandOf t >>= self.pushOperand := by
  cases t with
  | op o => exact absurd rfl (ht o)
  | _ => simp [pushTerm, operandOf]

end Inner

/-- An outcome on a stack with `rest` below, and the one on the frame above that. -/
inductive Over {α β : Type} (rest : List (Frame Delayed)) (P : α → β → Frame Delayed → Prop) :
    Outcome α → Outcome β → Prop
  | ok {a : α} {b : β} {f : Frame Delayed} {m : Machine} : P a b f →
      Over rest P (.ok a (m.withFrames (f :: rest))) (.ok b m)
  | error {e : OutOfFuel} {m : Machine} (f : Frame Delayed) :
      Over rest P (.error e (m.withFrames (f :: rest))) (.error e m)

namespace Over

variable {α β γ δ : Type} {rest : List (Frame Delayed)} {P : α → β → Frame Delayed → Prop}
  {R : γ → δ → Frame Delayed → Prop} {x : Run α} {y : Run β} {k : α → Run γ} {l : β → Run δ}
  {m n : Machine}

theorem bind (h : Over rest P (x m) (y n))
    (hk : ∀ a b f n', P a b f → Over rest R (k a (n'.withFrames (f :: rest))) (l b n')) :
    Over rest R ((x >>= k) m) ((y >>= l) n) := by
  generalize hx : x m = r at h
  generalize hy : y n = s at h
  cases h with
  | ok hp =>
    rw [bind_ok hx, bind_ok hy]
    exact hk _ _ _ _ hp
  | error f =>
    rw [bind_error hx, bind_error hy]
    exact .error f

/-- A step that is blind to the frames. -/
theorem of_keeps {J : Conduct → Prop} {Q : α → Prop} (h : (Logic.keeps J).holds x x Q)
    (hm : J m.conduct) (f : Frame Delayed) :
    Over rest (fun a b g => a = b ∧ g = f) (x (m.withFrames (f :: rest))) (x m) := by
  rw [KeepsAt.blind (h m hm)]
  cases x m with
  | ok a m' => exact .ok ⟨rfl, rfl⟩
  | error e m' => exact .error f

end Over

namespace Inner

theorem onFrame_ok {α : Type} {x : Run α} {a : α} {m n : Machine}
    (h : x (m.withFrames (.empty :: m.frames)) = .ok a n) :
    onFrame x m = .ok a (n.withFrames n.frames.tail) := by
  have hbegin : (beginFrame m).2 = m.withFrames (.empty :: m.frames) := rfl
  unfold onFrame
  rw [hbegin, h]
  rfl

theorem onFrame_error {α : Type} {x : Run α} {e : OutOfFuel} {m n : Machine}
    (h : x (m.withFrames (.empty :: m.frames)) = .error e n) :
    onFrame x m = .error e (n.withFrames n.frames.tail) := by
  have hbegin : (beginFrame m).2 = m.withFrames (.empty :: m.frames) := rfl
  unfold onFrame
  rw [hbegin, h]
  rfl

variable {self : Inner} (h : self.algebra.Obeys (.keeps fun _ => True)) (rest : List (Frame Delayed))

/-- What a step on the stack does is what it does on the frame above. -/
abbrev OnTop (x : Run Unit) (y : Frame Delayed → Run (Frame Delayed)) : Prop :=
  ∀ m f rest, Over rest (fun _ g f' => g = f') (x (m.withFrames (f :: rest))) (y f m)

theorem onTop_modifyFrame (k : Frame Delayed → Frame Delayed) :
    OnTop (modifyFrame k) fun f => return k f := by
  intro m f rest
  show Over rest _ (.ok () (m.withFrames (k f :: rest))) (.ok (k f) m)
  exact .ok rfl

theorem reduce_withFrames (m : Machine) (f : Frame Delayed) (rest : List (Frame Delayed)) :
    self.reduce (m.withFrames (f :: rest)) =
      match f.takeReduction? with
      | some (r, g) => (do modifyFrame (·.complete (← self.apply r)) : Run Unit)
          (m.withFrames (g :: rest))
      | none => (do
          report .malformedExpression
          modifyFrame fun _ => Frame.empty.pushOperand (.ofValue .empty) : Run Unit)
          (m.withFrames (f :: rest)) := by
  have hget : self.reduce (m.withFrames (f :: rest)) =
      (match f.takeReduction? with
      | some (r, g) => do
        set { m.withFrames (f :: rest) with frames := g :: rest }
        modifyFrame (·.complete (← self.apply r))
      | none => do
        report .malformedExpression
        modifyFrame fun _ => Frame.empty.pushOperand (.ofValue .empty) : Run Unit)
        (m.withFrames (f :: rest)) := rfl
  rw [hget]
  cases f.takeReduction? <;> rfl

include h

theorem onTop_reduce : OnTop self.reduce self.algebra.reduce := by
  intro m f rest
  rw [reduce_withFrames]
  unfold Algebra.reduce
  cases f.takeReduction? with
  | none =>
    refine (Over.of_keeps h.malformed trivial f).bind fun _ _ g n hg => ?_
    exact onTop_modifyFrame _ n g rest
  | some r =>
    refine (Over.of_keeps (h.apply r.1) trivial r.2).bind fun d d' g n hd => ?_
    obtain ⟨rfl, rfl⟩ := hd
    exact onTop_modifyFrame _ n _ rest

theorem onTop_reduceWhile (p : Frame Delayed → Bool) (n : Nat) :
    OnTop (self.reduceWhile p n) (self.algebra.reduceWhile p n) := by
  intro m f rest
  induction n generalizing m f with
  | zero => exact .ok rfl
  | succ n ih =>
    have htest : self.reduceWhile p (n + 1) (m.withFrames (f :: rest)) =
        (if p f then do self.reduce; self.reduceWhile p n else return () : Run Unit)
          (m.withFrames (f :: rest)) := rfl
    rw [htest]
    unfold Algebra.reduceWhile
    split
    · refine (onTop_reduce h m f rest).bind fun _ g g' n' hg => ?_
      cases hg
      exact ih n' g
    · exact .ok rfl

theorem onTop_pushOperator (o : Operator) :
    OnTop (self.pushOperator o) (self.algebra.pushOperator o) := by
  intro m f rest
  unfold pushOperator Algebra.pushOperator
  cases ho : o.isBefore with
  | true => exact onTop_modifyFrame _ m f rest
  | false =>
    refine (onTop_reduceWhile h _ f.pending.length m f rest).bind fun _ g g' n hg => ?_
    cases hg
    exact onTop_modifyFrame _ n g rest

theorem onTop_pushOperand (d : Delayed) :
    OnTop (self.pushOperand d) (self.algebra.pushOperand d) := by
  intro m f rest
  have htest : self.pushOperand d (m.withFrames (f :: rest)) =
      (do
        if f.value then self.pushOperator .concat
        modifyFrame (·.pushOperand d) : Run Unit) (m.withFrames (f :: rest)) := rfl
  rw [htest]
  unfold Algebra.pushOperand
  cases f.value with
  | true =>
    refine (onTop_pushOperator h .concat m f rest).bind fun _ g g' n hg => ?_
    cases hg
    exact onTop_modifyFrame _ n g rest
  | false => exact onTop_modifyFrame _ m f rest

theorem onTop_pushTerm (t : Term) : OnTop (self.pushTerm t) (self.algebra.pushTerm t) := by
  intro m f rest
  obtain ⟨o, rfl⟩ | hop := t.op_or_operand
  · exact onTop_pushOperator h o m f rest
  · rw [self.pushTerm_operand hop, Algebra.pushTerm_operand _ hop]
    refine (Over.of_keeps (h.operand t) trivial f).bind fun d d' g n hd => ?_
    obtain ⟨rfl, rfl⟩ := hd
    exact onTop_pushOperand h d n _ rest

theorem onTop_pushTerms (e : Expr) : OnTop (self.pushTerms e) (self.algebra.pushTerms e) := by
  intro m f rest
  induction e generalizing m f with
  | nil => exact .ok rfl
  | cons t e ih =>
    refine (onTop_pushTerm h t m f rest).bind fun _ g g' n hg => ?_
    cases hg
    exact ih n g

theorem over_finish (m : Machine) (f : Frame Delayed) :
    Over rest (fun d d' _ => d = d') (self.finish (m.withFrames (f :: rest)))
      (self.algebra.finish f m) := by
  refine (onTop_reduceWhile h _ f.pending.length m f rest).bind fun _ g g' n hg => ?_
  cases hg
  show Over rest (fun d d' _ => d = d')
    ((if g.slots.isEmpty then _ else _ : Run Delayed) (n.withFrames (g :: rest)))
    (self.algebra.result g n)
  unfold Algebra.result
  split
  · exact .ok rfl
  · cases g.result? with
    | some d => exact .ok rfl
    | none =>
      refine (Over.of_keeps h.malformed trivial g).bind fun _ _ g' n' hg => ?_
      exact .ok rfl

/-- The evaluation of an expression is that by precedence, whatever else is under evaluation. -/
theorem terms_eq_run (e : Expr) : self.terms e = self.algebra.run e := by
  funext m
  have hover : Over m.frames (fun d d' _ => d = d')
      ((do self.pushTerms e; self.finish : Run Delayed) (m.withFrames (.empty :: m.frames)))
      (self.algebra.run e m) := by
    refine (onTop_pushTerms h e m .empty m.frames).bind fun _ g g' n hg => ?_
    cases hg
    exact over_finish h m.frames n g
  have hblind : self.algebra.run e m = Outcome.withFrames (self.algebra.run e m) m.frames :=
    (h.run e m trivial).blind m.frames
  rw [hblind]
  generalize hx : (do self.pushTerms e; self.finish : Run Delayed) _ = r at hover
  generalize self.algebra.run e m = s at hover
  cases hover with
  | ok hd =>
    cases hd
    exact onFrame_ok hx
  | error f => exact onFrame_error hx

end Inner

end Awk
