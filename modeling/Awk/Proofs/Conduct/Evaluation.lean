import Awk.Proofs.Conduct.Statements
import Awk.Proofs.Expression.Build

/-! The recursion of expressions and blocks through each other keeps every discipline whose
expressions are well-formed, whatever the fuel. That evaluation does not see the frames below its
own is the case of a discipline that demands nothing, and holds of malformed expressions too. -/

namespace Awk

open Machine Run

/-- What demands nothing and admits everything. -/
def Discipline.any : Discipline where
  holds _ := True
  expr _ := True
  block _ := True
  expr_part _ _ _ := trivial
  block_expr _ _ _ := trivial
  block_block _ _ _ := trivial
  body _ _ := trivial
  statement _ _ _ := trivial
  jump _ _ _ := trivial
  leave _ _ := trivial
  settle _ _ _ := trivial

theorem keeps_report_malformed :
    Keeps (fun _ => True) (liftM (report .malformedExpression)) fun _ => True :=
  fun m _ => .act (fun fs => congrArg (Prod.mk ()) (report_withFrames _ m fs)) trivial trivial

namespace Inner

theorem keeps_algebra_any {self : Inner} (h : Discipline.any.KeptBy self) :
    self.algebra.Obeys (.keeps fun _ => True) := by
  have hrelates := relates_self h
  refine ⟨fun x => ?_, fun r => ?_, keeps_report_malformed⟩
  · have hx : Discipline.any.walk.AdmitsTerm x :=
      ⟨fun _ _ => trivial, fun _ => trivial, fun _ => trivial⟩
    exact fun m _ => (hrelates.operandOf hx m trivial fun _ => trivial).mono fun _ _ => trivial
  · have hr : Discipline.any.walk.AdmitsReduction r := by
      cases r with
      | unary o d => exact fun _ _ => trivial
      | binary o l r => exact ⟨fun _ _ => trivial, fun _ _ => trivial⟩
    exact (hrelates.apply hr (fun _ => trivial) fun _ => keeps_report_malformed).any

/-- Evaluation is blind to the frames, and leaves those below as they are. -/
theorem keptBy_any (n : Nat) : Discipline.any.KeptBy (withFuel n) := by
  induction n with
  | zero => exact ⟨fun _ => .outOfFuel, fun _ => .outOfFuel⟩
  | succ n ih =>
    refine ⟨fun {e} _ => ?_, fun hb => keeps_body ih hb⟩
    have hterms : Keeps (fun _ => True) ((withFuel n).terms e) fun _ => True := by
      rw [terms_eq_run (keeps_algebra_any ih)]
      exact (keeps_algebra_any ih).run e
    exact hterms.andThen fun d => (relates_self ih).settle fun _ _ => trivial

/-- Evaluating the terms of an expression is evaluating them by precedence. -/
theorem terms_withFuel (n : Nat) (e : Expr) :
    (withFuel n).terms e = (withFuel n).algebra.run e :=
  terms_eq_run (keeps_algebra_any (keptBy_any n)) e

/-- Evaluation keeps a discipline that admits well-formed expressions only. -/
theorem keptBy_withFuel (D : Discipline) (hD : ∀ e, D.expr e → e.wellFormed false) (n : Nat) :
    D.KeptBy (withFuel n) := by
  induction n with
  | zero => exact ⟨fun _ => .outOfFuel, fun _ => .outOfFuel⟩
  | succ n ih =>
    refine ⟨fun {e} he => ?_, fun hb => keeps_body ih hb⟩
    obtain ⟨t, ht, -, -⟩ := Tree.build_wellFormed (hD e he)
    have hrelates := relates_self ih
    have hoperand {x : Term} (hx : D.walk.AdmitsTerm x) :
        Keeps D.holds ((withFuel n).algebra.operand x)
          fun d => x.Gives d ∧ D.walk.AdmitsDelayed d :=
      fun m hm => hrelates.operandOf hx m hm fun _ => trivial
    have hterms : Keeps D.holds ((withFuel n).terms e)
        fun d => t.Leads d ∧ D.walk.AdmitsDelayed d := by
      rw [terms_withFuel]
      have htracks := hrelates.tracks (A := (withFuel n).algebra) (B := (withFuel n).algebra) rfl rfl
        hoperand
      exact htracks.run ht (fun _ => trivial) (fun x hx => Walk.admitsTerm he hx)
        Walk.admits_blank
    exact hterms.bind fun d hd => hrelates.settle hd.2

end Inner

/-! The stack of frames. Evaluation goes back into itself in the middle of a reduction, with the
operands taken and the result still to come; whatever that does, the stack is then the one that the
operands were taken from. A step on an expression changes the innermost frame alone, and a whole
evaluation, which has a frame of its own, none. -/

namespace Run

variable {α : Type} {Q : α → Prop}

/-- However it ends, the stack of frames is as it was. -/
def Balanced (x : Run α) : Prop := ∀ m, (Outcome.machine (x m)).frames = m.frames

/-- However it ends, the frames below the innermost are as they were. -/
def Topmost (x : Run α) : Prop :=
  ∀ (m : Machine) f rest, ∃ g, (Outcome.machine (x (m.withFrames (f :: rest)))).frames = g :: rest

/-- What does the same on every stack leaves every stack as it is. -/
theorem Keeps.balanced {x : Run α} (h : Keeps (fun _ => True) x Q) : Balanced x := by
  intro m
  have hblind : x m = Outcome.withFrames (x m) m.frames := (h m trivial).blind m.frames
  rw [hblind]
  cases x m <;> rfl

namespace Balanced

variable {x : Run α} {m m' : Machine}

theorem ok (h : Balanced x) {a : α} (hx : x m = .ok a m') : m'.frames = m.frames := by
  have hm := h m
  rwa [hx] at hm

theorem error (h : Balanced x) {e : OutOfFuel} (hx : x m = .error e m') :
    m'.frames = m.frames := by
  have hm := h m
  rwa [hx] at hm

end Balanced

end Run

theorem Over.frames {α β : Type} {rest : List (Frame Delayed)} {P : α → β → Frame Delayed → Prop}
    {r : Outcome α} {s : Outcome β} (h : Over rest P r s) :
    ∃ g, r.machine.frames = g :: rest := by
  cases h with
  | ok => exact ⟨_, rfl⟩
  | error f => exact ⟨f, rfl⟩

namespace Inner

variable {self : Inner}

theorem OnTop.topmost {x : Run Unit} {y : Frame Delayed → Run (Frame Delayed)} (h : OnTop x y) :
    Topmost x := fun m f rest => (h m f rest).frames

/-- How the reduction of `f` ends, above `rest`: the result goes on the frame that the operands were
taken from, whatever has been evaluated in between. -/
inductive Reduced (self : Inner) (m : Machine) (f : Frame Delayed) (rest : List (Frame Delayed)) :
    Outcome Unit → Prop
  | completed {r : Reduction Delayed} {g : Frame Delayed} {d : Delayed} {m' : Machine}
      (taken : f.takeReduction? = some (r, g))
      (applied : self.apply r (m.withFrames (g :: rest)) = .ok d m')
      (same : m'.frames = g :: rest) :
      Reduced self m f rest (.ok () (m'.withFrames (g.complete d :: rest)))
  | broken {r : Reduction Delayed} {g : Frame Delayed} {e : OutOfFuel} {m' : Machine}
      (taken : f.takeReduction? = some (r, g))
      (applied : self.apply r (m.withFrames (g :: rest)) = .error e m')
      (same : m'.frames = g :: rest) :
      Reduced self m f rest (.error e m')
  | malformed (none : f.takeReduction? = none) :
      Reduced self m f rest (.ok () ((report .malformedExpression m).2.withFrames
        (Frame.empty.pushOperand (.ofValue .empty) :: rest)))

/-- What is evaluated on the way leaves the stack of frames as it was, and the steps on an
expression change the innermost alone. -/
structure Restores (i : Inner) : Prop where
  force : ∀ d, Balanced (i.force d)
  subscriptKey : ∀ es, Balanced (i.subscriptKey es)
  call : ∀ callee es, Balanced (i.call callee es)
  getline : ∀ target source, Balanced (i.getline target source)
  apply : ∀ r, Balanced (i.apply r)
  pushTerm : ∀ t, Topmost (i.pushTerm t)
  pushTerms : ∀ e, Topmost (i.pushTerms e)
  finish : Topmost i.finish
  reduce : ∀ m f rest, Reduced i m f rest (i.reduce (m.withFrames (f :: rest)))

theorem modifyFrame_apply (k : Frame Delayed → Frame Delayed) {m : Machine} {f : Frame Delayed}
    {rest : List (Frame Delayed)} (h : m.frames = f :: rest) :
    (liftM (modifyFrame k) : Run Unit) m = .ok () (m.withFrames (k f :: rest)) := by
  have hm : m = m.withFrames (f :: rest) := by
    rw [← h]
    rfl
  rw [hm]
  rfl

theorem reduced (happly : ∀ r, Balanced (self.apply r)) (m : Machine) (f : Frame Delayed)
    (rest : List (Frame Delayed)) :
    Reduced self m f rest (self.reduce (m.withFrames (f :: rest))) := by
  rw [reduce_withFrames]
  cases htaken : f.takeReduction? with
  | none =>
    -- What is reported does not touch the frames; the new one then takes the place of `f`.
    have hreport : (report .malformedExpression (m.withFrames (f :: rest))).2 =
        (report .malformedExpression m).2.withFrames (f :: rest) := report_withFrames _ m _
    dsimp only
    rw [bind_ok (lift_apply _ _), hreport, modifyFrame_apply _ rfl]
    exact .malformed htaken
  | some taken =>
    obtain ⟨r, g⟩ := taken
    dsimp only
    cases happlied : self.apply r (m.withFrames (g :: rest)) with
    | ok d m' =>
      have hframes : m'.frames = g :: rest := (happly r).ok happlied
      rw [bind_ok happlied, modifyFrame_apply _ hframes]
      exact .completed htaken happlied hframes
    | error e m' =>
      rw [bind_error happlied]
      exact .broken htaken happlied ((happly r).error happlied)

theorem restores {self : Inner} (h : Discipline.any.KeptBy self) : self.Restores := by
  have hrelates := relates_self h
  have hobeys := keeps_algebra_any h
  have happly (r : Reduction Delayed) : Balanced (self.apply r) := (hobeys.apply r).balanced
  exact {
    force := fun d => (hrelates.force fun _ _ => trivial).balanced
    subscriptKey := fun es => (hrelates.subscriptKey fun _ _ => trivial).balanced
    call := fun callee es =>
      (hrelates.callFunction ⟨fun _ _ => trivial, fun _ => trivial, fun _ => trivial⟩).balanced
    getline := fun target source =>
      Keeps.balanced fun m _ => hrelates.getline
        ⟨fun _ _ => trivial, fun _ => trivial, fun _ => trivial⟩ m trivial fun _ => trivial
    apply := happly
    pushTerm := fun t => (onTop_pushTerm hobeys t).topmost
    pushTerms := fun e => (onTop_pushTerms hobeys e).topmost
    finish := fun m f rest => (over_finish hobeys rest m f).frames
    reduce := reduced happly }

end Inner

/-- Evaluation leaves the stack of frames as it found it, whatever the expression, the machine and
the fuel, and so does all that it goes through on its way: statements and the jumps out of them,
groups, subscripts, calls, `getline`. A reduction is completed on the frame it was taken from. -/
theorem evaluation_balanced (n : Nat) :
    (∀ e m, (Outcome.machine (evalOperand n e m)).frames = m.frames) ∧
      (∀ b m, (Outcome.machine (runBlock n b m)).frames = m.frames) ∧
        (Inner.withFuel n).Restores := by
  have hkept := Inner.keptBy_any n
  exact ⟨fun _ => (hkept.operand trivial).balanced, fun _ => (hkept.block trivial).balanced,
    Inner.restores hkept⟩

end Awk
