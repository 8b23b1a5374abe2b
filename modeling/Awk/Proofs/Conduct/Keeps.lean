import Awk.Proofs.Evaluation.Acts

/-! What an act and what a run keep. `Keeps J x Q` says that `x`, from a conduct that satisfies `J`, leaves one
that does, also where it runs out of fuel; that its result satisfies `Q`; and that it does the same
whatever is under evaluation around it, and leaves that as it is. -/

namespace Awk

/-! Acts. What is done to a machine without evaluating anything neither sees the expressions under
evaluation nor takes part in control: it leaves the program, the pending jump and the history as
they are, and it never reports a malformed expression. -/

namespace Machine

/-- `a` leaves the conduct as it is, and does the same whatever is under evaluation. -/
structure Quiet {α : Type} (a : Act α) : Prop where
  conduct : ∀ m, (a m).2.conduct = m.conduct
  blind : ∀ m fs, a (m.withFrames fs) = ((a m).1, (a m).2.withFrames fs)

namespace Quiet

variable {α β : Type}

theorem pure (x : α) : Quiet (Pure.pure x : Act α) := ⟨fun _ => rfl, fun _ _ => rfl⟩

theorem bind {a : Act α} {f : α → Act β} (ha : Quiet a) (hf : ∀ x, Quiet (f x)) :
    Quiet (a >>= f) where
  conduct m := ((hf _).conduct _).trans (ha.conduct m)
  blind m fs := by
    show f (a (m.withFrames fs)).1 (a (m.withFrames fs)).2 = _
    rw [ha.blind]
    exact (hf _).blind _ fs

theorem ite {c : Prop} [Decidable c] {a b : Act α} (ha : Quiet a) (hb : Quiet b) :
    Quiet (if c then a else b) := by
  split
  · exact ha
  · exact hb

/-- Reading what is not under evaluation. -/
theorem get_bind {g : Machine → Act α} (hg : ∀ m fs, g (m.withFrames fs) = g m)
    (h : ∀ m, Quiet (g m)) : Quiet (get >>= g) where
  conduct m := (h m).conduct m
  blind m fs := by
    show g (m.withFrames fs) (m.withFrames fs) = _
    rw [hg]
    exact (h m).blind m fs

/-- Changing neither what is under evaluation nor the conduct. -/
theorem modify {f : Machine → Machine} (hc : ∀ m, (f m).conduct = m.conduct)
    (hf : ∀ m fs, f (m.withFrames fs) = (f m).withFrames fs) :
    Quiet (modify f : Act Unit) :=
  ⟨hc, fun m fs => congrArg (Prod.mk ()) (hf m fs)⟩

end Quiet

theorem quiet_modifyEnv (f : Environment → Environment) : Quiet (modifyEnv f) :=
  .modify (fun _ => rfl) fun _ _ => rfl

theorem quiet_modifyInput (f : MainInput → MainInput) : Quiet (MainInput.modifyInput f) :=
  .modify (fun _ => rfl) fun _ _ => rfl

theorem quiet_syncFieldCount : Quiet syncFieldCount :=
  .get_bind (fun _ _ => rfl) fun _ => quiet_modifyEnv _

theorem quiet_putRecord (r : Record) : Quiet (putRecord r) :=
  .bind (.modify (fun _ => rfl) fun _ _ => rfl) fun _ => quiet_syncFieldCount

theorem quiet_report {d : Diagnostic} (h : d ≠ .malformedExpression) : Quiet (report d) :=
  .modify (inert_report h).conduct (report_withFrames d)

theorem quiet_resizeRecord (count : Int) : Quiet (resizeRecord count) := by
  refine .ite (.bind (quiet_report (by nofun)) fun _ => quiet_syncFieldCount) ?_
  refine .get_bind (fun _ _ => rfl) fun m => ?_
  exact .bind (.modify (fun _ => rfl) fun _ _ => rfl) fun _ => quiet_syncFieldCount

theorem quiet_inRange (id : Nat) : Quiet (Inner.inRange id) :=
  .get_bind (fun _ _ => rfl) fun _ => .pure _

theorem quiet_setRange (id : Nat) (active : Bool) : Quiet (Inner.setRange id active) :=
  .modify (fun _ => rfl) fun _ _ => rfl

/-- All acts are quiet, whatever they assign to. -/
def Quiet.acts : Act.Family where
  has := Quiet
  may _ := True
  pure := .pure
  bind := .bind
  get_bind hg h := .get_bind (fun m fs => hg m ⟨fs, m.ranges⟩) h
  inert hf := .modify hf.conduct (withFrames_of_within hf.blind)
  returned _ := quiet_modifyEnv _
  element _ _ := ⟨fun _ => rfl, fun _ _ => rfl⟩
  scalar _ _ _ := quiet_modifyEnv _
  count v _ := (quiet_modifyEnv _).bind fun _ => quiet_resizeRecord v.toInteger
  record r _ := quiet_putRecord r
  change _ _ := quiet_modifyEnv _

end Machine

/-! Runs. -/

open Machine

namespace Run

variable {α β : Type} {J : Conduct → Prop} {Q : α → Prop} {R : β → Prop} {m : Machine}

/-- How a run ends: with a result or out of fuel. -/
abbrev Outcome (α : Type) := EStateM.Result OutOfFuel Machine α

namespace Outcome

def machine : Outcome α → Machine
  | .ok _ m => m
  | .error _ m => m

def withFrames (r : Outcome α) (fs : List (Frame Delayed)) : Outcome α :=
  match r with
  | .ok a m => .ok a (m.withFrames fs)
  | .error e m => .error e (m.withFrames fs)

@[simp] theorem withFrames_ok (a : α) (m : Machine) (fs : List (Frame Delayed)) :
    withFrames (.ok a m) fs = .ok a (m.withFrames fs) := rfl

@[simp] theorem withFrames_error (e : OutOfFuel) (m : Machine) (fs : List (Frame Delayed)) :
    withFrames (.error e m : Outcome α) fs = .error e (m.withFrames fs) := rfl

end Outcome

theorem bind_ok {x : Run α} {f : α → Run β} {a : α} {m m' : Machine} (h : x m = .ok a m') :
    (x >>= f) m = f a m' := by
  show EStateM.bind x f m = _
  simp only [EStateM.bind, h]

theorem bind_error {x : Run α} {f : α → Run β} {e : OutOfFuel} {m m' : Machine}
    (h : x m = .error e m') : (x >>= f) m = .error e m' := by
  show EStateM.bind x f m = _
  simp only [EStateM.bind, h]

/-- What ends with a result has got through its first step. -/
theorem bind_eq_ok {x : Run α} {f : α → Run β} {b : β} {m m' : Machine}
    (h : (x >>= f) m = .ok b m') : ∃ a m₁, x m = .ok a m₁ ∧ f a m₁ = .ok b m' := by
  cases hx : x m with
  | ok a m₁ =>
    rw [bind_ok hx] at h
    exact ⟨a, m₁, rfl, h⟩
  | error e m₁ =>
    rw [bind_error hx] at h
    cases h

/-- What follows a step depends on its outcome alone. -/
theorem bind_congr_left {x y : Run α} (h : x m = y m) (k : α → Run β) :
    (x >>= k) m = (y >>= k) m := by
  show EStateM.bind x k m = EStateM.bind y k m
  simp only [EStateM.bind, h]

theorem lift_apply (a : Act α) (m : Machine) : (liftM a : Run α) m = .ok (a m).1 (a m).2 := rfl

/-- What `Keeps` asks of a run from one machine. -/
structure KeepsAt (J : Conduct → Prop) (x : Run α) (Q : α → Prop) (m : Machine) : Prop where
  blind : ∀ fs, x (m.withFrames fs) = Outcome.withFrames (x m) fs
  conduct : J (Outcome.machine (x m)).conduct
  value : ∀ a m', x m = .ok a m' → Q a

def Keeps (J : Conduct → Prop) (x : Run α) (Q : α → Prop) : Prop :=
  ∀ m, J m.conduct → KeepsAt J x Q m

theorem KeepsAt.pure {a : α} (ha : Q a) (h : J m.conduct) : KeepsAt J (Pure.pure a) Q m where
  blind _ := rfl
  conduct := h
  value b m' hb := by
    cases hb
    exact ha

/-- What follows a step may start from less than the step has kept. -/
theorem KeepsAt.bind_weaken {I : Conduct → Prop} {x : Run α} {f : α → Run β} (hx : KeepsAt I x Q m)
    (hIJ : ∀ c, I c → J c)
    (hf : ∀ a m', x m = .ok a m' → Q a → I m'.conduct → KeepsAt J (f a) R m') :
    KeepsAt J (x >>= f) R m := by
  have hc := hx.conduct
  have hb := hx.blind
  cases h : x m with
  | ok a m' =>
    rw [h] at hc hb
    have hfa := hf a m' h (hx.value a m' h) hc
    refine ⟨fun fs => ?_, ?_, fun b m'' h' => hfa.value b m'' ?_⟩
    · rw [bind_ok (hb fs), bind_ok h]
      exact hfa.blind fs
    · rw [bind_ok h]
      exact hfa.conduct
    · rw [bind_ok h] at h'
      exact h'
  | error e m' =>
    rw [h] at hc hb
    refine ⟨fun fs => ?_, ?_, fun b m'' h' => ?_⟩
    · rw [bind_error (hb fs), bind_error h]
      rfl
    · rw [bind_error h]
      exact hIJ _ hc
    · rw [bind_error h] at h'
      cases h'

theorem KeepsAt.bind {x : Run α} {f : α → Run β} (hx : KeepsAt J x Q m)
    (hf : ∀ a m', x m = .ok a m' → Q a → J m'.conduct → KeepsAt J (f a) R m') :
    KeepsAt J (x >>= f) R m := hx.bind_weaken (fun _ h => h) hf

theorem KeepsAt.mono {x : Run α} {Q' : α → Prop} (hx : KeepsAt J x Q m) (hq : ∀ a, Q a → Q' a) :
    KeepsAt J x Q' m :=
  ⟨hx.blind, hx.conduct, fun a m' h => hq a (hx.value a m' h)⟩

/-- Reading what is not under evaluation. -/
theorem KeepsAt.get_bind {g : Machine → Run α} (hg : ∀ fs, g (m.withFrames fs) = g m)
    (h : KeepsAt J (g m) Q m) : KeepsAt J (get >>= g) Q m where
  blind fs := by
    show g (m.withFrames fs) (m.withFrames fs) = _
    rw [hg]
    exact h.blind fs
  conduct := h.conduct
  value := h.value

theorem KeepsAt.act {a : Act α} (hb : ∀ fs, a (m.withFrames fs) = ((a m).1, (a m).2.withFrames fs))
    (hc : J (a m).2.conduct) (hq : Q (a m).1) : KeepsAt J (liftM a) Q m where
  blind fs := by
    simp only [lift_apply, hb, Outcome.withFrames_ok]
  conduct := hc
  value b m' h := by
    cases h
    exact hq

theorem KeepsAt.lift {a : Act α} (ha : Quiet a) (h : J m.conduct) :
    KeepsAt J (liftM a) (fun _ => True) m :=
  .act (ha.blind m) (by rw [ha.conduct]; exact h) trivial

namespace Keeps

theorem pure {a : α} (ha : Q a) : Keeps J (Pure.pure a) Q := fun _ h => .pure ha h

theorem outOfFuel : Keeps J (Run.outOfFuel : Run α) Q :=
  fun _ h => ⟨fun _ => rfl, h, fun _ _ h' => nomatch h'⟩

theorem bind {x : Run α} {f : α → Run β} (hx : Keeps J x Q) (hf : ∀ a, Q a → Keeps J (f a) R) :
    Keeps J (x >>= f) R :=
  fun m h => (hx m h).bind fun a _ _ ha h' => hf a ha _ h'

/-- A step whose result does not matter. -/
theorem andThen {x : Run α} {f : α → Run β} (hx : Keeps J x Q) (hf : ∀ a, Keeps J (f a) R) :
    Keeps J (x >>= f) R := hx.bind fun a _ => hf a

theorem mono {x : Run α} {Q' : α → Prop} (hx : Keeps J x Q) (hq : ∀ a, Q a → Q' a) :
    Keeps J x Q' := fun m h => (hx m h).mono hq

/-- A result is one that the run has. -/
theorem result {x : Run α} (hx : Keeps J x Q) : Keeps J x fun a => ∃ m m', x m = .ok a m' :=
  fun m hm => ⟨(hx m hm).blind, (hx m hm).conduct, fun _ m' h => ⟨m, m', h⟩⟩

theorem any {x : Run α} (hx : Keeps J x Q) : Keeps J x fun _ => True := hx.mono fun _ _ => trivial

theorem lift {a : Act α} (ha : Quiet a) : Keeps J (liftM a) fun _ => True :=
  fun _ h => .lift ha h

/-- A quiet act of which more is known about its result. -/
theorem lift_value {a : Act α} (ha : Quiet a) (hq : ∀ m, Q (a m).1) : Keeps J (liftM a) Q :=
  fun m hm => .act (ha.blind m) (by rw [ha.conduct]; exact hm) (hq m)

theorem ite {c : Prop} [Decidable c] {x y : Run α} (hx : Keeps J x Q) (hy : Keeps J y Q) :
    Keeps J (if c then x else y) Q := by
  split
  · exact hx
  · exact hy

theorem get_bind {g : Machine → Run α} (hg : ∀ m fs, g (m.withFrames fs) = g m)
    (h : ∀ m, J m.conduct → Keeps J (g m) Q) : Keeps J (get >>= g) Q :=
  fun m hm => .get_bind (hg m) (h m hm m hm)

theorem repeatWhile {pass : Run Bool} (hp : Keeps J pass fun _ => True) (n : Nat) :
    Keeps J (Run.repeatWhile pass n) fun _ => True := by
  induction n with
  | zero => exact outOfFuel
  | succ n ih => exact hp.andThen fun _ => .ite ih (.pure trivial)

theorem forWhile {f : α → Run Bool} (hf : ∀ a, Keeps J (f a) fun _ => True) (as : List α) :
    Keeps J (Run.forWhile f as) fun _ => True := by
  induction as with
  | nil => exact .pure trivial
  | cons a as ih => exact (hf a).andThen fun _ => .ite ih (.pure trivial)

theorem collect {f : α → Run β} (as : List α) (hf : ∀ a ∈ as, Keeps J (f a) R) :
    Keeps J (Run.collect f as) fun _ => True := by
  induction as with
  | nil => exact .pure trivial
  | cons a as ih =>
    refine (hf a (.head _)).andThen fun _ => ?_
    exact (ih fun b hb => hf b (.tail _ hb)).andThen fun _ => .pure trivial

end Keeps

end Run

end Awk
