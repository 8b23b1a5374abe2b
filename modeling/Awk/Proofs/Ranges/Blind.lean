import Awk.Proofs.Conduct.Evaluation

/-! Evaluation and the ranges. Only a range pattern looks at which ranges are between their ends;
expressions and blocks do the same whatever these are, and leave them as they are. -/

namespace Awk

open Machine Run

/-- The machine with other range patterns between their ends. -/
def Machine.withRanges (m : Machine) (ranges : List Bool) : Machine := { m with ranges }

theorem Machine.withRanges_of_within {f : Machine → Machine}
    (hf : ∀ m s, f (m.within s) = (f m).within s) (m : Machine) (rs : List Bool) :
    f (m.withRanges rs) = (f m).withRanges rs := by
  have hsame : f m = (f m).within ⟨m.frames, m.ranges⟩ := hf m ⟨m.frames, m.ranges⟩
  have hframes : (f m).frames = m.frames := by
    rw [hsame]
    rfl
  calc f (m.withRanges rs)
      = (f m).within ⟨m.frames, rs⟩ := hf m ⟨m.frames, rs⟩
    _ = (f m).withRanges rs := by rw [← hframes]; rfl

namespace Machine

/-- An act that neither sees nor changes the ranges. -/
def Rangeless {α : Type} (a : Act α) : Prop :=
  ∀ m rs, a (m.withRanges rs) = ((a m).1, (a m).2.withRanges rs)

namespace Rangeless

variable {α β : Type}

theorem bind {a : Act α} {f : α → Act β} (ha : Rangeless a) (hf : ∀ x, Rangeless (f x)) :
    Rangeless (a >>= f) := by
  intro m rs
  show f (a (m.withRanges rs)).1 (a (m.withRanges rs)).2 = _
  rw [ha]
  exact hf _ _ rs

theorem get_bind {g : Machine → Act α} (hg : ∀ m s, g (m.within s) = g m)
    (h : ∀ m, Rangeless (g m)) : Rangeless (get >>= g) := by
  intro m rs
  show g (m.withRanges rs) (m.withRanges rs) = _
  have hsame : g (m.withRanges rs) = g m := hg m ⟨m.frames, rs⟩
  rw [hsame]
  exact h m m rs

theorem modify {f : Machine → Machine} (hf : ∀ m rs, f (m.withRanges rs) = (f m).withRanges rs) :
    Rangeless (modify f : Act Unit) := fun m rs => congrArg (Prod.mk ()) (hf m rs)

theorem report (d : Diagnostic) : Rangeless (report d) :=
  .modify (withRanges_of_within (f := fun m => (Machine.report d m).2) (report_within d))

theorem putRecord (r : Record) : Rangeless (putRecord r) := fun _ _ => rfl

theorem ite {c : Prop} [Decidable c] {a b : Act α} (ha : Rangeless a) (hb : Rangeless b) :
    Rangeless (if c then a else b) := by
  split
  · exact ha
  · exact hb

theorem resizeRecord (count : Int) : Rangeless (resizeRecord count) :=
  .ite ((report _).bind fun _ _ _ => rfl) fun _ _ => rfl

/-- All acts that an evaluation is built of. -/
def acts : Act.Family where
  has := Rangeless
  may _ := True
  pure _ _ _ := rfl
  bind := .bind
  get_bind := .get_bind
  inert hf := .modify (withRanges_of_within hf.blind)
  returned _ _ _ := rfl
  element _ _ _ _ := rfl
  scalar _ _ _ _ _ := rfl
  count v _ := Rangeless.bind (fun _ _ => rfl) fun _ => resizeRecord v.toInteger
  record r _ := putRecord r
  change _ _ _ _ := rfl

end Rangeless

end Machine

namespace Run

variable {α β : Type} {Q : α → Prop} {R : β → Prop} {m : Machine}

def Outcome.withRanges (r : Outcome α) (rs : List Bool) : Outcome α :=
  match r with
  | .ok a m => .ok a (m.withRanges rs)
  | .error e m => .error e (m.withRanges rs)

/-- From `m`, `x` neither sees nor changes the ranges, and its result satisfies `Q`. -/
structure RangelessAt (x : Run α) (Q : α → Prop) (m : Machine) : Prop where
  blind : ∀ rs, x (m.withRanges rs) = Outcome.withRanges (x m) rs
  value : ∀ a m', x m = .ok a m' → Q a

def Rangeless (x : Run α) (Q : α → Prop) : Prop := ∀ m, RangelessAt x Q m

namespace RangelessAt

theorem pure {a : α} (ha : Q a) : RangelessAt (Pure.pure a) Q m where
  blind _ := rfl
  value b m' hb := by
    cases hb
    exact ha

theorem outOfFuel : RangelessAt (Run.outOfFuel : Run α) Q m :=
  ⟨fun _ => rfl, fun _ _ h => nomatch h⟩

theorem bind {x : Run α} {f : α → Run β} (hx : RangelessAt x Q m)
    (hf : ∀ a m', x m = .ok a m' → Q a → RangelessAt (f a) R m') : RangelessAt (x >>= f) R m := by
  have hb := hx.blind
  cases h : x m with
  | ok a m' =>
    rw [h] at hb
    have hfa := hf a m' h (hx.value a m' h)
    refine ⟨fun rs => ?_, fun b m'' h' => hfa.value b m'' ?_⟩
    · rw [bind_ok (hb rs), bind_ok h]
      exact hfa.blind rs
    · rw [bind_ok h] at h'
      exact h'
  | error e m' =>
    rw [h] at hb
    refine ⟨fun rs => ?_, fun b m'' h' => ?_⟩
    · rw [bind_error (hb rs), bind_error h]
      rfl
    · rw [bind_error h] at h'
      cases h'

theorem mono {x : Run α} {Q' : α → Prop} (h : RangelessAt x Q m) (hQ : ∀ a, Q a → Q' a) :
    RangelessAt x Q' m := ⟨h.blind, fun a m' hx => hQ a (h.value a m' hx)⟩

theorem act {a : Act α} (h : Machine.Rangeless a) (hq : Q (a m).1) :
    RangelessAt (liftM a) Q m where
  blind rs := by
    simp only [lift_apply, h m rs]
    rfl
  value b m' hb := by
    cases hb
    exact hq

/-- Reading the pending jump. -/
theorem getFlag_bind {k : Flag → Run α} (h : RangelessAt (k m.flag) Q m) :
    RangelessAt (getFlag >>= k) Q m := ⟨h.blind, h.value⟩

/-- The ranges are left as they are. -/
theorem ranges_eq {x : Run α} (h : RangelessAt x Q m) : (Outcome.machine (x m)).ranges = m.ranges := by
  have hsame : x m = Outcome.withRanges (x m) m.ranges := h.blind m.ranges
  rw [hsame]
  cases x m <;> rfl

/-- Reading what does not surround an evaluation. -/
theorem get_bind {g : Machine → Run α} (hg : ∀ m s, g (m.within s) = g m)
    (h : RangelessAt (g m) Q m) : RangelessAt (get >>= g) Q m where
  blind rs := by
    show g (m.withRanges rs) (m.withRanges rs) = _
    have hsame : g (m.withRanges rs) = g m := hg m ⟨m.frames, rs⟩
    rw [hsame]
    exact h.blind rs
  value := h.value

end RangelessAt

namespace Rangeless

theorem pure {a : α} (ha : Q a) : Rangeless (Pure.pure a) Q := fun _ => .pure ha

theorem bind {x : Run α} {f : α → Run β} (hx : Rangeless x Q) (hf : ∀ a, Q a → Rangeless (f a) R) :
    Rangeless (x >>= f) R := fun m => (hx m).bind fun a m' _ ha => hf a ha m'

/-- A step whose result does not matter. -/
theorem andThen {x : Run α} {f : α → Run β} (hx : Rangeless x Q) (hf : ∀ a, Rangeless (f a) R) :
    Rangeless (x >>= f) R := hx.bind fun a _ => hf a

theorem act {a : Act α} (h : Machine.Rangeless a) : Rangeless (liftM a) fun _ => True :=
  fun _ => .act h trivial

theorem ite {c : Prop} [Decidable c] {x y : Run α} (hx : Rangeless x Q) (hy : Rangeless y Q) :
    Rangeless (if c then x else y) Q := by
  split
  · exact hx
  · exact hy

theorem get_bind {g : Machine → Run α} (hg : ∀ m s, g (m.within s) = g m)
    (h : ∀ m, Rangeless (g m) Q) : Rangeless (get >>= g) Q := fun m => .get_bind hg (h m m)

end Rangeless

/-- What a run says of its results, as far as it neither sees nor changes the ranges. -/
def Logic.rangeless : Run.Logic where
  holds x _ Q := Rangeless x Q
  pure := .pure
  bind := .bind

end Run

/-- Runs that neither see nor change the ranges, and with them all acts. -/
def Act.Calculus.rangeless : Act.Calculus where
  toLogic := .rangeless
  acts := Machine.Rangeless.acts
  lift ha hq m := .act ha (hq m)
  get_bind hf _ h := .get_bind hf h
  outOfFuel _ := .outOfFuel

/-- All expressions and blocks, walked over. -/
def Walk.rangeless : Walk where
  toCalculus := .rangeless
  given p x _ Q := ∀ m : Machine, p m → RangelessAt x Q m
  given_of h m _ := h m
  given_bind hx hf m hm := (hx m hm).bind fun a m' _ ha => hf a ha m'
  given_mono hpq h m hm := h m (hpq m hm)
  asks _ := True
  jump _ _ _ := .act (fun _ _ => rfl) trivial
  leave _ _ := .act (fun _ _ => rfl) trivial
  expr _ := True
  block _ := True
  denotes _ _ := True
  passes _ _ := True
  expr_part _ _ _ := trivial
  expr_may _ _ _ := trivial
  expr_passes _ _ := trivial
  block_expr _ _ _ := trivial
  block_block _ _ _ := trivial
  block_may _ _ _ := trivial

namespace Inner

/-- That the parts of an evaluation neither see nor change the ranges. -/
structure Rangeless (i : Inner) : Prop where
  operand : ∀ e, Run.Rangeless (i.operand e) fun _ => True
  block : ∀ b, Run.Rangeless (i.block b) fun _ => True

namespace Rangeless

variable {self : Inner} (h : self.Rangeless)

include h

theorem passArgument (e : Expr) : Run.Rangeless (self.passArgument e) fun _ => True := by
  unfold Inner.passArgument
  split
  · exact fun _ => ⟨fun _ => rfl, fun _ _ _ => trivial⟩
  · have hvalue : Run.Rangeless (self.value e) fun _ => True :=
      (h.operand e).andThen fun o => .act (Machine.Rangeless.acts.valueOf o)
    exact hvalue.andThen fun _ => .pure trivial

theorem enter (f : Function) (passed : List Environment.Argument) :
    Run.Rangeless (self.enter f passed) fun _ => True := by
  have hpush (g : Environment → Environment) : Machine.Rangeless (modifyEnv g) := fun _ _ => rfl
  refine (Rangeless.act (hpush _)).andThen fun _ => (h.block f.body).andThen fun _ => ?_
  exact fun _ => ⟨fun _ => rfl, fun _ _ _ => trivial⟩

theorem callUser (name : Name) (es : List Expr) :
    Run.Rangeless (self.callUser name es) fun _ => True := by
  have hreport (d : Diagnostic) : Run.Rangeless (do report d; return .empty : Run Value)
      fun _ => True := (Rangeless.act (.report d)).andThen fun _ => .pure trivial
  refine .get_bind (fun _ _ => rfl) fun m => ?_
  cases m.program.function? name with
  | none => exact hreport _
  | some f =>
    have hpassed : Run.Rangeless (Run.collect self.passArgument es) _ :=
      Run.Logic.rangeless.collect (g := self.passArgument) es fun e _ => h.passArgument e
    exact .ite (hreport _) (hpassed.andThen fun passed => h.enter f passed)

theorem relates : Walk.rangeless.Relates self self where
  operand {e} _ m := ⟨(h.operand e m).blind, fun _ _ _ _ _ => trivial⟩
  block {b} _ := h.block b
  loop hx := Act.Calculus.rangeless.repeatWhile hx self.fuel
  request m _ := Act.Calculus.nextRecord (L := .rangeless) (fun _ => trivial)
    (fun _ _ _ => rfl) self.fuel self.fuel m
  call {name parts} _ := h.callUser name parts

omit h in
theorem settleFlag (kind : BlockKind) : Machine.Rangeless (settleFlag kind) := by
  intro m rs
  have hsame : (m.withRanges rs).flag = m.flag := rfl
  rw [settleFlag_apply, settleFlag_apply, hsame]
  cases kind.settlement m.flag with
  | leave => rfl
  | absorb => rfl
  | reported d =>
    exact congrArg (fun r => (Flag.none, r.2)) (Machine.Rangeless.report d (setFlag .none m).2 rs)

theorem straight (ss : List Statement) : Run.Rangeless (self.straight ss) fun _ => True := by
  induction ss with
  | nil => exact .pure trivial
  | cons s ss ih =>
    have hadmits : Walk.rangeless.AdmitsStatement s :=
      ⟨fun _ _ => trivial, fun _ _ => trivial, fun _ => trivial⟩
    have hnote : Machine.Rangeless (note (.statement s)) := fun _ _ => rfl
    refine fun m => .getFlag_bind ?_
    by_cases hflag : m.flag = .none
    · rw [if_pos hflag]
      have hstatement := h.relates.statement hadmits (note (.statement s) m).2 hflag
      refine (Rangeless.act hnote m).bind fun _ m' hm' _ => ?_
      cases hm'
      exact hstatement.bind fun _ m'' _ _ => ih m''
    · rw [if_neg hflag]
      exact .pure trivial

theorem body (b : Block) : Run.Rangeless (self.body b) fun _ => True := by
  rw [body_eq]
  exact (h.straight _).andThen fun _ => .act (settleFlag b.kind)

theorem algebra : self.algebra.Obeys .rangeless := by
  refine ⟨fun x => ?_, fun r => ?_, .act (.report _)⟩
  · have hx : Walk.rangeless.AdmitsTerm x :=
      ⟨fun _ _ => trivial, fun _ => trivial, fun _ => trivial⟩
    exact fun m => ((h.relates.operandOf hx) m fun _ => trivial).mono fun _ _ => trivial
  · have hr : Walk.rangeless.AdmitsReduction r := by
      cases r with
      | unary o d => exact fun _ _ => trivial
      | binary o l r => exact ⟨fun _ _ => trivial, fun _ _ => trivial⟩
    exact Walk.rangeless.any (h.relates.apply hr (fun _ => trivial) fun _ => .act (.report _))

end Rangeless

/-- Evaluation with any fuel neither sees nor changes the ranges. -/
theorem rangeless_withFuel (n : Nat) : (withFuel n).Rangeless := by
  induction n with
  | zero => exact ⟨fun _ _ => .outOfFuel, fun _ _ => .outOfFuel⟩
  | succ n ih =>
    refine ⟨fun e => ?_, ih.body⟩
    have hterms : Run.Rangeless ((withFuel n).terms e) fun _ => True := by
      rw [terms_withFuel]
      exact ih.algebra.run e
    exact hterms.andThen fun d => ih.relates.settle fun _ _ => trivial

/-- So do patterns without ranges. -/
theorem rangeless_selects (n : Nat) {p : Pattern} (hp : p.ranges = []) :
    Run.Rangeless ((withFuel n).selects p) fun _ => True := by
  refine (rangeless_withFuel n).relates.selects (fun _ _ => trivial) fun id hid => ?_
  rw [hp] at hid
  cases hid

end Inner

end Awk
