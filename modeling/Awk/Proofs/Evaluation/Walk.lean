import Awk.Proofs.Evaluation.Acts
import Awk.Proofs.Expression.Tracking

/-! The walk over expressions. What two evaluations have in common carries over from the parts of an
expression, and from the single acts, to all that is built of them. -/

namespace Awk

open Machine Run

namespace Run.Logic

variable (L : Run.Logic) {α β : Type}

/-- Each result goes with its item. -/
theorem collect {f g : α → Run β} {R : α → β → Prop} (as : List α)
    (h : ∀ a ∈ as, L.holds (f a) (g a) (R a)) :
    L.holds (Run.collect f as) (Run.collect g as) (List.Forall₂ R as) := by
  induction as with
  | nil => exact L.pure .nil
  | cons a as ih =>
    obtain ⟨ha, has⟩ := List.forall_mem_cons.mp h
    exact L.bind ha fun b hb => L.bind (ih has) fun bs hbs => L.pure (.cons hb hbs)

end Run.Logic

/-- What stands at a place of a list goes with what stands there in the other. -/
theorem forall₂_getElem? {α β : Type} {R : α → β → Prop} {as : List α} {bs : List β}
    (hR : List.Forall₂ R as bs) (i : Nat) :
    (as[i]? = none ∧ bs[i]? = none) ∨ ∃ a b, as[i]? = some a ∧ bs[i]? = some b ∧ R a b := by
  induction hR generalizing i with
  | nil => exact .inl ⟨rfl, rfl⟩
  | cons hab _ ih =>
    cases i with
    | zero => exact .inr ⟨_, _, rfl, rfl, hab⟩
    | succ i => simpa only [List.getElem?_cons_succ] using ih i

/-- A logic of runs in which acts have their place. -/
structure Act.Calculus extends Run.Logic where
  acts : Act.Family
  lift : ∀ {α : Type} {a : Act α} {Q : α → Prop}, acts.has a → (∀ m, Q (a m).1) →
    holds (liftM a) (liftM a) Q
  /-- Reading what does not surround an evaluation. -/
  get_bind : ∀ {α : Type} {f g : Machine → Run α} {Q : α → Prop},
    (∀ m s, f (m.within s) = f m) → (∀ m s, g (m.within s) = g m) →
    (∀ m, holds (f m) (g m) Q) → holds (get >>= f) (get >>= g) Q
  outOfFuel : ∀ {α : Type} {Q : α → Prop}, holds (Run.outOfFuel : Run α) Run.outOfFuel Q

namespace Act.Calculus

variable (L : Act.Calculus)

theorem act {α : Type} {a : Act α} (h : L.acts.has a) :
    L.holds (liftM a) (liftM a) fun _ => True := L.lift h fun _ => trivial

theorem repeatWhile {x y : Run Bool} (h : L.holds x y fun _ => True) (n : Nat) :
    L.holds (Run.repeatWhile x n) (Run.repeatWhile y n) fun _ => True := by
  induction n with
  | zero => exact L.outOfFuel
  | succ n ih => exact L.andThen h fun _ => L.ite ih (L.pure trivial)

/-! The main input, where any site may be assigned to. -/

variable {L} (hmay : ∀ s, L.acts.may s) (hinput : ∀ f, L.acts.has (MainInput.modifyInput f))

include hmay hinput

theorem openBelow (count : Int) (n : Nat) :
    L.holds (MainInput.openBelow count n) (MainInput.openBelow count n) fun _ => True := by
  induction n with
  | zero => exact L.outOfFuel
  | succ n ih =>
    refine L.get_bind (fun _ _ => rfl) (fun _ _ => rfl) fun m => ?_
    refine L.ite ?_ (L.act (L.acts.openLast hmay hinput))
    refine L.andThen (L.act (hinput _)) fun _ => L.andThen (L.act (L.acts.element? _ _)) fun v => ?_
    cases v with
    | none => exact ih
    | some v =>
      refine L.ite ih (L.andThen (L.act (L.acts.useOperand hmay hinput _)) fun _ => ?_)
      exact L.ite (L.pure trivial) ih

theorem openNext (fuel : Nat) :
    L.holds (MainInput.openNext fuel) (MainInput.openNext fuel) fun _ => True := by
  refine L.get_bind (fun _ _ => rfl) (fun _ _ => rfl) fun m => L.ite (L.pure trivial) ?_
  exact L.andThen (L.act (L.acts.scalarOf _)) fun _ => openBelow hmay hinput _ _

theorem nextRecord (fuel n : Nat) :
    L.holds (MainInput.nextRecord fuel n) (MainInput.nextRecord fuel n) fun _ => True := by
  induction n with
  | zero => exact L.outOfFuel
  | succ n ih =>
    refine L.get_bind (fun _ _ => rfl) (fun _ _ => rfl) fun m => ?_
    split
    · exact L.andThen (openNext hmay hinput fuel) fun _ => L.ite ih (L.pure trivial)
    · refine L.andThen (L.act (L.acts.readCurrent hmay hinput _)) fun r => ?_
      cases r with
      | none => exact ih
      | some r => exact L.andThen (L.act (L.acts.withStreams _)) fun _ => L.pure trivial

end Act.Calculus

/-- Whether a term asks for a record of the main input. -/
def Term.asksMain : Term → Bool
  | .getline _ .main => true
  | _ => false

/-- A way of saying what two evaluations have in common, for the acts, expressions and blocks that
it admits. `asks` says where a record of the main input may be asked for. -/
structure Walk extends Act.Calculus where
  /-- The same of runs from machines that are as it says. -/
  given : ∀ {α : Type}, (Machine → Prop) → Run α → Run α → (α → Prop) → Prop
  given_of : ∀ {α : Type} {p : Machine → Prop} {x y : Run α} {Q : α → Prop}, holds x y Q →
    given p x y Q
  given_bind : ∀ {α β : Type} {p : Machine → Prop} {x y : Run α} {f g : α → Run β}
    {Q : α → Prop} {R : β → Prop}, given p x y Q → (∀ a, Q a → holds (f a) (g a) R) →
    given p (x >>= f) (y >>= g) R
  given_mono : ∀ {α : Type} {p q : Machine → Prop} {x y : Run α} {Q : α → Prop},
    (∀ m, q m → p m) → given p x y Q → given q x y Q
  asks : Machine → Prop
  /-- `break`, `continue` and `next` are raised where no jump is pending. -/
  jump : ∀ {j}, j = .break_ ∨ j = .continue_ ∨ j = .next →
    given (·.flag = .none) (liftM (raise j)) (liftM (raise j)) fun _ => True
  /-- `return` and `exit` may meet a jump that their operand has raised. -/
  leave : ∀ {j}, j = .return_ ∨ j = .exit →
    holds (liftM (raise j)) (liftM (raise j)) fun _ => True
  expr : Expr → Prop
  block : Block → Prop
  /-- To which places an expression may be evaluated. -/
  denotes : Expr → Place → Prop
  /-- What may be passed to a function of the program. -/
  passes : Name → List Expr → Prop
  expr_part : ∀ {e x p}, expr e → x ∈ e → p ∈ x.parts → expr p
  expr_may : ∀ {e x s}, expr e → x ∈ e → x.Assigns denotes s → acts.may s
  expr_passes : ∀ {e name parts}, expr e → .call (.user name) parts ∈ e → passes name parts
  block_expr : ∀ {b s e}, block b → s ∈ b.statements → e ∈ s.exprs → expr e
  block_block : ∀ {b s b'}, block b → s ∈ b.statements → b' ∈ s.blocks → block b'
  block_may : ∀ {b s site}, block b → s ∈ b.statements → s.Assigns site → acts.may site

namespace Walk

variable (W : Walk)

/-- What is inside of a term is admitted. -/
structure AdmitsTerm (x : Term) : Prop where
  parts : ∀ p ∈ x.parts, W.expr p
  may : ∀ {s}, x.Assigns W.denotes s → W.acts.may s
  passes : ∀ {name parts}, x = .call (.user name) parts → W.passes name parts

/-- What is inside of a statement is admitted. -/
structure AdmitsStatement (s : Statement) : Prop where
  exprs : ∀ e ∈ s.exprs, W.expr e
  blocks : ∀ b ∈ s.blocks, W.block b
  may : ∀ {site}, s.Assigns site → W.acts.may site

/-- A group is an admitted expression. -/
def AdmitsDelayed (d : Delayed) : Prop := ∀ e, d = .group e → W.expr e

/-- Operands of a reduction that are admitted. -/
def AdmitsReduction : Reduction Delayed → Prop
  | .unary _ d => W.AdmitsDelayed d
  | .binary _ l r => W.AdmitsDelayed l ∧ W.AdmitsDelayed r

variable {W}

theorem admitsTerm {e : Expr} {x : Term} (he : W.expr e) (hx : x ∈ e) : W.AdmitsTerm x where
  parts _ hp := W.expr_part he hx hp
  may hs := W.expr_may he hx hs
  passes hcall := W.expr_passes he (hcall ▸ hx)

theorem admitsStatement {b : Block} {s : Statement} (hb : W.block b) (hs : s ∈ b.statements) :
    W.AdmitsStatement s :=
  ⟨fun _ => W.block_expr hb hs, fun _ => W.block_block hb hs, W.block_may hb hs⟩

theorem admits_blank : W.AdmitsTerm (.value .empty) := ⟨nofun, nofun, nofun⟩

theorem admits_plain {d : Delayed} (h : d.isPlain) : W.AdmitsDelayed d := by
  rintro e rfl
  cases h

/-- A result that is a group is one of the operands. -/
theorem admits_result {r : Reduction Delayed} {d : Delayed} (hr : W.AdmitsReduction r)
    (h : r.Gives d) : W.AdmitsDelayed d := by
  cases h with
  | plain hd => exact admits_plain hd
  | field i index => nofun
  | assigned p j ho => nofun
  | chosen i j => exact hr.2
  | yes i j => exact hr.1
  | no i j => exact hr.2

variable (W)

/-- That two evaluations of parts, with what else depends on the fuel, are in relation. -/
structure Relates (i j : Inner) : Prop where
  operand : ∀ {e}, W.expr e →
    W.holds (i.operand e) (j.operand e) fun o => ∀ p, o = .place p → W.denotes e p
  block : ∀ {b}, W.block b → W.holds (i.block b) (j.block b) fun _ => True
  loop : ∀ {x y}, W.holds x y (fun _ => True) →
    W.holds (Run.repeatWhile x i.fuel) (Run.repeatWhile y j.fuel) fun _ => True
  request : W.given W.asks (MainInput.nextRecord i.fuel i.fuel)
    (MainInput.nextRecord j.fuel j.fuel) fun _ => True
  call : ∀ {name parts}, W.AdmitsTerm (.call (.user name) parts) →
    W.holds (i.callUser name parts) (j.callUser name parts) fun _ => True

namespace Relates

variable {W} {self other : Inner} (h : W.Relates self other)

/-! Values and calls. -/

include h

theorem value {e : Expr} (he : W.expr e) :
    W.holds (self.value e) (other.value e) fun _ => True :=
  W.andThen (h.operand he) fun o => W.act (W.acts.valueOf o)

theorem settle {d : Delayed} (hd : W.AdmitsDelayed d) :
    W.holds (self.settle d) (other.settle d) fun _ => True := by
  cases d with
  | ready o => exact W.pure trivial
  | group e => exact W.any (h.operand (hd e rfl))

theorem force {d : Delayed} (hd : W.AdmitsDelayed d) :
    W.holds (self.force d) (other.force d) fun _ => True :=
  W.andThen (h.settle hd) fun o => W.act (W.acts.valueOf o)

theorem pattern {d : Delayed} (hd : W.AdmitsDelayed d) :
    W.holds (self.pattern d) (other.pattern d) fun _ => True := by
  unfold Inner.pattern
  split
  · exact W.pure trivial
  · exact W.andThen (h.force hd) fun _ => W.pure trivial

theorem values {es : List Expr} (hes : ∀ e ∈ es, W.expr e) :
    W.holds (Run.collect self.value es) (Run.collect other.value es) fun _ => True :=
  W.any (W.collect es fun e he => h.value (hes e he))

theorem subscriptKey {es : List Expr} (hes : ∀ e ∈ es, W.expr e) :
    W.holds (self.subscriptKey es) (other.subscriptKey es) fun _ => True :=
  W.andThen (h.values hes) fun _ => W.act (W.acts.joinSubscript _)

theorem callBuiltin {b : Builtin} {parts : List Expr}
    (hx : W.AdmitsTerm (.call (.builtin b) parts)) :
    W.holds (Builtin.call self b parts) (Builtin.call other b parts) fun _ => True := by
  refine W.ite ?_ (W.andThen (W.act (W.acts.report (by nofun))) fun _ => W.pure trivial)
  refine W.bind (W.collect parts fun e he => h.operand (hx.parts e he)) fun os hos => W.act ?_
  have hdenotes {i : Nat} {p : Place} (ho : os[i]? = some (.place p)) :
      ∃ e, parts[i]? = some e ∧ W.denotes e p := by
    obtain ⟨-, hnone⟩ | ⟨e, o, he, ho', hp⟩ := forall₂_getElem? hos i
    · rw [hnone] at ho
      cases ho
    · rw [ho'] at ho
      cases ho
      exact ⟨e, he, hp p rfl⟩
  refine W.acts.apply (fun hb ho => ?_) (fun hb p ho => ?_) (fun hb name ho => ?_) fun hb => ?_
  · obtain ⟨hnone, -⟩ | ⟨_, _, -, ho', -⟩ := forall₂_getElem? hos 2
    · exact hx.may (.substituteRecord hb hnone)
    · rw [ho'] at ho
      cases ho
  · obtain ⟨e, he, hp⟩ := hdenotes ho
    exact hx.may (.substitute hb he hp)
  · obtain ⟨e, he, hp⟩ := hdenotes ho
    subst hb
    exact hx.may (.split he hp)
  · subst hb
    exact ⟨hx.may (.matchStart parts), hx.may (.matchLength parts)⟩

theorem callFunction {callee : Callee} {parts : List Expr}
    (hx : W.AdmitsTerm (.call callee parts)) :
    W.holds (self.call callee parts) (other.call callee parts) fun _ => True := by
  cases callee with
  | builtin b => exact h.callBuiltin hx
  | user name => exact h.call hx

theorem fetch (kind : Host.InputKind) {source : Expr} (hs : W.expr source) :
    W.holds (self.fetch kind source) (other.fetch kind source) fun _ => True := by
  refine W.andThen (h.value hs) fun name => W.andThen (W.act (W.acts.scalarOf _)) fun rs => ?_
  refine W.andThen (W.act (W.acts.withStreams _)) fun r => ?_
  split
  · exact W.pure trivial
  · exact W.pure trivial
  · exact W.andThen (W.act (W.acts.reportFailure _)) fun _ => W.pure trivial

theorem fetchFrom {target : Option (Target Expr)} {source : InputSource Expr}
    (hx : W.AdmitsTerm (.getline target source)) :
    W.given (fun m => (Term.getline target source).asksMain → W.asks m) (self.fetchFrom source)
      (other.fetchFrom source) fun _ => True := by
  have hparts (e : Expr) (he : e ∈ source.parts) : W.expr e :=
    hx.parts e (List.mem_append_right _ he)
  cases source with
  | main =>
    refine W.given_bind (W.given_mono (fun m hm => hm rfl) h.request) fun r _ => ?_
    cases r with
    | none => exact W.pure trivial
    | some record => exact W.pure trivial
  | file name => exact W.given_of (h.fetch .file (hparts name (.head _)))
  | command text =>
    refine W.given_of (W.andThen (h.fetch .command (hparts text (.head _))) fun fetched => ?_)
    cases fetched with
    | record =>
      have hcount := W.acts.advanceCounter (by decide) (hx.may (.getlineCount target text))
      exact W.andThen (W.act hcount) fun _ => W.pure trivial
    | atEnd => exact W.pure trivial
    | failed => exact W.pure trivial

theorem targetPlace {target : Target Expr} (ht : ∀ e ∈ target.parts, W.expr e) :
    W.holds (self.targetPlace target) (other.targetPlace target) (·.site = target.site) := by
  cases target with
  | var name => exact W.pure rfl
  | element name subscript => exact W.andThen (h.subscriptKey ht) fun _ => W.pure rfl
  | field index =>
    refine W.andThen (h.value (ht index (.head _))) fun v => ?_
    exact W.andThen (W.act (W.acts.fieldIndex v)) fun _ => W.pure rfl

theorem getline {target : Option (Target Expr)} {source : InputSource Expr}
    (hx : W.AdmitsTerm (.getline target source)) :
    W.given (fun m => (Term.getline target source).asksMain → W.asks m)
      (self.getline target source) (other.getline target source) fun _ => True := by
  refine W.given_bind (h.fetchFrom hx) fun fetched _ => ?_
  cases fetched with
  | atEnd => exact W.pure trivial
  | failed => exact W.pure trivial
  | record text =>
    cases target with
    | none =>
      have hrecord := W.acts.setRecord (hx.may (.getlineRecord source)) text
      exact W.andThen (W.act hrecord) fun _ => W.pure trivial
    | some t =>
      have hparts (e : Expr) (he : e ∈ t.parts) : W.expr e :=
        hx.parts e (List.mem_append_left _ he)
      refine W.bind (h.targetPlace hparts) fun p hp => ?_
      have hmay : W.acts.may p.site := hp ▸ hx.may (.getline t source)
      exact W.andThen (W.act (W.acts.assign hmay _)) fun _ => W.pure trivial

theorem operandOf {x : Term} (hx : W.AdmitsTerm x) :
    W.given (fun m => x.asksMain → W.asks m) (self.operandOf x) (other.operandOf x)
      fun d => x.Gives d ∧ W.AdmitsDelayed d := by
  have hplain (v : Value) : x.Gives (.ofValue v) ∧ W.AdmitsDelayed (.ofValue v) :=
    ⟨.plain rfl, admits_plain rfl⟩
  cases x with
  | value v => exact W.given_of (W.pure (hplain v))
  | var name => exact W.given_of (W.pure ⟨.scalar name, nofun⟩)
  | element name ps =>
    exact W.given_of (W.andThen (h.subscriptKey hx.parts) fun _ =>
      W.pure ⟨.element name ps _, nofun⟩)
  | op o => exact W.given_of (W.pure (hplain _))
  | group inner =>
    refine W.given_of (W.pure ⟨.group inner, fun e he => ?_⟩)
    cases he
    exact hx.parts inner (.head _)
  | subscript ps =>
    exact W.given_of (W.andThen (h.subscriptKey hx.parts) fun _ => W.pure (hplain _))
  | regex p => exact W.given_of (W.pure ⟨.plain rfl, admits_plain rfl⟩)
  | call callee ps =>
    exact W.given_of (W.andThen (h.callFunction hx) fun v => W.pure (hplain v))
  | getline target source => exact W.given_bind (h.getline hx) fun v _ => W.pure (hplain v)

/-! Operators. -/

omit h in
theorem applyStep {o : Operator} {d : Delayed} (ho : o.isStep)
    (hmay : ∀ {s}, (Reduction.unary o d).Assigns s → W.acts.may s) :
    W.holds (liftM (Inner.applyStep o d)) (liftM (Inner.applyStep o d))
      (Reduction.unary o d).Gives := by
  refine W.lift (W.acts.applyStep o fun p hp => ?_) fun m => .plain ?_
  · subst hp
    exact hmay (.step p ho)
  · cases d with
    | group e => rfl
    | ready r => cases r <;> rfl

/-- Only an operator that takes two operands is not one that can be applied to one. -/
theorem applyUnary {o : Operator} {d : Delayed} (hd : W.AdmitsDelayed d)
    (hmay : ∀ {s}, (Reduction.unary o d).Assigns s → W.acts.may s)
    (hm : o.fixity = .between → W.holds (liftM (report .malformedExpression))
      (liftM (report .malformedExpression)) fun _ => True) :
    W.holds (self.applyUnary o d) (other.applyUnary o d) (Reduction.unary o d).Gives := by
  have hforce := h.force hd
  cases o with
  | plus => exact W.andThen hforce fun _ => W.pure (.plain rfl)
  | neg => exact W.andThen hforce fun _ => W.pure (.plain rfl)
  | not => exact W.andThen hforce fun _ => W.pure (.plain rfl)
  | field =>
    refine W.andThen hforce fun v => W.andThen (W.act (W.acts.fieldIndex v)) fun i => ?_
    exact W.pure (.field d i)
  | preIncr => exact applyStep rfl hmay
  | preDecr => exact applyStep rfl hmay
  | postIncr => exact applyStep rfl hmay
  | postDecr => exact applyStep rfl hmay
  | _ => exact W.andThen (hm rfl) fun _ => W.pure (.plain rfl)

theorem applyAssignment {o : Operator} {left right : Delayed} (ho : o.isAssignment)
    (hr : W.AdmitsDelayed right)
    (hmay : ∀ {s}, (Reduction.binary o left right).Assigns s → W.acts.may s) :
    W.holds (self.applyAssignment o left right) (other.applyAssignment o left right)
      (Reduction.binary o left right).Gives := by
  refine W.andThen (h.force hr) fun v => ?_
  split
  · rename_i p
    have hp : W.acts.may p.site := hmay (.assignment p right ho)
    split
    · refine W.andThen (W.act (W.acts.getPlace p)) fun old => ?_
      refine W.andThen (W.act (W.acts.arithmetic _ old v)) fun new => ?_
      exact W.andThen (W.act (W.acts.assign hp new)) fun _ => W.pure (.assigned p right ho)
    · exact W.andThen (W.act (W.acts.assign hp v)) fun _ => W.pure (.assigned p right ho)
  · exact W.andThen (W.act (W.acts.report (by nofun))) fun _ => W.pure (.plain rfl)

theorem applyMem {left right : Delayed} (hl : W.AdmitsDelayed left) :
    W.holds (self.applyMem left right) (other.applyMem left right)
      (Reduction.binary .mem left right).Gives := by
  refine W.andThen (h.force hl) fun key => ?_
  split
  · rename_i name
    exact W.get_bind (fun _ _ => rfl) (fun _ _ => rfl) fun _ => W.pure (.plain rfl)
  · exact W.andThen (W.act (W.acts.report (by nofun))) fun _ => W.pure (.plain rfl)

/-- Only an operator that takes one operand is not one that can be applied to two. -/
theorem applyBinary {o : Operator} {left right : Delayed} (hl : W.AdmitsDelayed left)
    (hr : W.AdmitsDelayed right)
    (hmay : ∀ {s}, (Reduction.binary o left right).Assigns s → W.acts.may s)
    (hm : o.fixity ≠ .between → W.holds (liftM (report .malformedExpression))
      (liftM (report .malformedExpression)) fun _ => True) :
    W.holds (self.applyBinary o left right) (other.applyBinary o left right)
      (Reduction.binary o left right).Gives := by
  have hfl := h.force hl
  have hfr := h.force hr
  unfold Inner.applyBinary
  split
  · rename_i ho
    exact h.applyAssignment ho hr hmay
  · rename_i hassign
    cases o with
    | assign | addAssign | subAssign | mulAssign | divAssign | modAssign | powAssign =>
      exact absurd rfl hassign
    | question =>
      refine W.andThen hfl fun v => W.pure ?_
      split
      · exact .chosen left right
      · exact .plain rfl
    | colon =>
      refine W.pure ?_
      split
      · exact .no left right
      · exact .yes left right
    | or =>
      exact W.andThen hfl fun v =>
        W.ite (W.pure (.plain rfl)) (W.andThen hfr fun _ => W.pure (.plain rfl))
    | and =>
      exact W.andThen hfl fun v =>
        W.ite (W.andThen hfr fun _ => W.pure (.plain rfl)) (W.pure (.plain rfl))
    | mem => exact h.applyMem hl
    | «matches» | notMatches =>
      refine W.andThen hfl fun text => W.andThen (h.pattern hr) fun pattern => ?_
      exact W.andThen (W.act (W.acts.isMatch _ _)) fun _ => W.pure (.plain rfl)
    | less | lessEq | equal | notEqual | greaterEq | greater | concat =>
      exact W.andThen hfl fun _ => W.andThen hfr fun _ => W.pure (.plain rfl)
    | add | sub | mul | div | mod | pow =>
      refine W.andThen hfl fun a => W.andThen hfr fun b => ?_
      exact W.andThen (W.act (W.acts.arithmetic _ a b)) fun _ => W.pure (.plain rfl)
    | plus | neg | not | preIncr | preDecr | postIncr | postDecr | field =>
      exact W.andThen (hm nofun) fun _ => W.pure (.plain rfl)

theorem apply {r : Reduction Delayed} (hr : W.AdmitsReduction r)
    (hmay : ∀ {s}, r.Assigns s → W.acts.may s)
    (hm : r.fits = false → W.holds (liftM (report .malformedExpression))
      (liftM (report .malformedExpression)) fun _ => True) :
    W.holds (self.apply r) (other.apply r) fun d => r.Gives d ∧ W.AdmitsDelayed d := by
  have hgives : W.holds (self.apply r) (other.apply r) r.Gives := by
    cases r with
    | unary o d =>
      refine h.applyUnary hr hmay fun ho => hm ?_
      simp only [Reduction.fits, ho, ne_eq, not_true, decide_false]
    | binary o left right =>
      exact h.applyBinary hr.1 hr.2 hmay fun ho => hm (decide_eq_false ho)
  exact W.mono hgives fun d hd => ⟨hd, admits_result hr hd⟩

/-! Expressions. -/

/-- Along the tree of an expression nothing is malformed, and what is assigned to is what the tree
says. -/
theorem tracks {A B : Algebra Run Delayed} (hA : A.apply = self.apply) (hB : B.apply = other.apply)
    (hoperand : ∀ {x}, W.AdmitsTerm x →
      W.holds (A.operand x) (B.operand x) fun d => x.Gives d ∧ W.AdmitsDelayed d) :
    A.Tracks W.toLogic W.AdmitsTerm (fun t => ∀ {s}, t.Assigns s → W.acts.may s)
      (fun t d => t.Leads d ∧ W.AdmitsDelayed d) B where
  hereditary := {
    before := fun ht _ hs => ht (.beforePart hs)
    after := fun ht _ hs => ht (.afterPart hs)
    left := fun ht _ hs => ht (.left hs)
    right := fun ht _ hs => ht (.right hs) }
  operand hx _ := W.mono (hoperand hx) fun d hd => ⟨.operand hd.1, hd.2⟩
  before {o t i} ho ht hd := by
    have hfits : Reduction.fits (.unary o i) = true := by simp [Reduction.fits, ho]
    rw [hA, hB]
    refine W.mono (h.apply hd.2 (fun hs => ht (.before hd.1 hs)) fun hno => ?_) fun d hr =>
      ⟨.before hd.1 hr.1, hr.2⟩
    rw [hfits] at hno
    cases hno
  after {o t i} ho ht hd := by
    have hfits : Reduction.fits (.unary o i) = true := by simp [Reduction.fits, ho]
    rw [hA, hB]
    refine W.mono (h.apply hd.2 (fun hs => ht (.after hd.1 hs)) fun hno => ?_) fun d hr =>
      ⟨.after hd.1 hr.1, hr.2⟩
    rw [hfits] at hno
    cases hno
  between {o l r i j} ho ht hl hr := by
    have hfits : Reduction.fits (.binary o i j) = true := by simp [Reduction.fits, ho]
    rw [hA, hB]
    refine W.mono (h.apply ⟨hl.2, hr.2⟩ (fun hs => ht (.between hl.1 hr.1 hs)) fun hno => ?_)
      fun d hd => ⟨.between hl.1 hr.1 hd.1, hd.2⟩
    rw [hfits] at hno
    cases hno

end Relates

end Walk

end Awk
