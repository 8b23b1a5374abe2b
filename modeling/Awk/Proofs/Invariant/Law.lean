import Awk.Proofs.Invariant.Guarded
import Awk.Proofs.Invariant.Motion

/-! Laws. A law says how data moves through calls and requests, too, and so through all that is
evaluated. Where its data is as it says, two guards that agree there stop the same runs. -/

namespace Awk

open Machine Run

/-- What the parameters of a function are bound to: what is passed, and nothing from there on. -/
def Function.bindings (f : Function) (passed : List Environment.Argument) :
    List (Name × Environment.Argument) :=
  f.parameters.zip (passed ++ List.replicate (f.parameters.length - passed.length) .nothing)

theorem Function.bindings_ne {f : Function} {x : Name} (h : x ∉ f.parameters)
    (passed : List Environment.Argument) : ∀ p ∈ f.bindings passed, p.1 ≠ x := by
  rintro p hp rfl
  exact h (List.of_mem_zip hp).1

theorem Run.get_bind_apply {α : Type} (f : Machine → Run α) (m : Machine) :
    (get >>= f) m = f m m := rfl

namespace Inner

variable {inner : Inner} {f : Function} {name : Name} {es : List Expr} {m : Machine}

/-- Leaves a call, with the value that it returns. -/
def leave : Act Value := fun m => (m.env.returnedValue, { m with env := m.env.pop.2 })

theorem enter_apply (inner : Inner) (f : Function) (passed : List Environment.Argument)
    (m : Machine) : inner.enter f passed m =
      (inner.block f.body >>= fun _ => (liftM leave : Run Value))
        { m with env := m.env.push (f.bindings passed) } := rfl

theorem callUser_of_none (hf : m.program.function? name = none) : inner.callUser name es m =
    (do report (.unknownFunction name); return .empty : Run Value) m := by
  simp only [callUser, Run.get_bind_apply, hf]

theorem callUser_of_gt (hf : m.program.function? name = some f)
    (hlength : es.length > f.parameters.length) : inner.callUser name es m =
      (do report (.tooManyArguments name); return .empty : Run Value) m := by
  simp only [callUser, Run.get_bind_apply, hf, if_pos hlength]

theorem callUser_of_le (hf : m.program.function? name = some f)
    (hlength : es.length ≤ f.parameters.length) : inner.callUser name es m =
      (Run.collect inner.passArgument es >>= inner.enter f) m := by
  simp only [callUser, Run.get_bind_apply, hf, if_neg (Nat.not_lt.mpr hlength)]

end Inner

/-- How data moves, also where a function of the program is called and where a record of the main
input is asked for. -/
structure Law extends Motion where
  /-- The guard of a run, and another that is the same for all that the law is about. -/
  guard : Guard
  other : Guard
  statement_eq : ∀ {m}, holds m.core → guard.statement m = other.statement m
  term_eq : ∀ {m}, holds m.core → guard.term m = other.term m
  request_eq : ∀ {m}, holds m.core → guard.request m = other.request m
  request : ∀ {m} fuel n, holds m.core → guard.request m →
    (∀ r m', MainInput.nextRecord fuel n m = .ok r m' → moves m.core m'.core) ∧
      ∀ e m', MainInput.nextRecord fuel n m = .error e m' → holds m'.core
  /-- What an argument that has been evaluated passes on, whatever is done afterwards. -/
  argument : Core → Expr → Environment.Argument → Prop
  argument_moves : ∀ {c c' e a}, argument c e a → moves c c' → argument c' e a
  argument_value : ∀ {c e} v, e.name? = none → argument c e (.value v)
  obtain_ : ∀ {c} name, holds c → moves c (c.mapEnv fun env => (env.obtain name).2) ∧
    argument (c.mapEnv fun env => (env.obtain name).2) [.var name] (.shared (c.env.obtain name).1)
  call : ∀ {c f es passed}, holds c → f ∈ program.functions → passes f.name es →
    es.length ≤ f.parameters.length → List.Forall₂ (argument c) es passed →
    holds (c.mapEnv (·.push (f.bindings passed))) ∧
      ∀ {c'}, moves (c.mapEnv (·.push (f.bindings passed))) c' → moves c (c'.mapEnv (·.pop.2))

theorem Inner.settleFlag_core (kind : BlockKind) (m : Machine) :
    (settleFlag kind m).2.core = m.core := by
  rw [settleFlag_apply]
  cases kind.settlement m.flag with
  | leave => rfl
  | absorb => rfl
  | reported d => exact report_core d (setFlag .none m).2

/-- Where the guards agree, both runs go on or both stop. -/
theorem Motion.SameAt.check {M : Motion} {m : Machine} {p q : Machine → Bool}
    (hm : M.holds m.core) (hpq : p m = q m) :
    M.SameAt (Run.check p) (Run.check q) (fun _ m' => m' = m ∧ p m) m := by
  refine ⟨?_, fun _ m' h => ?_, fun e m' h => ?_⟩
  · rw [check_apply, check_apply, hpq]
  · rw [check_apply] at h
    split at h
    · cases h
      exact ⟨M.refl _, rfl, by assumption⟩
    · cases h
  · rw [check_apply] at h
    split at h
    · cases h
    · cases h
      exact hm

namespace Law

variable (L : Law) {α β : Type}

/-- What obeys the law, walked over. -/
def walk : Walk where
  toCalculus := L.calculus
  given p x y Q := ∀ m : Machine, L.holds m.core → p m → L.SameAt x y (fun a _ => Q a) m
  given_of h m hm _ := h m hm
  given_bind hx hf m hm hp := (hx m hm hp).bind hm fun a m' ha _ hm' => hf a ha m' hm'
  given_mono hpq h m hm hq := h m hm (hpq m hq)
  asks m := L.guard.request m
  jump _ _ _ _ := .act (L.refl _) trivial
  leave _ _ _ := .act (L.refl _) trivial
  expr := L.expr
  block := L.block
  denotes := Expr.Denotes
  passes := L.passes
  expr_part := L.expr_part
  expr_may he hx hs := L.expr_may he (.term hx hs)
  expr_passes := L.expr_passes
  block_expr := L.block_expr
  block_block := L.block_block
  block_may := L.block_may

/-- That the parts of two evaluations are the same wherever the law holds. -/
structure Parts (i j : Inner) : Prop where
  fuel : i.fuel = j.fuel
  operand : ∀ {e}, L.expr e →
    L.Same (i.operand e) (j.operand e) fun o => ∀ p, o = .place p → e.Denotes p
  block : ∀ {b}, L.block b → L.Same (i.block b) (j.block b) fun _ => True

namespace Parts

variable {L} {self other : Inner} (h : L.Parts self other)

include h

/-! Calls of functions of the program. -/

theorem passArgument {e : Expr} (he : L.expr e) {m : Machine} (hm : L.holds m.core) :
    L.SameAt (self.passArgument e) (other.passArgument e)
      (fun a m' => L.argument m'.core e a) m := by
  unfold Inner.passArgument
  split
  · rename_i name hname
    obtain rfl : e = [.var name] := by
      unfold Expr.name? at hname
      split at hname
      · cases hname
        rfl
      · cases hname
    obtain ⟨hmoves, hargument⟩ := L.obtain_ name hm
    refine ⟨rfl, fun a m' hok => ?_, fun _ _ h => nomatch h⟩
    cases hok
    exact ⟨hmoves, hargument⟩
  · rename_i hname
    have hvalue : L.Same (self.value e) (other.value e) fun _ => True :=
      L.walk.andThen (h.operand he) fun o => L.walk.act (L.acts.valueOf o)
    exact (hvalue m hm).bind hm fun v _ _ _ _ => .pure (L.argument_value v hname)

/-- An argument that has been evaluated passes on the same after the later ones. -/
theorem passArguments {es : List Expr} (hes : ∀ e ∈ es, L.expr e) {m : Machine}
    (hm : L.holds m.core) :
    L.SameAt (Run.collect self.passArgument es) (Run.collect other.passArgument es)
      (fun as m' => List.Forall₂ (L.argument m'.core) es as) m := by
  induction es generalizing m with
  | nil => exact .pure .nil
  | cons e es ih =>
    obtain ⟨he, hes⟩ := List.forall_mem_cons.mp hes
    refine (h.passArgument he hm).bind hm fun a m' ha _ hm' => ?_
    have hlater := (ih hes hm').mono fun as m'' hmoves has =>
      (⟨L.argument_moves ha hmoves, has⟩ : L.argument m''.core e a ∧ _)
    exact hlater.bind hm' fun as m'' has _ _ => .pure (.cons has.1 has.2)

theorem enter {f : Function} {es : List Expr}
    {passed : List Environment.Argument} {m : Machine} (hm : L.holds m.core)
    (hf : f ∈ L.program.functions) (hpasses : L.passes f.name es)
    (hlength : es.length ≤ f.parameters.length)
    (hpassed : List.Forall₂ (L.argument m.core) es passed) :
    L.SameAt (self.enter f passed) (other.enter f passed) (fun _ _ => True) m := by
  obtain ⟨hpush, hpop⟩ := L.call hm hf hpasses hlength hpassed
  let entered : Machine := { m with env := m.env.push (f.bindings passed) }
  have hbody := h.block (L.body hf) entered hpush
  refine ⟨?_, fun v m' hok => ?_, fun e m' he => ?_⟩
  · rw [Inner.enter_apply, Inner.enter_apply]
    exact bind_congr_left hbody.same _
  · rw [Inner.enter_apply] at hok
    obtain ⟨flag, m₁, hblock, hleave⟩ := bind_eq_ok hok
    cases hleave
    exact ⟨hpop (hbody.ok flag m₁ hblock).1, trivial⟩
  · rw [Inner.enter_apply] at he
    cases hblock : self.block f.body entered with
    | ok flag m₁ =>
      rw [bind_ok hblock] at he
      cases he
    | error e' m₁ =>
      rw [bind_error hblock] at he
      cases he
      exact hbody.error _ _ hblock

theorem callUser {name : Name} {es : List Expr}
    (hx : L.walk.AdmitsTerm (.call (.user name) es)) :
    L.Same (self.callUser name es) (other.callUser name es) fun _ => True := by
  have hreport {d : Diagnostic} (hd : d ≠ .malformedExpression) :
      L.Same (do report d; return .empty : Run Value) (do report d; return .empty)
        fun _ => True :=
    L.walk.andThen (L.walk.act (L.acts.report hd)) fun _ => L.walk.pure trivial
  intro m hm
  cases hf : m.program.function? name with
  | none =>
    exact .congr (Inner.callUser_of_none hf) (Inner.callUser_of_none hf) (hreport (by nofun) m hm)
  | some f =>
    by_cases hlength : es.length > f.parameters.length
    · exact .congr (Inner.callUser_of_gt hf hlength) (Inner.callUser_of_gt hf hlength)
        (hreport (by nofun) m hm)
    · have hle := Nat.not_lt.mp hlength
      refine .congr (Inner.callUser_of_le hf hle) (Inner.callUser_of_le hf hle) ?_
      refine (h.passArguments hx.parts hm).bind hm fun passed m' hpassed hmoves hm' => ?_
      rw [show m.program = L.program from L.runs hm] at hf
      obtain rfl : f.name = name := of_decide_eq_true (List.find?_some hf :)
      exact h.enter hm' (List.mem_of_find?_eq_some hf) (hx.passes rfl) hle hpassed

/-! The recursion of expressions and blocks through each other. -/

theorem relates : L.walk.Relates self other where
  operand := h.operand
  block := h.block
  loop {x y} hx := by
    rw [h.fuel]
    exact L.walk.repeatWhile hx _
  request m hm hasked := by
    rw [h.fuel]
    obtain ⟨hok, herror⟩ := L.request other.fuel other.fuel hm hasked
    exact ⟨rfl, fun a m' ha => ⟨hok a m' ha, trivial⟩, herror⟩
  call := h.callUser

/-- Statements in order, guarded. -/
theorem statements {b : Block} (hb : L.block b) {ss : List Statement}
    (hss : ∀ s ∈ ss, s ∈ b.statements) :
    L.Same (L.guard.statements self b.kind ss) (L.other.statements other b.kind ss)
      fun _ => True := by
  induction ss with
  | nil => exact fun m hm => .act (by rw [Inner.settleFlag_core]; exact L.refl _) trivial
  | cons s ss ih =>
    obtain ⟨hs, hss⟩ := List.forall_mem_cons.mp hss
    intro m hm
    by_cases hflag : m.flag = .none
    · have hrun (g : Guard) (i : Inner) : g.statements i b.kind (s :: ss) m =
          (do
            Run.check g.statement
            note (.statement s)
            i.statement s
            g.statements i b.kind ss : Run Flag) m := by
        show (if m.flag = .none then _ else _ : Run Flag) m = _
        rw [if_pos hflag]
      refine .congr (hrun _ _) (hrun _ _) ?_
      refine (Motion.SameAt.check hm (L.statement_eq hm)).bind hm fun _ m' hchecked _ hm' => ?_
      have hnote : L.SameAt (liftM (note (.statement s))) (liftM (note (.statement s)))
          (fun _ m' => m'.flag = .none) m' := .act (L.refl _) (hchecked.1 ▸ hflag)
      refine hnote.bind hm' fun _ m' hflag' _ hm' => ?_
      have hstatement := h.relates.statement (Walk.admitsStatement hb hs) m' hm' hflag'
      exact hstatement.bind hm' fun _ m'' _ _ hm'' => ih hss m'' hm''
    · have hrun (g : Guard) (i : Inner) : g.statements i b.kind (s :: ss) m =
          (liftM (Inner.settleFlag b.kind) : Run Flag) m := by
        show (if m.flag = .none then _ else _ : Run Flag) m = _
        rw [if_neg hflag]
      refine .congr (hrun _ _) (hrun _ _) (.act ?_ trivial)
      rw [Inner.settleFlag_core]
      exact L.refl _

/-- The terms of an expression, guarded, and what they come to. -/
theorem expression {e : Expr} (he : L.expr e) :
    L.Same (do self.settle (← (L.guard.algebra self.algebra).run e) : Run Operand)
      (do other.settle (← (L.other.algebra other.algebra).run e))
      fun o => ∀ p, o = .place p → e.Denotes p := by
  obtain ⟨t, ht, -, -⟩ := Tree.build_wellFormed (L.wellFormed he)
  have hrelates := h.relates
  have hoperand {x : Term} (hx : L.walk.AdmitsTerm x) :
      L.Same (L.guard.operand self.algebra x) (L.other.operand other.algebra x)
        fun d => x.Gives d ∧ L.walk.AdmitsDelayed d := by
    intro m hm
    refine (Motion.SameAt.check hm (L.term_eq hm)).bind hm fun _ m' _ _ hm' => ?_
    have hrequest : (!x.asksMain || L.guard.request m') =
        (!x.asksMain || L.other.request m') := by
      rw [L.request_eq hm']
    refine (Motion.SameAt.check hm' hrequest).bind hm' fun _ m'' hchecked _ hm'' => ?_
    obtain ⟨rfl, hasked⟩ := hchecked
    refine hrelates.operandOf hx m'' hm'' fun hx => ?_
    rw [hx] at hasked
    exact hasked
  have hrun := (hrelates.tracks (A := L.guard.algebra self.algebra)
    (B := L.other.algebra other.algebra) rfl rfl hoperand).run ht
    (fun hs => L.expr_may he (.tree ht hs)) (fun x hx => Walk.admitsTerm he hx) Walk.admits_blank
  refine L.walk.bind hrun fun d hd => ?_
  cases d with
  | ready o => exact L.walk.pure fun p hp => .place ht (hp ▸ hd.1)
  | group inner =>
    exact L.walk.mono (h.operand (hd.2 inner rfl)) fun o ho p hp => .group ht hd.1 (ho p hp)

end Parts

/-- Evaluation with some fuel, under either guard, is the same wherever the law holds. -/
theorem parts (n : Nat) : L.Parts (L.guard.withFuel n) (L.other.withFuel n) := by
  induction n with
  | zero => exact ⟨rfl, fun _ _ hm => .outOfFuel hm, fun _ _ hm => .outOfFuel hm⟩
  | succ n ih =>
    rw [Guard.withFuel_succ, Guard.withFuel_succ]
    exact ⟨rfl, ih.expression, fun hb => ih.statements hb fun _ hs => hs⟩

end Law

end Awk
