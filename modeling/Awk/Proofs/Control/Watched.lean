import Awk.Proofs.Conduct.Statements
import Awk.Proofs.Control.Fuel
import Awk.Proofs.Control.Structured

/-! Runs in which no expression leaves a jump pending. They are watched: an expression that leaves
one gives no result. What a watched run ends with is what structured control flow prescribes. -/

namespace Awk

open Machine Run

namespace Run

variable {α β : Type}

/-- Where no jump is pending, `x` leaves none pending. -/
def Jumpless (x : Run α) : Prop := ∀ m a m', m.flag = .none → x m = .ok a m' → m'.flag = .none

namespace Jumpless

theorem pure (a : α) : Jumpless (Pure.pure a) := by
  rintro m _ _ hm ⟨⟩
  exact hm

theorem lift {a : Act α} (h : Quiet a) : Jumpless (liftM a) := by
  rintro m _ _ hm ⟨⟩
  exact (h.flag m).trans hm

theorem bind {x : Run α} {f : α → Run β} (hx : x.Jumpless) (hf : ∀ a, (f a).Jumpless) :
    (x >>= f).Jumpless := by
  intro m b m' hm h
  obtain ⟨a, m₁, ha, hb⟩ := bind_eq_ok h
  exact hf a m₁ b m' (hx m a m₁ hm ha) hb

theorem ite {c : Prop} [Decidable c] {x y : Run α} (hx : x.Jumpless) (hy : y.Jumpless) :
    (if c then x else y).Jumpless := by
  split
  · exact hx
  · exact hy

theorem collect {f : α → Run β} (h : ∀ a, (f a).Jumpless) (as : List α) :
    (Run.collect f as).Jumpless := by
  induction as with
  | nil => exact pure _
  | cons a as ih => exact (h a).bind fun _ => ih.bind fun _ => pure _

end Jumpless

end Run

namespace Inner

/-- Whether the condition of a loop holds. One that is left out does. -/
def test (self : Inner) : Option Expr → Run Bool
  | some c => self.holds c
  | none => return true

theorem round_eq (self : Inner) (condition : Option Expr) (body : Block) (step : Option Expr) :
    self.round condition body step = (do
      if ← self.test condition then
        if ← self.pass body then
          self.perform step
          return true
        else return false
      else return false) := by
  cases condition <;> rfl

theorem straight_cons (self : Inner) {m : Machine} (hm : m.flag = .none) (s : Statement)
    (ss : List Statement) :
    self.straight (s :: ss) m =
      (do
        self.statement s
        self.straight ss : Run Unit) (m.noting (.statement s)) := by
  show (if m.flag = .none then (do
      note (.statement s)
      self.statement s
      self.straight ss : Run Unit) else return ()) m = _
  rw [if_pos hm]
  rfl

theorem straight_pending (self : Inner) {m : Machine} (hm : m.flag ≠ .none) (ss : List Statement) :
    self.straight ss m = .ok () m := by
  cases ss with
  | nil => rfl
  | cons s ss =>
    show (if m.flag = .none then (do
        note (.statement s)
        self.statement s
        self.straight ss : Run Unit) else return ()) m = _
    rw [if_neg hm]
    rfl

/-- An expression that leaves a jump pending gives no result. -/
def watch (operand : Expr → Run Operand) (e : Expr) : Run Operand := do
  let o ← operand e
  if (← getFlag) = .none then return o else Run.outOfFuel

/-- Runs a block as long as its expressions leave no jump pending. -/
def watchedBlock : Nat → Block → Run Flag
  | 0, _ => Run.outOfFuel
  | n + 1, b => Inner.body ⟨n, watch (evalOperand n), watchedBlock n⟩ b

/-- Evaluation with some fuel, watched. -/
def watched (n : Nat) : Inner := ⟨n, watch (evalOperand n), watchedBlock n⟩

theorem watch_ok {operand : Expr → Run Operand} {e : Expr} {o : Operand} {m m' : Machine}
    (h : watch operand e m = .ok o m') : operand e m = .ok o m' ∧ m'.flag = .none := by
  obtain ⟨o₁, m₁, ho, hrest⟩ := bind_eq_ok h
  have hread : (if m₁.flag = .none then pure o₁ else Run.outOfFuel : Run Operand) m₁ = .ok o m' :=
    hrest
  split at hread
  · rename_i hflag
    cases hread
    exact ⟨ho, hflag⟩
  · cases hread

/-- Watching does not change what a run ends with. -/
theorem below_watched (n : Nat) : (watched n).Below (withFuel n) := by
  have hoperand (n : Nat) (e : Expr) : (watch (evalOperand n) e).Below (evalOperand n e) :=
    fun _ _ _ h => (watch_ok h).1
  induction n with
  | zero => exact ⟨Nat.le_refl _, hoperand 0, fun _ => .outOfFuel _⟩
  | succ n ih => exact ⟨Nat.le_refl _, hoperand (n + 1), ih.body⟩

theorem jumpless_operand (n : Nat) (e : Expr) : ((watched n).operand e).Jumpless :=
  fun _ _ _ _ h => (watch_ok h).2

theorem jumpless_value (n : Nat) (e : Expr) : ((watched n).value e).Jumpless :=
  (jumpless_operand n e).bind fun o => .lift (Quiet.acts.valueOf o)

theorem jumpless_writeTo (target : Option (Host.OutputKind × String)) (text : String) :
    Run.Jumpless (do
      match ← withStreams (·.write target text) with
      | none => return ()
      | some f => reportFailure f : Run Unit) := by
  refine (Jumpless.lift (Quiet.acts.withStreams _)).bind fun f => ?_
  cases f with
  | none => exact .pure _
  | some f => exact .lift (Quiet.acts.reportFailure f)

theorem jumpless_write (n : Nat) (output : Option Redirect) (text : String) :
    ((watched n).write output text).Jumpless := by
  cases output with
  | none => exact jumpless_writeTo none text
  | some r =>
    exact (jumpless_value n r.target).bind fun name => jumpless_writeTo (some (_, name.text)) text

theorem jumpless_printed (n : Nat) (parts : List Expr) : ((watched n).printed parts).Jumpless := by
  have hrest (text : String) : Jumpless (do return text ++ (← scalar "ORS").text : Run String) :=
    (Jumpless.lift (Quiet.acts.scalarOf _)).bind fun _ => .pure _
  refine .ite ?_ ?_
  · exact fun m _ _ hm h => hrest m.record.text m _ _ hm h
  · refine (Jumpless.lift (Quiet.acts.scalarOf _)).bind fun _ => ?_
    exact (Jumpless.collect (jumpless_value n) parts).bind fun _ => hrest _

theorem jumpless_plain (n : Nat) {s : Statement} (hs : s.isPlain) :
    ((watched n).statement s).Jumpless := by
  cases s with
  | print parts output => exact (jumpless_printed n parts).bind (jumpless_write n output)
  | printf parts output =>
    cases parts with
    | nil => exact .pure _
    | cons format parts =>
      refine (jumpless_value n format).bind fun _ => ?_
      exact (Jumpless.collect (jumpless_value n) parts).bind fun _ => jumpless_write n output _
  | expr e => exact (jumpless_value n e).bind fun _ => .pure _
  | delete array subscript =>
    cases subscript with
    | none => exact .lift (quiet_modifyEnv _)
    | some subscript =>
      refine Jumpless.bind ?_ fun _ => .lift (quiet_modifyEnv _)
      refine (Jumpless.collect (jumpless_value n) subscript).bind fun _ => ?_
      exact .lift (Quiet.acts.joinSubscript _)
  | _ => cases hs

end Inner

/-- The blocks of what is left to be done are of the kinds that go with it. -/
def Code.Structured : Code → Prop
  | .statement s => ∀ c ∈ s.blocks, c.kind = s.bodyKind ∧ c.Structured
  | .sequence ss => ∀ s ∈ ss, ∀ c ∈ s.blocks, c.kind = s.bodyKind ∧ c.Structured
  | .loop _ _ b => b.kind = .iteration ∧ b.Structured
  | .keys _ _ b => b.kind = .iteration ∧ b.Structured

theorem Block.Structured.sequence {b : Block} (h : b.Structured) :
    (Code.sequence b.statements).Structured := by
  obtain ⟨hkind, hblocks⟩ := h
  exact fun s hs c hc => ⟨hkind s hs c hc, hblocks s hs c hc⟩

/-- From `m` the code comes to `m'`, where the jump that it ends with is pending. -/
def Reaches (c : Code) (m m' : Machine) : Prop := ∃ e m₁, Ends c m e m₁ ∧ m' = m₁.pending e

/-- An iteration meets `break` and `continue`. -/
theorem conclude_iteration {e : Flag} {m : Machine} (h : m.flag = .none) :
    BlockKind.iteration.conclude e m =
      (if e = .break_ ∨ e = .continue_ then e else .none, m.pending e.afterLoop) := by
  cases e <;> simp [BlockKind.conclude, Flag.afterLoop, pending_none h]

/-- What is pending at the end of a block's statements is met as the kind of the block says. -/
theorem settleFlag_pending (kind : BlockKind) (e : Flag) {m : Machine} (h : m.flag = .none) :
    Inner.settleFlag kind (m.pending e) = kind.conclude e m := by
  have hclear : (setFlag .none (m.pending e)).2 = m := pending_none h
  rw [Inner.settleFlag_apply, hclear]
  cases kind <;> cases e <;> rfl

namespace Inner

/-- That watched blocks end as structured control flow prescribes. -/
def Prescribed (n : Nat) : Prop :=
  ∀ {b : Block} {m m' : Machine} {absorbed : Flag}, b.Structured → m.flag = .none →
    watchedBlock n b m = .ok absorbed m' →
    ∃ e m₁, Ends (.sequence b.statements) m e m₁ ∧ b.kind.conclude e m₁ = (absorbed, m')

variable {n : Nat} {m m' : Machine}

theorem evaluates_of_watched {e : Expr} {v : Value} (hm : m.flag = .none)
    (h : (watched n).value e m = .ok v m') : Evaluates e m v m' :=
  ⟨⟨n, (below_watched n).value e m v m' h⟩, jumpless_value n e m v m' hm h⟩

theorem performs_of_watched {e : Option Expr} (hm : m.flag = .none)
    (h : (watched n).perform e m = .ok () m') : Performs e m () m' := by
  refine ⟨⟨n, (below_watched n).perform e m () m' h⟩, ?_⟩
  cases e with
  | none =>
    cases h
    exact hm
  | some e => exact ((jumpless_operand n e).bind fun _ => .pure ()) m () m' hm h

theorem holds_of_watched {c : Expr} {b : Bool} (hm : m.flag = .none)
    (h : (watched n).holds c m = .ok b m') : ∃ v, Evaluates c m v m' ∧ b = v.toBool := by
  obtain ⟨v, m₁, hv, hrest⟩ := bind_eq_ok h
  have hvalue := evaluates_of_watched hm hv
  have hflag : (.ok (v.toBool && decide (m₁.flag = .none)) m₁ : Outcome Bool) = .ok b m' := hrest
  rw [hvalue.calm, decide_eq_true rfl, Bool.and_true] at hflag
  cases hflag
  exact ⟨v, hvalue, rfl⟩

theorem tests_of_watched {c : Option Expr} {b : Bool} (hm : m.flag = .none)
    (h : (watched n).test c m = .ok b m') : Tests c m b m' := by
  cases c with
  | none =>
    cases h
    exact .absent
  | some c =>
    obtain ⟨v, hvalue, rfl⟩ := holds_of_watched hm h
    exact .value hvalue

variable (h : Prescribed n)

include h

theorem reaches_simple {b : Block} (hb : b.Structured) (hk : b.kind = .simple) (hm : m.flag = .none)
    {absorbed : Flag} (hrun : (watched n).block b m = .ok absorbed m') :
    Reaches (.sequence b.statements) m m' := by
  obtain ⟨e, m₁, hends, hconclude⟩ := h hb hm hrun
  rw [hk] at hconclude
  exact ⟨e, m₁, hends, (congrArg Prod.snd hconclude).symm⟩

/-- The body of a loop says whether the loop goes on, and ends it otherwise. -/
theorem pass_of_watched {b : Block} (hb : b.Structured) (hk : b.kind = .iteration)
    (hm : m.flag = .none) {goes : Bool} (hrun : (watched n).pass b m = .ok goes m') :
    ∃ e m₁, Ends (.sequence b.statements) m e m₁ ∧ m₁.flag = .none ∧ goes = e.goesOn ∧
      m' = m₁.pending e.afterLoop := by
  obtain ⟨absorbed, m₂, hblock, hrest⟩ := bind_eq_ok hrun
  obtain ⟨e, m₁, hends, hconclude⟩ := h hb hm hblock
  have hcalm := hends.calm hm
  have hread : (.ok (decide (absorbed ≠ .break_) && decide (m₂.flag = .none)) m₂ : Outcome Bool) =
      .ok goes m' := hrest
  rw [hk, conclude_iteration hcalm] at hconclude
  cases hconclude
  cases hread
  refine ⟨e, m₁, hends, hcalm, ?_, rfl⟩
  cases e <;> rfl

theorem reaches_loop {c step : Option Expr} {b : Block} (hb : b.Structured)
    (hk : b.kind = .iteration) (rounds : Nat) (hm : m.flag = .none)
    (hrun : Run.repeatWhile ((watched n).round c b step) rounds m = .ok () m') :
    Reaches (.loop c step b) m m' := by
  induction rounds generalizing m with
  | zero => cases hrun
  | succ rounds ih =>
    obtain ⟨goes, m₃, hround, hrest⟩ := bind_eq_ok hrun
    rw [round_eq] at hround
    obtain ⟨holds, m₁, htest, hround⟩ := bind_eq_ok hround
    have htests := tests_of_watched hm htest
    have hcalm := htests.calm hm
    cases holds with
    | false =>
      cases hround
      cases hrest
      exact ⟨.none, _, .loopOver htests, (pending_none hcalm).symm⟩
    | true =>
      obtain ⟨goesOn, m₂, hpass, hround⟩ := bind_eq_ok hround
      obtain ⟨e, m₂, hbody, hcalm₂, rfl, rfl⟩ := pass_of_watched h hb hk hcalm hpass
      cases hgoes : e.goesOn with
      | false =>
        rw [hgoes] at hround
        cases hround
        cases hrest
        exact ⟨e.afterLoop, m₂, .loopLeft htests hbody hgoes, rfl⟩
      | true =>
        rw [hgoes] at hround
        obtain ⟨_, m₃, hstep, hround⟩ := bind_eq_ok hround
        cases hround
        have hafter := Flag.afterLoop_of_goesOn hgoes
        rw [hafter, pending_none hcalm₂] at hstep
        have hperforms := performs_of_watched hcalm₂ hstep
        obtain ⟨e', m₄, hloop, rfl⟩ := ih hperforms.calm hrest
        exact ⟨e', m₄, .loopAgain htests hbody hgoes hperforms hloop, rfl⟩

theorem reaches_doWhile {c : Expr} {b : Block} (hb : b.Structured) (hk : b.kind = .iteration)
    (rounds : Nat) (hm : m.flag = .none)
    (hrun : Run.repeatWhile (do
      if ← (watched n).pass b then (watched n).holds c else return false) rounds m = .ok () m') :
    Reaches (.statement (.doWhile b c)) m m' := by
  induction rounds generalizing m with
  | zero => cases hrun
  | succ rounds ih =>
    obtain ⟨goes, m₂, hround, hrest⟩ := bind_eq_ok hrun
    obtain ⟨goesOn, m₁, hpass, hround⟩ := bind_eq_ok hround
    obtain ⟨e, m₁, hbody, hcalm, rfl, rfl⟩ := pass_of_watched h hb hk hm hpass
    cases hgoes : e.goesOn with
    | false =>
      rw [hgoes] at hround
      cases hround
      cases hrest
      exact ⟨e.afterLoop, m₁, .doLeft hbody hgoes, rfl⟩
    | true =>
      have hafter := Flag.afterLoop_of_goesOn hgoes
      rw [hgoes, hafter, pending_none hcalm] at hround
      obtain ⟨v, hvalue, rfl⟩ := holds_of_watched hcalm hround
      cases hv : v.toBool with
      | false =>
        rw [hv] at hrest
        cases hrest
        exact ⟨.none, _, .doOver hbody hgoes hvalue hv, (pending_none hvalue.calm).symm⟩
      | true =>
        rw [hv] at hrest
        obtain ⟨e', m₃, hagain, rfl⟩ := ih hvalue.calm hrest
        exact ⟨e', m₃, .doAgain hbody hgoes hvalue hv hagain, rfl⟩

theorem reaches_keys {name : Name} {b : Block} (hb : b.Structured) (hk : b.kind = .iteration)
    (ks : List String) (hm : m.flag = .none)
    (hrun : Run.forWhile (fun key => do
      assign (.scalar name) ⟨key⟩
      (watched n).pass b) ks m = .ok () m') :
    Reaches (.keys name ks b) m m' := by
  induction ks generalizing m with
  | nil =>
    cases hrun
    exact ⟨.none, _, .keysOver, (pending_none hm).symm⟩
  | cons k ks ih =>
    obtain ⟨goes, m₁, hround, hrest⟩ := bind_eq_ok hrun
    have hassigned := assign_calm hm (.scalar name) ⟨k⟩
    have hpass : (watched n).pass b (assign (.scalar name) ⟨k⟩ m).2 = .ok goes m₁ := hround
    obtain ⟨e, m₁, hbody, hcalm, rfl, rfl⟩ := pass_of_watched h hb hk hassigned hpass
    cases hgoes : e.goesOn with
    | false =>
      rw [hgoes] at hrest
      cases hrest
      exact ⟨e.afterLoop, m₁, .keyLeft hbody hgoes, rfl⟩
    | true =>
      have hafter := Flag.afterLoop_of_goesOn hgoes
      rw [hgoes, hafter, pending_none hcalm] at hrest
      obtain ⟨e', m₂, hkeys, rfl⟩ := ih hcalm hrest
      exact ⟨e', m₂, .keyNext hbody hgoes hkeys, rfl⟩

theorem reaches_statement {s : Statement} (hs : (Code.statement s).Structured)
    (hm : m.flag = .none) (hrun : (watched n).statement s m = .ok () m') :
    Reaches (.statement s) m m' := by
  have hplain (hp : s.isPlain) : Reaches (.statement s) m m' := by
    have hcalm := jumpless_plain n hp m () m' hm hrun
    refine ⟨.none, m', .plain hp ⟨⟨n, ?_⟩, hcalm⟩, (pending_none hcalm).symm⟩
    exact (below_watched n).statement s m () m' hrun
  cases s with
  | print | printf | expr | delete => exact hplain rfl
  | if_ c yes no =>
    obtain ⟨v, m₁, hvalue, hrest⟩ := bind_eq_ok hrun
    have hvalue := evaluates_of_watched hm hvalue
    cases hv : v.toBool with
    | true =>
      rw [hv] at hrest
      obtain ⟨absorbed, m₂, hblock, hrest⟩ := bind_eq_ok hrest
      cases hrest
      obtain ⟨hk, hb⟩ := hs yes (.head _)
      obtain ⟨e, m₂, hends, rfl⟩ := reaches_simple h hb hk hvalue.calm hblock
      exact ⟨e, m₂, .yes hvalue hv hends, rfl⟩
    | false =>
      rw [hv] at hrest
      cases no with
      | none =>
        cases hrest
        exact ⟨.none, _, .neither hvalue hv, (pending_none hvalue.calm).symm⟩
      | some no =>
        obtain ⟨absorbed, m₂, hblock, hrest⟩ := bind_eq_ok hrest
        cases hrest
        obtain ⟨hk, hb⟩ := hs no (.tail _ (.head _))
        obtain ⟨e, m₂, hends, rfl⟩ := reaches_simple h hb hk hvalue.calm hblock
        exact ⟨e, m₂, .no hvalue hv hends, rfl⟩
  | while_ c b =>
    obtain ⟨hk, hb⟩ := hs b (.head _)
    obtain ⟨e, m₁, hloop, rfl⟩ := reaches_loop h hb hk n hm hrun
    exact ⟨e, m₁, .while_ hloop, rfl⟩
  | doWhile b c =>
    obtain ⟨hk, hb⟩ := hs b (.head _)
    exact reaches_doWhile h hb hk n hm hrun
  | for_ start c step b =>
    obtain ⟨hk, hb⟩ := hs b (.head _)
    obtain ⟨_, m₁, hstart, hrun⟩ := bind_eq_ok hrun
    have hstart := performs_of_watched hm hstart
    obtain ⟨e, m₂, hloop, rfl⟩ := reaches_loop h hb hk n hstart.calm hrun
    exact ⟨e, m₂, .for_ hstart hloop, rfl⟩
  | forIn name array b =>
    obtain ⟨hk, hb⟩ := hs b (.head _)
    obtain ⟨e, m₁, hkeys, rfl⟩ := reaches_keys h hb hk (m.env.keys array) hm hrun
    exact ⟨e, m₁, .forIn (m.env.sortedLT_keys array) (m.env.mem_keys array) hkeys, rfl⟩
  | block b =>
    obtain ⟨hk, hb⟩ := hs b (.head _)
    obtain ⟨absorbed, m₁, hblock, hrest⟩ := bind_eq_ok hrun
    cases hrest
    obtain ⟨e, m₁, hends, rfl⟩ := reaches_simple h hb hk hm hblock
    exact ⟨e, m₁, .block hends, rfl⟩
  | break_ =>
    cases hrun
    exact ⟨.break_, _, .break_, raise_eq hm _⟩
  | continue_ =>
    cases hrun
    exact ⟨.continue_, _, .continue_, raise_eq hm _⟩
  | next =>
    cases hrun
    exact ⟨.next, _, .next, raise_eq hm _⟩
  | return_ x =>
    cases x with
    | none =>
      cases hrun
      exact ⟨.return_, _, .return_, raise_eq (m := (modifyEnv (·.setReturned .empty) m).2) hm _⟩
    | some x =>
      obtain ⟨v, m₁, hvalue, hrest⟩ := bind_eq_ok hrun
      have hvalue := evaluates_of_watched hm hvalue
      cases hrest
      have hreturned : (modifyEnv (·.setReturned v) m₁).2.flag = .none := hvalue.calm
      exact ⟨.return_, _, .returnValue hvalue, raise_eq hreturned _⟩
  | exit x =>
    cases x with
    | none =>
      cases hrun
      exact ⟨.exit, _, .exit, raise_eq hm _⟩
    | some x =>
      obtain ⟨v, m₁, hvalue, hrest⟩ := bind_eq_ok hrun
      have hvalue := evaluates_of_watched hm hvalue
      cases hrest
      have hstatus : { m₁ with status := (v.toInteger % 256).toNat }.flag = .none := hvalue.calm
      exact ⟨.exit, _, .exitStatus hvalue, raise_eq hstatus _⟩

theorem reaches_straight {ss : List Statement} (hss : (Code.sequence ss).Structured)
    (hm : m.flag = .none) (hrun : (watched n).straight ss m = .ok () m') :
    Reaches (.sequence ss) m m' := by
  induction ss generalizing m with
  | nil =>
    cases hrun
    exact ⟨.none, _, .nil, (pending_none hm).symm⟩
  | cons s ss ih =>
    obtain ⟨hs, hss⟩ := List.forall_mem_cons.mp hss
    rw [straight_cons _ hm] at hrun
    obtain ⟨_, m₁, hstatement, hrest⟩ := bind_eq_ok hrun
    have hnoted : (m.noting (.statement s)).flag = .none := hm
    obtain ⟨e, m₁, hends, rfl⟩ := reaches_statement h hs hnoted hstatement
    by_cases he : e = .none
    · subst he
      have hcalm := hends.calm hnoted
      rw [pending_none hcalm] at hrest
      obtain ⟨e', m₂, hsequence, rfl⟩ := ih hss hcalm hrest
      exact ⟨e', m₂, .cons hends hsequence, rfl⟩
    · rw [straight_pending _ (m := m₁.pending e) he] at hrest
      cases hrest
      exact ⟨e, m₁, .leave hends he, rfl⟩

omit h in
/-- A watched block ends as structured control flow prescribes. -/
theorem prescribed (n : Nat) : Prescribed n := by
  induction n with
  | zero => exact fun _ _ h => nomatch h
  | succ n ih =>
    intro b m m' absorbed hb hm hrun
    have hbody : (watched n).body b m = .ok absorbed m' := hrun
    rw [body_eq] at hbody
    obtain ⟨_, m₁, hstraight, hrest⟩ := bind_eq_ok hbody
    obtain ⟨e, m₂, hends, rfl⟩ := reaches_straight ih hb.sequence hm hstraight
    refine ⟨e, m₂, hends, ?_⟩
    rw [← settleFlag_pending _ _ (hends.calm hm)]
    cases hrest
    rfl

end Inner

end Awk
