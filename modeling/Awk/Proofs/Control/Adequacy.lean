import Mathlib
import Awk.Proofs.Control.Watched
import Awk.Proofs.Grammar.Programs
import Awk.Shell.Run

/-! The pending jump carries out structured control flow: what that prescribes is what a run comes
to once it has enough fuel. -/

namespace Awk

open Machine Run Filter

namespace Code

/-- What the evaluator does for what is left to be done. -/
def run (n : Nat) : Code → Run Unit
  | statement s => (Inner.withFuel n).statement s
  | sequence ss => (Inner.withFuel n).straight ss
  | loop c step b => Run.repeatWhile ((Inner.withFuel n).round c b step) n
  | keys name ks b => Run.forWhile (fun key => do
      assign (.scalar name) ⟨key⟩
      (Inner.withFuel n).pass b) ks

end Code

variable {m m' : Machine}

theorem Finishes.eventually {α : Type} {x : Nat → Run α} {a : α} (h : Finishes x m a m')
    (hx : ∀ {n n'}, n ≤ n' → (x n).Below (x n')) : ∀ᶠ n in atTop, x n m = .ok a m' := by
  obtain ⟨n, hn⟩ := h.ends
  filter_upwards [eventually_ge_atTop n] with k hk
  exact hx hk m a m' hn

theorem eventually_pred {P : Nat → Prop} (h : ∀ᶠ n in atTop, P n) :
    ∀ᶠ n in atTop, ∃ k, n = k + 1 ∧ P k := by
  filter_upwards [(tendsto_sub_atTop_nat 1).eventually h, eventually_ge_atTop 1] with n hn hpos
  exact ⟨n - 1, (Nat.sub_add_cancel hpos).symm, hn⟩

/-! Loops. The fuel also bounds the number of passes, so that one unit less is left for those after
the first one. -/

section Loops

variable {pass : Nat → Run Bool} {m₁ : Machine}

theorem eventually_over (h : ∀ᶠ n in atTop, pass n m = .ok false m') :
    ∀ᶠ n in atTop, Run.repeatWhile (pass n) n m = .ok () m' := by
  filter_upwards [h, eventually_ge_atTop 1] with n hn hpos
  obtain ⟨k, rfl⟩ := Nat.exists_eq_add_of_le' hpos
  exact bind_ok hn

theorem eventually_again (hpass : ∀ {n n'}, n ≤ n' → (pass n).Below (pass n'))
    (h : ∀ᶠ n in atTop, pass n m = .ok true m₁)
    (hrest : ∀ᶠ n in atTop, Run.repeatWhile (pass n) n m₁ = .ok () m') :
    ∀ᶠ n in atTop, Run.repeatWhile (pass n) n m = .ok () m' := by
  filter_upwards [h, eventually_pred hrest] with n hn hk
  obtain ⟨k, rfl, hk⟩ := hk
  refine (bind_ok hn).trans ?_
  exact Run.Below.repeatWhile (hpass (Nat.le_succ k)) (Nat.le_refl k) m₁ () m' hk

end Loops

namespace Inner

theorem eventually_value {e : Expr} {v : Value} (h : Evaluates e m v m') :
    ∀ᶠ n in atTop, (withFuel n).value e m = .ok v m' :=
  h.eventually fun hn => (below_withFuel hn).value e

theorem eventually_holds {c : Expr} {v : Value} (h : Evaluates c m v m') :
    ∀ᶠ n in atTop, (withFuel n).holds c m = .ok v.toBool m' := by
  filter_upwards [eventually_value h] with n hv
  have hread : (withFuel n).holds c m =
      .ok (v.toBool && decide (m'.flag = .none)) m' := bind_ok hv
  rw [hread, h.calm, decide_eq_true rfl, Bool.and_true]

theorem eventually_test {c : Option Expr} {b : Bool} (h : Tests c m b m') :
    ∀ᶠ n in atTop, (withFuel n).test c m = .ok b m' := by
  cases h with
  | absent => exact .of_forall fun _ => rfl
  | value h => exact eventually_holds h

theorem eventually_perform {e : Option Expr} (h : Performs e m () m') :
    ∀ᶠ n in atTop, (withFuel n).perform e m = .ok () m' :=
  h.eventually fun hn => (below_withFuel hn).perform e

variable {e : Flag} {b : Block} (hcalm : m'.flag = .none)
  (h : ∀ᶠ n in atTop, (withFuel n).straight b.statements m = .ok () (m'.pending e))

include hcalm h

theorem eventually_block :
    ∀ᶠ n in atTop, (withFuel n).block b m =
      .ok (b.kind.conclude e m').1 (b.kind.conclude e m').2 := by
  filter_upwards [eventually_pred h] with n hn
  obtain ⟨k, rfl, hk⟩ := hn
  have hbody : (withFuel (k + 1)).block b m = (withFuel k).body b m := rfl
  rw [hbody, body_eq, bind_ok hk, lift_apply, settleFlag_pending _ _ hcalm]

theorem eventually_simple (hk : b.kind = .simple) :
    ∀ᶠ n in atTop, (do let _ ← (withFuel n).block b : Run Unit) m = .ok () (m'.pending e) := by
  filter_upwards [eventually_block hcalm h] with n hn
  rw [bind_ok hn, hk]
  rfl

theorem eventually_pass (hk : b.kind = .iteration) :
    ∀ᶠ n in atTop, (withFuel n).pass b m = .ok e.goesOn (m'.pending e.afterLoop) := by
  filter_upwards [eventually_block hcalm h] with n hn
  rw [hk, conclude_iteration hcalm] at hn
  rw [pass, bind_ok hn]
  cases e <;> rfl

theorem eventually_goes (hk : b.kind = .iteration) (hgoes : e.goesOn = true) :
    ∀ᶠ n in atTop, (withFuel n).pass b m = .ok true m' := by
  filter_upwards [eventually_pass hcalm h hk] with n hn
  rw [hn, hgoes, Flag.afterLoop_of_goesOn hgoes, pending_none hcalm]

end Inner

/-- What structured control flow prescribes is what the code comes to with enough fuel. -/
theorem Ends.eventually {c : Code} {e : Flag} (h : Ends c m e m') (hc : c.Structured)
    (hm : m.flag = .none) : ∀ᶠ n in atTop, c.run n m = .ok () (m'.pending e) := by
  -- A derivation is finite, so the fuel that its parts need has a bound, which `atTop` keeps
  -- out of sight.
  induction h with
  | plain _ h =>
    rw [pending_none h.calm]
    exact h.eventually fun hn => (Inner.below_withFuel hn).statement _
  | block hends ih =>
    obtain ⟨hk, hb⟩ := hc _ (.head _)
    exact Inner.eventually_simple (hends.calm hm) (ih hb.sequence hm) hk
  | yes hvalue hv hends ih =>
    obtain ⟨hk, hb⟩ := hc _ (.head _)
    have hcalm := hends.calm hvalue.calm
    have hyes := Inner.eventually_simple hcalm (ih hb.sequence hvalue.calm) hk
    filter_upwards [Inner.eventually_value hvalue, hyes] with n hn hrun
    exact (bind_ok hn).trans (by rw [hv]; exact hrun)
  | no hvalue hv hends ih =>
    obtain ⟨hk, hb⟩ := hc _ (.tail _ (.head _))
    have hcalm := hends.calm hvalue.calm
    have hno := Inner.eventually_simple hcalm (ih hb.sequence hvalue.calm) hk
    filter_upwards [Inner.eventually_value hvalue, hno] with n hn hrun
    exact (bind_ok hn).trans (by rw [hv]; exact hrun)
  | neither hvalue hv =>
    rw [pending_none hvalue.calm]
    filter_upwards [Inner.eventually_value hvalue] with n hn
    exact (bind_ok hn).trans (by rw [hv]; rfl)
  | while_ _ ih => exact ih (hc _ (.head _)) hm
  | for_ hstart _ ih =>
    have hloop := ih (hc _ (.head _)) hstart.calm
    filter_upwards [Inner.eventually_perform hstart, hloop] with n hn hloop
    exact (bind_ok hn).trans hloop
  | @forIn name array b m m' e ks hsorted hkeys _ ih =>
    have hks : ks = m.env.keys array :=
      hsorted.eq_of_mem_iff (m.env.sortedLT_keys array) fun k =>
        (hkeys k).trans (m.env.mem_keys array k).symm
    subst hks
    exact ih (hc _ (.head _)) hm
  | doLeft hbody hgoes ih =>
    obtain ⟨hk, hb⟩ := hc _ (.head _)
    have hpass := Inner.eventually_pass (hbody.calm hm) (ih hb.sequence hm) hk
    refine eventually_over ?_
    filter_upwards [hpass] with n hn
    exact (bind_ok hn).trans (by rw [hgoes]; rfl)
  | doOver hbody hgoes hvalue hv ih =>
    obtain ⟨hk, hb⟩ := hc _ (.head _)
    have hpass := Inner.eventually_goes (hbody.calm hm) (ih hb.sequence hm) hk hgoes
    rw [pending_none hvalue.calm]
    refine eventually_over ?_
    filter_upwards [hpass, Inner.eventually_holds hvalue] with n hn hholds
    exact (bind_ok hn).trans (hholds.trans (by rw [hv]))
  | doAgain hbody hgoes hvalue hv _ ihbody ih =>
    obtain ⟨hk, hb⟩ := hc _ (.head _)
    have hpass := Inner.eventually_goes (hbody.calm hm) (ihbody hb.sequence hm) hk hgoes
    refine eventually_again (fun hn => ?_) ?_ (ih hc hvalue.calm)
    · exact ((Inner.below_withFuel hn).pass _).bind fun _ =>
        .ite ((Inner.below_withFuel hn).holds _) (.refl _)
    · filter_upwards [hpass, Inner.eventually_holds hvalue] with n hn hholds
      exact (bind_ok hn).trans (hholds.trans (by rw [hv]))
  | break_ | continue_ | next =>
    exact .of_forall fun _ => congrArg (EStateM.Result.ok ()) (raise_eq hm _)
  | return_ =>
    exact .of_forall fun _ => congrArg (EStateM.Result.ok ())
      (raise_eq (m := (modifyEnv (·.setReturned .empty) _).2) hm _)
  | exit => exact .of_forall fun _ => congrArg (EStateM.Result.ok ()) (raise_eq hm _)
  | returnValue hvalue =>
    filter_upwards [Inner.eventually_value hvalue] with n hn
    exact (bind_ok hn).trans (congrArg (EStateM.Result.ok ())
      (raise_eq (m := (modifyEnv (·.setReturned _) _).2) hvalue.calm _))
  | @exitStatus x m m₁ v hvalue =>
    filter_upwards [Inner.eventually_value hvalue] with n hn
    exact (bind_ok hn).trans (congrArg (EStateM.Result.ok ())
      (raise_eq (m := { m₁ with status := (v.toInteger % 256).toNat }) hvalue.calm _))
  | nil =>
    rw [pending_none hm]
    exact .of_forall fun _ => rfl
  | cons hends _ ihs ih =>
    obtain ⟨hs, hss⟩ := List.forall_mem_cons.mp hc
    have hcalm := hends.calm hm
    filter_upwards [ihs hs hm, ih hss hcalm] with n hn hrest
    rw [pending_none hcalm] at hn
    exact (Inner.straight_cons _ hm _ _).trans ((bind_ok hn).trans hrest)
  | leave hends he ihs =>
    obtain ⟨hs, hss⟩ := List.forall_mem_cons.mp hc
    filter_upwards [ihs hs hm] with n hn
    refine (Inner.straight_cons _ hm _ _).trans ((bind_ok hn).trans ?_)
    exact Inner.straight_pending _ he _
  | loopOver htest =>
    rw [pending_none (htest.calm hm)]
    refine eventually_over ?_
    filter_upwards [Inner.eventually_test htest] with n hn
    rw [Inner.round_eq]
    exact bind_ok hn
  | loopLeft htest hbody hgoes ih =>
    obtain ⟨hk, hb⟩ := hc
    have hcalm := htest.calm hm
    have hpass := Inner.eventually_pass (hbody.calm hcalm) (ih hb.sequence hcalm) hk
    refine eventually_over ?_
    filter_upwards [Inner.eventually_test htest, hpass] with n hn hpass
    rw [Inner.round_eq]
    exact (bind_ok hn).trans ((bind_ok hpass).trans (by rw [hgoes]; rfl))
  | loopAgain htest hbody hgoes hstep _ ihbody ih =>
    obtain ⟨hk, hb⟩ := hc
    have hcalm := htest.calm hm
    have hpass := Inner.eventually_goes (hbody.calm hcalm) (ihbody hb.sequence hcalm) hk hgoes
    refine eventually_again (fun hn => (Inner.below_withFuel hn).round _ _ _) ?_
      (ih ⟨hk, hb⟩ hstep.calm)
    filter_upwards [Inner.eventually_test htest, hpass, Inner.eventually_perform hstep]
      with n hn hpass hstep
    rw [Inner.round_eq]
    exact (bind_ok hn).trans ((bind_ok hpass).trans (bind_ok hstep))
  | keysOver =>
    rw [pending_none hm]
    exact .of_forall fun _ => rfl
  | @keyLeft name k _ _ _ _ _ hbody hgoes ih =>
    obtain ⟨hk, hb⟩ := hc
    have hassigned := assign_calm hm (.scalar name) ⟨k⟩
    have hpass := Inner.eventually_pass (hbody.calm hassigned) (ih hb.sequence hassigned) hk
    filter_upwards [hpass] with n hn
    exact (bind_ok hn).trans (by rw [hgoes]; rfl)
  | @keyNext name k _ _ _ _ _ _ _ hbody hgoes _ ihbody ih =>
    obtain ⟨hk, hb⟩ := hc
    have hassigned := assign_calm hm (.scalar name) ⟨k⟩
    have hcalm := hbody.calm hassigned
    have hpass := Inner.eventually_goes hcalm (ihbody hb.sequence hassigned) hk hgoes
    filter_upwards [hpass, ih ⟨hk, hb⟩ hcalm] with n hn hrest
    exact (bind_ok hn).trans hrest

/-- There is one way to end. -/
theorem Ends.unique {c : Code} {m₁ m₂ : Machine} {e₁ e₂ : Flag} (h₁ : Ends c m e₁ m₁)
    (h₂ : Ends c m e₂ m₂) (hc : c.Structured) (hm : m.flag = .none) : e₁ = e₂ ∧ m₁ = m₂ := by
  obtain ⟨n, hn₁, hn₂⟩ := ((h₁.eventually hc hm).and (h₂.eventually hc hm)).exists
  rw [hn₁] at hn₂
  have hmachine : m₁.pending e₁ = m₂.pending e₂ := (EStateM.Result.ok.inj hn₂).2
  refine ⟨congrArg Machine.flag hmachine, ?_⟩
  calc
    m₁ = m₁.pending .none := (pending_none (h₁.calm hm)).symm
    _ = m₂.pending .none := congrArg (·.pending .none) hmachine
    _ = m₂ := pending_none (h₂.calm hm)

/-- No expression that a block evaluates from `m` on leaves a jump pending: where the block ends, it
ends with its expressions watched, too. -/
def Block.Watchable (b : Block) (m : Machine) : Prop :=
  ∀ n absorbed m', runBlock n b m = .ok absorbed m' →
    ∃ k, Inner.watchedBlock k b m = .ok absorbed m'

/-- A block that ends when it is watched ends in no other way, whatever the fuel. -/
theorem watchable_of_watched {b : Block} {k : Nat} {absorbed : Flag}
    (h : Inner.watchedBlock k b m = .ok absorbed m') : b.Watchable m := by
  intro n absorbed' m'' hrun
  have hwatched := (Inner.below_withFuel (Nat.le_max_right n k)).block b _ _ _
    ((Inner.below_watched k).block b _ _ _ h)
  have hmore := (Inner.below_withFuel (Nat.le_max_left n k)).block b _ _ _ hrun
  rw [hwatched] at hmore
  cases hmore
  exact ⟨k, h⟩

/-- The blocks of a program that is read are structured; and where no jump is pending, a structured
block ends in the way that structured control flow prescribes and in no other, provided that no
expression in it leaves a jump pending: its statements end so, and the block meets the jump that
they end with as its kind says. -/
theorem runBlock_iff_ends :
    (∀ {source : String} {p : Program}, parse source = .ok p → p.Structured) ∧
    ∀ {b : Block} {m : Machine}, b.Structured → m.flag = .none → b.Watchable m →
      ∀ absorbed m', (∃ n, runBlock n b m = .ok absorbed m') ↔
        ∃ e m₁, Ends (.sequence b.statements) m e m₁ ∧ b.kind.conclude e m₁ = (absorbed, m') := by
  refine ⟨fun h => (parse_sound h).structured, ?_⟩
  intro b m hb hm hwatchable absorbed m'
  constructor
  · rintro ⟨n, hrun⟩
    obtain ⟨k, hwatched⟩ := hwatchable n absorbed m' hrun
    exact Inner.prescribed k hb hm hwatched
  · rintro ⟨e, m₁, hends, hconclude⟩
    have hblock := Inner.eventually_block (hends.calm hm) (hends.eventually hb.sequence hm)
    obtain ⟨n, hn⟩ := hblock.exists
    rw [hconclude] at hn
    exact ⟨n, hn⟩

/-- `a[1]; for (k in a) while (k) break; break`. -/
def nestedLoops : Block :=
  .mk .program [.expr [.element "a" [[.value ⟨"1"⟩]]],
    .forIn "k" "a" (.mk .iteration [.while_ [.var "k"] (.mk .iteration [.break_])]),
    .break_]

def nesting : Program := ⟨[⟨.begin_, nestedLoops⟩], [], 0⟩

theorem parse_nesting :
    parse "BEGIN { a[1]; for (k in a) while (k) break; break }" = .ok nesting := by
  cbv

def nestingStart : Machine := .start nesting {} (.start .empty [] .captured)

theorem watchedBlock_nestedLoops :
    ∃ m', Inner.watchedBlock 5 nestedLoops nestingStart = .ok .none m' := by
  have hrun : (match Inner.watchedBlock 5 nestedLoops nestingStart with
      | .ok absorbed _ => some absorbed
      | .error .. => none) = some Flag.none := by
    cbv
  split at hrun
  · rename_i absorbed m' hok
    cases hrun
    exact ⟨m', hok⟩
  · cases hrun

/-- The `break` behind the loops is reported. -/
theorem nestedLoops_ends :
    ∃ m' e m₁, runBlock 5 nestedLoops nestingStart = .ok .none m' ∧
      Ends (.sequence nestedLoops.statements) nestingStart e m₁ ∧
      BlockKind.program.conclude e m₁ = (.none, m') := by
  obtain ⟨m', hwatched⟩ := watchedBlock_nestedLoops
  have hrun : runBlock 5 nestedLoops nestingStart = .ok .none m' :=
    (Inner.below_watched 5).block nestedLoops _ _ _ hwatched
  obtain ⟨hparse, hcontrol⟩ := runBlock_iff_ends
  obtain ⟨-, hstructured⟩ := (hparse parse_nesting).actions _ (.head _)
  have hends := hcontrol hstructured rfl (watchable_of_watched hwatched) .none m'
  obtain ⟨e, m₁, hends, hconclude⟩ := hends.mp ⟨5, hrun⟩
  exact ⟨m', e, m₁, hrun, hends, hconclude⟩

end Awk
