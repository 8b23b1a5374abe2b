import Mathlib
import Awk.Proofs.Conduct.Jumps
import Awk.Proofs.Grammar.Programs
import Awk.Shell.Run

/-! Whole runs. An `exit` or `next` is carried out before another statement starts, unless a
`return` whose operand has raised it takes its place. -/

namespace Awk

open Machine Run

namespace Inner

variable {p : Program} (hp : p.Everywhere (·.wellFormed false)) (n : Nat)

include hp

theorem keptBy_jumps (s : Stage) : (Discipline.jumps hp s).KeptBy (withFuel n) :=
  keptBy_withFuel (.jumps hp s) (fun _ h => h.here) n

/-- The `BEGIN` items and the `END` items. -/
theorem keeps_runItems {s : Stage} (hs : s ≠ .records) {is : List Item}
    (his : ∀ i ∈ is, i ∈ p.items) :
    Keeps (Within p s) ((withFuel n).runItems is) fun _ => True := by
  induction is with
  | nil => exact .pure trivial
  | cons i is ih =>
    obtain ⟨hi, his⟩ := List.forall_mem_cons.mp his
    have haction := (keptBy_jumps hp n s).block ⟨fun _ => hs, (hp.actions i hi).2⟩
    refine haction.andThen fun _ => .getFlag_bind fun m hm => ?_
    split
    · exact .pure trivial hm
    · exact ih his m hm

omit hp in
/-- At the end of an action only a `next` that the action absorbs may still be owed. -/
theorem settleFlag_program {m : Machine} (h : Within p .records m.conduct) :
    Between p (settleFlag .program m).2.conduct ∧
      ((settleFlag .program m).1 = .next ∨
        Within p .records (settleFlag .program m).2.conduct) := by
  rw [settleFlag_conduct]
  split
  · exact ⟨h.between, .inr h⟩
  · rename_i hleave
    obtain ⟨hx, -⟩ := BlockKind.settlement_ne_leave hleave
    refine ⟨h.between_clear hx, ?_⟩
    by_cases hnext : m.flag = .next
    · rw [settleFlag_apply, hnext]
      exact .inl rfl
    · exact .inr (h.clear hx (.inl hnext))

/-- An action for a record, from which a `next` that is owed only comes as absorbed. -/
theorem keepsAt_action {i : Item} (hi : i ∈ p.items) {m : Machine}
    (hm : Within p .records m.conduct) :
    KeepsAt (Between p) ((withFuel n).block i.action) (fun _ => True) m ∧
      ∀ a m', (withFuel n).block i.action m = .ok a m' →
        a = .next ∨ Within p .records m'.conduct := by
  cases n with
  | zero =>
    have hblock : (withFuel 0).block i.action = outOfFuel := rfl
    rw [hblock]
    exact ⟨Keeps.outOfFuel m hm.between, fun _ _ hok => nomatch hok⟩
  | succ n =>
    obtain ⟨hkind, haction⟩ := hp.actions i hi
    have hblock : (withFuel (n + 1)).block i.action =
        (withFuel n).straight i.action.statements >>= fun _ => liftM (settleFlag .program) := by
      rw [← hkind]
      exact body_eq (withFuel n) i.action
    have hstraight := keeps_straight (keptBy_jumps hp n .records)
      (fun t ht => ⟨fun e he => haction.expr ht he, fun b hb =>
        ⟨fun hk => absurd hk (haction.block ht hb).1, (haction.block ht hb).2⟩, fun _ => trivial⟩)
      m hm
    rw [hblock]
    refine ⟨hstraight.bind_weaken (fun _ h => h.between) fun _ m' _ _ hm' => ?_, ?_⟩
    · exact .act (settleFlag_withFrames .program m') (settleFlag_program hm').1 trivial
    · intro a m' hok
      have hconduct := hstraight.conduct
      cases hrun : (withFuel n).straight i.action.statements m with
      | error e m'' =>
        rw [bind_error hrun] at hok
        cases hok
      | ok u m'' =>
        rw [bind_ok hrun] at hok
        rw [hrun] at hconduct
        cases hok
        exact (settleFlag_program hconduct).2

theorem keepsAt_tryItems {is : List Item} (his : ∀ i ∈ is, i ∈ p.items) {m : Machine}
    (hm : Within p .records m.conduct) :
    KeepsAt (Between p) ((withFuel n).tryItems is) (fun _ => True) m := by
  induction is generalizing m with
  | nil => exact .pure trivial hm.between
  | cons i is ih =>
    obtain ⟨hi, his⟩ := List.forall_mem_cons.mp his
    have hselects := (relates_self (keptBy_jumps hp n .records)).selects (hp.patterns i hi)
      (fun id _ => ⟨quiet_inRange id, quiet_setRange id⟩) m hm
    refine hselects.bind_weaken (fun _ h => h.between) fun selected m' _ _ hm' => .getFlag_bind ?_
    split
    · exact .pure trivial hm'.between
    · rename_i hnext
      have hx : m'.flag ≠ .exit := by
        rw [hnext]
        nofun
      exact (KeepsAt.clear (hm'.between_clear hx)).bind fun _ _ _ _ h => .pure trivial h
    · cases selected with
      | false => exact ih his hm'
      | true =>
        obtain ⟨hkeeps, hstate⟩ := keepsAt_action hp n hi hm'
        refine hkeeps.bind fun absorbed m'' hok _ hm'' => .getFlag_bind ?_
        split
        · exact .pure trivial hm''
        · split
          · exact .pure trivial hm''
          · rename_i habsorbed
            exact ih his ((hstate absorbed m'' hok).resolve_left habsorbed)

theorem keeps_nextPass :
    Keeps (Between p) ((withFuel n).nextPass p.mainItems) fun _ => True := by
  have hnext := Act.Calculus.nextRecord (L := Act.Calculus.keeps (Between p)) (fun _ => trivial)
    quiet_modifyInput n n
  refine Keeps.andThen hnext fun r => ?_
  cases r with
  | none => exact .pure trivial
  | some record =>
    refine (Keeps.lift (Quiet.acts.setRecord trivial record)).andThen fun _ m hm => ?_
    have hnote := KeepsAt.note (e := .record) hm.record
    refine hnote.bind_weaken (fun _ h => h.between) fun _ m' _ _ hm' => ?_
    exact keepsAt_tryItems hp n (fun i hi => List.mem_of_mem_filter hi) hm'

/-- From the end of the input on. -/
theorem keeps_conclusion :
    Keeps (Orderly p) (do
      setFlag .none
      note .ending
      (withFuel n).runItems p.endItems
      setFlag .none
      closeStreams
      return (← get).status : Run Nat) fun _ => True := by
  intro m hm
  have hcleared (m : Machine) (hm : Orderly p m.conduct) :
      KeepsAt (Orderly p) (liftM (setFlag .none)) (fun _ => True) m := .clear ⟨hm.program, hm.clean⟩
  refine (hcleared m hm).bind fun _ m' _ _ hm' => ?_
  refine (KeepsAt.note hm'.ending).bind_weaken (fun _ h => h.toOrderly) fun _ m' _ _ hm' => ?_
  have hitems : Keeps (Within p .ending) ((withFuel n).runItems p.endItems) fun _ => True :=
    keeps_runItems hp n (by nofun) fun i hi => List.mem_of_mem_filter hi
  refine (hitems m' hm').bind_weaken (fun _ h => h.toOrderly) fun _ m' _ _ hm' => ?_
  refine (hcleared m' hm'.toOrderly).bind fun _ m' _ _ hm' => ?_
  refine (KeepsAt.lift Quiet.acts.closeStreams hm').bind fun _ m' _ _ hm' => ?_
  exact .get_bind (fun _ => rfl) (.pure trivial hm')

/-- A run starts with no history, whatever has been done before. -/
theorem keepsAt_runProgram {m : Machine} (hm : m.program = p) :
    KeepsAt (Orderly p) (withFuel n).runProgram (fun _ => True) m := by
  have hreset : KeepsAt (Within p .opening) (modify fun m => { m with history := [] })
      (fun _ => True) m := ⟨fun _ => rfl, ⟨⟨hm, trivial⟩, rfl, .inl rfl⟩, fun _ _ _ => trivial⟩
  refine hreset.bind_weaken (fun _ h => h.toOrderly) fun _ m' _ _ hm' => ?_
  refine .get_bind (fun _ => rfl) ?_
  rw [show m'.program = p from hm'.program]
  have hitems : Keeps (Within p .opening) ((withFuel n).runItems p.beginItems) fun _ => True :=
    keeps_runItems hp n (by nofun) fun i hi => List.mem_of_mem_filter hi
  refine (hitems m' hm').bind_weaken (fun _ h => h.toOrderly) fun _ m' _ _ hm' => .getFlag_bind ?_
  split
  · have hrecords := (keeps_nextPass hp n).repeatWhile n m' hm'.between
    exact hrecords.bind_weaken (fun _ h => h.toOrderly) fun _ m' _ _ hm' =>
      keeps_conclusion hp n m' hm'.toOrderly
  · exact keeps_conclusion hp n m' hm'.toOrderly

end Inner

/-- What has been done, in order. -/
def Machine.events (m : Machine) : List Event := m.history.reverse

/-- In a run of a program that is read, a statement starts after an `exit` and before the `END`
items only where a `return` has taken the place of a pending `exit`, and after a `next` and for the
same record only where one has taken the place of a pending `next` or `exit`. This holds of runs
that are out of fuel too. -/
theorem exit_next_carried_out {source : String} {p : Program} (h : parse source = .ok p) (n : Nat)
    {m : Machine} (hm : m.program = p) {run : List Event}
    (hrun : (Outcome.machine ((Inner.withFuel n).runProgram m)).events = run) :
    (∀ (before between after : List Event) (q : Flag) (s : Statement),
      run = before ++ .jump q .exit :: (between ++ .statement s :: after) →
      .ending ∉ before → .ending ∉ between → .jump .exit .return_ ∈ between) ∧
    ∀ (before during between after : List Event) (q : Flag) (s : Statement),
      run = before ++ .record :: (during ++ .jump q .next :: (between ++ .statement s :: after)) →
      .ending ∉ during → .record ∉ between → .ending ∉ between →
        .jump .next .return_ ∈ between ∨ .jump .exit .return_ ∈ between := by
  have hclean : History.Clean run.reverse := by
    rw [← hrun, events, List.reverse_reverse]
    exact (Inner.keepsAt_runProgram (parse_wellFormed h) n hm).conduct.clean
  refine ⟨?_, ?_⟩
  · rintro before between after q s rfl hb he
    simp only [List.reverse_append, List.reverse_cons, List.append_assoc, List.singleton_append]
      at hclean
    exact List.mem_reverse.mp (hclean.exit (hb ∘ List.mem_reverse.mp) (he ∘ List.mem_reverse.mp))
  · rintro before during between after q s rfl hd hrec he
    simp only [List.reverse_append, List.reverse_cons, List.append_assoc, List.singleton_append]
      at hclean
    exact (hclean.next (hd ∘ List.mem_reverse.mp) (hrec ∘ List.mem_reverse.mp)
      (he ∘ List.mem_reverse.mp)).imp List.mem_reverse.mp List.mem_reverse.mp

/-- `f()`. -/
def callingF : Statement := .expr [.call (.user "f") []]

/-- `function g() { exit } function f() { return g() } BEGIN { f(); f() }`. -/
def overwriting : Program :=
  { items := [⟨.begin_, .mk .program [callingF, callingF]⟩]
    functions := [
      ⟨"g", [], .mk .routine [.exit none], ⟨0, 30⟩⟩,
      ⟨"f", [], .mk .routine [.return_ (some [.call (.user "g") []])], ⟨22, 55⟩⟩]
    ranges := 0 }

theorem parse_overwriting :
    parse "function g() { exit } function f() { return g() } BEGIN { f(); f() }" =
      .ok overwriting := by
  cbv

/-- What is about to run it, without input. -/
def overwritingStart : Machine := .start overwriting {} (.start .empty [] .captured)

def overwritingRun : List Event :=
  (Outcome.machine ((Inner.withFuel 7).runProgram overwritingStart)).events

/-- A call of `f`, up to the `exit`. -/
def enteringF : List Event :=
  [.statement callingF, .statement (.return_ (some [.call (.user "g") []])),
    .statement (.exit none)]

/-- An `exit` and the `return` that takes its place. -/
def leavingF : List Event := [.jump .none .exit, .jump .exit .return_]

theorem overwritingRun_eq :
    overwritingRun = enteringF ++ (leavingF ++ (enteringF ++ (leavingF ++ [.ending]))) := by
  cbv

/-- The second call of `f` is a statement after an `exit`. -/
theorem exit_lost_overwriting :
    ∃ between after,
      overwritingRun = enteringF ++ Event.jump .none .exit ::
        (between ++ Event.statement callingF :: after) ∧
      .ending ∉ between ∧ .jump .exit .return_ ∈ between := by
  have hprogram : overwritingStart.program = overwriting := rfl
  have hbefore : .ending ∉ enteringF := by simp [enteringF]
  have hbetween : .ending ∉ [Event.jump .exit .return_] := by simp
  obtain ⟨hexit, -⟩ := exit_next_carried_out parse_overwriting 7 hprogram overwritingRun_eq
  have hreturn := hexit enteringF [.jump .exit .return_] _ _ _ rfl hbefore hbetween
  exact ⟨_, _, overwritingRun_eq, hbetween, hreturn⟩

end Awk
