import Awk.Proofs.Invariant.Law

/-! Whole runs obey a law that holds where they start. -/

namespace Awk.Law

open Machine Run

variable {L : Law}

/-- A change of what the law is not about. -/
theorem same_inert {f : Machine → Machine} (hf : ∀ m, (f m).core = m.core) :
    L.Same (liftM (modify f : Act Unit)) (liftM (modify f : Act Unit)) fun _ => True := by
  refine fun m _ => .act ?_ trivial
  have hsame : ((modify f : Act Unit) m).2.core = m.core := hf m
  rw [hsame]
  exact L.refl _

namespace Parts

variable {self other : Inner} (h : L.Parts self other)

include h

theorem runItems {is : List Item} (his : ∀ i ∈ is, i ∈ L.program.items) :
    L.Same (self.runItems is) (other.runItems is) fun _ => True := by
  induction is with
  | nil => exact L.walk.pure trivial
  | cons i is ih =>
    obtain ⟨hi, his⟩ := List.forall_mem_cons.mp his
    refine L.walk.andThen (h.block (L.actions hi)) fun _ => ?_
    refine L.walk.andThen (L.walk.act (L.acts.reads (·.flag) fun _ _ => rfl)) fun flag => ?_
    exact L.walk.ite (L.walk.pure trivial) (ih his)

theorem tryItems {is : List Item} (his : ∀ i ∈ is, i ∈ L.program.items) :
    L.Same (self.tryItems is) (other.tryItems is) fun _ => True := by
  have hflag : L.Same getFlag getFlag fun _ => True :=
    L.walk.act (L.acts.reads (·.flag) fun _ _ => rfl)
  induction is with
  | nil => exact L.walk.pure trivial
  | cons i is ih =>
    obtain ⟨hi, his⟩ := List.forall_mem_cons.mp his
    have hranges (id : Nat) : L.acts.has (Inner.inRange id) ∧
        ∀ active, L.acts.has (Inner.setRange id active) :=
      ⟨fun _ _ => L.refl _, fun _ _ _ => L.refl _⟩
    have hselects := h.relates.selects (fun e he => L.patterns hi he) fun id _ => hranges id
    refine L.walk.andThen hselects fun selected => ?_
    refine L.walk.andThen hflag fun flag => ?_
    split
    · exact L.walk.pure trivial
    · exact L.walk.andThen (same_inert fun _ => rfl) fun _ => L.walk.pure trivial
    · refine L.walk.ite (L.walk.andThen (h.block (L.actions hi)) fun absorbed => ?_) (ih his)
      refine L.walk.andThen hflag fun flag => L.walk.ite (L.walk.pure trivial) ?_
      exact L.walk.ite (L.walk.pure trivial) (ih his)

theorem nextPass {is : List Item} (his : ∀ i ∈ is, i ∈ L.program.items) :
    L.Same (L.guard.nextPass self is) (L.other.nextPass other is) fun _ => True := by
  intro m hm
  refine (Motion.SameAt.check hm (L.request_eq hm)).bind hm fun _ m' hchecked _ hm' => ?_
  obtain ⟨rfl, hasked⟩ := hchecked
  refine (h.relates.request m' hm' hasked).bind hm' fun r m' _ _ hm' => ?_
  cases r with
  | none => exact .pure trivial
  | some record =>
    have htaken : L.Same (do setRecord record; note .record; self.tryItems is : Run Bool)
        (do setRecord record; note .record; other.tryItems is) fun _ => True :=
      L.walk.andThen (L.walk.act (L.acts.setRecord L.may_record record)) fun _ =>
        L.walk.andThen (same_inert fun _ => rfl) fun _ => h.tryItems his
    exact htaken m' hm'

/-- A run is the same under either guard, where the law holds at its start. -/
theorem runProgram : L.Same (L.guard.runProgram self) (L.other.runProgram other) fun _ => True := by
  let following (g : Guard) (i : Inner) (p : Program) : Run Nat := do
    modify fun m => { m with history := [] }
    i.runItems p.beginItems
    if (← getFlag) ≠ .exit && p.readsInput then
      Run.repeatWhile (g.nextPass i p.mainItems) i.fuel
    setFlag .none
    note .ending
    i.runItems p.endItems
    setFlag .none
    Inner.closeStreams
    return (← get).status
  have hrun (g : Guard) (i : Inner) {m : Machine} (hm : L.holds m.core) :
      g.runProgram i m = following g i L.program m := by
    rw [← show m.program = L.program from L.runs hm]
    rfl
  have hflag : L.Same getFlag getFlag fun _ => True :=
    L.walk.act (L.acts.reads (·.flag) fun _ _ => rfl)
  have hmain : L.Same (Run.repeatWhile (L.guard.nextPass self L.program.mainItems) self.fuel)
      (Run.repeatWhile (L.other.nextPass other L.program.mainItems) other.fuel) fun _ => True :=
    h.relates.loop (h.nextPass fun i hi => List.mem_of_mem_filter hi)
  have hclose : L.Same (do Inner.closeStreams; return (← get).status : Run Nat)
      (do Inner.closeStreams; return (← get).status) fun _ => True :=
    L.walk.andThen (L.walk.act L.acts.closeStreams) fun _ =>
      L.walk.get_bind (fun _ _ => rfl) (fun _ _ => rfl) fun _ => L.walk.pure trivial
  have hend : L.Same (do
      setFlag .none
      note .ending
      self.runItems L.program.endItems
      setFlag .none
      Inner.closeStreams
      return (← get).status : Run Nat) (do
      setFlag .none
      note .ending
      other.runItems L.program.endItems
      setFlag .none
      Inner.closeStreams
      return (← get).status) fun _ => True :=
    L.walk.andThen (same_inert fun _ => rfl) fun _ =>
      L.walk.andThen (same_inert fun _ => rfl) fun _ =>
        L.walk.andThen (h.runItems fun i hi => List.mem_of_mem_filter hi) fun _ =>
          L.walk.andThen (same_inert fun _ => rfl) fun _ => hclose
  have hsame : L.Same (following L.guard self L.program) (following L.other other L.program)
      fun _ => True := by
    refine L.walk.andThen (same_inert fun _ => rfl) fun _ => ?_
    refine L.walk.andThen (h.runItems fun i hi => List.mem_of_mem_filter hi) fun _ => ?_
    refine L.walk.andThen hflag fun flag => ?_
    split
    · exact L.walk.andThen hmain fun _ => hend
    · exact hend
  exact fun m hm => .congr (hrun _ _ hm) (hrun _ _ hm) (hsame m hm)

end Parts

end Awk.Law
