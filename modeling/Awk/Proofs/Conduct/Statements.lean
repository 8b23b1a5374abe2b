import Awk.Proofs.Conduct.Discipline

/-! Blocks that are built of admitted parts keep a discipline. -/

namespace Awk

open Machine Run

/-- What a block reports is a jump that is out of place. -/
theorem BlockKind.reported_ne {kind : BlockKind} {flag : Flag} {d : Diagnostic}
    (h : kind.settlement flag = .reported d) : d ≠ .malformedExpression := by
  rintro rfl
  cases kind <;> cases flag <;> cases h

namespace Inner

variable {D : Discipline} {self : Inner}

/-- Statements in order, as far as no jump is pending. -/
def straight (self : Inner) : List Statement → Run Unit
  | [] => return ()
  | s :: ss => do
    if (← getFlag) = .none then
      note (.statement s)
      self.statement s
      self.straight ss
    else return ()

/-- Whatever ends the statements of a block, the jump that is then pending is met. -/
theorem statements_eq (self : Inner) (kind : BlockKind) (ss : List Statement) :
    self.statements kind ss = self.straight ss >>= fun _ => liftM (settleFlag kind) := by
  induction ss with
  | nil => rfl
  | cons s ss ih =>
    simp only [statements, straight, bind_assoc]
    refine bind_congr fun flag => ?_
    split
    · simp only [ih, bind_assoc]
    · exact (pure_bind _ _).symm

theorem body_eq (self : Inner) (b : Block) :
    self.body b = self.straight b.statements >>= fun _ => liftM (settleFlag b.kind) :=
  statements_eq self b.kind b.statements

theorem settleFlag_apply (kind : BlockKind) (m : Machine) :
    settleFlag kind m =
      match kind.settlement m.flag with
      | .leave => (.none, m)
      | .absorb => (m.flag, (setFlag .none m).2)
      | .reported d => (.none, (report d (setFlag .none m).2).2) := by
  have hread : settleFlag kind m =
      (match kind.settlement m.flag with
      | .leave => return .none
      | .absorb => do
        setFlag .none
        return m.flag
      | .reported d => do
        setFlag .none
        report d
        return .none : Act Flag) m := rfl
  rw [hread]
  cases kind.settlement m.flag <;> rfl

theorem settleFlag_withFrames (kind : BlockKind) (m : Machine) (fs : List (Frame Delayed)) :
    settleFlag kind (m.withFrames fs) =
      ((settleFlag kind m).1, (settleFlag kind m).2.withFrames fs) := by
  have hsame : (m.withFrames fs).flag = m.flag := rfl
  rw [settleFlag_apply, settleFlag_apply, hsame]
  cases kind.settlement m.flag with
  | leave => rfl
  | absorb => rfl
  | reported d =>
    exact congrArg (Prod.mk Flag.none) (report_withFrames d (setFlag .none m).2 fs)

/-- A jump that is not left to the block around is cleared, and that is all. -/
theorem settleFlag_conduct (kind : BlockKind) (m : Machine) :
    (settleFlag kind m).2.conduct =
      if kind.settlement m.flag = .leave then m.conduct else m.conduct.clear := by
  rw [settleFlag_apply]
  cases hs : kind.settlement m.flag with
  | leave => rfl
  | absorb => rfl
  | reported d => exact (quiet_report (BlockKind.reported_ne hs)).conduct (setFlag .none m).2

theorem keeps_settleFlag {b : Block} (hb : D.block b) :
    Keeps D.holds (liftM (settleFlag b.kind)) fun _ => True := by
  intro m hm
  refine .act (settleFlag_withFrames b.kind m) ?_ trivial
  rw [settleFlag_conduct]
  split
  · exact hm
  · rename_i hleave
    exact D.settle hb hm hleave

variable (h : D.KeptBy self)

include h

theorem keeps_straight {ss : List Statement} (hss : ∀ s ∈ ss, D.walk.AdmitsStatement s) :
    Keeps D.holds (self.straight ss) fun _ => True := by
  induction ss with
  | nil => exact .pure trivial
  | cons s ss ih =>
    obtain ⟨hs, hss⟩ := List.forall_mem_cons.mp hss
    have hstatement := (relates_self h).statement hs
    refine .getFlag_bind fun m hm => ?_
    by_cases hflag : m.flag = .none
    · rw [if_pos hflag]
      refine (KeepsAt.note (D.statement s hm hflag)).bind fun _ m' hnote _ hm' => ?_
      cases hnote
      exact (hstatement _ hm' hflag).bind fun _ m'' _ _ hm'' => ih hss m'' hm''
    · rw [if_neg hflag]
      exact .pure trivial hm

theorem keeps_body {b : Block} (hb : D.block b) : Keeps D.holds (self.body b) fun _ => True := by
  rw [body_eq]
  exact (keeps_straight h fun _ hs => Walk.admitsStatement hb hs).andThen fun _ => keeps_settleFlag hb

end Inner

end Awk
