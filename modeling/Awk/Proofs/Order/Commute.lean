import Awk.Proofs.Conduct.Keeps

/-! Steps that can be done in either order. From a machine two steps commute if they have the same
results and leave the same machine whichever comes first. -/

namespace Awk.Run

variable {α β γ : Type} {m : Machine}

/-- From `m` on it does not matter which of `x` and `y` is done first. -/
def Commute (x : Run α) (y : Run β) (m : Machine) : Prop :=
  (do let a ← x; let b ← y; return (a, b) : Run (α × β)) m =
    (do let b ← y; let a ← x; return (a, b) : Run (α × β)) m

namespace Commute

variable {x : Run α} {y : Run β}

/-- What follows commuting steps does not see which was first. -/
theorem bind (h : Commute x y m) (k : α → β → Run γ) :
    (do let a ← x; let b ← y; k a b : Run γ) m = (do let b ← y; let a ← x; k a b : Run γ) m := by
  have hpaired := bind_congr_left h fun p => k p.1 p.2
  simpa only [bind_assoc, pure_bind] using hpaired

/-- A step that does nothing has its result at any time. -/
theorem pure_left (a : α) (y : Run β) (m : Machine) : Commute (pure a) y m := by
  simp only [Commute, pure_bind]

theorem pure_right (x : Run α) (b : β) (m : Machine) : Commute x (pure b) m := by
  simp only [Commute, pure_bind]

/-- Looking something up commutes with a step if and only if the step leaves it as it is. -/
theorem get_iff (f : Machine → α) :
    Commute (do return f (← get)) y m ↔ ∀ b m', y m = .ok b m' → f m' = f m := by
  have hearly : (do let a ← (do return f (← get)); let b ← y; return (a, b) : Run (α × β)) m =
      (do let b ← y; return (f m, b) : Run (α × β)) m := rfl
  have hlate : (do let b ← y; let a ← (do return f (← get)); return (a, b) : Run (α × β)) m =
      (do let b ← y; return (f (← get), b) : Run (α × β)) m := by
    simp only [bind_assoc, pure_bind]
  rw [Commute, hearly, hlate]
  cases hy : y m with
  | error e m' =>
    rw [bind_error hy, bind_error hy]
    exact ⟨fun _ _ _ => nofun, fun _ => rfl⟩
  | ok b m' =>
    rw [bind_ok hy, bind_ok hy]
    refine ⟨fun h b' m'' hok => ?_, fun h => ?_⟩
    · cases hok
      have hpair : (f m, b) = (f m', b) := (EStateM.Result.ok.inj h).1
      exact (congrArg Prod.fst hpair).symm
    · have hf := h b m' rfl
      show EStateM.Result.ok (f m, b) m' = .ok (f m', b) m'
      rw [hf]

end Commute

end Awk.Run
