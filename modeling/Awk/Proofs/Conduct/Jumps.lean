import Awk.Proofs.Conduct.Evaluation
import Awk.Proofs.Conduct.History
import Awk.Proofs.Grammar.Programs

/-! What becomes of `exit` and `next`. While statements run, the jump that is owed is pending;
between the records an `exit` is; and at every time no statement has started where a jump was owed.
-/

namespace Awk

open Machine Run

/-- Running `p`, and no statement has started where a jump was owed. -/
structure Orderly (p : Program) (c : Conduct) : Prop where
  program : c.program = p
  clean : History.Clean c.history

/-- Running statements: what is owed is pending. -/
structure Within (p : Program) (s : Stage) (c : Conduct) : Prop extends Orderly p c where
  stage : History.stage c.history = s
  owed : History.owed c.history = .none ∨ c.flag = History.owed c.history

/-- Between two records: an `exit` that is owed is pending. -/
structure Between (p : Program) (c : Conduct) : Prop extends Orderly p c where
  exit : History.owed c.history = .exit → c.flag = .exit

namespace Within

variable {p : Program} {s : Stage} {c : Conduct}

/-- Where neither `exit` nor `next` is pending, nothing is owed. -/
theorem owed_eq_none (h : Within p s c) (hx : c.flag ≠ .exit)
    (hn : c.flag ≠ .next ∨ s ≠ .records) : History.owed c.history = .none := by
  obtain ho | hflag := h.owed
  · exact ho
  obtain ho | ⟨ho, -⟩ | ⟨ho, hs⟩ := History.owed_cases c.history
  · exact ho
  · exact absurd (hflag.trans ho) hx
  · obtain hn | hn := hn
    · exact absurd (hflag.trans ho) hn
    · exact absurd (h.stage.symm.trans hs) hn

theorem owed_of_none (h : Within p s c) (hflag : c.flag = .none) :
    History.owed c.history = .none :=
  h.owed_eq_none (by rw [hflag]; nofun) (.inl (by rw [hflag]; nofun))

theorem statement (h : Within p s c) (t : Statement) (hflag : c.flag = .none) :
    Within p s (c.note (.statement t)) where
  program := h.program
  clean := ⟨h.owed_of_none hflag, h.clean⟩
  stage := h.stage
  owed := h.owed

theorem jump (h : Within p s c) {j : Flag} (hflag : c.flag = .none)
    (hj : j = .break_ ∨ j = .continue_ ∨ j = .next) : Within p s (c.raise j) where
  program := h.program
  clean := h.clean
  stage := h.stage
  owed := by
    have ho := h.owed_of_none hflag
    obtain rfl | rfl | rfl := hj
    · exact .inl ho
    · exact .inl ho
    · simp only [Conduct.raise, History.owed]
      split
      · exact .inr rfl
      · exact .inl ho

theorem leave (h : Within p s c) {j : Flag} (hj : j = .return_ ∨ j = .exit) :
    Within p s (c.raise j) where
  program := h.program
  clean := h.clean
  stage := h.stage
  owed := by
    obtain rfl | rfl := hj
    · simp only [Conduct.raise, History.owed]
      split
      · exact .inl rfl
      · rename_i hne
        exact .inl (h.owed.resolve_right fun hflag => hne hflag.symm)
    · simp only [Conduct.raise, History.owed]
      split
      · exact .inl rfl
      · exact .inr rfl

theorem clear (h : Within p s c) (hx : c.flag ≠ .exit) (hn : c.flag ≠ .next ∨ s ≠ .records) :
    Within p s c.clear :=
  { h with owed := .inl (h.owed_eq_none hx hn) }

theorem between (h : Within p s c) : Between p c where
  program := h.program
  clean := h.clean
  exit ho := by
    obtain hnone | hflag := h.owed
    · cases ho.symm.trans hnone
    · exact hflag.trans ho

/-- An action that absorbs a `next`. -/
theorem between_clear (h : Within p s c) (hx : c.flag ≠ .exit) : Between p c.clear where
  program := h.program
  clean := h.clean
  exit ho := absurd (h.between.exit ho) hx

end Within

/-- What comes of a record starts with no `next` owed. -/
theorem Between.record {p : Program} {c : Conduct} (h : Between p c) :
    Within p .records (c.note .record) where
  program := h.program
  clean := h.clean
  stage := rfl
  owed := by
    simp only [Conduct.note, History.owed]
    split
    · rename_i ho
      exact .inr (h.exit ho)
    · exact .inl rfl

theorem Orderly.ending {p : Program} {c : Conduct} (h : Orderly p c) :
    Within p .ending (c.note .ending) where
  program := h.program
  clean := h.clean
  stage := rfl
  owed := .inl rfl

/-- A block clears an `exit` never, and a `next` only if it is the action of an item. -/
theorem BlockKind.settlement_ne_leave {kind : BlockKind} {flag : Flag}
    (h : kind.settlement flag ≠ .leave) : flag ≠ .exit ∧ (flag ≠ .next ∨ kind = .program) := by
  refine ⟨?_, ?_⟩
  · rintro rfl
    cases kind <;> exact h rfl
  · rw [or_iff_not_imp_left, not_not]
    rintro rfl
    cases kind with
    | program => rfl
    | routine | iteration | simple => exact absurd rfl h

/-- Running the statements of a program at a stage. At the records the actions of items are left
out, since they absorb a `next` that is owed. -/
def Discipline.jumps {p : Program} (hp : p.Everywhere (·.wellFormed false)) (s : Stage) :
    Discipline where
  holds := Within p s
  expr e := e.Everywhere (·.wellFormed false)
  block b := (b.kind = .program → s ≠ .records) ∧ b.Everywhere (·.wellFormed false)
  expr_part h ht hp := h.part ht hp
  block_expr h hs he := h.2.expr hs he
  block_block h hs hb := ⟨fun hk => absurd hk (h.2.block hs hb).1, (h.2.block hs hb).2⟩
  body {c name f} h hf := by
    rw [h.program] at hf
    obtain ⟨hkind, hbody⟩ := hp.functions f (List.mem_of_find?_eq_some hf)
    refine ⟨fun hk => ?_, hbody⟩
    cases hkind.symm.trans hk
  statement t h hflag := h.statement t hflag
  jump h hflag hj := h.jump hflag hj
  leave h hj := h.leave hj
  settle hb h hleave :=
    have ⟨hx, hn⟩ := BlockKind.settlement_ne_leave hleave
    h.clear hx (hn.imp_right hb.1)

end Awk
