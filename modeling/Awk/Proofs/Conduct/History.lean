import Awk.Eval.Machine

/-! What the history of a run says of its jumps: how far the run is, which jump is owed to the
statement that raised it, and whether a statement has started where one was. A history is last
first. -/

namespace Awk

/-- The items that a run is at. -/
inductive Stage where
  | opening
  | records
  | ending
  deriving Repr, DecidableEq

abbrev History := List Event

namespace History

def stage : History → Stage
  | [] => .opening
  | .record :: _ => .records
  | .ending :: _ => .ending
  | .statement _ :: h => stage h
  | .jump _ _ :: h => stage h

/-- The jump that is still to be carried out: an `exit` up to the `END` items, and a `next` up to
the next record. A `return` that meets it pending takes its place. -/
def owed : History → Flag
  | [] => .none
  | .record :: h => if owed h = .exit then .exit else .none
  | .ending :: _ => .none
  | .statement _ :: h => owed h
  | .jump pending .return_ :: h => if owed h = pending then .none else owed h
  | .jump _ .exit :: h => if stage h = .ending then .none else .exit
  | .jump _ .next :: h => if stage h = .records ∧ owed h ≠ .exit then .next else owed h
  | .jump _ _ :: h => owed h

/-- No statement has started where a jump was owed. -/
def Clean : History → Prop
  | [] => True
  | .statement _ :: h => owed h = .none ∧ Clean h
  | .record :: h => Clean h
  | .ending :: h => Clean h
  | .jump _ _ :: h => Clean h

/-- The `END` items come last. -/
theorem stage_ne_ending {h : History} (he : .ending ∉ h) : stage h ≠ .ending := by
  induction h with
  | nil => nofun
  | cons e h ih =>
    have ih := ih (List.not_mem_of_not_mem_cons he)
    cases e with
    | statement s => exact ih
    | jump p j => exact ih
    | record => nofun
    | ending => exact absurd rfl (List.ne_of_not_mem_cons he)

theorem stage_append_record {later h : History} (he : .ending ∉ later) :
    stage (later ++ .record :: h) = .records := by
  induction later with
  | nil => rfl
  | cons e later ih =>
    have ih := ih (List.not_mem_of_not_mem_cons he)
    cases e with
    | statement s => exact ih
    | jump p j => exact ih
    | record => rfl
    | ending => exact absurd rfl (List.ne_of_not_mem_cons he)

/-- An `exit` is owed before the `END` items only, and a `next` while there is a record. -/
theorem owed_cases (h : History) :
    owed h = .none ∨ (owed h = .exit ∧ stage h ≠ .ending) ∨
      (owed h = .next ∧ stage h = .records) := by
  induction h with
  | nil => exact .inl rfl
  | cons e h ih =>
    cases e with
    | statement s => exact ih
    | ending => exact .inl rfl
    | record =>
      simp only [owed, stage]
      split
      · exact .inr (.inl ⟨rfl, nofun⟩)
      · exact .inl rfl
    | jump p j =>
      cases j with
      | none | break_ | continue_ => exact ih
      | return_ =>
        simp only [owed, stage]
        split
        · exact .inl rfl
        · exact ih
      | next =>
        simp only [owed, stage]
        split
        · rename_i hnext
          exact .inr (.inr ⟨rfl, hnext.1⟩)
        · exact ih
      | exit =>
        simp only [owed, stage]
        split
        · exact .inl rfl
        · rename_i hstage
          exact .inr (.inl ⟨rfl, hstage⟩)

theorem stage_of_owed {h : History} (ho : owed h ≠ .none) : stage h ≠ .ending := by
  obtain hn | ⟨-, hs⟩ | ⟨-, hs⟩ := owed_cases h
  · exact absurd hn ho
  · exact hs
  · rw [hs]
    nofun

theorem owed_exit_cons {e : Event} {h : History} (ho : owed h = .exit) (he : .ending ≠ e)
    (hr : .jump .exit .return_ ≠ e) : owed (e :: h) = .exit := by
  cases e with
  | statement s => exact ho
  | ending => exact absurd rfl he
  | record => exact if_pos ho
  | jump p j =>
    cases j with
    | none | break_ | continue_ => exact ho
    | return_ =>
      have hp : owed h ≠ p := by
        rw [ho]
        rintro rfl
        exact hr rfl
      exact (if_neg hp).trans ho
    | next => exact (if_neg fun hnext => hnext.2 ho).trans ho
    | exit =>
      have hne : owed h ≠ .none := by
        rw [ho]
        nofun
      exact if_neg (stage_of_owed hne)

/-- An `exit` is owed until the `END` items are reached or a `return` takes its place. -/
theorem owed_exit_append {later h : History} (ho : owed h = .exit) (he : .ending ∉ later)
    (hr : .jump .exit .return_ ∉ later) : owed (later ++ h) = .exit := by
  induction later with
  | nil => exact ho
  | cons e later ih =>
    have ih := ih (List.not_mem_of_not_mem_cons he) (List.not_mem_of_not_mem_cons hr)
    exact owed_exit_cons ih (List.ne_of_not_mem_cons he) (List.ne_of_not_mem_cons hr)

/-- Something stays owed but where the record or the input ends and where a `return` takes the place
of what is owed. -/
theorem owed_cons {e : Event} {h : History} (ho : owed h ≠ .none) (hrec : .record ≠ e)
    (he : .ending ≠ e) (hr : .jump (owed h) .return_ ≠ e) : owed (e :: h) ≠ .none := by
  cases e with
  | statement s => exact ho
  | ending => exact absurd rfl he
  | record => exact absurd rfl hrec
  | jump p j =>
    cases j with
    | none | break_ | continue_ => exact ho
    | return_ =>
      have hp : owed h ≠ p := by
        rintro rfl
        exact hr rfl
      exact fun hnone => ho ((if_neg hp).symm.trans hnone)
    | next =>
      simp only [owed]
      split
      · nofun
      · exact ho
    | exit =>
      have hexit : owed (.jump p .exit :: h) = .exit := if_neg (stage_of_owed ho)
      rw [hexit]
      nofun

/-- A `next` is owed until there is another record, the `END` items are reached, or a `return` takes
its place or that of an `exit` after it. -/
theorem owed_next_append {later h : History} (ho : owed h ≠ .none) (hrec : .record ∉ later)
    (he : .ending ∉ later) (hn : .jump .next .return_ ∉ later) (hx : .jump .exit .return_ ∉ later) :
    owed (later ++ h) ≠ .none := by
  induction later with
  | nil => exact ho
  | cons e later ih =>
    have ih := ih (List.not_mem_of_not_mem_cons hrec) (List.not_mem_of_not_mem_cons he)
      (List.not_mem_of_not_mem_cons hn) (List.not_mem_of_not_mem_cons hx)
    have hr : Event.jump (owed (later ++ h)) .return_ ≠ e := by
      obtain ho | ⟨ho, -⟩ | ⟨ho, -⟩ := owed_cases (later ++ h)
      · exact absurd ho ih
      · rw [ho]
        exact List.ne_of_not_mem_cons hx
      · rw [ho]
        exact List.ne_of_not_mem_cons hn
    exact owed_cons ih (List.ne_of_not_mem_cons hrec) (List.ne_of_not_mem_cons he) hr

theorem Clean.of_append {later h : History} (hc : Clean (later ++ h)) : Clean h := by
  induction later with
  | nil => exact hc
  | cons e later ih =>
    cases e with
    | statement s => exact ih hc.2
    | jump p j => exact ih hc
    | record => exact ih hc
    | ending => exact ih hc

variable {before during between after : History} {t : Statement} {q : Flag}

/-- A statement after an `exit` has a `return` between them that has taken its place. -/
theorem Clean.exit (hc : Clean (after ++ .statement t :: (between ++ .jump q .exit :: before)))
    (hb : .ending ∉ before) (he : .ending ∉ between) : .jump .exit .return_ ∈ between := by
  refine Classical.byContradiction fun hr => ?_
  have howed : owed (.jump q .exit :: before) = .exit := if_neg (stage_ne_ending hb)
  cases hc.of_append.1.symm.trans (owed_exit_append howed he hr)

/-- A statement after a `next` and for the same record has a `return` between them that has taken
its place or that of an `exit`. -/
theorem Clean.next
    (hc : Clean (after ++ .statement t ::
      (between ++ .jump q .next :: (during ++ .record :: before))))
    (hd : .ending ∉ during) (hrec : .record ∉ between) (he : .ending ∉ between) :
    .jump .next .return_ ∈ between ∨ .jump .exit .return_ ∈ between := by
  refine Classical.byContradiction fun hr => ?_
  obtain ⟨hn, hx⟩ := not_or.mp hr
  have howed : owed (.jump q .next :: (during ++ .record :: before)) ≠ .none := by
    simp only [owed, stage_append_record hd, true_and]
    split
    · nofun
    · rename_i hexit
      rw [Classical.not_not.mp hexit]
      nofun
  exact owed_next_append howed hrec he hn hx hc.of_append.1

end History

end Awk
