import Awk.Proofs.Ast.Parts
import Awk.Proofs.Grammar.Reading
import Awk.Proofs.Grammar.Stays

/-! The numbers of range patterns. A number is taken by an item, once both ends of its range are
read, so that what is tried and given up takes none. The ranges of a program are numbered from 0 in
the order of its items, and no range is a part of another pattern. -/

namespace Awk

namespace Pattern

/-- No range is a part of another pattern. -/
def Shallow : Pattern → Prop
  | range _ first last => first.ranges = [] ∧ last.ranges = []
  | p => p.ranges = []

theorem shallow_of_ranges {p : Pattern} (h : p.ranges = []) : p.Shallow := by
  cases p with
  | range id first last => cases h
  | _ => exact h

end Pattern

namespace Parser

variable {α β : Type}

/-! Patterns. -/

theorem stays_patternLeaf (n : Nat) : Stays (patternLeaf n) := by
  refine .bind .token fun _ => .bind (.peek 1) fun _ => .bind (.peek 2) fun _ => ?_
  split
  · exact .bind .advance fun _ => .bind .advance fun _ => .pure _
  · exact ((exprsStay n).memInto []).bind fun _ => .pure _

theorem stays_patternAndRest (n : Nat) (l : Pattern) : Stays (patternAndRest n l) := by
  induction n generalizing l with
  | zero => exact .outOfFuel
  | succ n ih =>
    refine .bind (.eat _) fun _ => .ite (.bind .skipNewlines fun _ => ?_) (.pure _)
    exact (stays_patternLeaf n).bind fun _ => ih _

theorem stays_patternOrRest (n : Nat) (l : Pattern) : Stays (patternOrRest n l) := by
  induction n generalizing l with
  | zero => exact .outOfFuel
  | succ n ih =>
    refine .bind (.eat _) fun _ => .ite (.bind .skipNewlines fun _ => ?_) (.pure _)
    exact (stays_patternLeaf n).bind fun r => (stays_patternAndRest n r).bind fun _ => ih _

theorem stays_compoundPattern (n : Nat) : Stays (compoundPattern n) := by
  refine (stays_patternLeaf n).bind fun l => (stays_patternAndRest n l).bind fun l => ?_
  refine (stays_patternOrRest n l).bind fun _ => .bind .token fun _ => ?_
  exact .ite (.pure _) .failUnexpected

theorem stays_pattern (n : Nat) : Stays (pattern n) := by
  refine .bind (stays_compoundPattern n).attempt fun r => ?_
  cases r with
  | some p => exact .pure _
  | none => exact (exprsStay n).expr.bind fun _ => .pure _

theorem patternLeaf_ranges (n : Nat) : Ensures (patternLeaf n) (·.ranges = []) := by
  refine .andThen fun t => .andThen fun t₁ => .andThen fun t₂ => ?_
  split
  · exact .andThen fun _ => .andThen fun _ => .pure rfl
  · refine .andThen fun e => .pure ?_
    split <;> rfl

theorem patternAndRest_ranges (n : Nat) {l : Pattern} (hl : l.ranges = []) :
    Ensures (patternAndRest n l) (·.ranges = []) := by
  induction n generalizing l with
  | zero => exact .outOfFuel
  | succ n ih =>
    refine .andThen fun _ => .ite (.andThen fun _ => ?_) (.pure hl)
    exact (patternLeaf_ranges n).bind fun r hr => ih (by simp [Pattern.ranges, hl, hr])

theorem patternOrRest_ranges (n : Nat) {l : Pattern} (hl : l.ranges = []) :
    Ensures (patternOrRest n l) (·.ranges = []) := by
  induction n generalizing l with
  | zero => exact .outOfFuel
  | succ n ih =>
    refine .andThen fun _ => .ite (.andThen fun _ => ?_) (.pure hl)
    refine (patternLeaf_ranges n).bind fun r hr => ?_
    exact (patternAndRest_ranges n hr).bind fun r hr => ih (by simp [Pattern.ranges, hl, hr])

theorem pattern_ranges (n : Nat) : Ensures (pattern n) (·.ranges = []) := by
  have hcompound : Ensures (compoundPattern n) (·.ranges = []) := by
    refine (patternLeaf_ranges n).bind fun l hl => (patternAndRest_ranges n hl).bind fun l hl => ?_
    exact (patternOrRest_ranges n hl).bind fun p hp =>
      .andThen fun _ => .ite (.pure hp) .failUnexpected
  refine hcompound.attempt.bind fun r hr => ?_
  cases r with
  | some p => exact .pure (hr p rfl)
  | none => exact .andThen fun _ => .pure rfl

/-! Items and programs. -/

/-- The ranges of what is read are numbered on from those met before, and nothing else that the
parser knows changes. -/
def Numbers (p : Parser α) (ranges : α → List Nat) : Prop :=
  ∀ c a c', p c = some (.ok a, c') →
    ∃ m rest, c' = { c with rest, ranges := c.ranges + m } ∧ ranges a = List.range' c.ranges m

namespace Numbers

variable {p : Parser α} {f : α → Parser β} {Q : α → Prop} {ranges : α → List Nat}
  {ranges' : β → List Nat}

/-- Where there are no ranges, no numbers are taken. -/
theorem nothing (hp : Stays p) (hranges : Ensures p fun a => ranges a = []) :
    Numbers p ranges := fun c a c' h => by
  obtain ⟨rest, rfl⟩ := hp c _ _ h
  exact ⟨0, rest, rfl, hranges c a _ h⟩

/-- What goes before takes no numbers. -/
theorem after (hp : Stays p) (hQ : Ensures p Q) (hf : ∀ a, Q a → Numbers (f a) ranges') :
    Numbers (p >>= f) ranges' := by
  intro c b c' h
  obtain ⟨a, c₁, ha, hb⟩ := bind_eq_ok h
  obtain ⟨rest₁, rfl⟩ := hp c _ _ ha
  exact hf a (hQ c a _ ha) { c with rest := rest₁ } b c' hb

/-- What follows takes no more numbers. -/
theorem bind (hp : Numbers p ranges) (hf : ∀ a, Stays (f a))
    (hranges : ∀ a, Ensures (f a) fun b => ranges' b = ranges a) : Numbers (p >>= f) ranges' := by
  intro c b c' h
  obtain ⟨a, c₁, ha, hb⟩ := bind_eq_ok h
  obtain ⟨m, _, rfl, hids⟩ := hp c a c₁ ha
  obtain ⟨rest, rfl⟩ := hf a _ _ _ hb
  refine ⟨m, rest, rfl, ?_⟩
  rw [hranges a _ b _ hb]
  exact hids

theorem ite {b : Prop} [Decidable b] {q : Parser α} (hp : Numbers p ranges)
    (hq : Numbers q ranges) : Numbers (if b then p else q) ranges := by
  split
  · exact hp
  · exact hq

end Numbers

/-- A range takes the next number once both its ends are read. -/
theorem itemPattern_numbers (n : Nat) : Numbers (itemPattern n) Pattern.ranges := by
  refine .after .token (.any _) fun t _ => ?_
  split
  · exact .after .advance (.any _) fun _ _ => .nothing (.pure _) (.pure rfl)
  · exact .after .advance (.any _) fun _ _ => .nothing (.pure _) (.pure rfl)
  · exact .nothing (.pure _) (.pure rfl)
  · refine .after (stays_pattern n) (pattern_ranges n) fun first hfirst => ?_
    refine .after (.eat _) (.any _) fun comma _ => .ite ?_ ?_
    · refine .after .skipNewlines (.any _) fun _ _ => ?_
      refine .after (stays_pattern n) (pattern_ranges n) fun last hlast => ?_
      rintro c _ _ ⟨⟩
      refine ⟨1, c.rest, rfl, ?_⟩
      show c.ranges :: (first.ranges ++ last.ranges) = _
      rw [hfirst, hlast]
      rfl
    · exact .nothing (.pure _) (.pure hfirst)

theorem itemPattern_shallow (n : Nat) : Ensures (itemPattern n) Pattern.Shallow := by
  refine .andThen fun t => ?_
  split
  · exact .andThen fun _ => .pure rfl
  · exact .andThen fun _ => .pure rfl
  · exact .pure rfl
  · refine (pattern_ranges n).bind fun first hfirst => .andThen fun _ => .ite ?_ ?_
    · refine .andThen fun _ => (pattern_ranges n).bind fun last hlast => ?_
      exact .andThen fun _ => .andThen fun _ => .pure ⟨hfirst, hlast⟩
    · exact .pure (Pattern.shallow_of_ranges hfirst)

theorem item_numbers (n : Nat) : Numbers (item n) (·.pattern.ranges) := by
  refine (itemPattern_numbers n).bind (fun p => ?_) fun p => .andThen fun _ => .ite ?_ (.ite ?_ ?_)
  · refine .bind (.check _) fun _ => .ite ?_ (.ite (.failExpected _) (.pure _))
    exact ((statementsStay n).block _).bind fun _ => .pure _
  · exact .andThen fun _ => .pure rfl
  · exact .failExpected _
  · exact .pure rfl

theorem item_shallow (n : Nat) : Ensures (item n) (·.pattern.Shallow) := by
  refine (itemPattern_shallow n).bind fun p hp => .andThen fun _ => .ite ?_ (.ite ?_ ?_)
  · exact .andThen fun _ => .pure hp
  · exact .failExpected _
  · exact .pure hp

end Parser

/-- The ranges of a program are numbered from 0 in the order of its items, and none is a part of
another pattern. -/
structure Program.Numbered (p : Program) : Prop where
  ranges : p.items.flatMap (·.pattern.ranges) = List.range p.ranges
  shallow : ∀ i ∈ p.items, i.pattern.Shallow

namespace Parser

/-- The invariant of reading items: those read so far have the numbers that are taken. -/
theorem ReadsProgram.numbered {n : Nat} {p q : Program} {c c' : Cursor}
    (h : ReadsProgram n p c q c')
    (hids : p.items.flatMap (·.pattern.ranges) = List.range c.ranges)
    (hshallow : ∀ i ∈ p.items, i.pattern.Shallow) : q.Numbered := by
  induction h with
  | ended => exact ⟨hids, hshallow⟩
  | function _ hf _ _ ih =>
    obtain ⟨_, rfl⟩ := stays_function _ _ _ _ hf
    exact ih hids hshallow
  | @item n p _ c c₁ _ i _ _ hi _ ih =>
    have hnew := item_shallow n _ i _ hi
    obtain ⟨m, _, rfl, hnumbers⟩ := item_numbers n _ i _ hi
    have hnumbers : i.pattern.ranges = List.range' c.ranges m := hnumbers
    refine ih ?_ (List.forall_mem_append.mpr ⟨hshallow, List.forall_mem_singleton.mpr hnew⟩)
    calc (p.items ++ [i]).flatMap (·.pattern.ranges)
        = List.range c.ranges ++ i.pattern.ranges := by simp [hids]
      _ = List.range' 0 c.ranges ++ List.range' c.ranges m := by
        rw [hnumbers, List.range_eq_range']
      _ = List.range (c.ranges + m) := by
        rw [List.range_eq_range', ← List.range'_append_1, Nat.zero_add]

end Parser

theorem parse_numbered {source : String} {p : Program} (h : parse source = .ok p) :
    p.Numbered := by
  unfold parse at h
  split at h
  · cases h
  · rename_i lexemes hlex
    unfold parseLexemes at h
    cases hp : Parser.program (Parser.fuelFor lexemes.length) .empty (.start lexemes) with
    | none =>
      rw [hp] at h
      cases h
    | some r =>
      obtain ⟨r, c⟩ := r
      rw [hp] at h
      cases h
      exact (Parser.ReadsProgram.of_program hp).numbered rfl (List.forall_mem_nil _)

namespace Program.Numbered

variable {p : Program} (h : p.Numbered)

include h

theorem nodup : (p.items.flatMap (·.pattern.ranges)).Nodup := by
  rw [h.ranges]
  exact List.nodup_range

theorem lt {i : Item} {id : Nat} (hi : i ∈ p.items) (hid : id ∈ i.pattern.ranges) :
    id < p.ranges := by
  have hmem : id ∈ p.items.flatMap (·.pattern.ranges) := List.mem_flatMap.mpr ⟨i, hi, hid⟩
  rw [h.ranges] at hmem
  exact List.mem_range.mp hmem

end Program.Numbered

end Awk
