import Mathlib.Logic.Basic
import Awk.Grammar.Program
import Awk.Proofs.Grammar.Ensures

/-! How a program is read: item after item and function after function, up to the end. -/

namespace Awk

namespace Program

/-- The names of the functions. -/
def names (p : Program) : List Name := p.functions.map (·.name)

theorem function?_isSome (p : Program) (name : Name) :
    (p.function? name).isSome = true ↔ name ∈ p.names := by
  unfold function? names
  rw [List.find?_isSome, List.mem_map]
  simp only [decide_eq_true_eq]

/-- What is read first, and what is read behind it. -/
def append (p q : Program) : Program :=
  ⟨p.items ++ q.items, p.functions ++ q.functions, q.ranges⟩

variable (p q : Program)

theorem append_addItem (i : Item) : { p.append q with items := (p.append q).items ++ [i] } =
    p.append { q with items := q.items ++ [i] } := by
  simp only [append, List.append_assoc]

theorem append_addFunction (f : Function) :
    { p.append q with functions := (p.append q).functions ++ [f] } =
      p.append { q with functions := q.functions ++ [f] } := by
  simp only [append, List.append_assoc]

theorem names_append : (p.append q).names = p.names ++ q.names := List.map_append

theorem names_addFunction (f : Function) :
    names { p with functions := p.functions ++ [f] } = p.names ++ [f.name] := List.map_append

end Program

namespace Parser

/-- One more item or function, or the end. -/
theorem program_succ_apply (n : Nat) (p : Program) (c : Cursor) :
    program (n + 1) p c =
      if (c.skip terminates).token = .eof then
        some (.ok { p with ranges := (c.skip terminates).ranges }, c.skip terminates)
      else if (c.skip terminates).token = .keyword .function then
        (do
          let f ← function n
          if (p.function? f.name).isSome then fail (.redefined f.name) f.span
          else program n { p with functions := p.functions ++ [f] }) (c.skip terminates)
      else
        (do
          let i ← item n
          program n { p with items := p.items ++ [i] }) (c.skip terminates) :=
  (check_ite_apply .eof (do return ({ p with ranges := (← get).ranges } : Program)) _
    (c.skip terminates)).trans
    (if_congr Iff.rfl rfl (check_ite_apply (.keyword .function) _ _ (c.skip terminates)))

/-- From a cursor, behind what is read so far, a program is read, up to another cursor. -/
inductive ReadsProgram : Nat → Program → Cursor → Program → Cursor → Prop
  | ended {n : Nat} {p : Program} {c : Cursor} (hend : (c.skip terminates).token = .eof) :
      ReadsProgram (n + 1) p c { p with ranges := (c.skip terminates).ranges } (c.skip terminates)
  | function {n : Nat} {p q : Program} {c c₁ c' : Cursor} {f : Function}
      (hc : (c.skip terminates).token = .keyword .function)
      (hf : function n (c.skip terminates) = some (.ok f, c₁)) (hnew : f.name ∉ p.names)
      (hrest : ReadsProgram n { p with functions := p.functions ++ [f] } c₁ q c') :
      ReadsProgram (n + 1) p c q c'
  | item {n : Nat} {p q : Program} {c c₁ c' : Cursor} {i : Item}
      (hend : (c.skip terminates).token ≠ .eof)
      (hfunction : (c.skip terminates).token ≠ .keyword .function)
      (hi : item n (c.skip terminates) = some (.ok i, c₁))
      (hrest : ReadsProgram n { p with items := p.items ++ [i] } c₁ q c') :
      ReadsProgram (n + 1) p c q c'

namespace ReadsProgram

variable {n : Nat} {p q : Program} {c c' : Cursor}

theorem of_program (h : program n p c = some (.ok q, c')) : ReadsProgram n p c q c' := by
  induction n generalizing p c with
  | zero => cases h
  | succ n ih =>
    rw [program_succ_apply] at h
    split at h
    · rename_i hend
      cases h
      exact ended hend
    · rename_i hend
      split at h
      · rename_i hc
        obtain ⟨f, c₁, hf, h⟩ := bind_eq_ok h
        split at h
        · cases h
        · rename_i hnew
          exact function hc hf (mt (p.function?_isSome f.name).mpr hnew) (ih h)
      · rename_i hfunction
        obtain ⟨i, c₁, hi, h⟩ := bind_eq_ok h
        exact item hend hfunction hi (ih h)

theorem program (h : ReadsProgram n p c q c') : program n p c = some (.ok q, c') := by
  induction h with
  | ended hend => rw [program_succ_apply, if_pos hend]
  | @function n p _ c _ _ f hc hf hnew _ ih =>
    have hnone : ¬ (p.function? f.name).isSome = true := mt (p.function?_isSome f.name).mp hnew
    rw [program_succ_apply, if_neg (by rw [hc]; nofun), if_pos hc, bind_ok hf, if_neg hnone]
    exact ih
  | item hend hfunction hi _ ih =>
    rw [program_succ_apply, if_neg hend, if_neg hfunction, bind_ok hi]
    exact ih

theorem names_subset (h : ReadsProgram n p c q c') : p.names ⊆ q.names := by
  induction h with
  | ended => exact List.Subset.refl _
  | @function n p _ _ _ _ f _ _ _ _ ih =>
    rw [Program.names_addFunction] at ih
    exact fun name hname => ih (List.mem_append_left _ hname)
  | item _ _ _ _ ih => exact ih

/-- All is read up to the end, and the ranges met are those of the program. -/
theorem ends (h : ReadsProgram n p c q c') : c'.token = .eof ∧ q.ranges = c'.ranges := by
  induction h with
  | ended hend => exact ⟨hend, rfl⟩
  | function _ _ _ _ ih => exact ih
  | item _ _ _ _ ih => exact ih

/-- What is read does not depend on what has been read, but for the names of functions. -/
theorem append (h : ReadsProgram n p c q c') {before : Program}
    (hnames : ∀ name ∈ q.names, name ∉ before.names) :
    ReadsProgram n (before.append p) c (before.append q) c' := by
  induction h with
  | ended hend => exact ended hend
  | @function n p _ _ _ _ f hc hf hnew hrest ih =>
    have hmem : f.name ∈ Program.names { p with functions := p.functions ++ [f] } := by
      rw [Program.names_addFunction]
      exact List.mem_append_right _ (List.mem_singleton_self _)
    have hnone : f.name ∉ (before.append p).names := by
      rw [Program.names_append]
      exact fun h => (List.mem_append.mp h).elim (hnames _ (hrest.names_subset hmem)) hnew
    refine function hc hf hnone ?_
    rw [Program.append_addFunction]
    exact ih hnames
  | item hend hfunction hi _ ih =>
    refine item hend hfunction hi ?_
    rw [Program.append_addItem]
    exact ih hnames

end ReadsProgram

end Parser

/-- Where a text spells a program, it has lexemes, from which the program is read. -/
theorem parse_eq_ok {source : String} {p : Program} :
    parse source = .ok p ↔ ∃ ls c, lex source = .ok ls ∧
      Parser.ReadsProgram (Parser.fuelFor ls.length) .empty (.start ls) p c := by
  unfold parse
  constructor
  · intro h
    split at h
    · cases h
    · rename_i ls hlex
      unfold parseLexemes at h
      cases hp : Parser.program (Parser.fuelFor ls.length) .empty (.start ls) with
      | none =>
        rw [hp] at h
        cases h
      | some r =>
        obtain ⟨r, c⟩ := r
        rw [hp] at h
        cases h
        exact ⟨ls, c, hlex, .of_program hp⟩
  · rintro ⟨ls, c, hlex, h⟩
    rw [hlex]
    dsimp only
    unfold parseLexemes
    rw [h.program]
    rfl

end Awk
