import Awk.Eval.Interpreter
import Awk.Proofs.Scope.Arrays

/-! The variables that a program starts with. -/

namespace Awk

namespace Environment

variable {env : Environment} {x : Name}

/-- Where there are no calls, a name stands for the global. -/
theorem value_setGlobal (h : env.blocks = []) (x : Name) (a : Value) (y : Name) :
    (env.setGlobal x a).value y = if y = x then a else env.value y := by
  obtain ⟨globals, blocks, returned, arrays, nextArray⟩ := env
  cases h
  unfold setGlobal
  dsimp only
  split
  · rename_i v hv
    show (((globals.put x { v with value := a }).get? y).map (·.value)).getD .empty = _
    rw [Scope.get?_put]
    split <;> rfl
  · show (((globals.put x ⟨a, nextArray⟩).get? y).map (·.value)).getD .empty = _
    rw [Scope.get?_put]
    split <;> rfl

theorem setGlobal_blocks (env : Environment) (x : Name) (a : Value) :
    (env.setGlobal x a).blocks = env.blocks := by
  unfold setGlobal
  split <;> rfl

theorem WellFormed.setGlobal (h : env.WellFormed) (x : Name) (a : Value) :
    (env.setGlobal x a).WellFormed := by
  have hput {env : Environment} {v : Variable} (h : env.WellFormed) (hv : v.array < env.nextArray) :
      WellFormed { env with globals := env.globals.put x v } := by
    refine ⟨fun p hp => ?_, h.arrays⟩
    obtain hp | hp := List.mem_append.mp hp
    · exact h.entries p (List.mem_append_left _ hp)
    · obtain hp | rfl := Scope.mem_put hp
      · exact h.entries p (List.mem_append_right _ hp)
      · exact hv
  unfold Environment.setGlobal
  split
  · rename_i v hv
    exact hput h (h.entries (x, v) (List.mem_append_right _ (Scope.mem_of_get? hv)))
  · exact hput (h.fresh a) (Nat.lt_succ_self _)

theorem Keeps.blocks_nil {env' : Environment} (h : Keeps env env') (hb : env.blocks = []) :
    env'.blocks = [] := by
  have hlength : env'.blocks.length = env.blocks.length := h.depth
  rw [hb] at hlength
  exact List.length_eq_zero_iff.mp hlength

theorem modifyElements_blocks (f : Elements → Elements) (hb : env.blocks = []) :
    (env.modifyElements x f).blocks = [] :=
  (Keeps.modifyElements env x f).blocks_nil hb

/-- Globals set one after the other, to what is made of texts. -/
def setGlobals (f : String → Value) (assignments : List (Name × String)) (env : Environment) :
    Environment :=
  assignments.foldl (fun env (n, v) => env.setGlobal n (f v)) env

theorem setGlobals_blocks (f : String → Value) (assignments : List (Name × String))
    (env : Environment) : (setGlobals f assignments env).blocks = env.blocks := by
  induction assignments generalizing env with
  | nil => rfl
  | cons a as ih => exact (ih _).trans (setGlobal_blocks env a.1 (f a.2))

theorem WellFormed.setGlobals (h : env.WellFormed) (f : String → Value)
    (assignments : List (Name × String)) : (setGlobals f assignments env).WellFormed := by
  induction assignments generalizing env with
  | nil => exact h
  | cons a as ih => exact ih (h.setGlobal a.1 (f a.2))

theorem value_setGlobals {f : String → Value} {assignments : List (Name × String)}
    (hb : env.blocks = []) (hx : ∀ a ∈ assignments, a.1 ≠ x) :
    (setGlobals f assignments env).value x = env.value x := by
  induction assignments generalizing env with
  | nil => rfl
  | cons a as ih =>
    obtain ⟨ha, has⟩ := List.forall_mem_cons.mp hx
    refine (ih ((setGlobal_blocks env a.1 (f a.2)).trans hb) has).trans ?_
    exact (value_setGlobal hb a.1 (f a.2) x).trans (if_neg (Ne.symm ha))

end Environment

namespace Machine

open Environment

/-- The variables that every program has, before anything is said about a run. -/
def standardEnvironment : Environment := setGlobals (⟨·⟩) standardVariables .empty

/-- The variables with the field separator of a command line. -/
def separatedEnvironment (s : Settings) : Environment :=
  s.fieldSeparator.elim standardEnvironment fun fs => standardEnvironment.setGlobal "FS" ⟨fs⟩

/-- The variables with all that a command line says, before its assignments. -/
def presetEnvironment (s : Settings) : Environment :=
  let env := (separatedEnvironment s).modifyElements "ARGV" fun _ =>
    ((s.programName :: s.operands).zipIdx).foldl (fun es (a, i) => es.insert (Int.text i) ⟨a⟩) ∅
  let env := env.setGlobal "ARGC" (.ofNat (s.operands.length + 1))
  env.modifyElements "ENVIRON" fun _ => s.environment.foldl (fun es (n, v) => es.insert n ⟨v⟩) ∅

theorem startEnvironment_eq (s : Settings) :
    startEnvironment s =
      setGlobals (fun v => ⟨Literal.unescape v⟩) s.assignments (presetEnvironment s) := rfl

theorem standardEnvironment_blocks : standardEnvironment.blocks = [] := rfl

theorem separatedEnvironment_blocks (s : Settings) : (separatedEnvironment s).blocks = [] := by
  unfold separatedEnvironment
  cases s.fieldSeparator with
  | none => rfl
  | some fs => exact setGlobal_blocks _ _ _

theorem presetEnvironment_blocks (s : Settings) : (presetEnvironment s).blocks = [] :=
  modifyElements_blocks _
    ((setGlobal_blocks _ _ _).trans (modifyElements_blocks _ (separatedEnvironment_blocks s)))

theorem startEnvironment_blocks (s : Settings) : (startEnvironment s).blocks = [] := by
  rw [startEnvironment_eq, setGlobals_blocks, presetEnvironment_blocks]

theorem startEnvironment_wellFormed (s : Settings) : (startEnvironment s).WellFormed := by
  have hstandard : standardEnvironment.WellFormed := WellFormed.empty.setGlobals _ _
  have hseparated : (separatedEnvironment s).WellFormed := by
    unfold separatedEnvironment
    cases s.fieldSeparator with
    | none => exact hstandard
    | some fs => exact hstandard.setGlobal "FS" ⟨fs⟩
  have hpreset : (presetEnvironment s).WellFormed := by
    unfold presetEnvironment
    exact ((hseparated.modifyElements _ _).setGlobal _ _).modifyElements _ _
  rw [startEnvironment_eq]
  exact hpreset.setGlobals _ _

/-- A variable that is not set for a run starts as it does in every run. -/
theorem value_startEnvironment {s : Settings} {x : Name} (hfs : x ≠ "FS") (hargc : x ≠ "ARGC")
    (hx : ∀ a ∈ s.assignments, a.1 ≠ x) :
    (startEnvironment s).value x = standardEnvironment.value x := by
  have hseparated : (separatedEnvironment s).value x = standardEnvironment.value x := by
    unfold separatedEnvironment
    cases s.fieldSeparator with
    | none => rfl
    | some fs => exact (value_setGlobal standardEnvironment_blocks _ _ x).trans (if_neg hfs)
  have hblocks := modifyElements_blocks (x := "ARGV") (fun _ =>
    ((s.programName :: s.operands).zipIdx).foldl (fun es (a, i) => es.insert (Int.text i) ⟨a⟩) ∅)
    (separatedEnvironment_blocks s)
  rw [startEnvironment_eq, value_setGlobals (presetEnvironment_blocks s) hx, presetEnvironment]
  dsimp only
  rw [value_modifyElements, value_setGlobal hblocks, if_neg hargc, value_modifyElements,
    hseparated]

/-- The number of operands, and one more for the name of the program. -/
theorem argc_startEnvironment {s : Settings} (h : ∀ a ∈ s.assignments, a.1 ≠ "ARGC") :
    (startEnvironment s).value "ARGC" = .ofNat (s.operands.length + 1) := by
  have hblocks := modifyElements_blocks (x := "ARGV") (fun _ =>
    ((s.programName :: s.operands).zipIdx).foldl (fun es (a, i) => es.insert (Int.text i) ⟨a⟩) ∅)
    (separatedEnvironment_blocks s)
  rw [startEnvironment_eq, value_setGlobals (presetEnvironment_blocks s) h, presetEnvironment]
  dsimp only
  rw [value_modifyElements, value_setGlobal hblocks, if_pos rfl]

end Machine

end Awk
