import Awk.Ast.Expr
import Awk.Proofs.Scope.Arrays

/-! The variables as they are seen from outside of the innermost calls. -/

namespace Awk

namespace Environment

/-- The variables as they are seen where only the outermost `d` calls are active. -/
def below (env : Environment) (d : Nat) : Environment :=
  { env with blocks := env.blocks.drop (env.depth - d) }

/-- Which array the name stands for. -/
def array? (env : Environment) (x : Name) : Option Nat := (env.lookup x).map (·.array)

/-- The elements of the array that the name stands for. -/
def contents (env : Environment) (x : Name) : Elements :=
  (env.array? x).elim ∅ env.elements

variable {env env' : Environment} {d : Nat} {x y : Name} {v : Variable}

theorem below_depth (env : Environment) : env.below env.depth = env := by
  unfold below
  rw [Nat.sub_self]
  rfl

/-- From outside of a call its parameters are not seen. -/
theorem below_push (ps : List (Name × Argument)) (hd : d ≤ env.depth) :
    (env.push ps).below d = { env.below d with nextArray := (env.push ps).nextArray } := by
  rw [push_eq]
  unfold below depth
  have hdepth : env.blocks.length + 1 - d = env.blocks.length - d + 1 := Nat.succ_sub hd
  simp only [List.length_cons, hdepth, List.drop_succ_cons]

/-! Where a variable is set. -/

/-- A name that some of the blocks on top have is set in these. -/
theorem drop_putIn {bs : List CallBlock} {k : Nat}
    (hx : ∃ b ∈ bs.take k, (b.locals.get? x).isSome) :
    ∃ bs', putIn x v bs = some bs' ∧ bs'.length = bs.length ∧ bs'.drop k = bs.drop k := by
  induction bs generalizing k with
  | nil =>
    obtain ⟨b, hb, -⟩ := hx
    rw [List.take_nil] at hb
    cases hb
  | cons b bs ih =>
    cases k with
    | zero =>
      obtain ⟨b, hb, -⟩ := hx
      cases hb
    | succ k =>
      rw [putIn_cons]
      split
      · exact ⟨_, rfl, rfl, rfl⟩
      · rename_i hnone
        obtain ⟨c, hc, hsome⟩ := hx
        rw [List.take_succ_cons] at hc
        obtain rfl | hc := List.mem_cons.mp hc
        · exact absurd hsome hnone
        · obtain ⟨bs', hput, hlength, hdrop⟩ := ih ⟨c, hc, hsome⟩
          exact ⟨b :: bs', by rw [hput]; rfl, congrArg (· + 1) hlength, hdrop⟩

theorem findIn_isSome (globals : Scope) {bs : List CallBlock}
    (hx : ∃ b ∈ bs, (b.locals.get? x).isSome) : (findIn x globals bs).isSome := by
  induction bs with
  | nil =>
    obtain ⟨b, hb, -⟩ := hx
    cases hb
  | cons b bs ih =>
    rw [findIn_cons, Option.isSome_or]
    obtain ⟨c, hc, hsome⟩ := hx
    obtain rfl | hc := List.mem_cons.mp hc
    · rw [hsome]
      rfl
    · rw [ih ⟨c, hc, hsome⟩, Bool.or_true]

/-- A call further in has the name as a parameter. -/
def BoundAbove (env : Environment) (d : Nat) (x : Name) : Prop :=
  ∃ b ∈ env.blocks.take (env.depth - d), (b.locals.get? x).isSome

/-- A parameter that is set is set for the call alone. -/
theorem below_setValue (hx : env.BoundAbove d x) (a : Value) :
    (env.setValue x a).below d = env.below d := by
  obtain ⟨b, hb, hsome⟩ := hx
  obtain ⟨v, hv⟩ := Option.isSome_iff_exists.mp
    (findIn_isSome env.globals ⟨b, List.mem_of_mem_take hb, hsome⟩)
  obtain ⟨bs', hput, hlength, hdrop⟩ := drop_putIn (v := { v with value := a }) ⟨b, hb, hsome⟩
  have hset : env.setValue x a = { env with blocks := bs' } := by
    unfold setValue
    rw [obtain_of_some hv]
    simp only [put, hput]
  rw [hset]
  unfold below depth
  simp only [hlength]
  rw [show bs'.drop (env.blocks.length - d) = _ from hdrop]
  rfl

/-! What changes with an array. -/

theorem elements_modifyArray (env : Environment) (i j : Nat) (f : Elements → Elements) :
    (env.modifyArray i f).elements j = if j = i then f (env.elements i) else env.elements j := by
  unfold elements modifyArray
  rw [Std.TreeMap.getD_insert]
  split
  · rename_i h
    rw [if_pos (Nat.compare_eq_eq.mp h).symm]
    rfl
  · rename_i h
    have hne : j ≠ i := fun hji => h (Nat.compare_eq_eq.mpr hji.symm)
    rw [if_neg hne, Std.TreeMap.getD_erase, if_neg h]

theorem modifyElements_of_array? {i : Nat} (hx : env.array? x = some i) (f : Elements → Elements) :
    env.modifyElements x f = env.modifyArray i f := by
  obtain ⟨v, hv, rfl⟩ := Option.map_eq_some_iff.mp hx
  unfold modifyElements
  rw [obtain_of_some hv]

/-- Who sees a change of an array: every name that stands for it, from wherever it does. -/
theorem contents_modifyElements {i j : Nat} (hx : env.array? x = some i)
    (hy : (env.below d).array? y = some j) (f : Elements → Elements) :
    ((env.modifyElements x f).below d).contents y =
      if j = i then f ((env.below d).contents y) else (env.below d).contents y := by
  have hcontents : (env.below d).contents y = env.elements j := by
    unfold contents
    rw [hy]
    rfl
  have hafter : ((env.modifyArray i f).below d).contents y = (env.modifyArray i f).elements j := by
    unfold contents
    rw [show ((env.modifyArray i f).below d).array? y = some j from hy]
    rfl
  rw [modifyElements_of_array? hx, hafter, elements_modifyArray, hcontents]
  split
  · rename_i h
    rw [h]
  · rfl

/-- All that is read of an array through a name is read of its contents. -/
theorem reads_contents {i : Nat} (hx : env.array? x = some i) (key : String) :
    (env.element x key).1 = (env.contents x)[key]?.getD .empty ∧
      env.hasElement x key = (env.contents x).contains key ∧
      env.keys x = (env.contents x).keys ∧ env.count x = (env.contents x).size := by
  obtain ⟨v, hv, rfl⟩ := Option.map_eq_some_iff.mp hx
  have hcontents : env.contents x = env.elements v.array := by
    unfold contents
    rw [hx]
    rfl
  rw [hcontents]
  refine ⟨?_, by rw [hasElement, hv], by rw [keys, hv], by rw [count, hv]⟩
  unfold element
  rw [obtain_of_some hv]
  dsimp only
  split
  · rename_i a hkey
    rw [hkey]
    rfl
  · rename_i hkey
    rw [hkey]
    rfl

/-! What is kept. -/

namespace KeepsIn

variable {g g' : Scope} {bound : Name → Prop} {bs bs' : List CallBlock}

theorem drop (h : KeepsIn g g' bound bs bs') (k : Nat) :
    KeepsIn g g' bound (bs.drop k) (bs'.drop k) := by
  induction k generalizing bs bs' with
  | zero => exact h
  | succ k ih =>
    cases h with
    | globals harray hscalar => exact .globals harray hscalar
    | block _ _ hrest => exact ih (hrest.mono fun _ => .inl)

/-- The scalar of a name that is bound further in. -/
theorem findIn_bound (h : KeepsIn g g' bound bs bs') (hx : bound x) :
    Environment.findIn x g' bs' = Environment.findIn x g bs := by
  induction h with
  | globals _ hscalar => exact hscalar x hx
  | block _ hscalar _ ih => rw [findIn_cons, findIn_cons, hscalar x hx, ih (.inl hx)]

end KeepsIn

namespace Keeps

theorem below (h : Keeps env env') (d : Nat) : Keeps (env.below d) (env'.below d) := by
  refine ⟨?_, h.nextArray⟩
  show KeepsIn _ _ _ (env.blocks.drop _) (env'.blocks.drop _)
  rw [h.depth]
  exact h.scopes.drop _

theorem array? (h : Keeps env env') {i : Nat} (hx : env.array? x = some i) :
    env'.array? x = some i := by
  obtain ⟨v, hv, rfl⟩ := Option.map_eq_some_iff.mp hx
  obtain ⟨v', hv', ha⟩ := h.lookup hv
  exact Option.map_eq_some_iff.mpr ⟨v', hv', ha⟩

/-- From the entry of a call to its end: the scalars of its parameters' names are the same
outside of it. -/
theorem scopes_of_push {ps : List (Name × Argument)} (h : Keeps (env.push ps) env') :
    KeepsIn env.globals env'.pop.2.globals
      (fun x => ((bindFrom env.nextArray [] ps).1.get? x).isSome) env.blocks
      env'.pop.2.blocks := by
  obtain ⟨hscopes, -⟩ := h
  rw [push_eq] at hscopes
  obtain ⟨globals, blocks, returned, arrays, nextArray⟩ := env'
  cases hscopes with
  | block _ _ hrest => exact hrest.mono fun _ => .inr

theorem of_push {ps : List (Name × Argument)} (h : Keeps (env.push ps) env') :
    Keeps env env'.pop.2 := by
  refine ⟨h.scopes_of_push.mono fun _ => False.elim, ?_⟩
  have hnext : (bindFrom env.nextArray [] ps).2 ≤ env'.nextArray := by
    have hnext := h.nextArray
    rwa [push_eq] at hnext
  refine ((le_bindFrom _ _ _).trans hnext).trans (le_of_eq ?_)
  obtain ⟨globals, blocks, returned, arrays, nextArray⟩ := env'
  cases blocks <;> rfl

/-- A name that a call has as a parameter stands for the same outside of it as before it. -/
theorem lookup_below_of_push {ps : List (Name × Argument)} (h : Keeps (env.push ps) env')
    (hx : ((bindFrom env.nextArray [] ps).1.get? x).isSome) (d : Nat) :
    (env'.pop.2.below d).lookup x = (env.below d).lookup x := by
  show findIn x env'.pop.2.globals (List.drop (env'.pop.2.blocks.length - d) _) = _
  rw [h.scopes_of_push.length]
  exact (h.scopes_of_push.drop _).findIn_bound hx

end Keeps

/-! What parameters start as. -/

/-- What an argument passes on: a variable its array, and everything else a value. -/
inductive Passes (env : Environment) : Expr → Argument → Prop
  | shared {y : Name} {source : Variable} : env.array? y = some source.array →
      Passes env [.var y] (.shared source)
  | value {e : Expr} (a : Value) : e.name? = none → Passes env e (.value a)

/-- In `inside` the name stands for a scalar and an empty array that was not in use in `before` and
is no other variable's, however far from outside that is seen. -/
def HasOwn (before inside : Environment) (x : Name) (a : Value) : Prop :=
  ∃ i, inside.lookup x = some ⟨a, i⟩ ∧ before.nextArray ≤ i ∧ inside.elements i = ∅ ∧
    ∀ d y, (inside.below d).array? y = some i → inside.depth ≤ d ∧ y = x

/-- What a parameter is where a call starts, from what is passed. -/
def Starts (before inside : Environment) (x : Name) : Argument → Prop
  | .nothing => HasOwn before inside x .empty
  | .value a => HasOwn before inside x a
  | .shared source => inside.lookup x = some source

theorem WellFormed.below (h : env.WellFormed) (d : Nat) : (env.below d).WellFormed := by
  refine ⟨fun p hp => h.entries p ?_, h.arrays⟩
  obtain hp | hp := List.mem_append.mp hp
  · obtain ⟨b, hb, hp⟩ := List.mem_flatMap.mp hp
    exact List.mem_append_left _ (List.mem_flatMap.mpr ⟨b, List.mem_of_mem_drop hb, hp⟩)
  · exact List.mem_append_right _ hp

theorem WellFormed.array?_lt (h : env.WellFormed) {i : Nat} (hx : env.array? x = some i) :
    i < env.nextArray := by
  obtain ⟨v, hv, rfl⟩ := Option.map_eq_some_iff.mp hx
  exact h.lookup hv

/-- What is passed on shares no array that is not in use. -/
theorem Passes.shared_lt {e : Expr} {source : Variable} (h : env.Passes e (.shared source))
    (hwf : env.WellFormed) : source.array < env.nextArray := by
  cases h with
  | shared hy => exact hwf.array?_lt hy

theorem Passes.keeps {e : Expr} {a : Argument} (h : env.Passes e a) (hk : Keeps env env') :
    env'.Passes e a := by
  cases h with
  | shared hy => exact .shared (hk.array? hy)
  | value a he => exact .value a he

theorem passes_obtain (env : Environment) (x : Name) :
    (env.obtain x).2.Passes [.var x] (.shared (env.obtain x).1) := by
  refine .shared ?_
  unfold array?
  rw [lookup_obtain, if_pos rfl]
  rfl

theorem depth_push (env : Environment) (ps : List (Name × Argument)) :
    (env.push ps).depth = env.depth + 1 := by
  rw [push_eq]
  rfl

/-- Inside of a call a name stands for a parameter, or else for what it stands for outside. -/
theorem lookup_push_eq (env : Environment) (ps : List (Name × Argument)) (x : Name) :
    (env.push ps).lookup x = ((bindFrom env.nextArray [] ps).1.get? x).or (env.lookup x) := by
  rw [push_eq]
  exact findIn_cons x env.globals _ env.blocks

/-- The array of a parameter that shares none is seen by its name alone, and only in the call. -/
theorem array?_push_own {ps : List (Name × Argument)} (hwf : env.WellFormed)
    (hps : ∀ p ∈ ps, ∀ source, p.2 = .shared source → source.array < env.nextArray) {i : Nat}
    (hi : env.nextArray ≤ i) (hx : (bindFrom env.nextArray [] ps).1.get? x = some v)
    (hv : v.array = i) {d : Nat} (hy : ((env.push ps).below d).array? y = some i) :
    (env.push ps).depth ≤ d ∧ y = x := by
  rw [depth_push]
  have hunused {w : Variable} {env' : Environment} (h : env'.WellFormed)
      (hnext : env'.nextArray = env.nextArray) (hw : env'.lookup y = some w) : w.array ≠ i :=
    fun hwi => absurd (h.lookup hw) (Nat.not_lt.mpr (hnext ▸ hwi ▸ hi))
  obtain ⟨w, hw, hwi⟩ := Option.map_eq_some_iff.mp hy
  by_cases hd : d ≤ env.depth
  · rw [below_push ps hd] at hw
    exact absurd hwi (hunused (hwf.below d) rfl hw)
  · refine ⟨Nat.lt_of_not_le hd, ?_⟩
    have hall : (env.push ps).below d = env.push ps := by
      unfold below
      rw [depth_push, Nat.sub_eq_zero_of_le (Nat.lt_of_not_le hd)]
      rfl
    rw [hall, lookup_push_eq] at hw
    obtain hlocal | ⟨-, houter⟩ := Option.or_eq_some_iff.mp hw
    · have hown : OwnFrom env.nextArray _ (bindFrom env.nextArray [] ps).1 :=
        ownFrom_bindFrom (.nil _ _) le_rfl hps
      exact hown.own y x w v hlocal hx (hwi ▸ hi) (hwi.trans hv.symm)
    · exact absurd hwi (hunused hwf rfl houter)

/-- Each parameter starts as what is passed says, where all have different names. -/
theorem starts_push {ps : List (Name × Argument)} (hwf : env.WellFormed)
    (hps : ∀ p ∈ ps, ∀ source, p.2 = .shared source → source.array < env.nextArray)
    (hnodup : (ps.map (·.1)).Nodup) {a : Argument} (hx : (x, a) ∈ ps) :
    Starts env (env.push ps) x a := by
  obtain ⟨i, hi, hget⟩ := bindFrom_get? hnodup hx env.nextArray []
  have hlookup : (env.push ps).lookup x = some (a.variable i) := by
    rw [lookup_push_eq, hget]
    rfl
  have hempty : (env.push ps).elements i = ∅ := by
    rw [push_eq]
    exact hwf.elements_unused hi
  cases a with
  | shared source => exact hlookup
  | nothing =>
    exact ⟨i, hlookup, hi, hempty, fun _ _ hy => array?_push_own hwf hps hi hget rfl hy⟩
  | value a =>
    exact ⟨i, hlookup, hi, hempty, fun _ _ hy => array?_push_own hwf hps hi hget rfl hy⟩

end Environment

end Awk
