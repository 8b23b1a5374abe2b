import Mathlib.Data.List.Forall2
import Mathlib.Logic.Equiv.Basic
import Awk.Eval.Operators
import Awk.Proofs.Evaluation.Acts
import Awk.Proofs.Scope.Readings

/-! The numbers of the arrays. The number that an array has says when it was made, and nothing else
depends on it: where the arrays of one environment are those of another under other numbers, all
names read the same, and they still do after the same has been done to both. -/

namespace Awk

variable {ρ : Equiv.Perm Nat}

/-- A variable with its array under another number. -/
def Variable.renumber (ρ : Equiv.Perm Nat) (v : Variable) : Variable :=
  { v with array := ρ v.array }

namespace Scope

/-- The names of `s'` are those of `s`, with their arrays renumbered. -/
def RenumberedBy (ρ : Equiv.Perm Nat) (s s' : Scope) : Prop :=
  ∀ x, s'.get? x = (s.get? x).map (·.renumber ρ)

variable {s s' : Scope}

theorem RenumberedBy.put (h : s.RenumberedBy ρ s') (x : Name) (v : Variable) :
    (s.put x v).RenumberedBy ρ (s'.put x (v.renumber ρ)) := by
  intro y
  rw [get?_put, get?_put]
  split
  · rfl
  · exact h y

theorem RenumberedBy.isSome (h : s.RenumberedBy ρ s') (x : Name) :
    (s'.get? x).isSome = (s.get? x).isSome := by
  rw [h x, Option.isSome_map]

end Scope

/-- A call with its arrays renumbered. -/
structure CallBlock.RenumberedBy (ρ : Equiv.Perm Nat) (b b' : CallBlock) : Prop where
  locals : b.locals.RenumberedBy ρ b'.locals
  returned : b'.returned = b.returned

namespace Environment

variable {env env' : Environment} {x : Name} {v : Variable} {bs bs' : List CallBlock}

/-- The variables of `env'` are those of `env`, with their arrays renumbered by `ρ`. An array that
is not in use yet keeps its number. -/
structure RenumberedBy (ρ : Equiv.Perm Nat) (env env' : Environment) : Prop where
  globals : env.globals.RenumberedBy ρ env'.globals
  blocks : List.Forall₂ (CallBlock.RenumberedBy ρ) env.blocks env'.blocks
  returned : env'.returned = env.returned
  elements : ∀ (i : Nat) (key : String), (env'.elements (ρ i))[key]? = (env.elements i)[key]?
  nextArray : env'.nextArray = env.nextArray
  unused : ∀ i, env.nextArray ≤ i → ρ i = i

theorem findIn_renumberedBy {globals globals' : Scope} (hg : globals.RenumberedBy ρ globals')
    (hbs : List.Forall₂ (CallBlock.RenumberedBy ρ) bs bs') (x : Name) :
    findIn x globals' bs' = (findIn x globals bs).map (·.renumber ρ) := by
  induction hbs with
  | nil => exact hg x
  | cons hb _ ih =>
    rw [findIn_cons, findIn_cons, ih, hb.locals x, Option.map_or]

theorem putIn_renumberedBy (hbs : List.Forall₂ (CallBlock.RenumberedBy ρ) bs bs') (x : Name)
    (v : Variable) :
    (putIn x v bs = none ∧ putIn x (v.renumber ρ) bs' = none) ∨
      ∃ cs cs', putIn x v bs = some cs ∧ putIn x (v.renumber ρ) bs' = some cs' ∧
        List.Forall₂ (CallBlock.RenumberedBy ρ) cs cs' := by
  induction hbs with
  | nil => exact .inl ⟨rfl, rfl⟩
  | cons hb hbs ih =>
    rw [putIn_cons, putIn_cons, hb.locals.isSome]
    split
    · exact .inr ⟨_, _, rfl, rfl, .cons ⟨hb.locals.put x v, hb.returned⟩ hbs⟩
    · obtain ⟨hnone, hnone'⟩ | ⟨cs, cs', hcs, hcs', hrest⟩ := ih
      · rw [hnone, hnone']
        exact .inl ⟨rfl, rfl⟩
      · rw [hcs, hcs']
        exact .inr ⟨_, _, rfl, rfl, .cons hb hrest⟩

namespace RenumberedBy

theorem refl (env : Environment) : env.RenumberedBy (.refl Nat) env where
  globals _ := Option.map_id'.symm
  blocks := List.forall₂_same.mpr fun _ _ => ⟨fun _ => Option.map_id'.symm, rfl⟩
  returned := rfl
  elements _ _ := rfl
  nextArray := rfl
  unused _ _ := rfl

variable (h : env.RenumberedBy ρ env')

include h

theorem lookup (x : Name) : env'.lookup x = (env.lookup x).map (·.renumber ρ) :=
  findIn_renumberedBy h.globals h.blocks x

theorem value (x : Name) : env'.value x = env.value x := by
  rw [value_eq, value_eq, h.lookup x, Option.map_map]
  rfl

theorem put (x : Name) (v : Variable) :
    (env.put x v).RenumberedBy ρ (env'.put x (v.renumber ρ)) := by
  unfold Environment.put
  obtain ⟨hnone, hnone'⟩ | ⟨cs, cs', hcs, hcs', hblocks⟩ := putIn_renumberedBy h.blocks x v
  · rw [hnone, hnone']
    exact { h with globals := h.globals.put x v }
  · rw [hcs, hcs']
    exact { h with blocks := hblocks }

/-- A new variable gets the number that is next in both. -/
theorem obtain_ (x : Name) :
    (env'.obtain x).1 = (env.obtain x).1.renumber ρ ∧
      (env.obtain x).2.RenumberedBy ρ (env'.obtain x).2 := by
  have hlookup := h.lookup x
  cases hx : env.lookup x with
  | some v =>
    rw [hx] at hlookup
    rw [obtain_of_some hx, obtain_of_some hlookup]
    exact ⟨rfl, h⟩
  | none =>
    rw [hx] at hlookup
    have hnew : (env'.fresh .empty).1 = (env.fresh .empty).1.renumber ρ := by
      show Variable.mk .empty env'.nextArray = ⟨.empty, ρ env.nextArray⟩
      rw [h.unused _ le_rfl, h.nextArray]
    have hfresh : (env.fresh .empty).2.RenumberedBy ρ (env'.fresh .empty).2 :=
      { h with
        nextArray := congrArg (· + 1) h.nextArray
        unused := fun i hi => h.unused i (Nat.le_of_succ_le hi) }
    rw [obtain_of_none hx, obtain_of_none hlookup, hnew]
    exact ⟨rfl, hfresh.put x _⟩

theorem setValue (x : Name) (a : Value) :
    (env.setValue x a).RenumberedBy ρ (env'.setValue x a) := by
  obtain ⟨hvariable, hobtained⟩ := h.obtain_ x
  unfold Environment.setValue
  dsimp only
  rw [hvariable]
  exact hobtained.put x { (env.obtain x).1 with value := a }

theorem insert (i : Nat) (key : String) (a : Value) :
    (env.modifyArray i (·.insert key a)).RenumberedBy ρ
      (env'.modifyArray (ρ i) (·.insert key a)) :=
  { h with
    elements := fun j k => by
      rw [elements_modifyArray, elements_modifyArray]
      by_cases hj : j = i
      · rw [if_pos hj, if_pos (congrArg ρ hj), Std.TreeMap.getElem?_insert,
          Std.TreeMap.getElem?_insert, h.elements]
      · rw [if_neg hj, if_neg fun hρ => hj (ρ.injective hρ), h.elements] }

theorem setElement (x : Name) (key : String) (a : Value) :
    (env.setElement x key a).RenumberedBy ρ (env'.setElement x key a) := by
  obtain ⟨hvariable, hobtained⟩ := h.obtain_ x
  unfold Environment.setElement modifyElements
  dsimp only
  rw [hvariable]
  exact hobtained.insert _ key a

theorem element (x : Name) (key : String) :
    (env'.element x key).1 = (env.element x key).1 ∧
      (env.element x key).2.RenumberedBy ρ (env'.element x key).2 := by
  obtain ⟨hvariable, hobtained⟩ := h.obtain_ x
  have hsame := hobtained.elements (env.obtain x).1.array key
  unfold Environment.element
  dsimp only
  rw [hvariable, show ((env.obtain x).1.renumber ρ).array = ρ (env.obtain x).1.array from rfl, hsame]
  split
  · exact ⟨rfl, hobtained⟩
  · exact ⟨rfl, hobtained.insert _ key .empty⟩

end RenumberedBy

/-- The same variables, but for the numbers of their arrays. -/
def Renumbered (env env' : Environment) : Prop := ∃ ρ, env.RenumberedBy ρ env'

theorem Renumbered.refl (env : Environment) : env.Renumbered env := ⟨.refl Nat, .refl env⟩

/-! Elements that are made in either order. -/

/-- The number of a name's array once it has one. -/
def arrayOf (env : Environment) (x : Name) : Nat := (env.array? x).getD env.nextArray

theorem arrayOf_of_none (h : env.lookup x = none) : env.arrayOf x = env.nextArray := by
  unfold arrayOf array?
  rw [h]
  rfl

theorem obtain_array (env : Environment) (x : Name) : (env.obtain x).1.array = env.arrayOf x := by
  unfold arrayOf array?
  cases h : env.lookup x with
  | some v =>
    rw [obtain_of_some h]
    rfl
  | none =>
    rw [obtain_of_none h]
    rfl

/-- From `env` to `env'` an element has been read: its variable has been made a global, if there was
none, and it is there. -/
structure Makes (env : Environment) (x : Name) (key : String) (env' : Environment) : Prop where
  blocks : env'.blocks = env.blocks
  returned : env'.returned = env.returned
  nextArray : env'.nextArray = if env.lookup x = none then env.nextArray + 1 else env.nextArray
  globals : ∀ y, env'.globals.get? y =
    if env.lookup x = none ∧ y = x then some ⟨.empty, env.nextArray⟩ else env.globals.get? y
  lookup : ∀ y, env'.lookup y = none ↔ env.lookup y = none ∧ y ≠ x
  arrayOf : ∀ y, env'.arrayOf y =
    if env.lookup y = none ∧ y ≠ x then env'.nextArray else env.arrayOf y
  elements : ∀ (i : Nat) (k : String), (env'.elements i)[k]? =
    if i = env.arrayOf x ∧ k = key then some ((env.elements i)[k]?.getD .empty)
    else (env.elements i)[k]?

/-- A variable that is obtained has its array, with the elements that are there already. -/
theorem makes_of_obtain {key : String}
    (helements : ∀ (i : Nat) (k : String), (env'.elements i)[k]? =
      if i = env.arrayOf x ∧ k = key then some ((env.elements i)[k]?.getD .empty)
      else (env.elements i)[k]?)
    (h : env' = { (env.obtain x).2 with arrays := env'.arrays }) : env.Makes x key env' := by
  have hlookup (y : Name) :
      env'.lookup y = if y = x then some (env.obtain x).1 else env.lookup y := by
    rw [h]
    exact lookup_obtain env x y
  have harray (y : Name) : env'.arrayOf y =
      if env.lookup y = none ∧ y ≠ x then env'.nextArray else env.arrayOf y := by
    unfold arrayOf array?
    rw [hlookup]
    by_cases hy : y = x
    · simp [hy, obtain_array, arrayOf, array?]
    · cases env.lookup y <;> simp [hy]
  have hnone (y : Name) : env'.lookup y = none ↔ env.lookup y = none ∧ y ≠ x := by
    rw [hlookup]
    by_cases hy : y = x <;> simp [hy]
  cases hx : env.lookup x with
  | some v =>
    rw [obtain_of_some hx] at h
    refine ⟨?_, ?_, ?_, fun y => ?_, hnone, harray, helements⟩
    · rw [h]
    · rw [h]
    · rw [h]
      simp [hx]
    · rw [h]
      simp [hx]
  | none =>
    rw [obtain_of_none_eq hx] at h
    refine ⟨?_, ?_, ?_, fun y => ?_, hnone, harray, helements⟩
    · rw [h]
    · rw [h]
    · rw [h]
      simp [hx]
    · rw [h]
      simp [hx, Scope.get?_put]

theorem Makes.element (env : Environment) (x : Name) (key : String) :
    env.Makes x key (env.element x key).2 := by
  have hobtained (i : Nat) : (env.obtain x).2.elements i = env.elements i := by
    cases hx : env.lookup x with
    | some v => rw [obtain_of_some hx]
    | none => rw [obtain_of_none_eq hx]; rfl
  unfold Environment.element
  dsimp only
  rw [obtain_array, hobtained]
  split
  · rename_i a hkey
    refine makes_of_obtain (fun i k => ?_) rfl
    rw [hobtained]
    split
    · rename_i h
      rw [h.1, h.2, hkey]
      rfl
    · rfl
  · rename_i hkey
    refine makes_of_obtain (fun i k => ?_) rfl
    rw [elements_modifyArray, hobtained, hobtained]
    by_cases hi : i = env.arrayOf x
    · rw [if_pos hi, Std.TreeMap.getElem?_insert, hi]
      by_cases hk : k = key
      · simp [hk, hkey]
      · rw [if_neg fun heq => hk (Std.LawfulEqOrd.eq_of_compare heq).symm,
          if_neg fun hboth => hk hboth.2]
    · simp [hi]

namespace WellFormed

variable (h : env.WellFormed) (hfixes : ∀ i < env.nextArray, ρ i = i)

include h hfixes

/-- A renumbering of what is not in use changes nothing. -/
theorem scopes_renumberedBy : env.globals.RenumberedBy ρ env.globals ∧
    List.Forall₂ (CallBlock.RenumberedBy ρ) env.blocks env.blocks := by
  have hscope (s : Scope) (hs : ∀ p ∈ s, p ∈ env.entries) : s.RenumberedBy ρ s := by
    intro x
    cases hx : s.get? x with
    | none => rfl
    | some v =>
      have harray : ρ v.array = v.array := hfixes _ (h.entries _ (hs _ (Scope.mem_of_get? hx)))
      simp [Variable.renumber, harray]
  refine ⟨hscope _ fun p hp => List.mem_append_right _ hp, List.forall₂_same.mpr fun b hb => ?_⟩
  exact ⟨hscope _ fun p hp => List.mem_append_left _ (List.mem_flatMap.mpr ⟨b, hb, hp⟩), rfl⟩

theorem elements_renumbered (i : Nat) : env.elements (ρ i) = env.elements i := by
  by_cases hi : i < env.nextArray
  · rw [hfixes i hi]
  · have hρ : env.nextArray ≤ ρ i := by
      by_contra hlt
      have hsame : ρ i = i := ρ.injective (hfixes _ (Nat.lt_of_not_le hlt))
      omega
    rw [h.elements_unused hρ, h.elements_unused (Nat.le_of_not_lt hi)]

end WellFormed

namespace Makes

variable {y : Name} {key key' : String} {first second xy yx : Environment}

/-- In either order the same is made, under the numbers that it gets. -/
theorem renumberedBy (h : env.WellFormed) (hx : env.Makes x key first)
    (hxy : first.Makes y key' xy) (hy : env.Makes y key' second) (hyx : second.Makes x key yx)
    (hfixes : ∀ i < env.nextArray, ρ i = i) (hunused : ∀ i, xy.nextArray ≤ i → ρ i = i)
    (hρx : ρ (env.arrayOf x) = second.arrayOf x) (hρy : ρ (first.arrayOf y) = env.arrayOf y) :
    xy.RenumberedBy ρ yx := by
  have hxnone := hx.lookup y
  have hynone := hy.lookup x
  obtain ⟨hglobals, hblocks⟩ := h.scopes_renumberedBy hfixes
  refine ⟨fun z => ?_, ?_, ?_, fun i k => ?_, ?_, hunused⟩
  · have hz := hglobals z
    have hnumber (i : Nat) : (Variable.mk .empty i).renumber ρ = ⟨.empty, ρ i⟩ := rfl
    have hsecond := hy.arrayOf x
    rw [hxy.globals, hyx.globals, hx.globals, hy.globals]
    grind [arrayOf_of_none]
  · rwa [hxy.blocks, hyx.blocks, hx.blocks, hy.blocks]
  · rw [hxy.returned, hx.returned, hyx.returned, hy.returned]
  · have hmoved : ρ i = second.arrayOf x ↔ i = env.arrayOf x := by
      rw [← hρx, ρ.apply_eq_iff_eq]
    have hmoved' : ρ i = env.arrayOf y ↔ i = first.arrayOf y := by
      rw [← hρy, ρ.apply_eq_iff_eq]
    simp only [hxy.elements, hyx.elements, hx.elements, hy.elements, hmoved, hmoved',
      h.elements_renumbered hfixes]
    grind
  · rw [hxy.nextArray, hyx.nextArray, hx.nextArray, hy.nextArray]
    grind

/-- Where the two do not both make an array, each has the number that it has on its own. -/
theorem arrayOf_eq (hx : env.Makes x key first)
    (hnew : ¬ (env.lookup x = none ∧ env.lookup y = none ∧ y ≠ x)) :
    first.arrayOf y = env.arrayOf y := by
  rw [hx.arrayOf]
  split
  · rename_i hmade
    have hold : env.lookup x ≠ none := fun hx' => hnew ⟨hx', hmade⟩
    rw [hx.nextArray, if_neg hold, arrayOf_of_none hmade.1]
  · rfl

/-- Elements can be read in either order. Where this makes two arrays, they change their
numbers. -/
theorem comm (h : env.WellFormed) (hx : env.Makes x key first) (hxy : first.Makes y key' xy)
    (hy : env.Makes y key' second) (hyx : second.Makes x key yx) : xy.Renumbered yx := by
  by_cases hnew : env.lookup x = none ∧ env.lookup y = none ∧ y ≠ x
  · obtain ⟨hxnone, hynone, hne⟩ := hnew
    have hfirst : first.lookup y = none := (hx.lookup y).mpr ⟨hynone, hne⟩
    have hsecond : second.lookup x = none := (hy.lookup x).mpr ⟨hxnone, hne.symm⟩
    have hnext : first.nextArray = env.nextArray + 1 := by rw [hx.nextArray, if_pos hxnone]
    have hnext' : second.nextArray = env.nextArray + 1 := by rw [hy.nextArray, if_pos hynone]
    -- Whichever array is made first gets the next number, and the other one the number after it.
    refine ⟨.swap env.nextArray (env.nextArray + 1),
      renumberedBy h hx hxy hy hyx (fun i hi => ?_) (fun i hi => ?_) ?_ ?_⟩
    · exact Equiv.swap_apply_of_ne_of_ne (by omega) (by omega)
    · rw [hxy.nextArray, if_pos hfirst, hnext] at hi
      exact Equiv.swap_apply_of_ne_of_ne (by omega) (by omega)
    · rw [arrayOf_of_none hxnone, arrayOf_of_none hsecond, hnext', Equiv.swap_apply_left]
    · rw [arrayOf_of_none hynone, arrayOf_of_none hfirst, hnext, Equiv.swap_apply_right]
  · have hnew' : ¬ (env.lookup y = none ∧ env.lookup x = none ∧ x ≠ y) :=
      fun ⟨hynone, hxnone, hne⟩ => hnew ⟨hxnone, hynone, hne.symm⟩
    exact ⟨.refl Nat, renumberedBy h hx hxy hy hyx (fun _ _ => rfl) (fun _ _ => rfl)
      (hy.arrayOf_eq hnew').symm (hx.arrayOf_eq hnew)⟩

end Makes

theorem element_comm (h : env.WellFormed) (x : Name) (key : String) (y : Name) (key' : String) :
    ((env.element x key).2.element y key').2.Renumbered
      ((env.element y key').2.element x key).2 :=
  Makes.comm h (.element ..) (.element ..) (.element ..) (.element ..)

/-- What an element reads as does not depend on whether another one has been read before. -/
theorem element_element_fst (h : env.WellFormed) (x : Name) (key : String) (y : Name)
    (key' : String) : ((env.element x key).2.element y key').1 = (env.element y key').1 := by
  rw [element_fst (h.element x key), reading_element h, element_fst h]

end Environment

namespace Machine

/-- The same machine, but for the numbers of its arrays. -/
def Renumbered (m m' : Machine) : Prop := ∃ env, m.env.Renumbered env ∧ m' = { m with env }

variable {m m' : Machine}

theorem Renumbered.refl (m : Machine) : m.Renumbered m := ⟨m.env, .refl m.env, rfl⟩

theorem Renumbered.value (h : m.Renumbered m') (x : Name) : m'.env.value x = m.env.value x := by
  obtain ⟨env, ⟨ρ, henv⟩, rfl⟩ := h
  exact henv.value x

/-- An act that does the same whatever the numbers of the arrays are. -/
def Numberless {α : Type} (a : Act α) : Prop :=
  ∀ m m', m.Renumbered m' → (a m').1 = (a m).1 ∧ (a m).2.Renumbered (a m').2

namespace Numberless

variable {α β : Type}

theorem pure (x : α) : Numberless (Pure.pure x : Act α) := fun _ _ h => ⟨rfl, h⟩

theorem bind {a : Act α} {f : α → Act β} (ha : Numberless a) (hf : ∀ x, Numberless (f x)) :
    Numberless (a >>= f) := by
  intro m m' h
  obtain ⟨hvalue, hmachine⟩ := ha m m' h
  show (f (a m').1 (a m').2).1 = (f (a m).1 (a m).2).1 ∧
    (f (a m).1 (a m).2).2.Renumbered (f (a m').1 (a m').2).2
  rw [hvalue]
  exact hf _ _ _ hmachine

theorem get_bind {g : Machine → Act α} (hg : ∀ m m', m.Renumbered m' → g m' = g m)
    (h : ∀ m, Numberless (g m)) : Numberless (get >>= g) := by
  intro m m' hm
  show (g m' m').1 = (g m m).1 ∧ (g m m).2.Renumbered (g m' m').2
  rw [hg m m' hm]
  exact h m m m' hm

/-- An act that has nothing to do with the variables. -/
theorem of_blind {a : Act α} (ha : ∀ m env, a { m with env } = ((a m).1, { (a m).2 with env })) :
    Numberless a := by
  rintro m _ ⟨env, henv, rfl⟩
  have hkept : (a m).2.env = m.env := congrArg (·.2.env) (ha m m.env)
  rw [ha]
  exact ⟨rfl, env, hkept ▸ henv, rfl⟩

theorem ite {c : Prop} [Decidable c] {a b : Act α} (ha : Numberless a) (hb : Numberless b) :
    Numberless (if c then a else b) := by
  split
  · exact ha
  · exact hb

theorem report (d : Diagnostic) : Numberless (report d) := by
  refine of_blind fun m env => ?_
  show ((), if m.echo then _ else _) = ((), { (if m.echo then _ else _ : Machine) with env })
  split
  · rfl
  · rfl

theorem scalar (x : Name) : Numberless (scalar x) :=
  get_bind (fun _ _ h => by rw [h.value]) fun _ => .pure _

theorem setScalar (x : Name) (a : Value) : Numberless (setScalar x a) := by
  rintro m _ ⟨env, ⟨ρ, henv⟩, rfl⟩
  exact ⟨rfl, env.setValue x a, ⟨ρ, henv.setValue x a⟩, rfl⟩

theorem setElement (x : Name) (key : String) (a : Value) :
    Numberless (modifyEnv (·.setElement x key a)) := by
  rintro m _ ⟨env, ⟨ρ, henv⟩, rfl⟩
  exact ⟨rfl, env.setElement x key a, ⟨ρ, henv.setElement x key a⟩, rfl⟩

/-- What is done with the record, where that does not depend on the variables. -/
theorem record_bind {g : Record → Act α} (h : ∀ r, Numberless (g r)) :
    Numberless (do g (← get).record) := by
  refine get_bind (g := fun m => g m.record) ?_ fun m => h m.record
  rintro m _ ⟨env, -, rfl⟩
  rfl

theorem getPlace (p : Place) : Numberless (getPlace p) := by
  cases p with
  | scalar x => exact scalar x
  | element x key =>
    rintro m _ ⟨env, ⟨ρ, henv⟩, rfl⟩
    obtain ⟨hvalue, hafter⟩ := henv.element x key
    exact ⟨hvalue, (env.element x key).2, ⟨ρ, hafter⟩, rfl⟩
  | field i => exact record_bind fun r => .pure (Value.ofString (r.field i))

theorem regex? (pattern : String) : Numberless (regex? pattern) := by
  let found : Act (Option Regex) := fun m =>
    ((m.regexes.get pattern).1, { m with regexes := (m.regexes.get pattern).2 })
  have hfound : Numberless found := of_blind fun _ _ => rfl
  have heq : Machine.regex? pattern = (do
      let r ← found
      if r.isNone then Machine.report (.invalidRegex pattern)
      return r) := rfl
  rw [heq]
  exact hfound.bind fun r => .ite ((report _).bind fun _ => .pure r) (.pure r)

theorem isMatch (pattern text : String) : Numberless (isMatch pattern text) := by
  refine (regex? pattern).bind fun r => ?_
  cases r with
  | none => exact .pure _
  | some r => exact .pure _

theorem splitText (text fs : String) : Numberless (splitText text fs) := by
  unfold Machine.splitText
  cases Separator.simple? fs with
  | some sep => exact .pure _
  | none =>
    refine (regex? fs).bind fun r => ?_
    cases r with
    | none => exact .pure _
    | some r => exact .pure _

theorem putRecord (r : Record) : Numberless (putRecord r) := by
  refine bind (of_blind fun _ _ => rfl) fun _ => ?_
  exact record_bind fun r => setScalar "NF" (.ofNat r.fieldCount)

theorem setField (i : Nat) (a : Value) : Numberless (setField i a) := by
  refine ite ?_ (ite (report _) ?_)
  · exact (scalar "FS").bind fun fs => (splitText a.text fs.text).bind fun fields =>
      putRecord ⟨a.text, fields⟩
  · exact (scalar "OFS").bind fun ofs =>
      record_bind fun r => putRecord (r.setField i a.text ofs.text)

theorem resizeRecord (count : Int) : Numberless (resizeRecord count) := by
  have hsync : Numberless syncFieldCount :=
    record_bind fun r => setScalar "NF" (.ofNat r.fieldCount)
  refine ite ((report _).bind fun _ => hsync) ((scalar "OFS").bind fun ofs => ?_)
  exact bind (of_blind fun _ _ => rfl) fun _ => hsync

theorem assign (p : Place) (a : Value) : Numberless (assign p a) := by
  cases p with
  | scalar x => exact (setScalar x a).bind fun _ => .ite (resizeRecord _) (.pure _)
  | element x key => exact setElement x key a
  | field i => exact setField i a

theorem valueOf (o : Operand) : Numberless (Inner.valueOf o) := by
  cases o with
  | value v => exact .pure v
  | null => exact .pure _
  | place p => exact getPlace p
  | regex pattern =>
    exact (record_bind fun r => isMatch pattern r.text).bind fun b => .pure (Value.ofBool b)

theorem arithmetic (o : Operator) (a b : Value) : Numberless (arithmetic o a b) := by
  unfold Machine.arithmetic
  split
  · exact .pure _
  · exact (report _).bind fun _ => .pure _

theorem fieldIndex (a : Value) : Numberless (fieldIndex a) :=
  .ite ((report _).bind fun _ => .pure _) (.pure _)

theorem applyStep (o : Operator) (x : Operand) : Numberless (Inner.applyStep o (.ready x)) := by
  cases x with
  | place p => exact (getPlace p).bind fun _ => (assign p _).bind fun _ => .pure _
  | _ => exact (report _).bind fun _ => .pure _

end Numberless

end Machine

end Awk
