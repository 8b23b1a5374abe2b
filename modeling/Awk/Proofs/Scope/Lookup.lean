import Awk.Environment

/-! Looking variables up. What a name stands for after a variable has been set: the name itself for
what it was set to, and every other name for what it stood for before. -/

namespace Awk

namespace Scope

variable {s : Scope} {x y : Name} {v : Variable}

theorem get?_cons (n : Name) (w : Variable) (s : Scope) (x : Name) :
    get? ((n, w) :: s) x = if x = n then some w else s.get? x := by
  by_cases h : x = n
  · subst h
    simp [get?]
  · simp [get?, List.lookup_cons, beq_eq_false_iff_ne.mpr h, h]

theorem put_cons (n : Name) (w : Variable) (s : Scope) (x : Name) (v : Variable) :
    put ((n, w) :: s) x v = if n = x then (n, v) :: s else (n, w) :: s.put x v := rfl

theorem get?_put (s : Scope) (x : Name) (v : Variable) (y : Name) :
    (s.put x v).get? y = if y = x then some v else s.get? y := by
  induction s with
  | nil => exact get?_cons x v [] y
  | cons entry s ih =>
    obtain ⟨n, w⟩ := entry
    rw [put_cons]
    split
    · rename_i h
      subst h
      rw [get?_cons, get?_cons]
      split <;> rfl
    · rename_i h
      rw [get?_cons, get?_cons, ih]
      by_cases hy : y = n
      · simp [hy, h]
      · simp [hy]

@[simp] theorem get?_put_self : (s.put x v).get? x = some v := by simp [get?_put]

theorem get?_put_ne (h : y ≠ x) : (s.put x v).get? y = s.get? y := by simp [get?_put, h]

end Scope

namespace Environment

variable {env : Environment} {x y : Name} {v : Variable}

theorem putIn_cons (x : Name) (v : Variable) (b : CallBlock) (bs : List CallBlock) :
    putIn x v (b :: bs) =
      if (b.locals.get? x).isSome then some ({ b with locals := b.locals.put x v } :: bs)
      else (putIn x v bs).map (b :: ·) := rfl

theorem findIn_cons (x : Name) (globals : Scope) (b : CallBlock) (bs : List CallBlock) :
    findIn x globals (b :: bs) = (b.locals.get? x).or (findIn x globals bs) := by
  show (b.locals.get? x <|> findIn x globals bs) = _
  cases b.locals.get? x <;> rfl

/-- A name that a block has stands for what it is set to there. -/
theorem findIn_putIn {globals : Scope} {bs bs' : List CallBlock} (h : putIn x v bs = some bs')
    (y : Name) : findIn y globals bs' = if y = x then some v else findIn y globals bs := by
  induction bs generalizing bs' with
  | nil => cases h
  | cons b bs ih =>
    rw [putIn_cons] at h
    split at h
    · cases h
      rw [findIn_cons, findIn_cons, Scope.get?_put]
      split <;> rfl
    · rename_i hnone
      obtain ⟨bs₁, hbs, rfl⟩ := Option.map_eq_some_iff.mp h
      rw [findIn_cons, findIn_cons, ih hbs]
      split
      · rename_i hy
        subst hy
        rw [Option.not_isSome_iff_eq_none.mp hnone]
        rfl
      · rfl

/-- A name that no block has stands for a global. -/
theorem findIn_put {globals : Scope} {bs : List CallBlock} (h : putIn x v bs = none) (y : Name) :
    findIn y (globals.put x v) bs = if y = x then some v else findIn y globals bs := by
  induction bs with
  | nil => exact Scope.get?_put globals x v y
  | cons b bs ih =>
    rw [putIn_cons] at h
    split at h
    · cases h
    · rename_i hnone
      rw [findIn_cons, findIn_cons, ih (Option.map_eq_none_iff.mp h)]
      split
      · rename_i hy
        subst hy
        rw [Option.not_isSome_iff_eq_none.mp hnone]
        rfl
      · rfl

theorem lookup_put (env : Environment) (x : Name) (v : Variable) (y : Name) :
    (env.put x v).lookup y = if y = x then some v else env.lookup y := by
  unfold put
  split
  · rename_i blocks h
    exact findIn_putIn h y
  · rename_i h
    exact findIn_put h y

theorem obtain_of_some (h : env.lookup x = some v) : env.obtain x = (v, env) := by
  simp only [obtain, h]

theorem obtain_of_none (h : env.lookup x = none) :
    env.obtain x =
      ((env.fresh .empty).1, (env.fresh .empty).2.put x (env.fresh .empty).1) := by
  simp only [obtain, h]

/-- Where a name stands for nothing, a global is made for it; nothing else is looked up to another
variable. -/
theorem lookup_obtain (env : Environment) (x y : Name) :
    (env.obtain x).2.lookup y = if y = x then some (env.obtain x).1 else env.lookup y := by
  cases h : env.lookup x with
  | some v =>
    rw [obtain_of_some h]
    split
    · rename_i hy
      rw [hy, h]
    · rfl
  | none =>
    rw [obtain_of_none h]
    exact lookup_put _ x _ y

theorem obtain_value (env : Environment) (x : Name) : (env.obtain x).1.value = env.value x := by
  unfold value
  cases h : env.lookup x with
  | some v =>
    rw [obtain_of_some h]
    rfl
  | none =>
    rw [obtain_of_none h]
    rfl

/-- Looking an element up changes an array only where it is made. -/
theorem element_cases (env : Environment) (x : Name) (key : String) :
    (env.element x key).2 = (env.obtain x).2 ∨
      (env.element x key).2 = env.modifyElements x (·.insert key .empty) := by
  unfold element
  dsimp only
  split
  · exact .inl rfl
  · exact .inr rfl

/-! Scalars. -/

theorem value_eq (env : Environment) (x : Name) :
    env.value x = ((env.lookup x).map (·.value)).getD .empty := rfl

@[simp] theorem value_obtain (env : Environment) (x y : Name) :
    (env.obtain x).2.value y = env.value y := by
  rw [value_eq, lookup_obtain]
  split
  · rename_i hy
    rw [hy]
    exact obtain_value env x
  · rfl

theorem value_setValue (env : Environment) (x : Name) (a : Value) (y : Name) :
    (env.setValue x a).value y = if y = x then a else env.value y := by
  unfold setValue
  rw [value_eq, lookup_put]
  split
  · rfl
  · exact value_obtain env x y

@[simp] theorem value_setValue_self (env : Environment) (x : Name) (a : Value) :
    (env.setValue x a).value x = a := by simp [value_setValue]

theorem value_setValue_ne (env : Environment) (a : Value) (h : y ≠ x) :
    (env.setValue x a).value y = env.value y := by simp [value_setValue, h]

@[simp] theorem value_modifyElements (env : Environment) (x : Name) (f : Elements → Elements)
    (y : Name) : (env.modifyElements x f).value y = env.value y := value_obtain env x y

@[simp] theorem value_element (env : Environment) (x : Name) (key : String) (y : Name) :
    (env.element x key).2.value y = env.value y := by
  obtain h | h := element_cases env x key
  · rw [h, value_obtain]
  · rw [h, value_modifyElements]

@[simp] theorem value_setReturned (env : Environment) (a : Value) (y : Name) :
    (env.setReturned a).value y = env.value y := by
  obtain ⟨globals, blocks, returned, arrays, nextArray⟩ := env
  cases blocks <;> rfl

end Environment

end Awk
