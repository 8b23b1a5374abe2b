import Mathlib.Data.Set.Basic
import Awk.Proofs.Scope.Lookup

/-! What stays of the variables while calls come and go. Each variable stays where it is and keeps
its array; a scalar may change, unless a call further in has a parameter of the same name. -/

namespace Awk

namespace Environment

/-- From the blocks of one environment to those of another, with the globals outside of them: the
blocks are for the same calls, with the same names, each with its own array; there may be more
globals. A scalar whose name is bound further in is the same. -/
inductive KeepsIn (globals globals' : Scope) :
    (Name → Prop) → List CallBlock → List CallBlock → Prop
  | globals {bound : Name → Prop} :
      (∀ x v, globals.get? x = some v → ∃ v', globals'.get? x = some v' ∧ v'.array = v.array) →
      (∀ x, bound x → globals'.get? x = globals.get? x) → KeepsIn globals globals' bound [] []
  | block {bound : Name → Prop} {b b' : CallBlock} {bs bs' : List CallBlock} :
      (∀ x, (b'.locals.get? x).map (·.array) = (b.locals.get? x).map (·.array)) →
      (∀ x, bound x → b'.locals.get? x = b.locals.get? x) →
      KeepsIn globals globals' (fun x => bound x ∨ (b.locals.get? x).isSome) bs bs' →
      KeepsIn globals globals' bound (b :: bs) (b' :: bs')

namespace KeepsIn

variable {g g' g'' : Scope} {bound bound' : Name → Prop} {bs bs' bs'' : List CallBlock} {x : Name}

theorem mono (h : KeepsIn g g' bound bs bs') (hb : ∀ x, bound' x → bound x) :
    KeepsIn g g' bound' bs bs' := by
  induction h generalizing bound' with
  | globals harray hscalar => exact .globals harray fun x hx => hscalar x (hb x hx)
  | block harray hscalar _ ih =>
    exact .block harray (fun x hx => hscalar x (hb x hx)) (ih fun x hx => hx.imp_left (hb x))

theorem refl (g : Scope) (bound : Name → Prop) (bs : List CallBlock) :
    KeepsIn g g bound bs bs := by
  induction bs generalizing bound with
  | nil => exact .globals (fun x v h => ⟨v, h, rfl⟩) fun _ _ => rfl
  | cons b bs ih => exact .block (fun _ => rfl) (fun _ _ => rfl) (ih _)

theorem trans (h : KeepsIn g g' bound bs bs') (h' : KeepsIn g' g'' bound bs' bs'') :
    KeepsIn g g'' bound bs bs'' := by
  induction h generalizing bs'' with
  | globals harray hscalar =>
    obtain ⟨harray', hscalar'⟩ := h'
    refine .globals (fun x v hv => ?_) fun x hx => (hscalar' x hx).trans (hscalar x hx)
    obtain ⟨v', hv', ha'⟩ := harray x v hv
    obtain ⟨v'', hv'', ha''⟩ := harray' x v' hv'
    exact ⟨v'', hv'', ha''.trans ha'⟩
  | block harray hscalar _ ih =>
    cases h' with
    | block harray' hscalar' hrest =>
      refine .block (fun x => (harray' x).trans (harray x))
        (fun x hx => (hscalar' x hx).trans (hscalar x hx)) (ih (hrest.mono fun x hx => ?_))
      have hsame := congrArg Option.isSome (harray x)
      simp only [Option.isSome_map] at hsame
      rwa [hsame]

theorem length (h : KeepsIn g g' bound bs bs') : bs'.length = bs.length := by
  induction h with
  | globals => rfl
  | block _ _ _ ih => exact congrArg (· + 1) ih

/-- A name that no call has as a parameter stays so. -/
theorem unbound (h : KeepsIn g g' bound bs bs') (hx : ∀ b ∈ bs, b.locals.get? x = none) :
    ∀ b ∈ bs', b.locals.get? x = none := by
  induction h with
  | globals => exact hx
  | block harray _ _ ih =>
    obtain ⟨hb, hbs⟩ := List.forall_mem_cons.mp hx
    refine List.forall_mem_cons.mpr ⟨?_, ih hbs⟩
    have hsame := harray x
    rw [hb] at hsame
    exact Option.map_eq_none_iff.mp hsame

/-- A name that stands for a variable stays with its array. -/
theorem findIn (h : KeepsIn g g' bound bs bs') {v : Variable}
    (hv : Environment.findIn x g bs = some v) :
    ∃ v', Environment.findIn x g' bs' = some v' ∧ v'.array = v.array := by
  induction h with
  | globals harray _ => exact harray x v hv
  | @block bound b b' _ _ harray _ _ ih =>
    have hsame := harray x
    rw [findIn_cons] at hv ⊢
    cases hb : b.locals.get? x with
    | some w =>
      rw [hb] at hv hsame
      cases hv
      obtain ⟨v', hv', ha⟩ := Option.map_eq_some_iff.mp hsame
      exact ⟨v', by rw [hv']; rfl, ha⟩
    | none =>
      rw [hb] at hv hsame
      rw [Option.map_eq_none_iff.mp hsame]
      exact ih hv

theorem putIn {x : Name} {v : Variable} (hx : ¬ bound x) (h : putIn x v bs = some bs')
    (hv : ∀ w, Environment.findIn x g bs = some w → v.array = w.array) :
    KeepsIn g g bound bs bs' := by
  induction bs generalizing bs' bound with
  | nil => cases h
  | cons b bs ih =>
    rw [putIn_cons] at h
    rw [findIn_cons] at hv
    split at h
    · rename_i hsome
      cases h
      obtain ⟨w, hw⟩ := Option.isSome_iff_exists.mp hsome
      refine .block (fun y => ?_) (fun y hy => ?_) (.refl g _ bs)
      · rw [Scope.get?_put]
        split
        · rename_i hy
          rw [hy, hw]
          exact congrArg some (hv w (by rw [hw]; rfl))
        · rfl
      · exact Scope.get?_put_ne fun hyx => hx (hyx ▸ hy)
    · rename_i hnone
      obtain ⟨bs₁, hbs, rfl⟩ := Option.map_eq_some_iff.mp h
      refine .block (fun _ => rfl) (fun _ _ => rfl) (ih (not_or.mpr ⟨hx, hnone⟩) hbs ?_)
      rwa [Option.not_isSome_iff_eq_none.mp hnone] at hv

theorem put {x : Name} {v : Variable} (hx : ¬ bound x) (h : Environment.putIn x v bs = none)
    (hv : ∀ w, Environment.findIn x g bs = some w → v.array = w.array) :
    KeepsIn g (g.put x v) bound bs bs := by
  induction bs generalizing bound with
  | nil =>
    refine .globals (fun y w hw => ?_) fun y hy => Scope.get?_put_ne fun hyx => hx (hyx ▸ hy)
    rw [Scope.get?_put]
    split
    · rename_i hy
      exact ⟨v, rfl, hv w (hy ▸ hw)⟩
    · exact ⟨w, hw, rfl⟩
  | cons b bs ih =>
    rw [putIn_cons] at h
    rw [findIn_cons] at hv
    split at h
    · cases h
    · rename_i hnone
      refine .block (fun _ => rfl) (fun _ _ => rfl)
        (ih (not_or.mpr ⟨hx, hnone⟩) (Option.map_eq_none_iff.mp h) ?_)
      rwa [Option.not_isSome_iff_eq_none.mp hnone] at hv

end KeepsIn

/-- The blocks and the globals of one environment are kept in another, which uses the same arrays and
maybe more. -/
structure Keeps (env env' : Environment) : Prop where
  scopes : KeepsIn env.globals env'.globals (fun _ => False) env.blocks env'.blocks
  nextArray : env.nextArray ≤ env'.nextArray

/-- No active call has a parameter of that name. -/
def Unbound (env : Environment) (x : Name) : Prop := ∀ b ∈ env.blocks, b.locals.get? x = none

namespace Keeps

variable {env env' env'' : Environment} {x : Name}

theorem refl (env : Environment) : Keeps env env := ⟨.refl _ _ _, le_rfl⟩

theorem trans (h : Keeps env env') (h' : Keeps env' env'') : Keeps env env'' :=
  ⟨h.scopes.trans h'.scopes, h.nextArray.trans h'.nextArray⟩

theorem depth (h : Keeps env env') : env'.depth = env.depth := h.scopes.length

theorem unbound (h : Keeps env env') (hx : env.Unbound x) : env'.Unbound x := h.scopes.unbound hx

theorem lookup (h : Keeps env env') {v : Variable} (hv : env.lookup x = some v) :
    ∃ v', env'.lookup x = some v' ∧ v'.array = v.array := h.scopes.findIn hv

theorem put {v : Variable} (hv : ∀ w, env.lookup x = some w → v.array = w.array) :
    Keeps env (env.put x v) := by
  unfold Environment.put
  split
  · rename_i blocks h
    exact ⟨.putIn not_false h hv, le_rfl⟩
  · rename_i h
    exact ⟨.put not_false h hv, le_rfl⟩

theorem obtain_ (env : Environment) (x : Name) : Keeps env (env.obtain x).2 := by
  cases h : env.lookup x with
  | some v =>
    rw [obtain_of_some h]
    exact .refl env
  | none =>
    rw [obtain_of_none h]
    have hfresh : Keeps env (env.fresh .empty).2 := ⟨.refl _ _ _, Nat.le_succ _⟩
    refine hfresh.trans (.put fun w hw => ?_)
    rw [show (env.fresh .empty).2.lookup x = env.lookup x from rfl, h] at hw
    cases hw

theorem setValue (env : Environment) (x : Name) (a : Value) : Keeps env (env.setValue x a) := by
  refine (Keeps.obtain_ env x).trans (.put fun w hw => ?_)
  rw [lookup_obtain, if_pos rfl] at hw
  cases hw
  rfl

theorem modifyArray (env : Environment) (i : Nat) (f : Elements → Elements) :
    Keeps env (env.modifyArray i f) := ⟨.refl _ _ _, le_rfl⟩

theorem modifyElements (env : Environment) (x : Name) (f : Elements → Elements) :
    Keeps env (env.modifyElements x f) :=
  (Keeps.obtain_ env x).trans (modifyArray _ _ f)

theorem element (env : Environment) (x : Name) (key : String) :
    Keeps env (env.element x key).2 := by
  obtain h | h := element_cases env x key
  · rw [h]
    exact .obtain_ env x
  · rw [h]
    exact .modifyElements env x _

theorem setReturned (env : Environment) (a : Value) : Keeps env (env.setReturned a) := by
  obtain ⟨globals, blocks, returned, arrays, nextArray⟩ := env
  cases blocks with
  | nil => exact ⟨.refl _ _ _, le_rfl⟩
  | cons b blocks =>
    exact ⟨.block (fun _ => rfl) (fun _ _ => rfl) (.refl _ _ _), le_rfl⟩

end Keeps

end Environment

end Awk
