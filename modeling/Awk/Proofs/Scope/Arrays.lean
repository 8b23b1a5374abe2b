import Std.Data.TreeMap.Lemmas
import Awk.Proofs.Scope.Calls

/-! Which arrays are in use. A variable gets an array that no variable has had, or shares one that
is in use; so no array that is in use is handed out again. -/

namespace Awk

namespace Scope

variable {s : Scope} {x : Name} {v : Variable} {p : Name × Variable}

theorem mem_of_get? (h : s.get? x = some v) : (x, v) ∈ s := by
  induction s with
  | nil => cases h
  | cons entry s ih =>
    obtain ⟨n, w⟩ := entry
    rw [get?_cons] at h
    split at h
    · rename_i hx
      cases h
      exact hx ▸ List.mem_cons_self
    · exact List.mem_cons_of_mem _ (ih h)

theorem mem_put (h : p ∈ s.put x v) : p ∈ s ∨ p = (x, v) := by
  induction s with
  | nil => exact .inr (List.mem_singleton.mp h)
  | cons entry s ih =>
    obtain ⟨n, w⟩ := entry
    rw [put_cons] at h
    split at h
    · rename_i hx
      obtain rfl | h := List.mem_cons.mp h
      · exact .inr (hx ▸ rfl)
      · exact .inl (List.mem_cons_of_mem _ h)
    · obtain rfl | h := List.mem_cons.mp h
      · exact .inl List.mem_cons_self
      · exact (ih h).imp_left (List.mem_cons_of_mem _)

end Scope

namespace Environment

/-- The entries of all scopes, those of the active calls and the globals. -/
def entries (env : Environment) : List (Name × Variable) :=
  env.blocks.flatMap (·.locals) ++ env.globals

/-- Each variable's array is in use, and an array that is not in use is empty. -/
structure WellFormed (env : Environment) : Prop where
  entries : ∀ p ∈ env.entries, p.2.array < env.nextArray
  arrays : ∀ i ∈ env.arrays.keys, i < env.nextArray

instance (env : Environment) : Decidable env.WellFormed :=
  decidable_of_iff
    ((∀ p ∈ env.entries, p.2.array < env.nextArray) ∧ ∀ i ∈ env.arrays.keys, i < env.nextArray)
    ⟨fun h => ⟨h.1, h.2⟩, fun h => ⟨h.entries, h.arrays⟩⟩

variable {env : Environment} {x : Name} {v : Variable} {p : Name × Variable}

theorem mem_entries_of_lookup (h : env.lookup x = some v) : (x, v) ∈ env.entries := by
  have hblocks (bs : List CallBlock) (h : findIn x env.globals bs = some v) :
      (x, v) ∈ bs.flatMap (·.locals) ++ env.globals := by
    induction bs with
    | nil => exact Scope.mem_of_get? h
    | cons b bs ih =>
      rw [findIn_cons] at h
      rw [List.flatMap_cons, List.append_assoc]
      cases hb : b.locals.get? x with
      | some w =>
        rw [hb] at h
        cases h
        exact List.mem_append_left _ (Scope.mem_of_get? hb)
      | none =>
        rw [hb] at h
        exact List.mem_append_right _ (ih h)
  exact hblocks env.blocks h

theorem mem_of_putIn {bs bs' : List CallBlock} (h : putIn x v bs = some bs')
    (hp : p ∈ bs'.flatMap (·.locals)) : p ∈ bs.flatMap (·.locals) ∨ p = (x, v) := by
  induction bs generalizing bs' with
  | nil => cases h
  | cons b bs ih =>
    rw [putIn_cons] at h
    rw [List.flatMap_cons]
    split at h
    · cases h
      obtain hp | hp := List.mem_append.mp hp
      · exact (Scope.mem_put hp).imp_left (List.mem_append_left _)
      · exact .inl (List.mem_append_right _ hp)
    · obtain ⟨bs₁, hbs, rfl⟩ := Option.map_eq_some_iff.mp h
      obtain hp | hp := List.mem_append.mp hp
      · exact .inl (List.mem_append_left _ hp)
      · exact (ih hbs hp).imp_left (List.mem_append_right _)

theorem mem_entries_put (hp : p ∈ (env.put x v).entries) : p ∈ env.entries ∨ p = (x, v) := by
  unfold put at hp
  split at hp
  · rename_i blocks h
    obtain hp | hp := List.mem_append.mp hp
    · exact (mem_of_putIn h hp).imp_left (List.mem_append_left _)
    · exact .inl (List.mem_append_right _ hp)
  · obtain hp | hp := List.mem_append.mp hp
    · exact .inl (List.mem_append_left _ hp)
    · exact (Scope.mem_put hp).imp_left (List.mem_append_right _)

@[simp] theorem put_arrays (env : Environment) (x : Name) (v : Variable) :
    (env.put x v).arrays = env.arrays := by
  unfold put
  split <;> rfl

@[simp] theorem put_nextArray (env : Environment) (x : Name) (v : Variable) :
    (env.put x v).nextArray = env.nextArray := by
  unfold put
  split <;> rfl

/-! Binding parameters. -/

/-- Locals with arrays before `next`, where those from `first` on are not shared. -/
structure OwnFrom (first next : Nat) (locals : Scope) : Prop where
  lt : ∀ p ∈ locals, p.2.array < next
  own : ∀ y z v w, locals.get? y = some v → locals.get? z = some w → first ≤ v.array →
    v.array = w.array → y = z

theorem OwnFrom.nil (first next : Nat) : OwnFrom first next [] := ⟨nofun, nofun⟩

theorem OwnFrom.put {first next : Nat} {locals : Scope} (h : OwnFrom first next locals)
    (hnext : first ≤ next) {a : Argument}
    (ha : ∀ source, a = .shared source → source.array < first) (x : Name) :
    OwnFrom first (if a.isOwn then next + 1 else next) (locals.put x (a.variable next)) := by
  have harray : (a.variable next).array < if a.isOwn then next + 1 else next := by
    cases a with
    | shared source => exact (ha source rfl).trans_le hnext
    | _ => exact Nat.lt_succ_self _
  have hle : next ≤ if a.isOwn then next + 1 else next := by
    split <;> omega
  have hne (v : Variable) (hv : v.array < next) (hfirst : first ≤ v.array) :
      v.array ≠ (a.variable next).array := by
    cases a with
    | shared source => exact ((ha source rfl).trans_le hfirst).ne'
    | _ => exact hv.ne
  refine ⟨fun p hp => ?_, fun y z v w hv hw hfirst hsame => ?_⟩
  · obtain hp | rfl := Scope.mem_put hp
    · exact (h.lt p hp).trans_le hle
    · exact harray
  · rw [Scope.get?_put] at hv hw
    split at hv <;> split at hw
    · rename_i hy hz
      rw [hy, hz]
    · cases hv
      exact absurd hsame.symm (hne w (h.lt _ (Scope.mem_of_get? hw)) (hsame ▸ hfirst))
    · cases hw
      exact absurd hsame (hne v (h.lt _ (Scope.mem_of_get? hv)) hfirst)
    · exact h.own y z v w hv hw hfirst hsame

/-- What is bound without sharing an array gets one of its own. -/
theorem ownFrom_bindFrom {first next : Nat} {locals : Scope} {ps : List (Name × Argument)}
    (h : OwnFrom first next locals) (hnext : first ≤ next)
    (hps : ∀ p ∈ ps, ∀ source, p.2 = .shared source → source.array < first) :
    OwnFrom first (bindFrom next locals ps).2 (bindFrom next locals ps).1 := by
  induction ps generalizing next locals with
  | nil => exact h
  | cons p ps ih =>
    obtain ⟨hp, hps⟩ := List.forall_mem_cons.mp hps
    refine ih (h.put hnext hp p.1) ?_ hps
    split <;> omega

/-- What a parameter is bound to, where all have different names. -/
theorem bindFrom_get? {ps : List (Name × Argument)} (hnodup : (ps.map (·.1)).Nodup) {x : Name}
    {a : Argument} (hx : (x, a) ∈ ps) (next : Nat) (locals : Scope) :
    ∃ k, next ≤ k ∧ (bindFrom next locals ps).1.get? x = some (a.variable k) := by
  induction ps generalizing next locals with
  | nil => cases hx
  | cons p ps ih =>
    obtain ⟨hp, hnodup⟩ := List.nodup_cons.mp hnodup
    obtain rfl | hx := List.mem_cons.mp hx
    · refine ⟨next, le_rfl, ?_⟩
      have hother : ∀ q ∈ ps, q.1 ≠ x := fun q hq hqx =>
        hp (List.mem_map.mpr ⟨q, hq, hqx⟩)
      exact (bindFrom_get?_of_notMem hother _ _).trans Scope.get?_put_self
    · obtain ⟨k, hk, hget⟩ := ih hnodup hx (if p.2.isOwn then next + 1 else next)
        (locals.put p.1 (p.2.variable next))
      refine ⟨k, le_trans ?_ hk, hget⟩
      split <;> omega

namespace WellFormed

theorem empty : Environment.empty.WellFormed where
  entries _ h := nomatch h
  arrays i hi := by
    have hkeys : (∅ : Std.TreeMap Nat Elements).keys = [] := rfl
    rw [show Environment.empty.arrays = ∅ from rfl, hkeys] at hi
    cases hi

variable (h : env.WellFormed)

include h

theorem lookup (hv : env.lookup x = some v) : v.array < env.nextArray :=
  h.entries _ (mem_entries_of_lookup hv)

/-- Arrays that are not in use are empty. -/
theorem elements_unused {i : Nat} (hi : env.nextArray ≤ i) : env.elements i = ∅ := by
  have hnot : i ∉ env.arrays := fun hmem =>
    absurd (h.arrays i (Std.TreeMap.mem_keys.mpr hmem)) (Nat.not_lt.mpr hi)
  exact Std.TreeMap.getD_eq_fallback hnot

theorem put (hv : v.array < env.nextArray) : (env.put x v).WellFormed where
  entries p hp := by
    rw [put_nextArray]
    obtain hp | rfl := mem_entries_put hp
    · exact h.entries p hp
    · exact hv
  arrays i hi := by
    rw [put_arrays] at hi
    rw [put_nextArray]
    exact h.arrays i hi

theorem fresh (a : Value) : (env.fresh a).2.WellFormed where
  entries p hp := (h.entries p hp).trans (Nat.lt_succ_self _)
  arrays i hi := (h.arrays i hi).trans (Nat.lt_succ_self _)

theorem obtain_ (x : Name) :
    (env.obtain x).2.WellFormed ∧ (env.obtain x).1.array < (env.obtain x).2.nextArray := by
  cases hx : env.lookup x with
  | some v =>
    rw [obtain_of_some hx]
    exact ⟨h, h.lookup hx⟩
  | none =>
    rw [obtain_of_none hx]
    refine ⟨(h.fresh .empty).put (Nat.lt_succ_self _), ?_⟩
    rw [put_nextArray]
    exact Nat.lt_succ_self _

theorem setValue (x : Name) (a : Value) : (env.setValue x a).WellFormed :=
  (h.obtain_ x).1.put (h.obtain_ x).2

theorem modifyArray {i : Nat} (hi : i < env.nextArray) (f : Elements → Elements) :
    (env.modifyArray i f).WellFormed where
  entries := h.entries
  arrays j hj := by
    obtain hji | hj := Std.TreeMap.mem_insert.mp (Std.TreeMap.mem_keys.mp hj)
    · rwa [← Nat.compare_eq_eq.mp hji]
    · exact h.arrays j (Std.TreeMap.mem_keys.mpr (Std.TreeMap.mem_of_mem_erase hj))

theorem modifyElements (x : Name) (f : Elements → Elements) :
    (env.modifyElements x f).WellFormed := (h.obtain_ x).1.modifyArray (h.obtain_ x).2 f

theorem element (x : Name) (key : String) : (env.element x key).2.WellFormed := by
  obtain hsame | hsame := element_cases env x key
  · rw [hsame]
    exact (h.obtain_ x).1
  · rw [hsame]
    exact h.modifyElements x _

theorem setReturned (a : Value) : (env.setReturned a).WellFormed := by
  obtain ⟨globals, blocks, returned, arrays, nextArray⟩ := env
  cases blocks with
  | nil => exact ⟨h.entries, h.arrays⟩
  | cons b blocks => exact ⟨h.entries, h.arrays⟩

theorem push {ps : List (Name × Argument)}
    (hps : ∀ p ∈ ps, ∀ source, p.2 = .shared source → source.array < env.nextArray) :
    (env.push ps).WellFormed := by
  rw [push_eq]
  have hle := le_bindFrom env.nextArray [] ps
  refine ⟨fun p hp => ?_, fun i hi => (h.arrays i hi).trans_le hle⟩
  obtain hp | hp := List.mem_append.mp (show p ∈ (_ ++ _ : List (Name × Variable)) from hp)
  · rw [List.flatMap_cons] at hp
    obtain hp | hp := List.mem_append.mp hp
    · exact (ownFrom_bindFrom (.nil _ _) le_rfl hps).lt p hp
    · exact (h.entries p (List.mem_append_left _ hp)).trans_le hle
  · exact (h.entries p (List.mem_append_right _ hp)).trans_le hle

theorem pop : env.pop.2.WellFormed := by
  obtain ⟨globals, blocks, returned, arrays, nextArray⟩ := env
  cases blocks with
  | nil => exact h
  | cons b blocks =>
    refine ⟨fun p hp => h.entries p ?_, h.arrays⟩
    show p ∈ (b :: blocks).flatMap (·.locals) ++ globals
    rw [List.flatMap_cons, List.append_assoc]
    exact List.mem_append_right _ hp

end WellFormed

end Environment

end Awk
