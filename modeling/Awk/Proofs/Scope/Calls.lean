import Awk.Proofs.Scope.Keeps

/-! Entering and leaving calls. -/

namespace Awk

namespace Environment

/-- The variable that an argument is bound to, where arrays from `next` on are not in use. -/
def Argument.variable (next : Nat) : Argument → Variable
  | nothing => ⟨.empty, next⟩
  | value v => ⟨v, next⟩
  | shared source => source

/-- Whether a parameter has an array of its own. -/
def Argument.isOwn : Argument → Bool
  | shared _ => false
  | _ => true

/-- The locals of a call, and from where on arrays are then not in use. -/
def bindFrom : Nat → Scope → List (Name × Argument) → Scope × Nat
  | next, locals, [] => (locals, next)
  | next, locals, (x, a) :: ps =>
    bindFrom (if a.isOwn then next + 1 else next) (locals.put x (a.variable next)) ps

theorem bindAll_eq (env : Environment) (ps : List (Name × Argument)) :
    env.bindAll ps =
      ((bindFrom env.nextArray [] ps).1, { env with nextArray := (bindFrom env.nextArray [] ps).2 }) := by
  have hfrom (locals : Scope) (env : Environment) :
      ps.foldl (fun found p => found.2.bind p.1 found.1 p.2) (locals, env) =
        ((bindFrom env.nextArray locals ps).1,
          { env with nextArray := (bindFrom env.nextArray locals ps).2 }) := by
    induction ps generalizing locals env with
    | nil => rfl
    | cons p ps ih =>
      obtain ⟨x, a⟩ := p
      cases a <;> exact ih _ _
  exact hfrom [] env

theorem push_eq (env : Environment) (ps : List (Name × Argument)) :
    env.push ps = { env with
      blocks := ⟨(bindFrom env.nextArray [] ps).1, .empty⟩ :: env.blocks
      nextArray := (bindFrom env.nextArray [] ps).2 } := by
  unfold push
  rw [bindAll_eq]

theorem le_bindFrom (next : Nat) (locals : Scope) (ps : List (Name × Argument)) :
    next ≤ (bindFrom next locals ps).2 := by
  induction ps generalizing next locals with
  | nil => exact le_rfl
  | cons p ps ih =>
    refine le_trans ?_ (ih _ _)
    split <;> omega

/-- A name that is no parameter is no local. -/
theorem bindFrom_get?_of_notMem {x : Name} {ps : List (Name × Argument)}
    (hx : ∀ p ∈ ps, p.1 ≠ x) (next : Nat) (locals : Scope) :
    (bindFrom next locals ps).1.get? x = locals.get? x := by
  induction ps generalizing next locals with
  | nil => rfl
  | cons p ps ih =>
    obtain ⟨hp, hps⟩ := List.forall_mem_cons.mp hx
    exact (ih hps _ _).trans (Scope.get?_put_ne (Ne.symm hp))

variable {env : Environment} {x : Name} {ps : List (Name × Argument)}

/-- What a name that is no parameter stands for is the same inside of a call. -/
theorem lookup_push (hx : ∀ p ∈ ps, p.1 ≠ x) : (env.push ps).lookup x = env.lookup x := by
  rw [push_eq]
  show findIn x env.globals (_ :: env.blocks) = _
  rw [findIn_cons, bindFrom_get?_of_notMem hx]
  rfl

theorem value_push (hx : ∀ p ∈ ps, p.1 ≠ x) : (env.push ps).value x = env.value x := by
  rw [value_eq, lookup_push hx, value_eq]

theorem Unbound.push (h : env.Unbound x) (hx : ∀ p ∈ ps, p.1 ≠ x) : (env.push ps).Unbound x := by
  rw [push_eq]
  exact List.forall_mem_cons.mpr ⟨bindFrom_get?_of_notMem hx _ _, h⟩

/-- Leaving a call without a parameter of the name. -/
theorem Unbound.value_pop (h : env.Unbound x) : env.pop.2.value x = env.value x := by
  obtain ⟨globals, blocks, returned, arrays, nextArray⟩ := env
  cases blocks with
  | nil => rfl
  | cons b bs =>
    have hb := (List.forall_mem_cons.mp h).1
    show ((findIn x globals bs).map (·.value)).getD .empty =
      ((findIn x globals (b :: bs)).map (·.value)).getD .empty
    rw [findIn_cons, hb]
    rfl

theorem Unbound.pop (h : env.Unbound x) : env.pop.2.Unbound x := by
  obtain ⟨globals, blocks, returned, arrays, nextArray⟩ := env
  cases blocks with
  | nil => exact h
  | cons b bs => exact (List.forall_mem_cons.mp h).2

end Environment

end Awk
