import Awk.Proofs.Expression.Precedence
import Awk.Proofs.Expression.Segment
import Awk.Proofs.Invariant.Stopped

/-! What evaluation comes to, whatever fuel that takes. As more fuel changes nothing that has come
to an end, what a sequence of steps comes to is what the steps come to one after another. -/

namespace Awk

open Machine Run

namespace Run

variable {α β : Type}

/-- With enough fuel `x` gives `a` and leaves `m'`. -/
def Yields (x : Inner → Run α) (m : Machine) (a : α) (m' : Machine) : Prop :=
  ∃ n, x (.withFuel n) m = .ok a m'

/-- Whatever `x` ends with, it ends with when there is more fuel. -/
def Steady (x : Inner → Run α) : Prop :=
  ∀ self other : Inner, self.Below other → (x self).Below (x other)

theorem Steady.const (x : Run α) : Steady fun _ => x := fun _ _ _ => .refl x

theorem Steady.bind {x : Inner → Run α} {f : α → Inner → Run β} (hx : Steady x)
    (hf : ∀ a, Steady (f a)) : Steady (fun self => do f (← x self) self) :=
  fun _ _ h => (hx _ _ h).bind fun a => hf a _ _ h

theorem Steady.more {x : Inner → Run α} (hx : Steady x) {n k : Nat} (hn : n ≤ k) {a : α}
    {m m' : Machine} (h : x (.withFuel n) m = .ok a m') : x (.withFuel k) m = .ok a m' :=
  hx _ _ (Inner.below_withFuel hn) m a m' h

namespace Yields

variable {m m' : Machine}

/-- What an evaluation comes to does not depend on the fuel. -/
theorem unique {x : Inner → Run α} (hx : Steady x) {a b : α} {m₁ m₂ : Machine}
    (ha : Yields x m a m₁) (hb : Yields x m b m₂) : a = b ∧ m₁ = m₂ := by
  obtain ⟨n, ha⟩ := ha
  obtain ⟨k, hb⟩ := hb
  have hboth := (hx.more (Nat.le_max_left n k) ha).symm.trans (hx.more (Nat.le_max_right n k) hb)
  exact EStateM.Result.ok.inj hboth

theorem const_iff {x : Run α} {a : α} : Yields (fun _ => x) m a m' ↔ x m = .ok a m' := by
  constructor
  · rintro ⟨_, h⟩
    exact h
  · exact fun h => ⟨0, h⟩

/-- Two steps come to what the second one comes to from where the first one has ended. -/
theorem bind_iff {x : Inner → Run α} {f : α → Inner → Run β} (hx : Steady x)
    (hf : ∀ a, Steady (f a)) {b : β} :
    Yields (fun self => do f (← x self) self) m b m' ↔
      ∃ a m₁, Yields x m a m₁ ∧ Yields (f a) m₁ b m' := by
  constructor
  · rintro ⟨n, h⟩
    obtain ⟨a, m₁, ha, hb⟩ := bind_eq_ok h
    exact ⟨a, m₁, ⟨n, ha⟩, ⟨n, hb⟩⟩
  · rintro ⟨a, m₁, ⟨n, ha⟩, ⟨k, hb⟩⟩
    have hfirst := hx.more (Nat.le_max_left n k) ha
    have hsecond := (hf a).more (Nat.le_max_right n k) hb
    exact ⟨max n k, (bind_ok hfirst).trans hsecond⟩

/-- A step that is followed by one without any fuel in it. -/
theorem map_iff {x : Inner → Run α} {f : α → Run β} (hx : Steady x) {b : β} :
    Yields (fun self => do f (← x self)) m b m' ↔ ∃ a m₁, Yields x m a m₁ ∧ f a m₁ = .ok b m' := by
  rw [bind_iff hx fun a => Steady.const (f a)]
  simp only [const_iff]

/-- A step whose result is only made into another one. -/
theorem return_iff {x : Inner → Run α} (hx : Steady x) {f : α → β} {b : β} :
    Yields (fun self => do return f (← x self)) m b m' ↔ ∃ a, Yields x m a m' ∧ f a = b := by
  rw [map_iff hx]
  constructor
  · rintro ⟨a, _, ha, ⟨⟩⟩
    exact ⟨a, ha, rfl⟩
  · rintro ⟨a, ha, rfl⟩
    exact ⟨a, m', ha, rfl⟩

theorem congr {x y : Inner → Run α} (h : ∀ n, x (.withFuel n) = y (.withFuel n)) {a : α} :
    Yields x m a m' ↔ Yields y m a m' :=
  exists_congr fun n => by rw [h n]

/-- A result with some fuel. -/
theorem exists_of_result {x : Inner → Run α} {a : α} (n : Nat)
    (h : (x (.withFuel n)).run' m = some a) : ∃ m', Yields x m a m' := by
  unfold EStateM.run' EStateM.run at h
  cases hx : x (.withFuel n) m with
  | ok b m' =>
    rw [hx] at h
    cases h
    exact ⟨m', n, hx⟩
  | error e m' =>
    rw [hx] at h
    cases h

end Yields

end Run

/-! The parts of the evaluator. -/

theorem Algebra.Below.evaluate {ι : Type} {A B : Algebra Run ι} (h : A.Below B) (t : Tree) :
    (t.evaluate A).Below (t.evaluate B) := by
  induction t with
  | operand t => exact h.operand t
  | before o t ih => exact ih.bind fun _ => h.apply _
  | after t o ih => exact ih.bind fun _ => h.apply _
  | between o l r ihl ihr => exact ihl.bind fun _ => ihr.bind fun _ => h.apply _

theorem Algebra.Below.finish {ι : Type} {A B : Algebra Run ι} (h : A.Below B) (f : Frame ι) :
    (A.finish f).Below (B.finish f) :=
  (h.reduceWhile _ _ f).bind h.result

namespace Inner

variable {m m' : Machine}

theorem steady_operand (e : Expr) : Steady (·.operand e) := fun _ _ h => h.operand e

theorem steady_settle (d : Delayed) : Steady (·.settle d) := fun _ _ h => h.settle d

theorem steady_force (d : Delayed) : Steady (·.force d) := fun _ _ h => h.force d

theorem steady_terms (e : Expr) : Steady (·.terms e) :=
  fun _ _ h => .onFrame ((h.pushTerms e).bind fun _ => h.finish)

theorem steady_apply (r : Reduction Delayed) : Steady (·.algebra.apply r) := fun _ _ h => h.apply r

theorem steady_operandOf (t : Term) : Steady (·.operandOf t) := fun _ _ h => h.operandOf t

theorem steady_pushOperator (o : Operator) (f : Frame Delayed) :
    Steady (·.algebra.pushOperator o f) := fun _ _ h => h.algebra.pushOperator o f

theorem steady_pushTerm (t : Term) (f : Frame Delayed) : Steady (·.algebra.pushTerm t f) :=
  fun _ _ h => h.algebra.pushTerm t f

theorem steady_pushTerms (e : Expr) (f : Frame Delayed) : Steady (·.algebra.pushTerms e f) :=
  fun _ _ h => h.algebra.pushTerms e f

theorem steady_finish (f : Frame Delayed) : Steady (·.algebra.finish f) :=
  fun _ _ h => h.algebra.finish f

theorem steady_evaluate (t : Tree) : Steady (t.evaluate ·.algebra) :=
  fun _ _ h => h.algebra.evaluate t

/-- An expression comes to what its terms come to, settled. -/
theorem yields_operand_iff {e : Expr} {x : Operand} :
    Yields (·.operand e) m x m' ↔
      ∃ d m₁, Yields (·.terms e) m d m₁ ∧ Yields (·.settle d) m₁ x m' := by
  have hexpression : Yields (·.operand e) m x m' ↔ Yields (·.expression e) m x m' := by
    constructor
    · rintro ⟨n | n, h⟩
      · cases h
      · exact ⟨n, h⟩
    · rintro ⟨n, h⟩
      exact ⟨n + 1, h⟩
  rw [hexpression]
  exact Yields.bind_iff (steady_terms e) steady_settle

/-- Forcing a group evaluates it. -/
theorem yields_force_group_iff {e : Expr} {v : Value} :
    Yields (·.force (.group e)) m v m' ↔
      ∃ d m₁, Yields (·.terms e) m d m₁ ∧ Yields (·.force d) m₁ v m' := by
  have hgroup : Yields (·.force (.group e)) m v m' ↔
      ∃ x m₁, Yields (·.operand e) m x m₁ ∧ (liftM (valueOf x) : Run Value) m₁ = .ok v m' :=
    Yields.map_iff (steady_operand e)
  have hforce (d : Delayed) (m₁ : Machine) : Yields (·.force d) m₁ v m' ↔
      ∃ x m₂, Yields (·.settle d) m₁ x m₂ ∧ (liftM (valueOf x) : Run Value) m₂ = .ok v m' :=
    Yields.map_iff (steady_settle d)
  simp only [hgroup, hforce, yields_operand_iff]
  constructor
  · rintro ⟨x, m₂, ⟨d, m₁, hd, hx⟩, hv⟩
    exact ⟨d, m₁, hd, x, m₂, hx, hv⟩
  · rintro ⟨d, m₁, hd, x, m₂, hx, hv⟩
    exact ⟨x, m₂, ⟨d, m₁, hd, hx⟩, hv⟩

/-- The terms of a separated tree come to what the tree comes to. -/
theorem yields_terms_iff {t : Tree} (ht : t.Separated) {d : Delayed} :
    Yields (·.terms t.terms) m d m' ↔ Yields (t.evaluate ·.algebra) m d m' :=
  Yields.congr fun n => by
    rw [terms_withFuel]
    exact Algebra.run_eq_evaluate _ (Tree.build_terms ht) ht.placed.explicit_terms

/-- Terms that are pushed one part after the other. -/
theorem yields_terms_append_iff {a b : Expr} {d : Delayed} :
    Yields (·.terms (a ++ b)) m d m' ↔
      ∃ f m₁, Yields (·.algebra.pushTerms a .empty) m f m₁ ∧
        Yields (fun self => do self.algebra.finish (← self.algebra.pushTerms b f)) m₁ d m' := by
  have hrun : Yields (·.terms (a ++ b)) m d m' ↔ Yields (fun self => do
      let f ← self.algebra.pushTerms a .empty
      self.algebra.finish (← self.algebra.pushTerms b f)) m d m' :=
    Yields.congr fun n => by
      rw [terms_withFuel, Algebra.run, Algebra.pushTerms_append, bind_assoc]
  rw [hrun]
  exact Yields.bind_iff (steady_pushTerms a .empty) fun f =>
    Steady.bind (steady_pushTerms b f) steady_finish

/-! Calls of built-in functions. -/

variable {m₁ : Machine} {e : Expr} {es : List Expr} {o : Operand} {os : List Operand}
  {p : Option Operand}

theorem steady_operands (es : List Expr) : Steady fun self => Run.collect self.operand es :=
  fun _ _ h => .collect h.operand es

theorem yields_operands_nil (m : Machine) :
    Yields (fun self => Run.collect self.operand []) m [] m := ⟨0, rfl⟩

theorem yields_operands_cons (ho : Yields (·.operand e) m o m₁)
    (hos : Yields (fun self => Run.collect self.operand es) m₁ os m') :
    Yields (fun self => Run.collect self.operand (e :: es)) m (o :: os) m' := by
  have hrest (o : Operand) :
      Steady fun self => (do return o :: (← Run.collect self.operand es) : Run (List Operand)) :=
    Steady.bind (steady_operands es) fun os => Steady.const (pure (o :: os))
  exact (Yields.bind_iff (steady_operand e) hrest).mpr
    ⟨o, m₁, ho, (Yields.return_iff (steady_operands es)).mpr ⟨os, hos, rfl⟩⟩

theorem yields_mapM_none (h : Yields (fun self => (none : Option Expr).mapM self.operand) m p m') :
    p = none ∧ m' = m := by
  obtain ⟨_, ⟨⟩⟩ := h
  exact ⟨rfl, rfl⟩

theorem yields_mapM_some_iff : Yields (fun self => (some e).mapM self.operand) m p m' ↔
    ∃ o, Yields (·.operand e) m o m' ∧ some o = p :=
  Yields.return_iff (steady_operand e)

/-- An expression of one term comes to the operand of the term. -/
theorem yields_operand_term {t : Term} (ht : ∀ o, t ≠ .op o) {d : Delayed}
    (hd : Yields (·.operandOf t) m d m₁) (ho : Yields (·.settle d) m₁ o m') :
    Yields (·.operand [t]) m o m' :=
  yields_operand_iff.mpr ⟨d, m₁, (yields_terms_iff (.operand ht)).mpr hd, ho⟩

theorem yields_operand_var (x : Name) (m : Machine) :
    Yields (·.operand [.var x]) m (.place (.scalar x)) m :=
  yields_operand_term (by nofun) ⟨0, rfl⟩ ⟨0, rfl⟩

theorem yields_operand_element (x : Name) (key : String) (m : Machine) :
    Yields (·.operand [.element x [[.value ⟨key⟩]]]) m (.place (.element x key)) m := ⟨3, rfl⟩

/-- A call of a built-in function comes to what the function does with its operands. -/
theorem yields_builtin {b : Builtin} (hcount : b.accepts es.length)
    (hos : Yields (fun self => Run.collect self.operand es) m os m₁) {v : Value}
    (hv : b.apply os m₁ = (v, m')) :
    Yields (·.operand [.call (.builtin b) es]) m (.value v) m' := by
  have happly : (liftM (b.apply os) : Run Value) m₁ = .ok v m' := by
    show (let (r, m) := b.apply os m₁; EStateM.Result.ok r m : Run.Outcome Value) = _
    rw [hv]
  have hcall : Yields (·.call (.builtin b) es) m v m' :=
    (Yields.congr fun n => if_pos hcount).mpr <|
      (Yields.map_iff (steady_operands es)).mpr ⟨os, m₁, hos, happly⟩
  have hterm : Yields (·.operandOf (.call (.builtin b) es)) m (.ofValue v) m' :=
    (Yields.return_iff fun _ _ h => h.call _ es).mpr ⟨v, hcall, rfl⟩
  exact yields_operand_term (by nofun) hterm ⟨0, rfl⟩

end Inner

end Awk
