import Awk.Proofs.Control.Yields
import Awk.Proofs.Expression.Affixed
import Awk.Proofs.Order.Juxtaposition
import Awk.Proofs.Scope.Renumbering

/-! Steps that can change places, whatever fuel they take. Of an operator between two operands the
right one comes before the value of the left one is read, and the term behind a concatenation that
is written as nothing comes before what is pending on its left. What is left may be the same machine
in either order, or the same but for the numbers of the arrays that both steps make. -/

namespace Awk

open Machine Run

/-- Whichever of `x` and `y` is done first, the same comes of them. -/
def Run.Interchange {α β : Type} (x : Inner → Run α) (y : Inner → Run β) (m : Machine) : Prop :=
  ∀ a b m', (∃ m₁, Yields x m a m₁ ∧ Yields y m₁ b m') ↔
    ∃ m₁, Yields y m b m₁ ∧ Yields x m₁ a m'

namespace Run.Interchange

variable {α β : Type} {m : Machine}

/-- A step that only gives a result can be done at any time. -/
theorem pure_left {x : Inner → Run α} {a : α} (hx : ∀ n, x (.withFuel n) = pure a)
    (y : Inner → Run β) : Interchange x y m := by
  have hyields (m₁ m₂ : Machine) (a' : α) : Yields x m₁ a' m₂ ↔ a = a' ∧ m₁ = m₂ := by
    rw [Yields.congr (y := fun _ => pure a) hx, Yields.const_iff]
    exact EStateM.Result.ok.injEq a m₁ a' m₂ ▸ Iff.rfl
  intro a' b m'
  simp only [hyields]
  constructor
  · rintro ⟨_, ⟨rfl, rfl⟩, hy⟩
    exact ⟨m', hy, rfl, rfl⟩
  · rintro ⟨_, hy, rfl, rfl⟩
    exact ⟨m, ⟨rfl, rfl⟩, hy⟩

theorem symm {x : Inner → Run α} {y : Inner → Run β} (h : Interchange x y m) :
    Interchange y x m := fun b a m' => (h a b m').symm

/-- Looking something up can change places with a step if and only if the step leaves it as it
is. -/
theorem get_iff (f : Machine → α) (y : Inner → Run β) :
    Interchange (fun _ => do return f (← get)) y m ↔
      ∀ b m', Yields y m b m' → f m' = f m := by
  constructor
  · intro h b m' hy
    obtain ⟨m₁, _, _, hread⟩ := (h (f m) b m').mp ⟨m, ⟨0, rfl⟩, hy⟩
    have hsame : f m₁ = f m ∧ m₁ = m' := EStateM.Result.ok.inj hread
    rw [← hsame.2, hsame.1]
  · intro h a b m'
    constructor
    · rintro ⟨_, ⟨_, ⟨⟩⟩, hy⟩
      exact ⟨m', hy, 0, congrArg (EStateM.Result.ok · m') (h b m' hy)⟩
    · rintro ⟨m₁, hy, _, ⟨⟩⟩
      exact ⟨m, ⟨0, congrArg (EStateM.Result.ok · m) (h b _ hy).symm⟩, hy⟩

end Run.Interchange

/-! The same as far as a relation of machines says. -/

namespace Run

variable {α β γ : Type} {same : Machine → Machine → Prop} {m m' : Machine}

/-- Whatever `x` comes to from `m`, `y` comes to from `m'`, and the machines that they leave are the
same. -/
def Follows (same : Machine → Machine → Prop) (x y : Inner → Run α) (m m' : Machine) : Prop :=
  ∀ a m₁, Yields x m a m₁ → ∃ m₂, same m₁ m₂ ∧ Yields y m' a m₂

/-- What comes of `x` and of `y` is the same. -/
def Agree (same : Machine → Machine → Prop) (x y : Inner → Run α) (m : Machine) : Prop :=
  Follows same x y m m ∧ Follows same y x m m

/-- From machines that are the same, the same comes of `x`. -/
def Respects (same : Machine → Machine → Prop) (x : Inner → Run α) : Prop :=
  ∀ m m', same m m' → Follows same x x m m'

/-- Whichever of `x` and `y` is done first, the same comes of them, and the machines that are left
are the same. -/
structure InterchangeUpTo (same : Machine → Machine → Prop) (x : Inner → Run α) (y : Inner → Run β)
    (m : Machine) : Prop where
  first : ∀ a b m₁ m₂, Yields x m a m₁ → Yields y m₁ b m₂ →
    ∃ m₁' m₂', Yields y m b m₁' ∧ Yields x m₁' a m₂' ∧ same m₂ m₂'
  second : ∀ a b m₁ m₂, Yields y m b m₁ → Yields x m₁ a m₂ →
    ∃ m₁' m₂', Yields x m a m₁' ∧ Yields y m₁' b m₂' ∧ same m₂ m₂'

theorem Interchange.upTo {x : Inner → Run α} {y : Inner → Run β} (h : Interchange x y m)
    (hrefl : ∀ m, same m m) : InterchangeUpTo same x y m where
  first a b m₁ m₂ hx hy := by
    obtain ⟨m₁', hy', hx'⟩ := (h a b m₂).mp ⟨m₁, hx, hy⟩
    exact ⟨m₁', m₂, hy', hx', hrefl m₂⟩
  second a b m₁ m₂ hy hx := by
    obtain ⟨m₁', hx', hy'⟩ := (h a b m₂).mpr ⟨m₁, hy, hx⟩
    exact ⟨m₁', m₂, hx', hy', hrefl m₂⟩

theorem Follows.mono {same' : Machine → Machine → Prop} {x y : Inner → Run α}
    (h : Follows same x y m m') (hsame : ∀ m m', same m m' → same' m m') :
    Follows same' x y m m' := by
  intro a m₁ ha
  obtain ⟨m₂, hm, ha'⟩ := h a m₁ ha
  exact ⟨m₂, hsame _ _ hm, ha'⟩

theorem Agree.mono {same' : Machine → Machine → Prop} {x y : Inner → Run α} (h : Agree same x y m)
    (hsame : ∀ m m', same m m' → same' m m') : Agree same' x y m :=
  ⟨h.1.mono hsame, h.2.mono hsame⟩

theorem Follows.congr {x x' y y' : Inner → Run α} (h : Follows same x y m m')
    (hx : ∀ a m₁, Yields x' m a m₁ → Yields x m a m₁)
    (hy : ∀ a m₁, Yields y m' a m₁ → Yields y' m' a m₁) : Follows same x' y' m m' := by
  intro a m₁ ha
  obtain ⟨m₂, hm, ha'⟩ := h a m₁ (hx a m₁ ha)
  exact ⟨m₂, hm, hy a m₂ ha'⟩

/-- What is made of the result of `y` afterwards does not matter. -/
theorem InterchangeUpTo.map {x : Inner → Run α} {y : Inner → Run β} (h : InterchangeUpTo same x y m)
    {z : Inner → Run γ} {f : β → γ}
    (hz : ∀ c m₁ m₂, Yields z m₁ c m₂ ↔ ∃ b, Yields y m₁ b m₂ ∧ f b = c) :
    InterchangeUpTo same x z m where
  first a c m₁ m₂ hx hc := by
    obtain ⟨b, hb, rfl⟩ := (hz c m₁ m₂).mp hc
    obtain ⟨m₁', m₂', hb', hx', hm⟩ := h.first a b m₁ m₂ hx hb
    exact ⟨m₁', m₂', (hz _ _ _).mpr ⟨b, hb', rfl⟩, hx', hm⟩
  second a c m₁ m₂ hc hx := by
    obtain ⟨b, hb, rfl⟩ := (hz c m m₁).mp hc
    obtain ⟨m₁', m₂', hx', hb', hm⟩ := h.second a b m₁ m₂ hb hx
    exact ⟨m₁', m₂', hx', (hz _ _ _).mpr ⟨b, hb', rfl⟩, hm⟩

theorem Follows.bind {x y : Inner → Run α} {f g : α → Inner → Run β} (hx : Steady x) (hy : Steady y)
    (hf : ∀ a, Steady (f a)) (hg : ∀ a, Steady (g a)) (h : Follows same x y m m')
    (hfg : ∀ a m₁ m₂, Yields x m a m₁ → same m₁ m₂ → Follows same (f a) (g a) m₁ m₂) :
    Follows same (fun self => do f (← x self) self) (fun self => do g (← y self) self) m m' := by
  intro b m₂ hb
  obtain ⟨a, m₁, ha, hb⟩ := (Yields.bind_iff hx hf).mp hb
  obtain ⟨m₁', hsame, ha'⟩ := h a m₁ ha
  obtain ⟨m₂', hsame', hb'⟩ := hfg a m₁ m₁' ha hsame b m₂ hb
  exact ⟨m₂', hsame', (Yields.bind_iff hy hg).mpr ⟨a, m₁', ha', hb'⟩⟩

theorem respects_eq (x : Inner → Run α) : Respects Eq x := by
  rintro m _ rfl a m₁ hx
  exact ⟨m₁, rfl, hx⟩

/-- An act that does the same whatever the numbers of the arrays are. -/
theorem respects_of_numberless {a : Act α} (ha : Numberless a) :
    Respects Renumbered fun _ => liftM a := by
  rintro m m' h b m₁ ⟨n, ⟨⟩⟩
  obtain ⟨hvalue, hmachine⟩ := ha m m' h
  exact ⟨(a m').2, hmachine, 0, congrArg (EStateM.Result.ok · (a m').2) hvalue⟩

end Run

theorem Algebra.pushTerms_value {ι : Type} (A : Algebra Run ι) {e : Expr} {f g : Frame ι}
    {m m' : Machine} (h : A.pushTerms e f m = .ok g m') : g.value = Expr.leaves f.value e := by
  induction e generalizing f m with
  | nil =>
    cases h
    rfl
  | cons t e ih =>
    obtain ⟨f₁, m₁, hf₁, hg⟩ := bind_eq_ok h
    rw [ih hg, A.pushTerm_value hf₁, Expr.leaves_cons]

namespace Inner

variable {m m' : Machine} {o : Operator}

/-- The result that an operator makes of two values. -/
def combined (o : Operator) (a b : Value) : Run Delayed := do
  match o with
  | .less | .lessEq | .equal | .notEqual | .greaterEq | .greater =>
    return .ofValue (.ofBool (Arithmetic.relation o a b))
  | .concat => return .ofValue ⟨a.text ++ b.text⟩
  | _ => return .ofValue (← arithmetic o a b)

theorem apply_combines (ho : o.combines) (self : Inner) (left right : Delayed) :
    self.algebra.apply (.binary o left right) =
      (do
        let a ← self.force left
        let b ← self.force right
        combined o a b) := by
  cases o <;> first | rfl | cases ho

/-- The operator asks for the value of its left operand first. -/
theorem yields_apply_combines_iff (ho : o.combines) {left right d : Delayed} :
    Yields (·.algebra.apply (.binary o left right)) m d m' ↔
      ∃ a m₁, Yields (·.force left) m a m₁ ∧
      ∃ b m₂, Yields (·.force right) m₁ b m₂ ∧ combined o a b m₂ = .ok d m' := by
  have hforced : Yields (·.algebra.apply (.binary o left right)) m d m' ↔
      Yields (fun self => do
        let a ← self.force left
        let b ← self.force right
        combined o a b) m d m' :=
    Yields.congr fun n => apply_combines ho (withFuel n) left right
  simp only [hforced, ← Yields.map_iff (steady_force right)]
  exact Yields.bind_iff (steady_force left) fun a =>
    Steady.bind (steady_force right) fun b => .const (combined o a b)

theorem yields_before_iff {t : Tree} {d : Delayed} :
    Yields ((Tree.before o t).evaluate ·.algebra) m d m' ↔
      ∃ i m₁, Yields (t.evaluate ·.algebra) m i m₁ ∧
        Yields (·.algebra.apply (.unary o i)) m₁ d m' :=
  Yields.bind_iff (steady_evaluate t) fun _ => steady_apply _

theorem yields_after_iff {t : Tree} {d : Delayed} :
    Yields ((Tree.after t o).evaluate ·.algebra) m d m' ↔
      ∃ i m₁, Yields (t.evaluate ·.algebra) m i m₁ ∧
        Yields (·.algebra.apply (.unary o i)) m₁ d m' :=
  Yields.bind_iff (steady_evaluate t) fun _ => steady_apply _

/-- What an operator between two trees is applied to comes from left to right. -/
theorem yields_between_iff {s t : Tree} {d : Delayed} :
    Yields ((Tree.between o s t).evaluate ·.algebra) m d m' ↔
      ∃ left m₁, Yields (s.evaluate ·.algebra) m left m₁ ∧
      ∃ right m₂, Yields (t.evaluate ·.algebra) m₁ right m₂ ∧
        Yields (·.algebra.apply (.binary o left right)) m₂ d m' := by
  have happlied (left right : Delayed) : Steady (·.algebra.apply (.binary o left right)) :=
    steady_apply _
  simp only [← Yields.bind_iff (steady_evaluate t) (happlied _)]
  exact Yields.bind_iff (steady_evaluate s) fun left =>
    Steady.bind (steady_evaluate t) (happlied left)

/-- A way of being the same that does not show when operands are read and combined, and when an
operator is applied to what comes of that. -/
structure Sameness (same : Machine → Machine → Prop) : Prop where
  refl : ∀ m, same m m
  value : ∀ x : Operand, Respects same (·.force (.ready x))
  combined : ∀ o a b, Respects same fun _ => combined o a b
  unary : ∀ o x, Respects same (·.algebra.apply (.unary o (.ready x)))

theorem Sameness.eq : Sameness Eq :=
  ⟨fun _ => rfl, fun _ => respects_eq _, fun _ _ _ => respects_eq _, fun _ _ => respects_eq _⟩

/-- Nothing of that depends on the numbers of the arrays. -/
theorem Sameness.renumbered : Sameness Renumbered where
  refl := .refl
  value x := respects_of_numberless (.valueOf x)
  combined o a b := by
    have hpure (d : Delayed) : Respects Renumbered fun _ => (pure d : Run Delayed) :=
      respects_of_numberless (.pure d)
    have harithmetic : Numberless (do return Delayed.ofValue (← arithmetic o a b)) :=
      (Numberless.arithmetic o a b).bind fun v => .pure (Delayed.ofValue v)
    unfold Inner.combined
    split
    all_goals first | exact hpure _ | exact respects_of_numberless harithmetic
  unary o x := by
    have hvalue (f : Value → Value) : Numberless (do return Delayed.ofValue (f (← valueOf x))) :=
      (Numberless.valueOf x).bind fun v => .pure (Delayed.ofValue (f v))
    have hfield : Numberless (do
        let v ← valueOf x
        return Delayed.ready (.place (.field (← fieldIndex v)))) :=
      (Numberless.valueOf x).bind fun v =>
        (Numberless.fieldIndex v).bind fun i => .pure (Delayed.ready (.place (.field i)))
    have hmalformed : Numberless (do
        report .malformedExpression
        return Delayed.ofValue .empty) :=
      (Numberless.report _).bind fun _ => .pure (Delayed.ofValue .empty)
    cases o with
    | plus => exact respects_of_numberless (hvalue Arithmetic.numeric)
    | neg => exact respects_of_numberless (hvalue Arithmetic.negate)
    | not => exact respects_of_numberless (hvalue fun v => .ofBool (!v.toBool))
    | field => exact respects_of_numberless hfield
    | preIncr | preDecr | postIncr | postDecr => exact respects_of_numberless (.applyStep _ x)
    | _ => exact respects_of_numberless hmalformed

variable {same : Machine → Machine → Prop}

/-- In parentheses the right operand comes after the value of the left one, which is the same where
the two can change places. -/
theorem agree_between_group (hsame : Sameness same) (ho : o.combines) {s t : Tree}
    (ht : t.Separated)
    (h : ∀ left m₁, Yields (s.evaluate ·.algebra) m left m₁ →
      InterchangeUpTo same (·.force left) (·.terms t.terms) m₁)
    (hright : ∀ m₁ right m₂, Yields (·.terms t.terms) m₁ right m₂ →
      Respects same (·.force right)) :
    Agree same ((Tree.between o s t).evaluate ·.algebra)
      ((Tree.between o s (.operand (.group t.terms))).evaluate ·.algebra) m := by
  constructor
  · intro d m' hd
    obtain ⟨left, m₁, hleft, right, m₂, hr, happlied⟩ := yields_between_iff.mp hd
    obtain ⟨a, m₃, ha, b, m₄, hb, hd⟩ := (yields_apply_combines_iff ho).mp happlied
    rw [← yields_terms_iff ht] at hr
    obtain ⟨m₂', m₃', ha', hr', hsame₃⟩ := (h left m₁ hleft).second a right m₂ m₃ hr ha
    obtain ⟨m₄', hsame₄, hb'⟩ := hright _ _ _ hr _ _ hsame₃ b m₄ hb
    obtain ⟨m'', hsame', hd'⟩ := hsame.combined o a b _ _ hsame₄ d m' (Yields.const_iff.mpr hd)
    refine ⟨m'', hsame', yields_between_iff.mpr ⟨left, m₁, hleft, .group t.terms, m₁, ⟨0, rfl⟩, ?_⟩⟩
    exact (yields_apply_combines_iff ho).mpr ⟨a, m₂', ha', b, m₄',
      yields_force_group_iff.mpr ⟨right, m₃', hr', hb'⟩, Yields.const_iff.mp hd'⟩
  · intro d m' hd
    obtain ⟨left, m₁, hleft, _, _, ⟨_, ⟨⟩⟩, happlied⟩ := yields_between_iff.mp hd
    obtain ⟨a, m₂, ha, b, m₄, hgroup, hd⟩ := (yields_apply_combines_iff ho).mp happlied
    obtain ⟨right, m₃, hr, hb⟩ := yields_force_group_iff.mp hgroup
    obtain ⟨m₂', m₃', hr', ha', hsame₃⟩ := (h left m₁ hleft).first a right m₂ m₃ ha hr
    obtain ⟨m₄', hsame₄, hb'⟩ := hright _ _ _ hr _ _ hsame₃ b m₄ hb
    obtain ⟨m'', hsame', hd'⟩ := hsame.combined o a b _ _ hsame₄ d m' (Yields.const_iff.mpr hd)
    refine ⟨m'', hsame', yields_between_iff.mpr ⟨left, m₁, hleft, right, m₂',
      (yields_terms_iff ht).mp hr', ?_⟩⟩
    exact (yields_apply_combines_iff ho).mpr ⟨a, m₃', ha', b, m₄', hb', Yields.const_iff.mp hd'⟩

/-- What an operator before an operand makes of it is there. -/
theorem ready_of_apply_unary {i d : Delayed} (h : Yields (·.algebra.apply (.unary o i)) m d m') :
    ∃ x, d = .ready x := by
  obtain ⟨n, h⟩ := h
  have hstep (o : Operator) (h : (liftM (applyStep o i) : Run Delayed) m = .ok d m') :
      ∃ x, d = .ready x := by
    cases h
    cases i with
    | group e => exact ⟨_, rfl⟩
    | ready x => cases x <;> exact ⟨_, rfl⟩
  cases o with
  | preIncr | preDecr | postIncr | postDecr => exact hstep _ h
  | field =>
    obtain ⟨v, m₁, -, h⟩ := bind_eq_ok h
    obtain ⟨k, m₂, -, ⟨⟩⟩ := bind_eq_ok h
    exact ⟨_, rfl⟩
  | _ =>
    obtain ⟨v, m₁, -, ⟨⟩⟩ := bind_eq_ok h
    exact ⟨_, rfl⟩

/-- So is what an operator between two operands makes of their values. -/
theorem ready_of_combined {a b : Value} {d : Delayed} (h : combined o a b m = .ok d m') :
    ∃ x, d = .ready x := by
  unfold combined at h
  split at h
  case h_8 =>
    obtain ⟨v, m₁, -, ⟨⟩⟩ := bind_eq_ok h
    exact ⟨_, rfl⟩
  all_goals
    cases h
    exact ⟨_, rfl⟩

theorem ready_of_between (ho : o.combines) {s t : Tree} {d : Delayed}
    (h : Yields ((Tree.between o s t).evaluate ·.algebra) m d m') : ∃ x, d = .ready x := by
  obtain ⟨left, m₁, -, right, m₂, -, happlied⟩ := yields_between_iff.mp h
  obtain ⟨a, m₃, -, b, m₄, -, hd⟩ := (yields_apply_combines_iff ho).mp happlied
  exact ready_of_combined hd

/-- An operand is there once it has been evaluated, unless it is deferred. -/
theorem ready_of_operandOf {t : Term} (ht : t.isDeferred = false) {d : Delayed}
    (h : Yields (·.operandOf t) m d m') : ∃ x, d = .ready x := by
  obtain ⟨n, h⟩ := h
  cases t with
  | value | var | group | regex => cases ht
  | op =>
    cases h
    exact ⟨_, rfl⟩
  | _ =>
    obtain ⟨v, m₁, -, ⟨⟩⟩ := bind_eq_ok h
    exact ⟨_, rfl⟩

/-- Operators that stand before are applied to whatever comes. -/
theorem follows_prefixed (hsame : Sameness same) (os : List Operator) {s t : Tree}
    (hready : ∀ d m', Yields (s.evaluate ·.algebra) m d m' → ∃ x, d = .ready x)
    (h : Follows same (s.evaluate ·.algebra) (t.evaluate ·.algebra) m m) :
    Follows same ((Tree.prefixed os s).evaluate ·.algebra)
        ((Tree.prefixed os t).evaluate ·.algebra) m m ∧
      ∀ d m', Yields ((Tree.prefixed os s).evaluate ·.algebra) m d m' → ∃ x, d = .ready x := by
  induction os with
  | nil => exact ⟨h, hready⟩
  | cons o os ih =>
    obtain ⟨hfollows, hprefixed⟩ := ih
    have happlied (i : Delayed) : Steady (·.algebra.apply (.unary o i)) := steady_apply _
    refine ⟨hfollows.bind (steady_evaluate _) (steady_evaluate _) happlied happlied ?_, ?_⟩
    · intro d m₁ m₂ hd hm
      obtain ⟨x, rfl⟩ := hprefixed d m₁ hd
      exact hsame.unary o x m₁ m₂ hm
    · intro d m' hd
      obtain ⟨i, m₁, -, happly⟩ := yields_before_iff.mp hd
      exact ready_of_apply_unary happly

/-- Expressions that come to what is there follow each other where their terms do. -/
theorem follows_operand {e e' : Expr}
    (hready : ∀ d m', Yields (·.terms e) m d m' → ∃ x, d = .ready x)
    (h : Follows same (·.terms e) (·.terms e') m m) :
    Follows same (·.operand e) (·.operand e') m m := by
  intro x m₁ hx
  obtain ⟨d, m₁, hd, hx⟩ := yields_operand_iff.mp hx
  obtain ⟨x, rfl⟩ := hready d m₁ hd
  obtain ⟨_, ⟨⟩⟩ := hx
  obtain ⟨m₂, hsame, hd'⟩ := h _ m₁ hd
  exact ⟨m₂, hsame, yields_operand_iff.mpr ⟨.ready x, m₂, hd', 0, rfl⟩⟩

/-- A deferred operand is the same whatever fuel there is. -/
theorem exists_pure_of_isDeferred {t : Term} (ht : t.isDeferred) :
    ∃ d, ∀ self : Inner, self.operandOf t = pure d := by
  cases t with
  | value v => exact ⟨_, fun _ => rfl⟩
  | var name => exact ⟨_, fun _ => rfl⟩
  | group inner => exact ⟨_, fun _ => rfl⟩
  | regex pattern => exact ⟨_, fun _ => rfl⟩
  | _ => cases ht

/-- Behind another operand a term is evaluated before a concatenation applies what binds tighter. -/
theorem yields_pushTerm_behind_iff {t : Term} (ht : ∀ o, t ≠ .op o) {f g : Frame Delayed}
    (hf : f.value = true) :
    Yields (·.algebra.pushTerm t f) m g m' ↔
      ∃ i m₁, Yields (·.operandOf t) m i m₁ ∧
        ∃ f₁, Yields (·.algebra.pushOperator .concat f) m₁ f₁ m' ∧ f₁.pushOperand i = g := by
  have happlied := steady_pushOperator .concat f
  have hpush : Yields (·.algebra.pushTerm t f) m g m' ↔ Yields (fun self => do
      let i ← self.operandOf t
      return (← self.algebra.pushOperator .concat f).pushOperand i) m g m' :=
    Yields.congr fun n => by
      rw [Algebra.pushTerm_operand _ ht]
      simp only [Algebra.pushOperand, hf, if_true]
      rfl
  simp only [hpush, ← Yields.return_iff happlied]
  exact Yields.bind_iff (steady_operandOf t) fun i =>
    happlied.bind fun f₁ => .const (pure (f₁.pushOperand i))

/-- Behind an operator it is evaluated after that. -/
theorem yields_pushTerm_written_iff {t : Term} (ht : ∀ o, t ≠ .op o) {f g : Frame Delayed} :
    Yields (fun self => do
        self.algebra.pushTerm t (← self.algebra.pushOperator .concat f)) m g m' ↔
      ∃ f₁ m₁, Yields (·.algebra.pushOperator .concat f) m f₁ m₁ ∧
        ∃ i, Yields (·.operandOf t) m₁ i m' ∧ f₁.pushOperand i = g := by
  rw [Yields.bind_iff (steady_pushOperator .concat f) fun f₁ => steady_pushTerm t f₁]
  refine exists_congr fun f₁ => exists_congr fun m₁ => and_congr_right fun hpushed => ?_
  obtain ⟨n, hf₁⟩ := hpushed
  have hvalue : f₁.value = false := Algebra.pushOperator_value _ hf₁
  rw [← Yields.return_iff (steady_operandOf t)]
  exact Yields.congr fun n => by
    rw [Algebra.pushTerm_operand _ ht]
    simp [Algebra.pushOperand, hvalue, algebra]

/-- That makes no difference where the two can change places. -/
theorem yields_pushTerm_concat_iff {t : Term} (ht : ∀ o, t ≠ .op o) {f g : Frame Delayed}
    (hf : f.value = true)
    (h : Interchange (·.operandOf t) (·.algebra.pushOperator .concat f) m) :
    Yields (·.algebra.pushTerm t f) m g m' ↔
      Yields (fun self => do
        self.algebra.pushTerm t (← self.algebra.pushOperator .concat f)) m g m' := by
  rw [yields_pushTerm_behind_iff ht hf, yields_pushTerm_written_iff ht]
  constructor
  · rintro ⟨i, m₁, hi, f₁, hf₁, hg⟩
    obtain ⟨m₂, hf₁, hi⟩ := (h i f₁ m').mp ⟨m₁, hi, hf₁⟩
    exact ⟨f₁, m₂, hf₁, i, hi, hg⟩
  · rintro ⟨f₁, m₁, hf₁, i, hi, hg⟩
    obtain ⟨m₂, hi, hf₁⟩ := (h i f₁ m').mpr ⟨m₁, hf₁, hi⟩
    exact ⟨i, m₂, hi, f₁, hf₁, hg⟩

/-- So the concatenation between them can be written out where the two can change places. -/
theorem yields_terms_concat_iff {a b : Expr} {t : Term} (ht : ∀ o, t ≠ .op o)
    (ha : a.endsWithValue = true)
    (h : ∀ f m₁, Yields (·.algebra.pushTerms a .empty) m f m₁ →
      Interchange (·.operandOf t) (·.algebra.pushOperator .concat f) m₁) {d : Delayed} :
    Yields (·.terms (a ++ t :: b)) m d m' ↔ Yields (·.terms (a ++ .op .concat :: t :: b)) m d m' := by
  rw [yields_terms_append_iff, yields_terms_append_iff]
  refine exists_congr fun f => exists_congr fun m₁ => and_congr_right fun hf => ?_
  have hvalue : f.value = true := by
    obtain ⟨n, hn⟩ := hf
    rw [Algebra.pushTerms_value _ hn]
    exact ha
  have hrest {x : Inner → Run (Frame Delayed)} (hx : Steady x) :
      Yields (fun self => do
        let g ← x self
        self.algebra.finish (← self.algebra.pushTerms b g)) m₁ d m' ↔
      ∃ g m₂, Yields x m₁ g m₂ ∧ Yields (fun self => do
        self.algebra.finish (← self.algebra.pushTerms b g)) m₂ d m' :=
    Yields.bind_iff hx fun g => (steady_pushTerms b g).bind steady_finish
  have hbehind := hrest (steady_pushTerm t f)
  have hwritten := hrest ((steady_pushOperator .concat f).bind fun f₁ => steady_pushTerm t f₁)
  simp only [Algebra.pushTerms, bind_assoc] at hbehind hwritten ⊢
  rw [hbehind]
  refine Iff.trans ?_ hwritten.symm
  exact exists_congr fun g => exists_congr fun m₂ =>
    and_congr_left' (yields_pushTerm_concat_iff ht hvalue (h f m₁ hf))

end Inner

end Awk
