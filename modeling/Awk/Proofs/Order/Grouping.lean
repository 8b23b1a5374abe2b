import Awk.Proofs.Order.Interchange

/-! Parentheses around a right operand. An operand with its prefix and postfix operators is
evaluated where it stands, and one in parentheses when its value is needed, which is after the left
one has been read. So the parentheses change nothing where these two can change places. -/

namespace Awk

open Machine Run

namespace Affixed

variable {l r : Affixed} {o : Operator} {m m' : Machine}

/-- Whether a concatenation that is written as nothing makes no difference: evaluating the term on
its right and applying what is pending on its left can change places. -/
def Joins (l : Affixed) (o : Operator) (r : Affixed) (m : Machine) : Prop :=
  o = .concat → r.befores = [] → ∀ f m₁, Yields (·.algebra.pushTerms l.expr .empty) m f m₁ →
    Interchange (·.operandOf r.term) (·.algebra.pushOperator .concat f) m₁

theorem joins_of_isDeferred (h : r.term.isDeferred) : Joins l o r m := by
  obtain ⟨d, hd⟩ := Inner.exists_pure_of_isDeferred h
  exact fun _ _ f m₁ _ => .pure_left (fun n => hd (.withFuel n)) _

/-- Two operands and the operator between them come to what their tree comes to. -/
theorem yields_joined_iff (ho : o.combines) (hjoins : Joins l o r m) {s t : Tree}
    (hs : s.Separated) (hsl : s.terms = (l.taken o).expr) (ht : t.Separated)
    (htr : t.terms = r.expr) {d : Delayed} :
    Yields (·.terms (l.expr.joined o r.expr)) m d m' ↔
      Yields ((Tree.prefixed (l.kept o) (.between o s t)).evaluate ·.algebra) m d m' := by
  have hshown : Yields (·.terms (l.expr.joined o r.expr)) m d m' ↔
      Yields (·.terms (l.expr ++ .op o :: r.expr)) m d m' := by
    by_cases hhidden : o = .concat ∧ r.befores = []
    · obtain ⟨rfl, hbefores⟩ := hhidden
      have hexpr : r.expr = r.term :: r.afters.map .op := by
        rw [expr, hbefores]
        rfl
      rw [joined_concat l r hbefores, hexpr]
      exact Inner.yields_terms_concat_iff r.term_ne_op l.endsWithValue_expr
        (hjoins rfl hbefores)
    · rw [joined_eq l r (Operator.fixity_of_combines ho) fun h hb => hhidden ⟨h, hb⟩]
  rw [hshown, ← terms_between hsl htr]
  exact Inner.yields_terms_iff (separated_between ho hs hsl ht htr)

/-- That nothing comes of parentheses around the right operand: reading what the operator takes for
its left operand and evaluating the right one up to its operand can change places. -/
structure Undisturbed (l : Affixed) (o : Operator) (r : Affixed) (m : Machine) : Prop where
  reading : ∀ d m₁, Yields (·.terms (l.taken o).expr) m d m₁ →
    Interchange (·.force d) (·.terms r.expr) m₁
  joins : Joins l o r m

/-- The same, where what is left after either order is only the same as far as `same` says. -/
structure UndisturbedUpTo (same : Machine → Machine → Prop) (l : Affixed) (o : Operator)
    (r : Affixed) (m : Machine) : Prop where
  reading : ∀ d m₁, Yields (·.terms (l.taken o).expr) m d m₁ →
    InterchangeUpTo same (·.force d) (·.terms r.expr) m₁
  joins : Joins l o r m

theorem Undisturbed.upTo (h : Undisturbed l o r m) : UndisturbedUpTo Eq l o r m :=
  ⟨fun d m₁ hd => (h.reading d m₁ hd).upTo fun _ => rfl, h.joins⟩

/-- Reading a variable can change places with a step if and only if the step leaves its value as it
is. -/
theorem interchange_scalar_iff {β : Type} (name : Name) (y : Inner → Run β) :
    Interchange (·.force (.ready (.place (.scalar name)))) y m ↔
      ∀ b m', Yields y m b m' → m'.env.value name = m.env.value name :=
  Interchange.get_iff (fun m => m.env.value name) y

/-- A left operand that has come to its value is read already. -/
theorem Undisturbed.of_values (hjoins : Joins l o r m)
    (h : ∀ d m₁, Yields (·.terms (l.taken o).expr) m d m₁ → ∃ v, d = .ofValue v) :
    Undisturbed l o r m where
  reading d m₁ hd := by
    obtain ⟨v, rfl⟩ := h d m₁ hd
    exact .pure_left (fun _ => rfl) _
  joins := hjoins

/-- A constant, a variable, a pattern or a group does nothing before its value is asked for. -/
theorem Undisturbed.of_isDeferred (hbefores : r.befores = []) (hafters : r.afters = [])
    (h : r.term.isDeferred) : Undisturbed l o r m where
  reading d m₁ _ := by
    obtain ⟨i, hi⟩ := Inner.exists_pure_of_isDeferred h
    have hexpr : r.expr = (Tree.operand r.term).terms := by
      rw [expr, hbefores, hafters]
      rfl
    have hterms (n : Nat) : (Inner.withFuel n).terms r.expr = pure i := by
      rw [Inner.terms_withFuel, hexpr, Algebra.run_eq_evaluate _
        (Tree.build_terms (.operand r.term_ne_op)) (Tree.Placed.operand r.term_ne_op).explicit_terms]
      exact hi (.withFuel n)
    exact (Interchange.pure_left hterms _).symm
  joins := joins_of_isDeferred h

variable {same : Machine → Machine → Prop}

/-- An operand comes of the right one at once, unless that is a deferred term and nothing else. -/
theorem ready_of_yields_terms (h : ¬ (r.befores = [] ∧ r.afters = [] ∧ r.term.isDeferred))
    {d : Delayed} (hd : Yields (·.terms r.expr) m d m') : ∃ x, d = .ready x := by
  obtain ⟨t, ht, htr⟩ := r.exists_tree
  rw [← htr, Inner.yields_terms_iff ht] at hd
  cases ht with
  | @operand t hop =>
    cases hbefores : r.befores with
    | nil =>
      rw [Affixed.expr, hbefores] at htr
      obtain ⟨rfl, hafters⟩ := List.cons.inj htr
      refine Inner.ready_of_operandOf (Bool.eq_false_iff.mpr fun hdeferred => h ?_) hd
      exact ⟨hbefores, List.map_eq_nil_iff.mp hafters.symm, hdeferred⟩
    | cons p ps =>
      rw [Affixed.expr, hbefores] at htr
      exact absurd (List.cons.inj htr).1 (hop p)
  | before =>
    obtain ⟨i, m₁, -, happly⟩ := Inner.yields_before_iff.mp hd
    exact Inner.ready_of_apply_unary happly
  | after =>
    obtain ⟨i, m₁, -, happly⟩ := Inner.yields_after_iff.mp hd
    exact Inner.ready_of_apply_unary happly
  | @between p _ _ ho =>
    have hmem : Term.op p ∈ r.expr := htr ▸ List.mem_append_right _ (.head _)
    obtain hp | hp := op_mem_expr hmem
    · have hfixity := Operator.isBefore_iff.mp (r.befores_isBefore p hp)
      rw [ho] at hfixity
      cases hfixity
    · have hfixity := Operator.isAfter_iff.mp (r.afters_isAfter p hp)
      rw [ho] at hfixity
      cases hfixity

/-- With and without parentheses the same comes of the two, where the value of the right operand is
the same from machines that are the same. -/
theorem agree_joined (hsame : Inner.Sameness same) (ho : o.combines)
    (h : UndisturbedUpTo same l o r m)
    (hright : ∀ m₁ d m₂, Yields (·.terms r.expr) m₁ d m₂ → Respects same (·.force d)) :
    Agree same (·.operand (l.expr.joined o r.expr))
      (·.operand (l.expr.joined o r.grouped.expr)) m := by
  obtain ⟨s, hs, hsl⟩ := (l.taken o).exists_tree
  obtain ⟨t, ht, htr⟩ := r.exists_tree
  have hgroup : (Tree.operand (.group r.expr)).Separated := .operand (Term.group_ne_op _)
  have hreading (left : Delayed) (m₁ : Machine) (hleft : Yields (s.evaluate ·.algebra) m left m₁) :
      InterchangeUpTo same (·.force left) (·.terms t.terms) m₁ := by
    rw [← Inner.yields_terms_iff hs, hsl] at hleft
    rw [htr]
    exact h.reading left m₁ hleft
  rw [← htr] at hright
  obtain ⟨hplain, hgrouped⟩ := Inner.agree_between_group hsame ho ht hreading hright
  rw [htr] at hplain hgrouped
  obtain ⟨hplain, hready⟩ := Inner.follows_prefixed hsame (l.kept o)
    (fun _ _ => Inner.ready_of_between ho) hplain
  obtain ⟨hgrouped, hready'⟩ := Inner.follows_prefixed hsame (l.kept o)
    (fun _ _ => Inner.ready_of_between ho) hgrouped
  have hterms (d : Delayed) (m' : Machine) :
      Yields (·.terms (l.expr.joined o r.expr)) m d m' ↔ _ :=
    yields_joined_iff ho h.joins hs hsl ht htr
  have hterms' (d : Delayed) (m' : Machine) :
      Yields (·.terms (l.expr.joined o r.grouped.expr)) m d m' ↔ _ :=
    yields_joined_iff ho (joins_of_isDeferred rfl) hs hsl hgroup rfl
  constructor
  · exact Inner.follows_operand (fun d m' hd => hready d m' ((hterms d m').mp hd))
      (hplain.congr (fun d m' => (hterms d m').mp) fun d m' => (hterms' d m').mpr)
  · exact Inner.follows_operand (fun d m' hd => hready' d m' ((hterms' d m').mp hd))
      (hgrouped.congr (fun d m' => (hterms' d m').mp) fun d m' => (hterms d m').mpr)

end Affixed

open Affixed

/-- Parentheses around the right operand of an operator change nothing where it does not disturb
the reading of the left one: the same operand comes of both expressions, and both leave the same
machine. -/
theorem joined_grouped {l r : Affixed} {o : Operator} (ho : o.combines) {m : Machine}
    (h : Undisturbed l o r m) (x : Operand) (m' : Machine) :
    Yields (·.operand (l.expr.joined o r.expr)) m x m' ↔
      Yields (·.operand (l.expr.joined o r.grouped.expr)) m x m' := by
  obtain ⟨hplain, hgrouped⟩ := agree_joined .eq ho h.upTo fun _ _ _ _ => respects_eq _
  constructor
  · intro hx
    obtain ⟨_, rfl, hx'⟩ := hplain x m' hx
    exact hx'
  · intro hx
    obtain ⟨_, rfl, hx'⟩ := hgrouped x m' hx
    exact hx'

/-- Where it disturbs the reading of the left one by no more than the numbers that new arrays get,
the parentheses change no more than these numbers. -/
theorem joined_grouped_renumbered {l r : Affixed} {o : Operator} (ho : o.combines) {m : Machine}
    (h : UndisturbedUpTo Renumbered l o r m) :
    Agree Renumbered (·.operand (l.expr.joined o r.expr))
      (·.operand (l.expr.joined o r.grouped.expr)) m := by
  by_cases hbare : r.befores = [] ∧ r.afters = [] ∧ r.term.isDeferred
  · -- What comes of a group may be a group again, but then nothing has been done for it so far.
    obtain ⟨hbefores, hafters, hdeferred⟩ := hbare
    have hundisturbed : Undisturbed l o r m := .of_isDeferred hbefores hafters hdeferred
    have hagree := agree_joined .eq ho hundisturbed.upTo fun _ _ _ _ => respects_eq _
    exact hagree.mono fun _ _ hm => hm ▸ .refl _
  · refine agree_joined .renumbered ho h fun m₁ d m₂ hd => ?_
    obtain ⟨x, rfl⟩ := ready_of_yields_terms hbare hd
    exact Inner.Sameness.renumbered.value x

theorem isBefore_neg : ∀ o ∈ [Operator.neg], o.isBefore := by decide

/-- The term with nothing but a sign before it. -/
def Affixed.signed (e : Affixed) : Affixed :=
  { e with
    befores := [.neg]
    befores_isBefore := isBefore_neg }

/-- Elements can be read in either order, also where both are in arrays that are not there yet. -/
theorem interchange_elements {m : Machine} (h : m.env.WellFormed) (x : Name) (key : String)
    (y : Name) (key' : String) :
    InterchangeUpTo Renumbered (·.force (.ready (.place (.element x key))))
      (·.force (.ready (.place (.element y key')))) m := by
  have hread (x : Name) (key : String) (m : Machine) :
      Yields (·.force (.ready (.place (.element x key)))) m (m.env.element x key).1
        { m with env := (m.env.element x key).2 } := ⟨0, rfl⟩
  have hswap (x : Name) (key : String) (y : Name) (key' : String) (a b : Value) (m₁ m₂ : Machine)
      (ha : Yields (·.force (.ready (.place (.element x key)))) m a m₁)
      (hb : Yields (·.force (.ready (.place (.element y key')))) m₁ b m₂) :
      ∃ m₁' m₂', Yields (·.force (.ready (.place (.element y key')))) m b m₁' ∧
        Yields (·.force (.ready (.place (.element x key)))) m₁' a m₂' ∧ m₂.Renumbered m₂' := by
    obtain ⟨_, ⟨⟩⟩ := ha
    obtain ⟨_, ⟨⟩⟩ := hb
    refine ⟨{ m with env := (m.env.element y key').2 },
      { m with env := ((m.env.element y key').2.element x key).2 }, ?_, ?_,
      _, m.env.element_comm h x key y key', rfl⟩
    · have hfirst := hread y key' m
      rwa [← m.env.element_element_fst h x key y key'] at hfirst
    · have hsecond := hread x key { m with env := (m.env.element y key').2 }
      rwa [m.env.element_element_fst h y key' x key] at hsecond
  exact ⟨hswap x key y key', fun a b => hswap y key' x key b a⟩

theorem yields_operandOf_element_iff {m m' : Machine} {x : Name} {key : String} {d : Delayed} :
    Yields (·.operandOf (.element x [[.value ⟨key⟩]])) m d m' ↔
      d = .ready (.place (.element x key)) ∧ m' = m := by
  have hplace : Yields (·.operandOf (.element x [[.value ⟨key⟩]])) m
      (.ready (.place (.element x key))) m := ⟨3, rfl⟩
  constructor
  · exact fun h => Yields.unique (Inner.steady_operandOf _) h hplace
  · rintro ⟨rfl, rfl⟩
    exact hplace

/-- So the sign of an element on the right does not disturb the reading of one on the left. -/
theorem undisturbed_elements {m : Machine} (h : m.env.WellFormed) (o : Operator) (x : Name)
    (key : String) (y : Name) (key' : String) :
    UndisturbedUpTo Renumbered (.bare (.element x [[.value ⟨key⟩]]) nofun) o
      (Affixed.bare (.element y [[.value ⟨key'⟩]]) nofun).signed m where
  reading d m₁ hd := by
    have hleft : Yields (·.terms [.element x [[.value ⟨key⟩]]]) m d m₁ ↔ _ :=
      Inner.yields_terms_iff (t := .operand (.element x [[.value ⟨key⟩]])) (.operand nofun)
    obtain ⟨rfl, rfl⟩ := yields_operandOf_element_iff.mp (hleft.mp hd)
    refine (interchange_elements h x key y key').map (f := fun v => .ofValue (Arithmetic.negate v))
      fun d m₁ m₂ => ?_
    have hsigned : Yields (·.terms [.op .neg, .element y [[.value ⟨key'⟩]]]) m₁ d m₂ ↔ _ :=
      Inner.yields_terms_iff (t := .before .neg (.operand (.element y [[.value ⟨key'⟩]])))
        (.before rfl (.operand nofun) nofun)
    have hnegated (i : Delayed) : Yields (·.algebra.apply (.unary .neg i)) m₁ d m₂ ↔
        ∃ v, Yields (·.force i) m₁ v m₂ ∧ .ofValue (Arithmetic.negate v) = d :=
      Yields.return_iff (Inner.steady_force i)
    rw [← hnegated]
    refine (hsigned.trans Inner.yields_before_iff).trans ⟨?_, fun hd => ?_⟩
    · rintro ⟨i, m₃, hi, hd⟩
      obtain ⟨rfl, rfl⟩ := yields_operandOf_element_iff.mp hi
      exact hd
    · exact ⟨_, m₁, yields_operandOf_element_iff.mpr ⟨rfl, rfl⟩, hd⟩
  joins _ hbefores := nomatch hbefores

/-- In `a["k"] + - b["l"]`, where both arrays may be made, the parentheses change at most the numbers
that these get. -/
theorem joined_grouped_elements {o : Operator} (ho : o.combines) {m : Machine}
    (h : m.env.WellFormed) (x : Name) (key : String) (y : Name) (key' : String) :
    let left := Affixed.bare (.element x [[.value ⟨key⟩]]) nofun
    let right := (Affixed.bare (.element y [[.value ⟨key'⟩]]) nofun).signed
    Agree Renumbered (·.operand (left.expr.joined o right.expr))
      (·.operand (left.expr.joined o right.grouped.expr)) m :=
  joined_grouped_renumbered ho (undisturbed_elements h o x key y key')

theorem isAfter_postIncr : ∀ o ∈ [Operator.postIncr], o.isAfter := by decide

/-- `- x`, whose sign stands before a power of `x`. -/
def negated : Affixed :=
  { Affixed.bare (.var "x") (Term.var_ne_op "x") with
    befores := [.neg]
    befores_isBefore := isBefore_neg }

/-- A variable that steps after it is read. -/
def stepped (name : Name) : Affixed :=
  { Affixed.bare (.var name) (Term.var_ne_op name) with
    afters := [.postIncr]
    afters_isAfter := isAfter_postIncr }

def groupingStart : Machine :=
  { joinStart with env := joinStart.env.setGlobal "x" ⟨"1"⟩ }

/-- The step of `y` leaves `x` as it is. -/
theorem undisturbed_negated : Undisturbed negated .pow (stepped "y") groupingStart := by
  refine ⟨?_, joins_of_isDeferred rfl⟩
  rintro _ _ ⟨_, ⟨⟩⟩
  refine (interchange_scalar_iff _ _).mpr ?_
  rintro _ _ ⟨_, ⟨⟩⟩
  rfl

theorem joined_grouped_negated :
    (Operator.pow.combines ∧ Undisturbed negated .pow (stepped "y") groupingStart) ∧
      ∀ x m', Yields (·.operand (negated.expr.joined .pow (stepped "y").expr)) groupingStart x m' ↔
        Yields (·.operand (negated.expr.joined .pow (stepped "y").grouped.expr)) groupingStart x m' :=
  ⟨⟨rfl, undisturbed_negated⟩, joined_grouped rfl undisturbed_negated⟩

/-- Where both operands are about `x`, the parentheses show: `x + x++` reads the left `x` after the
step, and `x + (x++)` before it. -/
theorem joined_grouped_overtaken :
    let x := Affixed.bare (.var "x") (Term.var_ne_op "x")
    let plain := x.expr.joined .add (stepped "x").expr
    let grouped := x.expr.joined .add (stepped "x").grouped.expr
    (∃ m', Yields (·.operand plain) groupingStart (.value ⟨"3"⟩) m') ∧
      (∃ m', Yields (·.operand grouped) groupingStart (.value ⟨"2"⟩) m') ∧
      ¬ ∀ v m', Yields (·.operand plain) groupingStart v m' ↔
        Yields (·.operand grouped) groupingStart v m' := by
  intro x plain grouped
  have hplain : ∃ m', Yields (·.operand plain) groupingStart (.value ⟨"3"⟩) m' :=
    Yields.exists_of_result 3 (by decide +kernel)
  have hgrouped : ∃ m', Yields (·.operand grouped) groupingStart (.value ⟨"2"⟩) m' :=
    Yields.exists_of_result 3 (by decide +kernel)
  refine ⟨hplain, hgrouped, fun h => ?_⟩
  obtain ⟨m₁, h₁⟩ := hplain
  obtain ⟨m₂, h₂⟩ := hgrouped
  have heq := (Yields.unique (Inner.steady_operand grouped) ((h _ _).mp h₁) h₂).1
  exact absurd heq (by decide)

end Awk
