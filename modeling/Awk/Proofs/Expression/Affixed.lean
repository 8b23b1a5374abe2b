import Mathlib.Data.List.DropRight
import Awk.Proofs.Expression.Build

/-! An operand with the operators before and behind it, and two of them with an operator between
them: how they are spelled, and the tree that precedence gives them. Of the left operand the
operator takes what is not kept back by a looser operator before it. -/

namespace Awk

/-- An operator that makes a result of the values of its two operands: arithmetic, a comparison or
the concatenation. -/
def Operator.combines : Operator → Bool
  | less | lessEq | equal | notEqual | greaterEq | greater | concat | add | sub | mul | div | mod
  | pow => true
  | _ => false

theorem Term.var_ne_op (name : Name) (o : Operator) : Term.var name ≠ .op o := Term.noConfusion

theorem Term.group_ne_op (e : Expr) (o : Operator) : Term.group e ≠ .op o := Term.noConfusion

/-- A term with the operators before it and those behind it. -/
structure Affixed where
  befores : List Operator
  term : Term
  afters : List Operator
  befores_isBefore : ∀ o ∈ befores, o.isBefore
  term_ne_op : ∀ o, term ≠ .op o
  afters_isAfter : ∀ o ∈ afters, o.isAfter

namespace Affixed

/-- As it stands in an expression. -/
def expr (e : Affixed) : Expr := e.befores.map .op ++ e.term :: e.afters.map .op

/-- A term with no operator before or behind it. -/
def bare (t : Term) (ht : ∀ o, t ≠ .op o) : Affixed where
  befores := []
  term := t
  afters := []
  befores_isBefore _ h := absurd h List.not_mem_nil
  term_ne_op := ht
  afters_isAfter _ h := absurd h List.not_mem_nil

/-- In parentheses. -/
def grouped (e : Affixed) : Affixed := .bare (.group e.expr) (Term.group_ne_op e.expr)

/-- The part that an operator behind it takes for its left operand: a sign before a power is not
part of it. -/
def taken (e : Affixed) (o : Operator) : Affixed :=
  { e with
    befores := e.befores.rtakeWhile (·.bindsTighter o)
    befores_isBefore := fun p hp =>
      e.befores_isBefore p ((List.rtakeWhile_suffix _ _).subset hp) }

end Affixed

/-- Two operands with an operator between them, appended as a program is read. A concatenation is
written as nothing. -/
def Expr.joined (l : Expr) (o : Operator) (r : Expr) : Expr :=
  (if o = .concat then r else .op o :: r).foldl Expr.push l

/-! How the two expressions are spelled. -/

namespace Expr

variable {e : Expr} {os : List Operator}

theorem push_of_not {t : Term} (h : ∀ o, t = .op o → (o.isBefore && e.endsWithValue) = false) :
    e.push t = e ++ [t] := by
  unfold push
  split
  · rw [h _ rfl]
    rfl
  · rfl

/-- Operators that stand before an operand, where one is expected. -/
theorem foldl_push_befores (hos : ∀ o ∈ os, o.isBefore) (he : e.endsWithValue = false) :
    (os.map Term.op).foldl push e = e ++ os.map .op := by
  induction os generalizing e with
  | nil => simp
  | cons o os ih =>
    obtain ⟨ho, hos⟩ := List.forall_mem_cons.mp hos
    have hpush : e.push (.op o) = e ++ [.op o] := push_of_not fun _ _ => by rw [he, Bool.and_false]
    have hends : (e.push (.op o)).endsWithValue = false := by
      rw [endsWithValue_push]
      exact Bool.eq_false_iff.mpr fun ha => Operator.not_isBefore_of_isAfter ha ho
    rw [List.map_cons, List.foldl_cons, ih hos hends, hpush, List.append_assoc]
    rfl

/-- Operators that stand behind an operand. -/
theorem foldl_push_afters (hos : ∀ o ∈ os, o.isAfter) (e : Expr) :
    (os.map Term.op).foldl push e = e ++ os.map .op := by
  induction os generalizing e with
  | nil => simp
  | cons o os ih =>
    obtain ⟨ho, hos⟩ := List.forall_mem_cons.mp hos
    have hpush : e.push (.op o) = e ++ [.op o] := push_of_not fun p hp => by
      cases hp
      rw [Bool.eq_false_iff.mpr (Operator.not_isBefore_of_isAfter ho), Bool.false_and]
    rw [List.map_cons, List.foldl_cons, ih hos, hpush, List.append_assoc]
    rfl

/-- Operators of one kind, where they can stand. -/
theorem wellFormed_ops {value : Bool} (os : List Operator)
    (hos : ∀ o ∈ os, o.isAfter = value ∧ o.isBefore ≠ value) (e : Expr) :
    Expr.wellFormed value (os.map .op ++ e) = Expr.wellFormed value e ∧
      Expr.explicit value (os.map .op ++ e) = os.map .op ++ Expr.explicit value e := by
  induction os with
  | nil => exact ⟨rfl, rfl⟩
  | cons o os ih =>
    obtain ⟨⟨hafter, hbefore⟩, hos⟩ := List.forall_mem_cons.mp hos
    obtain ⟨hwell, hexplicit⟩ := ih hos
    constructor
    · show ((o.isBefore != value) && Expr.wellFormed o.isAfter (os.map .op ++ e)) = _
      rw [hafter, hwell, bne_iff_ne.mpr hbefore, Bool.true_and]
    · show Term.op o :: Expr.explicit o.isAfter (os.map .op ++ e) = _
      rw [hafter, hexplicit]
      rfl

end Expr

namespace Affixed

variable (l r : Affixed) {o : Operator}

/-- An operand where one is expected stands as it is. -/
theorem foldl_push_expr {e : Expr} (he : e.endsWithValue = false) :
    r.expr.foldl Expr.push e = e ++ r.expr := by
  have hterm : (e ++ r.befores.map Term.op).push r.term = e ++ r.befores.map Term.op ++ [r.term] :=
    Expr.push_of_not fun o ho => absurd ho (r.term_ne_op o)
  rw [expr, List.foldl_append, Expr.foldl_push_befores r.befores_isBefore he, List.foldl_cons,
    hterm, Expr.foldl_push_afters r.afters_isAfter]
  simp

theorem endsWithValue_expr : l.expr.endsWithValue = true := by
  obtain hafters | ⟨os, o, hafters⟩ := l.afters.eq_nil_or_concat'
  · have hlast : l.expr = l.befores.map .op ++ [l.term] := by
      rw [expr, hafters]
      rfl
    rw [hlast, Expr.endsWithValue_append_singleton]
    exact Expr.leavesValue_operand l.term_ne_op
  · have hlast : l.expr = l.befores.map Term.op ++ l.term :: os.map Term.op ++ [Term.op o] := by
      simp [expr, hafters]
    rw [hlast, Expr.endsWithValue_append_singleton]
    exact l.afters_isAfter o (by simp [hafters])

/-- A concatenation shows before an operator that stands before its operand. -/
theorem foldl_push_concat (h : r.befores ≠ []) :
    r.expr.foldl Expr.push l.expr = r.expr.foldl Expr.push (l.expr ++ [Term.op .concat]) := by
  obtain ⟨p, os, hbefores⟩ := List.exists_cons_of_ne_nil h
  have hp : p.isBefore := r.befores_isBefore p (by simp [hbefores])
  have hexpr : r.expr = .op p :: (os.map Term.op ++ r.term :: r.afters.map Term.op) := by
    rw [expr, hbefores]
    rfl
  have hleft : l.expr.push (.op p) = l.expr ++ [Term.op .concat, .op p] := by
    simp [Expr.push, hp, l.endsWithValue_expr]
  have hright : (l.expr ++ [Term.op .concat]).push (.op p) = l.expr ++ [.op .concat] ++ [.op p] :=
    Expr.push_of_not fun _ _ => by
      rw [Expr.endsWithValue_append_singleton]
      simp [Term.leavesValue, Operator.isAfter, Operator.fixity]
  rw [hexpr, List.foldl_cons, List.foldl_cons, hleft, hright, List.append_assoc]
  rfl

/-- The operator shows between the operands, but for a concatenation with an operand that begins
with its term. -/
theorem joined_eq (ho : o.fixity = .between) (h : o = .concat → r.befores ≠ []) :
    l.expr.joined o r.expr = l.expr ++ .op o :: r.expr := by
  have hends : Expr.endsWithValue (l.expr ++ [.op o]) = false := by
    rw [Expr.endsWithValue_append_singleton]
    exact Operator.isAfter_eq_false (Operator.fixity_ne ho (by decide))
  have hshown : l.expr.joined o r.expr = r.expr.foldl Expr.push (l.expr ++ [.op o]) := by
    unfold Expr.joined
    split
    · rename_i hconcat
      rw [foldl_push_concat l r (h hconcat), hconcat]
    · have hpush : l.expr.push (.op o) = l.expr ++ [.op o] := Expr.push_of_not fun p hp => by
        cases hp
        rw [Operator.isBefore_eq_false (Operator.fixity_ne ho (by decide)), Bool.false_and]
      rw [List.foldl_cons, hpush]
  rw [hshown, r.foldl_push_expr hends, List.append_assoc]
  rfl

theorem joined_concat (h : r.befores = []) :
    l.expr.joined .concat r.expr = l.expr ++ r.expr := by
  have hterm : l.expr.push r.term = l.expr ++ [r.term] :=
    Expr.push_of_not fun o ho => absurd ho (r.term_ne_op o)
  have hexpr : r.expr = r.term :: r.afters.map Term.op := by
    rw [expr, h]
    rfl
  rw [Expr.joined, if_pos rfl, hexpr, List.foldl_cons, hterm,
    Expr.foldl_push_afters r.afters_isAfter, List.append_assoc]
  rfl

theorem op_mem_expr {e : Affixed} {p : Operator} (hp : .op p ∈ e.expr) :
    p ∈ e.befores ∨ p ∈ e.afters := by
  rcases List.mem_append.mp hp with hp | hp
  · obtain ⟨_, hmem, ⟨⟩⟩ := List.mem_map.mp hp
    exact .inl hmem
  · rcases List.mem_cons.mp hp with hp | hp
    · exact absurd hp.symm (e.term_ne_op p)
    · obtain ⟨_, hmem, ⟨⟩⟩ := List.mem_map.mp hp
      exact .inr hmem

end Affixed

/-! The tree of two operands with an operator between them. -/

namespace Operator

variable {o p q : Operator}

theorem fixity_of_combines (h : o.combines) : o.fixity = .between := by
  cases o <;> first | rfl | cases h

/-- An operator behind an operand is not taken from it by what binds no tighter than a power. -/
theorem not_bindsTighter_of_isAfter (ho : o.combines) (hq : q.precedence ≤ o.precedence)
    (hp : p.isAfter) : ¬ q.bindsTighter p := by
  have ho' : o.precedence ≤ 13 := by cases o <;> first | decide | cases ho
  have hp' : p.precedence = 14 := by cases p <;> first | rfl | cases hp
  have hne : q.precedence ≠ p.precedence := by omega
  simp only [bindsTighter, Bool.or_eq_true, decide_eq_true_eq, Bool.and_eq_true, hne, false_and,
    or_false]
  omega

theorem precedence_le_of_not_bindsTighter (h : ¬ q.bindsTighter o) :
    q.precedence ≤ o.precedence := by
  by_contra hlt
  exact h (by simp [bindsTighter, Nat.lt_of_not_le hlt])

end Operator

namespace Tree

variable {t : Tree} {os : List Operator} {p : Operator}

theorem Placed.mem_leftSpine (h : t.Placed) (hp : p ∈ t.leftSpine) :
    .op p ∈ t.terms ∧ ¬ p.isBefore := by
  induction h with
  | operand | before => cases hp
  | after ho _ ih =>
    rcases List.mem_cons.mp hp with rfl | hp
    · exact ⟨by simp [terms], Operator.not_isBefore_of_isAfter (Operator.isAfter_iff.mpr ho)⟩
    · exact ⟨List.mem_append_left _ (ih hp).1, (ih hp).2⟩
  | between ho _ _ ihl _ =>
    rcases List.mem_cons.mp hp with rfl | hp
    · exact ⟨by simp [terms], by simp [Operator.isBefore, ho]⟩
    · exact ⟨List.mem_append_left _ (ihl hp).1, (ihl hp).2⟩

theorem mem_rightSpine (hp : p ∈ t.rightSpine) : .op p ∈ t.terms := by
  induction t with
  | operand => cases hp
  | before o t ih =>
    rcases List.mem_cons.mp hp with rfl | hp
    · exact .head _
    · exact .tail _ (ih hp)
  | after t o =>
    cases List.mem_singleton.mp hp
    simp [terms]
  | between o l r _ ihr =>
    rcases List.mem_cons.mp hp with rfl | hp
    · simp [terms]
    · exact List.mem_append_right _ (.tail _ (ihr hp))

/-- A tree under operators that stand before it. -/
def prefixed (os : List Operator) (t : Tree) : Tree := os.foldr .before t

theorem terms_prefixed (os : List Operator) (t : Tree) :
    (prefixed os t).terms = os.map .op ++ t.terms := by
  induction os with
  | nil => rfl
  | cons o os ih => exact congrArg (Term.op o :: ·) ih

theorem Separated.prefixed (ht : t.Separated) (hos : ∀ o ∈ os, o.isBefore)
    (hlast : ∀ q ∈ os.getLast?, ∀ p ∈ t.leftSpine, ¬ q.bindsTighter p) :
    (prefixed os t).Separated := by
  induction os with
  | nil => exact ht
  | cons o os ih =>
    obtain ⟨ho, hos⟩ := List.forall_mem_cons.mp hos
    cases os with
    | nil => exact .before (Operator.isBefore_iff.mp ho) ht (hlast o rfl)
    | cons q os =>
      exact .before (Operator.isBefore_iff.mp ho) (ih hos hlast) fun _ h =>
        absurd h List.not_mem_nil

end Tree

namespace Affixed

variable {l r : Affixed} {o : Operator} {s t : Tree}

/-- An operand has a tree. -/
theorem exists_tree (e : Affixed) : ∃ t : Tree, t.Separated ∧ t.terms = e.expr := by
  have hbefores (rest : Expr) := Expr.wellFormed_ops e.befores
    (fun o ho => ⟨Bool.eq_false_iff.mpr fun ha =>
      Operator.not_isBefore_of_isAfter ha (e.befores_isBefore o ho),
      Bool.ne_false_iff.mpr (e.befores_isBefore o ho)⟩) rest
  have hafters := Expr.wellFormed_ops e.afters
    (fun o ho => ⟨e.afters_isAfter o ho,
      Operator.not_isBefore_of_isAfter (e.afters_isAfter o ho)⟩) []
  have hwell : e.expr.wellFormed false := by
    rw [expr, (hbefores _).1, Expr.wellFormed_operand e.term_ne_op, ← List.append_nil (List.map ..),
      hafters.1]
    rfl
  have hexplicit : e.expr.explicit false = e.expr := by
    rw [expr, (hbefores _).2, Expr.explicit_operand e.term_ne_op]
    simpa [Expr.explicit] using hafters.2
  obtain ⟨t, -, ht, hterms⟩ := Tree.build_wellFormed hwell
  exact ⟨t, ht, hterms.trans hexplicit⟩

/-- The operators before an operand that an operator behind it leaves to what it comes to. -/
def kept (e : Affixed) (o : Operator) : List Operator := e.befores.rdropWhile (·.bindsTighter o)

theorem kept_append_taken (e : Affixed) (o : Operator) :
    (e.kept o).map .op ++ (e.taken o).expr = e.expr := by
  have hbefores : (e.taken o).befores = e.befores.rtakeWhile (·.bindsTighter o) := rfl
  rw [expr, hbefores, ← List.append_assoc, ← List.map_append, kept,
    List.rdropWhile_append_rtakeWhile]
  rfl

theorem isAfter_of_leftSpine {e : Affixed} (ht : t.Separated) (hterms : t.terms = e.expr)
    {p : Operator} (hp : p ∈ t.leftSpine) : p.isAfter := by
  obtain ⟨hmem, hbefore⟩ := ht.placed.mem_leftSpine hp
  rw [hterms] at hmem
  exact (op_mem_expr hmem).elim (fun h => absurd (e.befores_isBefore p h) hbefore)
    (e.afters_isAfter p)

/-- Precedence gives the operator what it takes of the left operand and all of the right one, and
leaves the other operators to what comes of these. -/
theorem separated_between (ho : o.combines) (hs : s.Separated) (hsl : s.terms = (l.taken o).expr)
    (ht : t.Separated) (htr : t.terms = r.expr) :
    (Tree.prefixed (l.kept o) (.between o s t)).Separated := by
  have hright : ∀ q ∈ s.rightSpine, q.bindsTighter o := by
    intro q hq
    have hmem := Tree.mem_rightSpine hq
    rw [hsl] at hmem
    rcases op_mem_expr hmem with h | h
    · exact List.mem_rtakeWhile_imp (p := fun p : Operator => p.bindsTighter o) h
    · exact Operator.bindsTighter_of_isAfter (l.afters_isAfter q h)
        (by simp [Operator.isBefore, Operator.fixity_of_combines ho])
  have hleft : ∀ p ∈ t.leftSpine, ¬ o.bindsTighter p := fun p hp =>
    Operator.not_bindsTighter_of_isAfter ho (Nat.le_refl _) (isAfter_of_leftSpine ht htr hp)
  have hbetween := Tree.Separated.between (Operator.fixity_of_combines ho) hs ht hright hleft
  refine hbetween.prefixed (fun p hp =>
    l.befores_isBefore p ((List.rdropWhile_prefix _ _).subset hp)) ?_
  intro q hq p hp
  -- The last of the operators that are left does not bind tighter, or it would be taken, too.
  have hqo : ¬ q.bindsTighter o := by
    obtain ⟨hne, rfl⟩ := List.mem_getLast?_eq_getLast hq
    exact List.rdropWhile_last_not _ _ hne
  rcases List.mem_cons.mp hp with rfl | hp
  · exact hqo
  · exact Operator.not_bindsTighter_of_isAfter ho (Operator.precedence_le_of_not_bindsTighter hqo)
      (isAfter_of_leftSpine hs hsl hp)

theorem terms_between (hsl : s.terms = (l.taken o).expr) (htr : t.terms = r.expr) :
    (Tree.prefixed (l.kept o) (.between o s t)).terms = l.expr ++ .op o :: r.expr := by
  rw [Tree.terms_prefixed, Tree.terms, hsl, htr, ← List.append_assoc, kept_append_taken]

end Affixed

end Awk
