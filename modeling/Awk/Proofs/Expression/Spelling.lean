import Awk.Proofs.Expression.Tree

/-! How trees are spelled. A program writes concatenation as nothing; which expressions are
well-formed, and what a tree is written as. -/

namespace Awk

namespace Expr

/-- The expression with the concatenations that are written as nothing, where `value` says whether
an operand stands before it. -/
def explicit : Bool → Expr → Expr
  | _, [] => []
  | _, .op o :: e => .op o :: explicit o.isAfter e
  | value, t :: e => (if value then [.op .concat, t] else [t]) ++ explicit true e

/-- Whether operands and operators take turns as they should, where `value` says whether an operand
stands before the expression. -/
def wellFormed : Bool → Expr → Bool
  | value, [] => value
  | value, .op o :: e => (o.isBefore != value) && wellFormed o.isAfter e
  | _, _ :: e => wellFormed true e

theorem explicit_operand {t : Term} (ht : ∀ o, t ≠ .op o) (value : Bool) (e : Expr) :
    explicit value (t :: e) =
      (if value then [.op .concat, t] else [t]) ++ explicit true e := by
  cases t with
  | op o => exact absurd rfl (ht o)
  | _ => rfl

theorem leavesValue_operand {t : Term} (ht : ∀ o, t ≠ .op o) : t.leavesValue := by
  cases t with
  | op o => exact absurd rfl (ht o)
  | _ => rfl

theorem wellFormed_operand {t : Term} (ht : ∀ o, t ≠ .op o) (value : Bool) (e : Expr) :
    wellFormed value (t :: e) = wellFormed true e := by
  cases t with
  | op o => exact absurd rfl (ht o)
  | _ => rfl

theorem explicit_head (value : Bool) (t : Term) (e : Expr) :
    explicit value (t :: e) = explicit value [t] ++ explicit t.leavesValue e := by
  cases t with
  | op o => rfl
  | _ => cases value <;> rfl

theorem wellFormed_tail {value : Bool} {t : Term} {e : Expr} (h : wellFormed value (t :: e)) :
    wellFormed t.leavesValue e := by
  cases t with
  | op o => exact (Bool.and_eq_true_iff.mp h).2
  | _ => exact h

/-- In an expression that leaves no concatenation out, no operand stands behind another. -/
theorem explicit_cons {value : Bool} {t : Term} {e : Expr}
    (h : explicit value (t :: e) = t :: e) :
    (value → ∃ o, t = .op o) ∧ explicit t.leavesValue e = e := by
  obtain ⟨o, rfl⟩ | hop := t.op_or_operand
  · exact ⟨fun _ => ⟨o, rfl⟩, (List.cons.inj h).2⟩
  · rw [explicit_operand hop] at h
    cases value with
    | true => exact absurd (List.cons.inj h).1.symm (hop _)
    | false =>
      rw [leavesValue_operand hop]
      exact ⟨nofun, (List.cons.inj h).2⟩

/-- Whether an operand stands last, where `value` says whether one stands before the expression. -/
def leaves (value : Bool) (e : Expr) : Bool := (e.getLast?.map Term.leavesValue).getD value

theorem leaves_cons (value : Bool) (t : Term) (e : Expr) :
    leaves value (t :: e) = leaves t.leavesValue e := by
  simp only [leaves, List.getLast?_cons, Option.map_some, Option.getD_some]
  cases e.getLast? <;> rfl

theorem explicit_append (value : Bool) (a b : Expr) :
    explicit value (a ++ b) = explicit value a ++ explicit (leaves value a) b := by
  induction a generalizing value with
  | nil => rfl
  | cons t a ih =>
    rw [List.cons_append, explicit_head, ih, ← List.append_assoc, ← explicit_head, leaves_cons]

/-- Writing the concatenations out changes nothing about whether an expression is well-formed. -/
theorem wellFormed_explicit (value : Bool) (e : Expr) :
    wellFormed value (explicit value e) = wellFormed value e := by
  induction e generalizing value with
  | nil => rfl
  | cons t e ih =>
    obtain ⟨o, rfl⟩ | hop := t.op_or_operand
    · simp only [explicit, wellFormed, ih]
    · rw [explicit_operand hop, wellFormed_operand hop]
      cases value with
      | false =>
        show wellFormed false (t :: explicit true e) = _
        rw [wellFormed_operand hop, ih]
      | true =>
        show wellFormed false (t :: explicit true e) = _
        rw [wellFormed_operand hop, ih]

end Expr

namespace Tree

/-- Writes a tree behind an expression, as the parser does: concatenation is written as nothing. -/
def into (e : Expr) : Tree → Expr
  | operand t => e.push t
  | before o t => t.into (e.push (.op o))
  | after t o => (t.into e).push (.op o)
  | between o l r => r.into (if o = .concat then l.into e else (l.into e).push (.op o))

/-- The expression that a tree is written as. -/
def written (t : Tree) : Expr := t.into []

/-- What a term appends depends only on whether an operand stands before it. -/
theorem exists_push (x : Term) {e e' : Expr} (h : e.endsWithValue = e'.endsWithValue) :
    ∃ s, e.push x = e ++ s ∧ e'.push x = e' ++ s ∧
      (e.push x).endsWithValue = (e'.push x).endsWithValue := by
  have hv : (e.push x).endsWithValue = (e'.push x).endsWithValue := by
    rw [Expr.endsWithValue_push, Expr.endsWithValue_push]
  by_cases hop : ∃ o, x = .op o ∧ (o.isBefore && e.endsWithValue)
  · obtain ⟨o, rfl, ho⟩ := hop
    refine ⟨[.op .concat, .op o], ?_, ?_, hv⟩
    · simp only [Expr.push, ho, if_true]
    · rw [h] at ho
      simp only [Expr.push, ho, if_true]
  · refine ⟨[x], ?_, ?_, hv⟩
    · unfold Expr.push
      split
      · exact if_neg fun ho => hop ⟨_, rfl, ho⟩
      · rfl
    · unfold Expr.push
      rw [← h]
      split
      · exact if_neg fun ho => hop ⟨_, rfl, ho⟩
      · rfl

theorem exists_into (t : Tree) {e e' : Expr} (h : e.endsWithValue = e'.endsWithValue) :
    ∃ s, into e t = e ++ s ∧ into e' t = e' ++ s ∧
      (into e t).endsWithValue = (into e' t).endsWithValue := by
  induction t generalizing e e' with
  | operand x => exact exists_push x h
  | before o t ih =>
    obtain ⟨s, hs, hs', hv⟩ := exists_push (.op o) h
    obtain ⟨u, hu, hu', hv⟩ := ih hv
    refine ⟨s ++ u, ?_, ?_, hv⟩
    · rw [into, hu, hs, List.append_assoc]
    · rw [into, hu', hs', List.append_assoc]
  | after t o ih =>
    obtain ⟨s, hs, hs', hv⟩ := ih h
    obtain ⟨u, hu, hu', hv⟩ := exists_push (.op o) hv
    refine ⟨s ++ u, ?_, ?_, hv⟩
    · rw [into, hu, hs, List.append_assoc]
    · rw [into, hu', hs', List.append_assoc]
  | between o l r ihl ihr =>
    obtain ⟨s, hs, hs', hv⟩ := ihl h
    by_cases ho : o = .concat
    · obtain ⟨u, hu, hu', hv⟩ := ihr hv
      simp only [into, if_pos ho]
      exact ⟨s ++ u, by rw [hu, hs, List.append_assoc], by rw [hu', hs', List.append_assoc], hv⟩
    · obtain ⟨w, hw, hw', hv⟩ := exists_push (.op o) hv
      obtain ⟨u, hu, hu', hv⟩ := ihr hv
      simp only [into, if_neg ho]
      exact ⟨s ++ (w ++ u), by rw [hu, hw, hs]; simp, by rw [hu', hw', hs']; simp, hv⟩

/-- An expression that stands open gets just what the tree is written as. -/
theorem into_eq_append {e : Expr} (h : e.endsWithValue = false) (t : Tree) :
    into e t = e ++ t.written := by
  have hnil : e.endsWithValue = Expr.endsWithValue [] := h
  obtain ⟨s, hs, hs', -⟩ := exists_into t hnil
  rw [hs, written, hs', List.nil_append]

/-! What a tree spells where each operator stands on its side. -/

theorem Placed.explicit_terms_append {t : Tree} (h : t.Placed) (e : Expr) :
    Expr.explicit false (t.terms ++ e) = t.terms ++ Expr.explicit true e := by
  induction h generalizing e with
  | operand ht => exact Expr.explicit_operand ht false e
  | before ho _ ih =>
    have ha := Operator.isAfter_eq_false (Operator.fixity_ne ho (by decide))
    simp only [terms, List.cons_append, Expr.explicit, ha, ih]
  | after ho _ ih =>
    have ha := Operator.isAfter_iff.mpr ho
    simp only [terms, List.append_assoc, List.cons_append, List.nil_append, ih, Expr.explicit, ha]
  | between ho _ _ ihl ihr =>
    have ha := Operator.isAfter_eq_false (Operator.fixity_ne ho (by decide))
    simp only [terms, List.append_assoc, List.cons_append, ihl, Expr.explicit, ha, ihr]

/-- The terms of a tree leave no concatenation out. -/
theorem Placed.explicit_terms {t : Tree} (h : t.Placed) :
    Expr.explicit false t.terms = t.terms := by
  have hnil := h.explicit_terms_append []
  rwa [List.append_nil, Expr.explicit, List.append_nil] at hnil

theorem Placed.wellFormed_terms_append {t : Tree} (h : t.Placed) (e : Expr) :
    Expr.wellFormed false (t.terms ++ e) = Expr.wellFormed true e := by
  induction h generalizing e with
  | operand ht => exact Expr.wellFormed_operand ht false e
  | before ho _ ih =>
    have ha := Operator.isAfter_eq_false (Operator.fixity_ne ho (by decide))
    have hb := Operator.isBefore_iff.mpr ho
    simp only [terms, List.cons_append, Expr.wellFormed, ha, hb, ih]
    rfl
  | after ho _ ih =>
    have ha := Operator.isAfter_iff.mpr ho
    have hb := Operator.isBefore_eq_false (Operator.fixity_ne ho (by decide))
    simp only [terms, List.append_assoc, List.cons_append, List.nil_append, ih, Expr.wellFormed, ha,
      hb]
    rfl
  | between ho _ _ ihl ihr =>
    have ha := Operator.isAfter_eq_false (Operator.fixity_ne ho (by decide))
    have hb := Operator.isBefore_eq_false (Operator.fixity_ne ho (by decide))
    simp only [terms, List.append_assoc, List.cons_append, ihl, Expr.wellFormed, ha, hb, ihr]
    rfl

/-- An expression ends with an operand where a tree has been written. -/
theorem Placed.endsWithValue_into {t : Tree} (h : t.Placed) (e : Expr) :
    (into e t).endsWithValue = true := by
  induction h generalizing e with
  | operand ht => rw [into, Expr.endsWithValue_push, Expr.leavesValue_operand ht]
  | before _ _ ih => exact ih _
  | after ho _ _ =>
    rw [into, Expr.endsWithValue_push]
    exact Operator.isAfter_iff.mpr ho
  | between _ _ _ _ ihr => exact ihr _

/-- The concatenation that stands before what follows an operand. -/
def joint (value : Bool) : Expr := if value then [.op .concat] else []

theorem explicit_push_operand {t : Term} (ht : ∀ o, t ≠ .op o) (e : Expr) :
    (e.push t).explicit false = e.explicit false ++ joint e.endsWithValue ++ [t] := by
  have hpush : e.push t = e ++ [t] := by
    cases t with
    | op o => exact absurd rfl (ht o)
    | _ => rfl
  have hlast : Expr.leaves false e = e.endsWithValue := rfl
  rw [hpush, Expr.explicit_append, hlast, Expr.explicit_operand ht]
  cases e.endsWithValue <;> simp [joint, Expr.explicit]

theorem explicit_push_before {o : Operator} (ho : o.fixity = .before) (e : Expr) :
    (e.push (.op o)).explicit false = e.explicit false ++ joint e.endsWithValue ++ [.op o] := by
  have hb := Operator.isBefore_iff.mpr ho
  cases hv : e.endsWithValue with
  | true =>
    have hpush : e.push (.op o) = e ++ [.op .concat, .op o] := by simp [Expr.push, hb, hv]
    rw [hpush, Expr.explicit_append]
    simp [joint, Expr.explicit]
  | false =>
    have hpush : e.push (.op o) = e ++ [.op o] := by simp [Expr.push, hv]
    rw [hpush, Expr.explicit_append]
    simp [joint, Expr.explicit]

theorem explicit_push_behind {o : Operator} (ho : o.fixity ≠ .before) (e : Expr) :
    (e.push (.op o)).explicit false = e.explicit false ++ [.op o] := by
  have hb := Operator.isBefore_eq_false ho
  have hpush : e.push (.op o) = e ++ [.op o] := by simp [Expr.push, hb]
  rw [hpush, Expr.explicit_append]
  simp [Expr.explicit]

/-- With concatenations written out, writing a tree appends its terms. -/
theorem Placed.explicit_into {t : Tree} (h : t.Placed) (e : Expr) :
    (into e t).explicit false = e.explicit false ++ joint e.endsWithValue ++ t.terms := by
  induction h generalizing e with
  | operand ht => exact explicit_push_operand ht e
  | @before o t ho _ ih =>
    have hopen : (e.push (.op o)).endsWithValue = false := by
      rw [Expr.endsWithValue_push]
      exact Operator.isAfter_eq_false (Operator.fixity_ne ho (by decide))
    rw [into, ih, hopen, explicit_push_before ho]
    simp [joint, terms]
  | after ho _ ih =>
    rw [into, explicit_push_behind (Operator.fixity_ne ho (by decide)), ih]
    simp [terms]
  | @between o l r ho hl _ ihl ihr =>
    by_cases hc : o = .concat
    · rw [into, if_pos hc, ihr, ihl, hl.endsWithValue_into]
      simp [joint, terms, hc]
    · have hopen : ((into e l).push (.op o)).endsWithValue = false := by
        rw [Expr.endsWithValue_push]
        exact Operator.isAfter_eq_false (Operator.fixity_ne ho (by decide))
      rw [into, if_neg hc, ihr, hopen, explicit_push_behind (Operator.fixity_ne ho (by decide)),
        ihl]
      simp [joint, terms]

/-- What a tree is written as spells its terms. -/
theorem Placed.explicit_written {t : Tree} (h : t.Placed) :
    t.written.explicit false = t.terms := by
  rw [written, h.explicit_into]
  rfl

theorem Placed.wellFormed_written {t : Tree} (h : t.Placed) : t.written.wellFormed false := by
  have hterms := h.wellFormed_terms_append []
  rw [List.append_nil] at hterms
  rw [← Expr.wellFormed_explicit, h.explicit_written, hterms]
  rfl

end Tree

end Awk
