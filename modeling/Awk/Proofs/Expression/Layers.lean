import Awk.Proofs.Conduct.Evaluation
import Awk.Proofs.Expression.Conforming
import Awk.Proofs.Expression.Segment

/-! The loose operators of an expression: assignments, conditionals, `||` and `&&`, which stand over
parts without any of them. What they come to is told by the tree: an operand that may be skipped is
evaluated where its value decides the result, and only there. -/

namespace Awk

theorem Expr.mem_explicit {e : Expr} {t : Term} (h : t ∈ e) (value : Bool) :
    t ∈ Expr.explicit value e := by
  induction e generalizing value with
  | nil => cases h
  | cons u e ih =>
    rw [Expr.explicit_head]
    refine List.mem_append.mpr ?_
    rcases List.mem_cons.mp h with rfl | h
    · obtain ⟨o, rfl⟩ | hop := t.op_or_operand
      · exact .inl (.head _)
      · rw [Expr.explicit_operand hop]
        cases value <;> simp
    · exact .inr (ih h _)

theorem Operator.fixity_of_isAssignment {o : Operator} (h : o.isAssignment) :
    o.fixity = .between := by
  cases o <;> first | rfl | exact absurd h (by decide)

namespace Tree

/-- The operators of a tree. -/
def operators : Tree → List Operator
  | operand _ => []
  | before o t => o :: t.operators
  | after t o => o :: t.operators
  | between o l r => o :: (l.operators ++ r.operators)

/-- Neither an assignment nor an operator that may skip an operand. -/
def Tight (t : Tree) : Prop := ∀ o ∈ t.operators, 5 ≤ o.precedence

/-- A deferred operand. -/
def Deferred (t : Tree) : Prop := ∃ x : Term, x.isDeferred ∧ t = operand x

/-- Loose operators over tight trees, none looser than `k`. Operands that may be skipped are
deferred. -/
inductive Layered : Nat → Tree → Prop
  | tight {k : Nat} {t : Tree} : k ≤ 5 → t.Placed → t.Tight → Layered k t
  | and {k : Nat} {l r : Tree} : k ≤ 4 → Layered 4 l → r.Deferred → Layered k (between .and l r)
  | or {k : Nat} {l r : Tree} : k ≤ 3 → Layered 3 l → r.Deferred → Layered k (between .or l r)
  | conditional {k : Nat} {c yes no : Tree} : k ≤ 2 → Layered 3 c → yes.Deferred → no.Deferred →
      Layered k (between .colon (between .question c yes) no)
  | assignment {k : Nat} {o : Operator} {l r : Tree} : k ≤ 1 → o.isAssignment → Layered 2 l →
      Layered 1 r → Layered k (between o l r)

theorem Layered.mono {j k : Nat} {t : Tree} (h : t.Layered j) (hkj : k ≤ j) : t.Layered k := by
  cases h with
  | tight hk hp ht => exact .tight (Nat.le_trans hkj hk) hp ht
  | and hk hl hr => exact .and (Nat.le_trans hkj hk) hl hr
  | or hk hl hr => exact .or (Nat.le_trans hkj hk) hl hr
  | conditional hk hc hy hn => exact .conditional (Nat.le_trans hkj hk) hc hy hn
  | assignment hk ho hl hr => exact .assignment (Nat.le_trans hkj hk) ho hl hr

/-- What a tree comes to. The right operand of `&&` is evaluated if the left one is true, that of
`||` if the left one is false, and the branch of a conditional that its condition selects; an
operand that is not evaluated leaves no trace. A tree without loose operators is evaluated by
precedence. -/
def outcome (self : Inner) : Tree → Run Delayed
  | between .and l r => do
    if (← self.force (← l.outcome self)).toBool then
      return .ofValue (.ofBool (← self.force (← r.outcome self)).toBool)
    else return .ofValue (.ofBool false)
  | between .or l r => do
    if (← self.force (← l.outcome self)).toBool then return .ofValue (.ofBool true)
    else return .ofValue (.ofBool (← self.force (← r.outcome self)).toBool)
  | between .colon (between .question c yes) no => do
    if (← self.force (← c.outcome self)).toBool then yes.outcome self else no.outcome self
  | between o l r => do
    if o.isAssignment then
      let left ← l.outcome self
      let right ← r.outcome self
      self.applyAssignment o left right
    else self.algebra.run (between o l r).written
  | t => self.algebra.run t.written

/-! What trees are written as. -/

theorem Placed.mem_operators {t : Tree} (h : t.Placed) {o : Operator} (ho : .op o ∈ t.terms) :
    o ∈ t.operators := by
  induction h with
  | operand ht => exact absurd (List.mem_singleton.mp ho).symm (ht o)
  | before _ _ ih =>
    rcases List.mem_cons.mp ho with ho | ho
    · cases ho
      exact .head _
    · exact .tail _ (ih ho)
  | after _ _ ih =>
    rcases List.mem_append.mp ho with ho | ho
    · exact .tail _ (ih ho)
    · cases List.mem_singleton.mp ho
      exact .head _
  | between _ _ _ ihl ihr =>
    rcases List.mem_append.mp ho with ho | ho
    · exact .tail _ (List.mem_append_left _ (ihl ho))
    · rcases List.mem_cons.mp ho with ho | ho
      · cases ho
        exact .head _
      · exact .tail _ (List.mem_append_right _ (ihr ho))

theorem Tight.precedence_written {t : Tree} (h : t.Tight) (hp : t.Placed) {o : Operator}
    (ho : .op o ∈ t.written) : 5 ≤ o.precedence := by
  have hterms := Expr.mem_explicit ho false
  rw [hp.explicit_written] at hterms
  exact h o (hp.mem_operators hterms)

theorem written_between {o : Operator} (ho : o.fixity = .between) (hc : o ≠ .concat)
    (l r : Tree) : (between o l r).written = l.written ++ .op o :: r.written := by
  have hb := Operator.isBefore_eq_false (o := o) (Operator.fixity_ne ho (by decide))
  have hpush : l.written.push (.op o) = l.written ++ [.op o] := by simp [Expr.push, hb]
  have hopen : (l.written.push (.op o)).endsWithValue = false := by
    rw [Expr.endsWithValue_push]
    exact Operator.isAfter_eq_false (Operator.fixity_ne ho (by decide))
  have hinto : (between o l r).written = into (l.written.push (.op o)) r := by
    rw [written, into, if_neg hc]
    rfl
  rw [hinto, into_eq_append hopen, hpush, List.append_assoc]
  rfl

/-! What they come to. -/

variable (self : Inner)

theorem Tight.outcome_eq {t : Tree} (h : t.Tight) :
    t.outcome self = self.algebra.run t.written := by
  cases t with
  | between o l r =>
    have ho : 5 ≤ o.precedence := h o (.head _)
    cases o <;> first | exact absurd ho (by decide) | rfl
  | _ => rfl

theorem outcome_assignment {o : Operator} (ho : o.isAssignment) (l r : Tree) :
    (between o l r).outcome self = (do
      let left ← l.outcome self
      let right ← r.outcome self
      self.applyAssignment o left right) := by
  cases o <;> first | exact absurd ho (by decide) | rfl

/-- A deferred operand is there, and its evaluation is up to what asks for its value. -/
theorem Deferred.exists_pure {t : Tree} (h : t.Deferred) :
    ∃ x : Term, t.written = [x] ∧ (∀ o, x ≠ .op o) ∧ ∃ d, self.algebra.operand x = pure d ∧
      t.outcome self = pure d ∧ d.isNull = false := by
  obtain ⟨x, hx, rfl⟩ := h
  obtain ⟨d, hd, hnull⟩ := self.operandOf_deferred hx
  have hop : ∀ o, x ≠ .op o := by
    rintro o rfl
    cases hx
  have hwritten : (operand x).written = [x] := by
    cases x <;> first | rfl | exact absurd rfl (hop _)
  refine ⟨x, hwritten, hop, d, hd, ?_, hnull⟩
  have hcomes : self.algebra.Comes Frame.hasPending .empty [x] (self.algebra.operand x) :=
    Algebra.comes_operand _ rfl hop
  have hrun : (operand x).outcome self = self.algebra.run (operand x).written := rfl
  rw [hrun, hwritten, hcomes.run_eq]
  exact hd

open Awk.Frame

variable {self} {base : Frame Delayed} {p : Frame Delayed → Bool}

/-- The two operators of a conditional choose between the branches. -/
theorem applyBinary_conditional (self : Inner) (condition : Delayed) {yes : Delayed}
    (h : yes.isNull = false) (no : Delayed) :
    (do self.applyBinary .colon (← self.applyBinary .question condition yes) no) =
      (do if (← self.force condition).toBool then pure yes else pure no) := by
  have hquestion : self.applyBinary .question condition yes =
      (do return if (← self.force condition).toBool then yes else .ready .null) := rfl
  have hcolon (chosen : Delayed) : self.applyBinary .colon chosen no =
      pure (if chosen.isNull then no else chosen) := rfl
  rw [hquestion]
  simp only [hcolon, bind_assoc, pure_bind]
  refine bind_congr fun v => ?_
  cases v.toBool with
  | true => simp [h]
  | false => rfl

/-- An operator over a part and a deferred operand. -/
theorem comes_deferred (o : Operator) (hbase : base.Awaits) (ho : o.fixity = .between)
    (hc : o ≠ .concat) (hp : Closes o.precedence p) {l r : Tree} {x : Run Delayed}
    (hl : self.algebra.Comes (·.shouldReduce o) base l.written x) (hr : r.Deferred) :
    self.algebra.Comes p base (between o l r).written (do
      let i ← x
      let j ← r.outcome self
      self.applyBinary o i j) := by
  obtain ⟨t, hwritten, hop, d, hd, houtcome, -⟩ := hr.exists_pure self
  rw [written_between ho hc, hwritten, houtcome, ← hd]
  have hopen (i : Delayed) : ((base.pushOperand i).pushOp o).value = false :=
    Operator.isAfter_eq_false (Operator.fixity_ne ho (by decide))
  exact hl.between hbase ho hp fun i => Algebra.comes_operand p (hopen i) hop

/-- Behind an assignment or at the start, a layered tree comes to its outcome. -/
theorem Layered.comes {k : Nat} {t : Tree} (h : t.Layered k) (hbase : base.Awaits)
    (hp : Closes k p) : self.algebra.Comes p base t.written (t.outcome self) := by
  induction h generalizing base p with
  | @tight k t hk hplaced htight =>
    rw [htight.outcome_eq]
    exact Algebra.comes_run hbase (hp.mono hk) (by decide)
      (fun o ho => htight.precedence_written hplaced ho) hplaced.wellFormed_written
  | @and k l r hk _ hr ih =>
    have hcloses : Closes (ι := Delayed) 4 (·.shouldReduce .and) :=
      closes_shouldReduce fun o ho => Operator.bindsTighter_of_le ho rfl
    obtain ⟨-, -, -, d, -, houtcome, -⟩ := hr.exists_pure self
    have hcomes := comes_deferred .and hbase rfl (by decide) (hp.mono hk) (ih hbase hcloses) hr
    rw [houtcome] at hcomes
    rw [outcome, houtcome]
    exact hcomes
  | @or k l r hk _ hr ih =>
    have hcloses : Closes (ι := Delayed) 3 (·.shouldReduce .or) :=
      closes_shouldReduce fun o ho => Operator.bindsTighter_of_le ho rfl
    obtain ⟨-, -, -, d, -, houtcome, -⟩ := hr.exists_pure self
    have hcomes := comes_deferred .or hbase rfl (by decide) (hp.mono hk) (ih hbase hcloses) hr
    rw [houtcome] at hcomes
    rw [outcome, houtcome]
    exact hcomes
  | @conditional k c yes no hk _ hyes hno ih =>
    have hcloses : Closes (ι := Delayed) 3 (·.shouldReduce .question) :=
      closes_shouldReduce fun o ho => Operator.bindsTighter_of_lt ho
    have hcolon : Closes (ι := Delayed) 2 (·.shouldReduce .colon) :=
      closes_shouldReduce fun o ho => Operator.bindsTighter_of_le ho rfl
    have hcomes := comes_deferred .colon hbase rfl (by decide) (hp.mono hk)
      (comes_deferred .question hbase rfl (by decide) hcolon (ih hbase hcloses) hyes) hno
    obtain ⟨-, -, -, dy, -, hy, hnull⟩ := hyes.exists_pure self
    obtain ⟨-, -, -, dn, -, hn, -⟩ := hno.exists_pure self
    rw [hy, hn] at hcomes
    simp only [bind_assoc, pure_bind, applyBinary_conditional self _ hnull] at hcomes
    rw [outcome, hy, hn]
    exact hcomes
  | @assignment k o l r hk ho _ _ ihl ihr =>
    have hprec : o.precedence = 1 := of_decide_eq_true ho
    have hcloses : Closes (ι := Delayed) 2 (·.shouldReduce o) :=
      closes_shouldReduce fun q hq => Operator.bindsTighter_of_lt (by rw [hprec]; exact hq)
    have hclosed : Closes o.precedence p := hp.mono (by rw [hprec]; exact hk)
    have hfixity := Operator.fixity_of_isAssignment ho
    have hright (i : Delayed) : ((base.pushOperand i).pushOp o).Awaits :=
      ⟨Operator.isAfter_eq_false (Operator.fixity_ne hfixity (by decide)), fun q hq => by
        cases hq
        exact ho⟩
    have hc : o ≠ .concat := by
      rintro rfl
      cases ho
    rw [outcome_assignment self ho, written_between hfixity hc]
    have hcomes := (ihl hbase hcloses).between hbase hfixity hclosed fun i =>
      ihr (hright i) (hp.mono hk)
    have happly (i j : Delayed) : self.algebra.apply (.binary o i j) = self.applyAssignment o i j :=
      if_pos ho
    simp only [happly] at hcomes
    exact hcomes

/-- A layered tree is evaluated to its outcome. -/
theorem Layered.terms_written {t : Tree} (h : t.Layered 1) (n : Nat) :
    (Inner.withFuel n).terms t.written = t.outcome (Inner.withFuel n) := by
  rw [Inner.terms_withFuel]
  exact (h.comes awaits_empty (closes_hasPending 1)).run_eq

theorem Layered.evalOperand_written {t : Tree} (h : t.Layered 1) (n : Nat) :
    evalOperand (n + 1) t.written =
      (do (Inner.withFuel n).settle (← t.outcome (Inner.withFuel n)) : Run Operand) := by
  show (do (Inner.withFuel n).settle (← (Inner.withFuel n).terms t.written)) = _
  rw [h.terms_written]

theorem Layered.value_written {t : Tree} (h : t.Layered 1) (n : Nat) :
    (Inner.withFuel (n + 1)).value t.written =
      (do (Inner.withFuel n).force (← t.outcome (Inner.withFuel n)) : Run Value) := by
  show (do Inner.valueOf (← evalOperand (n + 1) t.written)) = _
  rw [h.evalOperand_written, bind_assoc]
  rfl

theorem Deferred.layered {t : Tree} (h : t.Deferred) : t.Layered 1 := by
  obtain ⟨x, hx, rfl⟩ := h
  refine .tight (by decide) (.operand ?_) nofun
  rintro o rfl
  cases hx

/-! The operators that may skip an operand, in terms of the expressions that they stand over. -/

theorem Layered.evalOperand_and {l r : Tree} (hl : l.Layered 4) (hr : r.Deferred) (n : Nat) :
    evalOperand (n + 1) (Tree.between .and l r).written = (do
      if (← (Inner.withFuel (n + 1)).value l.written).toBool then
        return .value (.ofBool (← (Inner.withFuel (n + 1)).value r.written).toBool)
      else return .value (.ofBool false) : Run Operand) := by
  rw [(Layered.and (by decide) hl hr).evalOperand_written, (hl.mono (by decide)).value_written,
    hr.layered.value_written, outcome]
  simp only [bind_assoc]
  refine bind_congr fun i => bind_congr fun v => ?_
  split <;> simp only [bind_assoc, pure_bind] <;> rfl

theorem Layered.evalOperand_or {l r : Tree} (hl : l.Layered 3) (hr : r.Deferred) (n : Nat) :
    evalOperand (n + 1) (Tree.between .or l r).written = (do
      if (← (Inner.withFuel (n + 1)).value l.written).toBool then return .value (.ofBool true)
      else return .value (.ofBool (← (Inner.withFuel (n + 1)).value r.written).toBool) :
        Run Operand) := by
  rw [(Layered.or (by decide) hl hr).evalOperand_written, (hl.mono (by decide)).value_written,
    hr.layered.value_written, outcome]
  simp only [bind_assoc]
  refine bind_congr fun i => bind_congr fun v => ?_
  split <;> simp only [bind_assoc, pure_bind] <;> rfl

theorem Layered.evalOperand_conditional {c yes no : Tree} (hc : c.Layered 3) (hyes : yes.Deferred)
    (hno : no.Deferred) (n : Nat) :
    evalOperand (n + 1) (Tree.between .colon (.between .question c yes) no).written = (do
      if (← (Inner.withFuel (n + 1)).value c.written).toBool then evalOperand (n + 1) yes.written
      else evalOperand (n + 1) no.written : Run Operand) := by
  rw [(Layered.conditional (by decide) hc hyes hno).evalOperand_written,
    (hc.mono (by decide)).value_written, hyes.layered.evalOperand_written,
    hno.layered.evalOperand_written, outcome]
  simp only [bind_assoc]
  refine bind_congr fun i => bind_congr fun v => ?_
  split <;> rfl

/-- A tree and the parts that its loose operators stand over. -/
def layers : Tree → List Tree
  | between .and l r => between .and l r :: l.layers
  | between .or l r => between .or l r :: l.layers
  | between .colon (between .question c yes) no =>
    between .colon (between .question c yes) no :: c.layers
  | between o l r => between o l r :: if o.isAssignment then l.layers ++ r.layers else []
  | t => [t]

/-- An operator that may skip an operand asks for the value of what stands before it, once, and of
what it may skip only where that is wanted, once. -/
structure Lazy (n : Nat) (t : Tree) : Prop where
  and : ∀ l r, t = between .and l r → evalOperand (n + 1) t.written = (do
    if (← (Inner.withFuel (n + 1)).value l.written).toBool then
      return .value (.ofBool (← (Inner.withFuel (n + 1)).value r.written).toBool)
    else return .value (.ofBool false) : Run Operand)
  or : ∀ l r, t = between .or l r → evalOperand (n + 1) t.written = (do
    if (← (Inner.withFuel (n + 1)).value l.written).toBool then return .value (.ofBool true)
    else return .value (.ofBool (← (Inner.withFuel (n + 1)).value r.written).toBool) : Run Operand)
  conditional : ∀ c yes no, t = between .colon (between .question c yes) no →
    evalOperand (n + 1) t.written = (do
      if (← (Inner.withFuel (n + 1)).value c.written).toBool then evalOperand (n + 1) yes.written
      else evalOperand (n + 1) no.written : Run Operand)

/-- No tight tree has a loose operator on top. -/
theorem Tight.not_between {o : Operator} {l r : Tree} (h : (between o l r).Tight)
    (ho : o.precedence < 5) : False :=
  absurd (h o (.head _)) (Nat.not_le.mpr ho)

theorem Layered.lazy {k : Nat} {t : Tree} (h : t.Layered k) (n : Nat) : t.Lazy n := by
  refine ⟨fun l r ht => ?_, fun l r ht => ?_, fun c yes no ht => ?_⟩ <;> subst ht
  · cases h with
    | tight _ _ htight => exact (htight.not_between (by decide)).elim
    | and _ hl hr => exact hl.evalOperand_and hr n
    | assignment _ ho => cases ho
  · cases h with
    | tight _ _ htight => exact (htight.not_between (by decide)).elim
    | or _ hl hr => exact hl.evalOperand_or hr n
    | assignment _ ho => cases ho
  · cases h with
    | tight _ _ htight => exact (htight.not_between (by decide)).elim
    | conditional _ hc hyes hno => exact hc.evalOperand_conditional hyes hno n
    | assignment _ ho => cases ho

theorem Tight.layers_eq {t : Tree} (h : t.Tight) : t.layers = [t] := by
  cases t with
  | between o l r =>
    have ho : 5 ≤ o.precedence := h o (.head _)
    cases o <;> first | exact absurd ho (by decide) | rfl
  | _ => rfl

theorem layers_assignment {o : Operator} (ho : o.isAssignment) (l r : Tree) :
    (between o l r).layers = between o l r :: (l.layers ++ r.layers) := by
  cases o <;> first | exact absurd ho (by decide) | rfl

theorem Layered.of_mem_layers {k : Nat} {t u : Tree} (h : t.Layered k) (hu : u ∈ t.layers) :
    ∃ j, u.Layered j := by
  induction h with
  | @tight k t hk hplaced htight =>
    rw [htight.layers_eq, List.mem_singleton] at hu
    exact ⟨k, hu ▸ .tight hk hplaced htight⟩
  | @and k l r hk hl hr ih =>
    rcases List.mem_cons.mp hu with rfl | hu
    · exact ⟨k, .and hk hl hr⟩
    · exact ih hu
  | @or k l r hk hl hr ih =>
    rcases List.mem_cons.mp hu with rfl | hu
    · exact ⟨k, .or hk hl hr⟩
    · exact ih hu
  | @conditional k c yes no hk hc hyes hno ih =>
    rcases List.mem_cons.mp hu with rfl | hu
    · exact ⟨k, .conditional hk hc hyes hno⟩
    · exact ih hu
  | @assignment k o l r hk ho hl hr ihl ihr =>
    rw [layers_assignment ho] at hu
    rcases List.mem_cons.mp hu with rfl | hu
    · exact ⟨k, .assignment hk ho hl hr⟩
    · exact (List.mem_append.mp hu).elim ihl ihr

/-- Wherever one of them stands in a layered tree, an operator that may skip an operand is lazy. -/
theorem Layered.lazy_layers {k : Nat} {t u : Tree} (h : t.Layered k) (hu : u ∈ t.layers) (n : Nat) :
    u.Lazy n := by
  obtain ⟨_, hlayered⟩ := h.of_mem_layers hu
  exact hlayered.lazy n

end Tree

end Awk
