import Awk.Proofs.Expression.Reduction

/-! Precedence recovers the tree. A frame of trees holds what is open to the right, innermost first.
The terms of a separated tree leave its right spine open, so that the next operator closes just
that; and whatever well-formed terms are pushed, what is closed is a separated tree that spells
them. -/

namespace Awk

/-- An operator whose right operand is still to come, with what is to its left. -/
inductive Opening where
  | before (o : Operator)
  | between (l : Tree) (o : Operator)

namespace Opening

def op : Opening → Operator
  | before o => o
  | between _ o => o

/-- What stands on the frame, last first. -/
def slots : Opening → List (Slot Tree)
  | before o => [.op o]
  | between l o => [.op o, .operand l]

def terms : Opening → Expr
  | before o => [.op o]
  | between l o => l.terms ++ [.op o]

/-- The tree with its right operand. -/
def close : Opening → Tree → Tree
  | before o, t => .before o t
  | between l o, t => .between o l t

def Fits : Opening → Prop
  | before o => o.fixity = .before
  | between _ o => o.fixity = .between

@[simp] theorem rightSpine_close (k : Opening) (t : Tree) :
    (k.close t).rightSpine = k.op :: t.rightSpine := by
  cases k <;> rfl

@[simp] theorem terms_close (k : Opening) (t : Tree) : (k.close t).terms = k.terms ++ t.terms := by
  cases k <;> simp [close, Tree.terms, terms]

end Opening

namespace Frame

/-- An operand is expected for the innermost opening. -/
def expecting (c : List Opening) : Frame Tree := ⟨c.flatMap Opening.slots, c.map Opening.op, false⟩

/-- An operand for the innermost opening stands last. -/
def ready (c : List Opening) (t : Tree) : Frame Tree := (expecting c).pushOperand t

/-- The operators on the right spine of an operand are still pending. -/
def hold : List Opening → Tree → Frame Tree
  | c, .operand t => ready c (.operand t)
  | c, .before o t => hold (.before o :: c) t
  | c, .after t o => (ready c t).pushOp o
  | c, .between o l r => hold (.between l o :: c) r

theorem pending_ready (c : List Opening) (t : Tree) : (ready c t).pending = c.map Opening.op := rfl

theorem length_pending_hold (c : List Opening) (t : Tree) :
    (hold c t).pending.length = t.rightSpine.length + c.length := by
  induction t generalizing c with
  | operand t => simp [hold, pending_ready, Tree.rightSpine]
  | before o t ih =>
    rw [hold, ih]
    simp only [Tree.rightSpine, List.length_cons]
    omega
  | after t o => simp [hold, pushOp, pending_ready, Tree.rightSpine]; omega
  | between o l r _ ihr =>
    rw [hold, ihr]
    simp only [Tree.rightSpine, List.length_cons]
    omega

theorem value_hold (c : List Opening) {t : Tree} (h : t.Separated) : (hold c t).value = true := by
  induction h generalizing c with
  | operand => rfl
  | before _ _ _ ih => exact ih _
  | after ho => exact Operator.isAfter_iff.mpr ho
  | between _ _ _ _ _ _ ihr => exact ihr _

end Frame

namespace Tree

open Awk.Frame Opening

theorem reduce_ready {k : Opening} (h : k.Fits) (c : List Opening) (t : Tree) :
    algebra.reduce (ready (k :: c) t) = some (ready c (k.close t)) := by
  cases k with
  | before o =>
    have ho : o.fixity = .before := h
    have hb : o.isBefore = true := Operator.isBefore_iff.mpr ho
    simp [Algebra.reduce, ready, expecting, pushOperand, takeReduction?, Opening.slots, hb, algebra,
      Reduction.fits, ho, ofReduction, complete, close, op]
  | between l o =>
    have ho : o.fixity = .between := h
    have hb := Operator.isBefore_eq_false (o := o) (Operator.fixity_ne ho (by decide))
    simp [Algebra.reduce, ready, expecting, pushOperand, takeReduction?, Opening.slots, hb, algebra,
      Reduction.fits, ho, ofReduction, complete, close, op]

theorem reduce_after {o : Operator} (h : o.fixity = .after) (c : List Opening) (t : Tree) :
    algebra.reduce ((ready c t).pushOp o) = some (ready c (after t o)) := by
  have ha : o.isAfter = true := Operator.isAfter_iff.mpr h
  have hb := Operator.isBefore_eq_false (o := o) (Operator.fixity_ne h (by decide))
  simp [Algebra.reduce, ready, expecting, pushOperand, pushOp, takeReduction?, ha, hb, algebra,
    Reduction.fits, h, ofReduction, complete]

theorem reduceWhile_of {p : Frame Tree → Bool} {f g : Frame Tree} (n : Nat) (hp : p f = true)
    (h : algebra.reduce f = some g) :
    algebra.reduceWhile p (n + 1) f = algebra.reduceWhile p n g := by
  simp [Algebra.reduceWhile, hp, h]

theorem reduceWhile_of_not {p : Frame Tree → Bool} {f : Frame Tree} (n : Nat) (hp : p f = false) :
    algebra.reduceWhile p n f = some f := by
  cases n <;> simp [Algebra.reduceWhile, hp]

/-- Where `p` holds along the right spine of a tree, all of it is closed. -/
theorem reduceWhile_hold {p : Frame Tree → Bool} {t : Tree} (h : t.Separated)
    (hp : ∀ f, f.value = true → ∀ q ∈ t.rightSpine, f.pending.head? = some q → p f = true)
    (c : List Opening) (n : Nat) :
    algebra.reduceWhile p (t.rightSpine.length + n) (hold c t) =
      algebra.reduceWhile p n (ready c t) := by
  induction h generalizing c n with
  | operand => simp [rightSpine, hold]
  | @before o t ho _ _ ih =>
    have hin := ih (fun f hv q hq => hp f hv q (.tail _ hq)) (.before o :: c) (n + 1)
    have hlen : (Tree.before o t).rightSpine.length + n = t.rightSpine.length + (n + 1) := by
      simp only [rightSpine, List.length_cons]
      omega
    rw [hlen, hold, hin]
    exact reduceWhile_of n (hp _ rfl o (.head _) rfl) (reduce_ready (k := .before o) ho c t)
  | @after t o ho _ _ _ =>
    have hlen : (Tree.after t o).rightSpine.length + n = n + 1 := by
      simp only [rightSpine, List.length_cons, List.length_nil]
      omega
    rw [hlen, hold]
    have ha := Operator.isAfter_iff.mpr ho
    exact reduceWhile_of n (hp _ ha o (.head _) rfl) (reduce_after ho c t)
  | @between o l r ho _ _ _ _ _ ih =>
    have hin := ih (fun f hv q hq => hp f hv q (.tail _ hq)) (.between l o :: c) (n + 1)
    have hlen : (Tree.between o l r).rightSpine.length + n = r.rightSpine.length + (n + 1) := by
      simp only [rightSpine, List.length_cons]
      omega
    rw [hlen, hold, hin]
    exact reduceWhile_of n (hp _ rfl o (.head _) rfl) (reduce_ready (k := .between l o) ho c r)

/-- The innermost opening binds none of the operators `ps` away from what follows. -/
def Loose (c : List Opening) (ps : List Operator) : Prop :=
  ∀ k ∈ c.head?, ∀ p ∈ ps, ¬ k.op.bindsTighter p

theorem shouldReduce_ready {c : List Opening} {p : Operator} (h : Loose c [p]) (t : Tree) :
    (ready c t).shouldReduce p = false := by
  cases c with
  | nil => rfl
  | cons k c =>
    have hk := h k rfl p (.head _)
    simpa [ready, expecting, shouldReduce, pushOperand] using hk

/-- An operator that is looser than the right spine of what stands before it takes all of that for
its left operand. -/
theorem pushOperator_hold {c : List Opening} {t : Tree} {p : Operator} (h : t.Separated)
    (hp : p.fixity ≠ .before) (ht : ∀ q ∈ t.rightSpine, q.bindsTighter p) (hc : Loose c [p]) :
    algebra.pushOperator p (hold c t) = some ((ready c t).pushOp p) := by
  have hb := Operator.isBefore_eq_false hp
  have htop (f : Frame Tree) (hv : f.value = true) (q : Operator) (hq : q ∈ t.rightSpine)
      (hf : f.pending.head? = some q) : f.shouldReduce p = true := by
    simp [shouldReduce, hv, hf, ht q hq]
  unfold Algebra.pushOperator
  rw [length_pending_hold, reduceWhile_hold h htop, reduceWhile_of_not _ (shouldReduce_ready hc t)]
  simp [hb]

theorem pushTerms_append (a b : Expr) (f : Frame Tree) :
    algebra.pushTerms (a ++ b) f = (algebra.pushTerms a f).bind (algebra.pushTerms b) := by
  induction a generalizing f with
  | nil => rfl
  | cons t a ih =>
    show (algebra.pushTerm t f).bind _ = ((algebra.pushTerm t f).bind _).bind _
    rw [Option.bind_assoc]
    exact congrArg _ (funext ih)

theorem pushTerms_cons (t : Term) (e : Expr) (f : Frame Tree) :
    algebra.pushTerms (t :: e) f = (algebra.pushTerm t f).bind (algebra.pushTerms e) := rfl

theorem pushTerms_singleton (t : Term) (f : Frame Tree) :
    algebra.pushTerms [t] f = algebra.pushTerm t f := by
  rw [pushTerms_cons]
  cases algebra.pushTerm t f <;> rfl

theorem pushTerm_before {o : Operator} (h : o.fixity = .before) (c : List Opening) :
    algebra.pushTerm (.op o) (expecting c) = some (expecting (.before o :: c)) := by
  have hb : o.isBefore = true := Operator.isBefore_iff.mpr h
  have ha := Operator.isAfter_eq_false (o := o) (Operator.fixity_ne h (by decide))
  simp [Algebra.pushTerm, Algebra.pushOperator, hb, expecting, pushOp, ha, Opening.slots, op]

theorem pushTerm_expecting {t : Term} (h : ∀ o, t ≠ .op o) (c : List Opening) :
    algebra.pushTerm t (expecting c) = some (ready c (.operand t)) := by
  rw [Algebra.pushTerm_operand _ h]
  rfl

/-- An operator between two operands opens its right one. -/
theorem pushOp_between {o : Operator} (h : o.fixity = .between) (c : List Opening) (t : Tree) :
    (ready c t).pushOp o = expecting (.between t o :: c) := by
  have ha := Operator.isAfter_eq_false (o := o) (Operator.fixity_ne h (by decide))
  simp [ready, expecting, pushOp, pushOperand, ha, Opening.slots, op]

/-- The terms of a tree, pushed where none of its operators is bound away, leave its right spine
open. -/
theorem pushTerms_terms {c : List Opening} {t : Tree} (h : t.Separated) (hc : Loose c t.leftSpine) :
    algebra.pushTerms t.terms (expecting c) = some (hold c t) := by
  induction h generalizing c with
  | @operand t ht =>
    rw [Tree.terms, pushTerms_singleton, pushTerm_expecting ht]
    rfl
  | @before o t ho _ hleft ih =>
    rw [Tree.terms, pushTerms_cons, pushTerm_before ho]
    exact ih fun k hk => by
      cases hk
      exact hleft
  | @after t o ho h hright ih =>
    have ht := ih fun k hk p hp => hc k hk p (.tail _ hp)
    rw [Tree.terms, pushTerms_append, ht, Option.bind_some, pushTerms_singleton]
    exact pushOperator_hold h (Operator.fixity_ne ho (by decide)) hright fun k hk p hp => by
      cases List.mem_singleton.mp hp
      exact hc k hk o (.head _)
  | @between o l r ho hl hr hright hleft ihl ihr =>
    have hpushl := ihl fun k hk p hp => hc k hk p (.tail _ hp)
    have hop : algebra.pushTerm (.op o) (hold c l) = some (expecting (.between l o :: c)) := by
      rw [← pushOp_between ho]
      exact pushOperator_hold hl (Operator.fixity_ne ho (by decide)) hright fun k hk p hp => by
        cases List.mem_singleton.mp hp
        exact hc k hk o (.head _)
    rw [Tree.terms, pushTerms_append, hpushl, Option.bind_some, pushTerms_cons, hop,
      Option.bind_some]
    exact ihr fun k hk => by
      cases hk
      exact hleft

theorem hasPending_of_head? {f : Frame Tree} {q : Operator} (h : f.pending.head? = some q) :
    f.hasPending = true := by
  unfold hasPending
  cases hp : f.pending with
  | nil =>
    rw [hp] at h
    cases h
  | cons o ops => rfl

theorem finish_hold {t : Tree} (h : t.Separated) : algebra.finish (hold [] t) = some t := by
  unfold Algebra.finish
  rw [length_pending_hold, reduceWhile_hold h fun f _ q _ hq => hasPending_of_head? hq]
  rfl

/-- The terms of a separated tree come to that tree. -/
theorem build_terms {t : Tree} (h : t.Separated) : build t.terms = some t := by
  have hpush : algebra.pushTerms t.terms .empty = some (hold [] t) :=
    pushTerms_terms (c := []) h fun _ hk => nomatch hk
  have hrun : build t.terms = (algebra.pushTerms t.terms .empty).bind algebra.finish := rfl
  rw [hrun, hpush]
  exact finish_hold h

/-- What the openings of a frame spell, the innermost last. -/
def spelled : List Opening → Expr
  | [] => []
  | k :: c => spelled c ++ k.terms

/-- Each opening is as a separated tree has it, and keeps to the left of it what is to its left. -/
inductive Nested : List Opening → Prop
  | nil : Nested []
  | before {o : Operator} {c : List Opening} : o.fixity = .before → Nested c →
      Nested (.before o :: c)
  | between {l : Tree} {o : Operator} {c : List Opening} : o.fixity = .between → l.Separated →
      (∀ q ∈ l.rightSpine, q.bindsTighter o) → Loose c (o :: l.leftSpine) → Nested c →
      Nested (.between l o :: c)

/-- A tree that can take the place of the innermost opening's right operand. -/
structure Standing (c : List Opening) (t : Tree) : Prop where
  nested : Nested c
  separated : t.Separated
  loose : Loose c t.leftSpine

theorem Standing.close {k : Opening} {c : List Opening} {t : Tree} (h : Standing (k :: c) t) :
    k.Fits ∧ Standing c (k.close t) := by
  obtain ⟨hn, ht, hl⟩ := h
  have hk : ∀ p ∈ t.leftSpine, ¬ k.op.bindsTighter p := hl k rfl
  cases hn with
  | before ho hc => exact ⟨ho, hc, .before ho ht hk, fun _ _ _ hp => nomatch hp⟩
  | between ho hsep hright hloose hc => exact ⟨ho, hc, .between ho hsep ht hright hk, hloose⟩

theorem spelled_close (k : Opening) (c : List Opening) (t : Tree) :
    spelled c ++ (k.close t).terms = spelled (k :: c) ++ t.terms := by
  simp [spelled]

/-- Closing what binds tighter than an incoming operator. -/
theorem reduceWhile_standing (p : Operator) {c : List Opening} {t : Tree} (h : Standing c t)
    (ht : ∀ q ∈ t.rightSpine, q.bindsTighter p) :
    ∃ c' t', algebra.reduceWhile (·.shouldReduce p) c.length (ready c t) = some (ready c' t') ∧
      Standing c' t' ∧ (∀ q ∈ t'.rightSpine, q.bindsTighter p) ∧ Loose c' [p] ∧
      spelled c' ++ t'.terms = spelled c ++ t.terms := by
  induction c generalizing t with
  | nil => exact ⟨[], t, rfl, h, ht, (fun _ hk => nomatch hk), rfl⟩
  | cons k c ih =>
    by_cases hk : k.op.bindsTighter p
    · obtain ⟨hfits, hclose⟩ := h.close
      have hright : ∀ q ∈ (k.close t).rightSpine, q.bindsTighter p := by
        rw [rightSpine_close]
        exact List.forall_mem_cons.mpr ⟨hk, ht⟩
      obtain ⟨c', t', hloop, hs, hr, hl, hterms⟩ := ih hclose hright
      refine ⟨c', t', ?_, hs, hr, hl, hterms.trans (spelled_close k c t)⟩
      rw [List.length_cons, reduceWhile_of _ _ (reduce_ready hfits c t)]
      · exact hloop
      · simpa [ready, expecting, shouldReduce, pushOperand] using hk
    · have hloose : Loose (k :: c) [p] := fun k' hk' q hq => by
        cases hk'
        cases List.mem_singleton.mp hq
        exact hk
      exact ⟨k :: c, t, reduceWhile_of_not _ (shouldReduce_ready hloose t), h, ht, hloose, rfl⟩

/-- Closing everything. -/
theorem reduceWhile_hasPending {c : List Opening} {t : Tree} (h : Standing c t) :
    ∃ t', algebra.reduceWhile hasPending c.length (ready c t) = some (ready [] t') ∧
      t'.Separated ∧ t'.terms = spelled c ++ t.terms := by
  induction c generalizing t with
  | nil => exact ⟨t, rfl, h.separated, rfl⟩
  | cons k c ih =>
    obtain ⟨hfits, hclose⟩ := h.close
    obtain ⟨t', hloop, hs, hterms⟩ := ih hclose
    refine ⟨t', ?_, hs, hterms.trans (spelled_close k c t)⟩
    rw [List.length_cons, reduceWhile_of _ rfl (reduce_ready hfits c t)]
    exact hloop

/-- Nothing that can follow an operand binds a part of the tree away. -/
def Closed (t : Tree) : Prop := ∀ p : Operator, ¬ p.isBefore → ∀ q ∈ t.rightSpine, q.bindsTighter p

/-- What a frame has come to after terms that are well-formed so far. -/
inductive Reached : Frame Tree → Expr → Prop
  | operator {c : List Opening} : Nested c → Reached (expecting c) (spelled c)
  | operand {c : List Opening} {t : Tree} : Standing c t → Closed t →
      Reached (hold c t) (spelled c ++ t.terms)

theorem reached_operand {c : List Opening} {t : Term} (h : Nested c) (ht : ∀ o, t ≠ .op o) :
    Reached (ready c (.operand t)) (spelled c ++ [t]) :=
  .operand ⟨h, .operand ht, fun _ _ _ hp => nomatch hp⟩ fun _ _ _ hq => nomatch hq

/-- An operator behind an operand closes what binds tighter, which becomes its left operand. -/
theorem pushOperator_closed {p : Operator} (hp : p.fixity ≠ .before) {c : List Opening} {t : Tree}
    (h : Standing c t) (ht : t.Closed) :
    ∃ c' t', algebra.pushOperator p (hold c t) = some ((ready c' t').pushOp p) ∧
      Standing c' t' ∧ (∀ q ∈ t'.rightSpine, q.bindsTighter p) ∧ Loose c' [p] ∧
      spelled c' ++ t'.terms = spelled c ++ t.terms := by
  have hb := Operator.isBefore_eq_false hp
  have hright := ht p (by simp [hb])
  obtain ⟨c', t', hloop, hs, hr, hl, hterms⟩ := reduceWhile_standing p h hright
  refine ⟨c', t', ?_, hs, hr, hl, hterms⟩
  have htop (f : Frame Tree) (hv : f.value = true) (q : Operator) (hq : q ∈ t.rightSpine)
      (hf : f.pending.head? = some q) : f.shouldReduce p = true := by
    simp [shouldReduce, hv, hf, hright q hq]
  unfold Algebra.pushOperator
  rw [length_pending_hold, reduceWhile_hold h.separated htop, hloop]
  simp [hb]

theorem Loose.cons {c : List Opening} {p : Operator} {ps : List Operator} (h : Loose c [p])
    (hs : Loose c ps) : Loose c (p :: ps) :=
  fun k hk => List.forall_mem_cons.mpr ⟨h k hk p (.head _), hs k hk⟩

theorem reached_between {o : Operator} (ho : o.fixity = .between) {c : List Opening} {t : Tree}
    (h : Standing c t) (ht : t.Closed) :
    ∃ c', algebra.pushOperator o (hold c t) = some (expecting c') ∧ Nested c' ∧
      spelled c' = spelled c ++ t.terms ++ [.op o] := by
  have hb : o.fixity ≠ .before := Operator.fixity_ne ho (by decide)
  obtain ⟨c', t', hpush, hs, hr, hl, hterms⟩ := pushOperator_closed hb h ht
  refine ⟨.between t' o :: c', ?_, ?_, ?_⟩
  · rw [hpush, pushOp_between ho]
  · exact .between ho hs.separated hr (hl.cons hs.loose) hs.nested
  · rw [← hterms]
    simp [spelled, Opening.terms]

theorem reached_after {o : Operator} (ho : o.fixity = .after) {c : List Opening} {t : Tree}
    (h : Standing c t) (ht : t.Closed) :
    ∃ f, algebra.pushOperator o (hold c t) = some f ∧
      Reached f (spelled c ++ t.terms ++ [.op o]) := by
  have hb : o.fixity ≠ .before := Operator.fixity_ne ho (by decide)
  obtain ⟨c', t', hpush, hs, hr, hl, hterms⟩ := pushOperator_closed hb h ht
  refine ⟨hold c' (.after t' o), hpush, ?_⟩
  have hafter : Standing c' (.after t' o) :=
    ⟨hs.nested, .after ho hs.separated hr, hl.cons hs.loose⟩
  have hclosed : Closed (.after t' o) := fun p hp q hq => by
    cases List.mem_singleton.mp hq
    exact Operator.bindsTighter_of_isAfter (Operator.isAfter_iff.mpr ho) hp
  rw [← hterms, List.append_assoc]
  exact .operand hafter hclosed

theorem pushOperand_concat {f g : Frame Tree} (hv : f.value = true)
    (h : algebra.pushOperator .concat f = some g) (t : Tree) :
    algebra.pushOperand t f = some (g.pushOperand t) := by
  simp [Algebra.pushOperand, hv, h]

/-- A term that can stand where it does keeps the frame in order. -/
theorem Reached.pushTerm {f : Frame Tree} {a : Expr} {t : Term} {e : Expr} (h : Reached f a)
    (he : Expr.wellFormed f.value (t :: e)) :
    ∃ f', algebra.pushTerm t f = some f' ∧ Reached f' (a ++ Expr.explicit f.value [t]) := by
  obtain ⟨o, rfl⟩ | hop := t.op_or_operand
  · have hplace : o.isBefore ≠ f.value := bne_iff_ne.mp (Bool.and_eq_true_iff.mp he).1
    cases h with
    | @operator c hn =>
      have hb : o.fixity = .before := Operator.isBefore_iff.mp (Bool.ne_false_iff.mp hplace)
      exact ⟨_, pushTerm_before hb c, .operator (.before hb hn)⟩
    | @operand c t hs hc =>
      rw [value_hold c hs.separated] at hplace
      match ho : o.fixity with
      | .before => exact absurd (Operator.isBefore_iff.mpr ho) hplace
      | .after => exact reached_after ho hs hc
      | .between =>
        obtain ⟨c', hpush, hn, hterms⟩ := reached_between ho hs hc
        refine ⟨_, hpush, ?_⟩
        have hreached := Reached.operator hn
        rw [hterms] at hreached
        exact hreached
  · cases h with
    | @operator c hn =>
      refine ⟨_, pushTerm_expecting hop c, ?_⟩
      rw [Expr.explicit_operand hop]
      exact reached_operand hn hop
    | @operand c u hs hc =>
      have hv := value_hold c hs.separated
      obtain ⟨c', hpush, hn, hterms⟩ := reached_between (o := .concat) rfl hs hc
      refine ⟨ready c' (.operand t), ?_, ?_⟩
      · rw [Algebra.pushTerm_operand _ hop]
        exact pushOperand_concat hv hpush _
      · have hreached := reached_operand hn hop
        rw [hterms] at hreached
        rw [hv, Expr.explicit_operand hop]
        simpa [Expr.explicit] using hreached

theorem Reached.pushTerms {e : Expr} {f : Frame Tree} {a : Expr} (h : Reached f a)
    (he : Expr.wellFormed f.value e) :
    ∃ f', algebra.pushTerms e f = some f' ∧ f'.value = true ∧
      Reached f' (a ++ Expr.explicit f.value e) := by
  induction e generalizing f a with
  | nil => exact ⟨f, rfl, he, by simpa [Expr.explicit] using h⟩
  | cons t e ih =>
    obtain ⟨g, hg, hr⟩ := h.pushTerm he
    have hv := pushTerm_value hg
    obtain ⟨f', hf', hv', hr'⟩ := ih hr (by rw [hv]; exact Expr.wellFormed_tail he)
    refine ⟨f', ?_, hv', ?_⟩
    · rw [pushTerms_cons, hg]
      exact hf'
    · rw [Expr.explicit_head, ← hv, ← List.append_assoc]
      exact hr'

theorem Reached.finish {f : Frame Tree} {a : Expr} (h : Reached f a) (hf : f.value = true) :
    ∃ t, algebra.finish f = some t ∧ t.Separated ∧ t.terms = a := by
  cases h with
  | operator => cases hf
  | @operand c t hs hc =>
    obtain ⟨t', hloop, hsep, hterms⟩ := reduceWhile_hasPending hs
    refine ⟨t', ?_, hsep, hterms⟩
    unfold Algebra.finish
    rw [length_pending_hold,
      reduceWhile_hold hs.separated fun f _ q _ hq => hasPending_of_head? hq, hloop]
    rfl

/-- A well-formed expression comes to a separated tree that spells it. -/
theorem build_wellFormed {e : Expr} (he : e.wellFormed false) :
    ∃ t, build e = some t ∧ t.Separated ∧ t.terms = e.explicit false := by
  have hstart : Reached .empty [] := .operator (c := []) .nil
  obtain ⟨f, hf, hv, hr⟩ := hstart.pushTerms (e := e) he
  obtain ⟨t, ht, hs, hterms⟩ := hr.finish hv
  refine ⟨t, ?_, hs, hterms⟩
  have hrun : build e = (algebra.pushTerms e .empty).bind algebra.finish := rfl
  rw [hrun, hf]
  exact ht

/-- A well-formed expression comes to a tree if and only if that is separated and spells it. -/
theorem build_eq_some_iff {e : Expr} (he : e.wellFormed false) {t : Tree}
    (ht : t.terms = e.explicit false) : build e = some t ↔ t.Separated := by
  obtain ⟨u, hu, hs, hterms⟩ := build_wellFormed he
  rw [hu]
  refine ⟨fun h => Option.some.inj h ▸ hs, fun h => ?_⟩
  have hbuild := build_terms h
  rw [ht, ← hterms, build_terms hs] at hbuild
  exact hbuild

end Tree

end Awk
