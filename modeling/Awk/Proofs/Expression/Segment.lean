import Awk.Proofs.Expression.Build

/-! A part of an expression at its start or behind an assignment. It is evaluated as if it stood
alone: what is below it on the frame is neither seen nor changed, and once its operators are
applied, what it comes to stands there as one operand. -/

namespace Awk

variable {μ : Type → Type} {ι : Type}

namespace Operator

/-- An assignment is never applied before what follows it. -/
theorem not_bindsTighter_of_isAssignment {q : Operator} (h : q.isAssignment) (p : Operator) :
    ¬ q.bindsTighter p := by
  cases q <;> first | exact absurd h (by decide) | (cases p <;> decide)

end Operator

namespace Frame

/-- A frame with another one below it. -/
def above (f base : Frame ι) : Frame ι :=
  ⟨f.slots ++ base.slots, f.pending ++ base.pending, f.value⟩

@[simp] theorem above_empty (f : Frame ι) : f.above .empty = f := by simp [above, empty]

/-- An operand is expected, at the start or behind an assignment. -/
structure Awaits (f : Frame ι) : Prop where
  value : f.value = false
  assignment : ∀ q ∈ f.pending.head?, q.isAssignment

theorem awaits_empty : (empty : Frame ι).Awaits := ⟨rfl, fun _ h => nomatch h⟩

/-- What stands on a frame that expects an operand, and its operators, all of precedence `k` or
more. -/
inductive Opened (k : Nat) : List (Slot ι) → List Operator → Prop
  | nil : Opened k [] []
  | before {o : Operator} {slots : List (Slot ι)} {pending : List Operator} : o.fixity = .before →
      k ≤ o.precedence → Opened k slots pending → Opened k (.op o :: slots) (o :: pending)
  | between {o : Operator} (i : ι) {slots : List (Slot ι)} {pending : List Operator} :
      o.fixity = .between → k ≤ o.precedence → Opened k slots pending →
      Opened k (.op o :: .operand i :: slots) (o :: pending)

/-- An operand stands last. -/
inductive Ready (k : Nat) : Frame ι → Prop
  | mk (i : ι) {slots : List (Slot ι)} {pending : List Operator} : Opened k slots pending →
      Ready k ⟨.operand i :: slots, pending, true⟩

/-- Operands and operators take turns as they should. -/
inductive Orderly (k : Nat) : Frame ι → Prop
  | opened {slots : List (Slot ι)} {pending : List Operator} : Opened k slots pending →
      Orderly k ⟨slots, pending, false⟩
  | ready {f : Frame ι} : Ready k f → Orderly k f
  | after {o : Operator} (i : ι) {slots : List (Slot ι)} {pending : List Operator} :
      o.fixity = .after → k ≤ o.precedence → Opened k slots pending →
      Orderly k ⟨.op o :: .operand i :: slots, o :: pending, true⟩

theorem Ready.pushOp {k : Nat} {f : Frame ι} (h : f.Ready k) {o : Operator} (ho : ¬ o.isBefore)
    (hk : k ≤ o.precedence) : (f.pushOp o).Orderly k := by
  obtain ⟨i, hs⟩ := h
  cases hfix : o.fixity with
  | before => exact absurd (Operator.isBefore_iff.mpr hfix) ho
  | between =>
    rw [Frame.pushOp, Operator.isAfter_eq_false (Operator.fixity_ne hfix (by decide))]
    exact .opened (.between i hfix hk hs)
  | after =>
    rw [Frame.pushOp, Operator.isAfter_iff.mpr hfix]
    exact .after i hfix hk hs

/-- Where all operators are applied, there is one operand. -/
theorem Orderly.eq_pushOperand {k : Nat} {f : Frame ι} (h : f.Orderly k) (hv : f.value = true)
    (hp : f.pending = []) : ∃ i, f = Frame.empty.pushOperand i := by
  cases h with
  | opened => cases hv
  | ready h =>
    obtain ⟨i, h⟩ := h
    cases hp
    cases h
    exact ⟨i, rfl⟩
  | after => cases hp

/-- That `p` asks for every operator of precedence `k` or more to be applied. -/
def Closes (k : Nat) (p : Frame ι → Bool) : Prop :=
  ∀ f, f.value = true → ∀ o, f.pending.head? = some o → k ≤ o.precedence → p f = true

theorem Closes.mono {k j : Nat} {p : Frame ι → Bool} (h : Closes k p) (hkj : k ≤ j) :
    Closes j p := fun f hv o ho hj => h f hv o ho (Nat.le_trans hkj hj)

theorem closes_shouldReduce {k : Nat} {p : Operator}
    (h : ∀ o : Operator, k ≤ o.precedence → o.bindsTighter p) :
    Closes k fun f : Frame ι => f.shouldReduce p := by
  intro f hv o ho hk
  simp [shouldReduce, hv, ho, h o hk]

theorem closes_hasPending (k : Nat) : Closes k (hasPending : Frame ι → Bool) := by
  intro f _ o ho _
  cases hp : f.pending with
  | nil =>
    rw [hp] at ho
    cases ho
  | cons q ops => simp [hasPending, hp]

/-- Nothing is applied on a frame that awaits an operand when that is there. -/
theorem Awaits.shouldReduce {base : Frame ι} (h : base.Awaits) (i : ι) (p : Operator) :
    (base.pushOperand i).shouldReduce p = false := by
  cases hq : base.pending.head? with
  | none => simp [Frame.shouldReduce, pushOperand, hq]
  | some q =>
    simpa [Frame.shouldReduce, pushOperand, hq] using
      Operator.not_bindsTighter_of_isAssignment (h.assignment q hq) p

end Frame

namespace Algebra

open Awk.Frame

section Steps

variable [Monad μ] (A : Algebra μ ι)

theorem reduceWhile_of_not {p : Frame ι → Bool} {f : Frame ι} (n : Nat) (hp : p f = false) :
    A.reduceWhile p n f = pure f := by
  cases n <;> simp [reduceWhile, hp]

theorem reduceWhile_of {p : Frame ι → Bool} {f : Frame ι} (n : Nat) (hp : p f = true) :
    A.reduceWhile p (n + 1) f = (do A.reduceWhile p n (← A.reduce f)) := by
  simp [reduceWhile, hp]

/-- The last operator of a frame that is in order is applied to its own operands, and its result
takes their place. -/
theorem exists_reduce {k : Nat} {f : Frame ι} (h : f.Orderly k) (hv : f.value = true) {o : Operator}
    {pending : List Operator} (hp : f.pending = o :: pending) :
    k ≤ o.precedence ∧ ∃ r slots, Opened k slots pending ∧ ∀ base : Frame ι,
      A.reduce (f.above base) =
        (do
          let i ← A.apply r
          return above ⟨.operand i :: slots, pending, true⟩ base) := by
  cases h with
  | opened => cases hv
  | ready h =>
    obtain ⟨i, h⟩ := h
    cases h with
    | nil => cases hp
    | before ho hk hs =>
      cases hp
      refine ⟨hk, .unary o i, _, hs, fun base => ?_⟩
      have hb := Operator.isBefore_iff.mpr ho
      simp only [reduce, takeReduction?, above, List.cons_append, hb, if_true]
      rfl
    | between j ho hk hs =>
      cases hp
      have hb := Operator.isBefore_eq_false (o := o) (Operator.fixity_ne ho (by decide))
      refine ⟨hk, .binary o j i, _, hs, fun base => ?_⟩
      simp only [reduce, takeReduction?, above, List.cons_append, hb, Bool.false_eq_true, if_false]
      rfl
  | after i ho hk hs =>
    cases hp
    refine ⟨hk, .unary o i, _, hs, fun base => ?_⟩
    have ha := Operator.isAfter_iff.mpr ho
    simp only [reduce, takeReduction?, above, List.cons_append, ha, if_true]
    rfl

end Steps

variable [Monad μ] [LawfulMonad μ] (A : Algebra μ ι)

theorem pushTerms_append (a b : Expr) (f : Frame ι) :
    A.pushTerms (a ++ b) f = (do A.pushTerms b (← A.pushTerms a f)) := by
  induction a generalizing f with
  | nil => simp [pushTerms]
  | cons t a ih => simp only [List.cons_append, pushTerms, bind_assoc, ih]

/-- `x` does above `base` what `y` does alone, and leaves a frame as `P` says. -/
structure Lifts (base : Frame ι) (P : Frame ι → Prop) (x y : μ (Frame ι)) : Prop where
  bind_eq : ∀ {β : Type} (k l : Frame ι → μ β), (∀ f, P f → k (f.above base) = l f) →
    x >>= k = y >>= l

namespace Lifts

variable {base : Frame ι} {P Q : Frame ι → Prop} {α : Type}

theorem pure {f : Frame ι} (hf : P f) :
    Lifts base P (Pure.pure (f.above base) : μ (Frame ι)) (Pure.pure f) where
  bind_eq k l hkl := by simp only [pure_bind, hkl f hf]

theorem bind {x y : μ (Frame ι)} {u v : Frame ι → μ (Frame ι)} (hxy : Lifts base P x y)
    (huv : ∀ f, P f → Lifts base Q (u (f.above base)) (v f)) :
    Lifts base Q (x >>= u) (y >>= v) where
  bind_eq k l hkl := by
    rw [bind_assoc, bind_assoc]
    exact hxy.bind_eq _ _ fun f hf => (huv f hf).bind_eq k l hkl

/-- A step that has nothing to do with the frame. -/
theorem andThen (x : μ α) {u v : α → μ (Frame ι)} (huv : ∀ a, Lifts base P (u a) (v a)) :
    Lifts base P (x >>= u) (x >>= v) where
  bind_eq k l hkl := by
    rw [bind_assoc, bind_assoc]
    exact bind_congr fun a => (huv a).bind_eq k l hkl

end Lifts

variable {A} {k : Nat} {base : Frame ι}

/-- What is applied before an operator is above the base, where an assignment waits. -/
theorem lifts_reduceWhile (hbase : base.Awaits) {p : Operator} (hp : ¬ p.isBefore) {f : Frame ι}
    (h : f.Orderly k) (hv : f.value = true) {n n' : Nat} (hn : f.pending.length ≤ n)
    (hn' : f.pending.length ≤ n') :
    Lifts base (Ready k) (A.reduceWhile (·.shouldReduce p) n (f.above base))
      (A.reduceWhile (·.shouldReduce p) n' f) := by
  generalize hpending : f.pending = pending at hn hn'
  induction pending generalizing f n n' with
  | nil =>
    obtain ⟨i, rfl⟩ := h.eq_pushOperand hv hpending
    have habove : (Frame.empty.pushOperand i).above base = base.pushOperand i := rfl
    rw [habove, A.reduceWhile_of_not n (hbase.shouldReduce i p), A.reduceWhile_of_not n' rfl]
    exact .pure (f := Frame.empty.pushOperand i) (.mk i .nil)
  | cons o pending ih =>
    obtain ⟨n, rfl⟩ := Nat.exists_eq_add_of_lt hn
    obtain ⟨n', rfl⟩ := Nat.exists_eq_add_of_lt hn'
    have htop : (f.above base).shouldReduce p = o.bindsTighter p := by
      simp [shouldReduce, above, hv, hpending]
    have halone : f.shouldReduce p = o.bindsTighter p := by simp [shouldReduce, hv, hpending]
    cases hop : o.bindsTighter p with
    | true =>
      obtain ⟨-, r, slots, hs, hreduce⟩ := A.exists_reduce h hv hpending
      have hsame := hreduce .empty
      simp only [above_empty] at hsame
      rw [A.reduceWhile_of _ (htop.trans hop), A.reduceWhile_of _ (halone.trans hop), hreduce,
        hsame, bind_assoc, bind_assoc]
      refine .andThen _ fun i => ?_
      rw [pure_bind, pure_bind]
      exact ih (.ready (.mk i hs)) rfl rfl (Nat.le_add_right _ _) (Nat.le_add_right _ _)
    | false =>
      rw [A.reduceWhile_of_not _ (htop.trans hop), A.reduceWhile_of_not _ (halone.trans hop)]
      refine .pure ?_
      cases h with
      | opened => cases hv
      | ready h => exact h
      | after i ho =>
        cases hpending
        have htight := Operator.bindsTighter_of_isAfter (Operator.isAfter_iff.mpr ho) hp
        rw [hop] at htight
        cases htight

/-- An operator that can stand where it does. -/
theorem lifts_pushOperator (hbase : base.Awaits) {o : Operator} (hk : k ≤ o.precedence)
    {f : Frame ι} (h : f.Orderly k) (hplace : o.isBefore ≠ f.value) :
    Lifts base (fun g => g.Orderly k ∧ g.value = o.isAfter) (A.pushOperator o (f.above base))
      (A.pushOperator o f) := by
  unfold pushOperator
  by_cases hb : o.isBefore
  · have hfix := Operator.isBefore_iff.mp hb
    have ha := Operator.isAfter_eq_false (o := o) (Operator.fixity_ne hfix (by decide))
    rw [if_pos hb, if_pos hb]
    cases h with
    | opened hs =>
      refine Lifts.pure (f := Frame.pushOp _ o) ⟨?_, rfl⟩
      rw [Frame.pushOp, ha]
      exact .opened (.before hfix hk hs)
    | ready h =>
      cases h
      exact absurd hb hplace
    | after => exact absurd hb hplace
  · have hv : f.value = true := by
      rw [Bool.eq_false_iff.mpr hb] at hplace
      exact Bool.ne_false_iff.mp hplace.symm
    have hlen : f.pending.length ≤ (f.above base).pending.length := by simp [above]
    rw [if_neg hb, if_neg hb]
    refine (lifts_reduceWhile hbase hb h hv hlen (Nat.le_refl _)).bind fun g hg => ?_
    exact Lifts.pure (f := g.pushOp o) ⟨hg.pushOp hb hk, rfl⟩

/-- An operand, behind a concatenation if another one stands before it. -/
theorem lifts_pushOperand (hbase : base.Awaits) (hk : k ≤ Operator.concat.precedence) (i : ι)
    {f : Frame ι} (h : f.Orderly k) :
    Lifts base (fun g => g.Orderly k ∧ g.value = true) (A.pushOperand i (f.above base))
      (A.pushOperand i f) := by
  have hpush {g : Frame ι} (hg : g.Orderly k) (hv : g.value = false) :
      (g.pushOperand i).Orderly k := by
    cases hg with
    | opened hs => exact .ready (.mk i hs)
    | ready h =>
      cases h
      cases hv
    | after => cases hv
  have hsame : (f.above base).value = f.value := rfl
  unfold pushOperand
  rw [hsame]
  split
  · rename_i hv
    have hplace : Operator.concat.isBefore ≠ f.value := by rw [hv]; decide
    refine (lifts_pushOperator hbase hk h hplace).bind fun g hg => ?_
    exact Lifts.pure (f := g.pushOperand i) ⟨hpush hg.1 hg.2, rfl⟩
  · rename_i hv
    exact Lifts.pure (f := f.pushOperand i) ⟨hpush h (Bool.eq_false_iff.mpr hv), rfl⟩

theorem lifts_pushTerm (hbase : base.Awaits) (hk : k ≤ Operator.concat.precedence) {t : Term}
    (ht : ∀ o, t = .op o → k ≤ o.precedence) {f : Frame ι} (h : f.Orderly k) {e : Expr}
    (he : Expr.wellFormed f.value (t :: e)) :
    Lifts base (fun g => g.Orderly k ∧ g.value = t.leavesValue) (A.pushTerm t (f.above base))
      (A.pushTerm t f) := by
  obtain ⟨o, rfl⟩ | hop := t.op_or_operand
  · exact lifts_pushOperator hbase (ht o rfl) h (bne_iff_ne.mp (Bool.and_eq_true_iff.mp he).1)
  · rw [A.pushTerm_operand hop, A.pushTerm_operand hop, Expr.leavesValue_operand hop]
    exact .andThen _ fun i => lifts_pushOperand hbase hk i h

theorem lifts_pushTerms (hbase : base.Awaits) (hk : k ≤ Operator.concat.precedence) {e : Expr}
    (he : ∀ o, .op o ∈ e → k ≤ o.precedence) {f : Frame ι} (h : f.Orderly k)
    (hwell : e.wellFormed f.value) :
    Lifts base (fun g => g.Orderly k ∧ g.value = true) (A.pushTerms e (f.above base))
      (A.pushTerms e f) := by
  induction e generalizing f with
  | nil => exact .pure ⟨h, hwell⟩
  | cons t e ih =>
    have ht : ∀ o, t = .op o → k ≤ o.precedence := fun o ho => he o (ho ▸ .head _)
    refine (lifts_pushTerm hbase hk ht h hwell).bind fun g hg => ?_
    refine ih (fun o ho => he o (.tail _ ho)) hg.1 ?_
    rw [hg.2]
    exact Expr.wellFormed_tail hwell

/-- Where everything above the base is applied, what it comes to alone stands there. -/
theorem reduceWhile_above {p : Frame ι → Bool} (hp : Closes k p) {f : Frame ι} (h : f.Orderly k)
    (hv : f.value = true) (base : Frame ι) (n : Nat) :
    A.reduceWhile p (f.pending.length + n) (f.above base) =
      (do
        let i ← A.finish f
        A.reduceWhile p n (base.pushOperand i)) := by
  generalize hpending : f.pending = pending
  induction pending generalizing f with
  | nil =>
    obtain ⟨i, rfl⟩ := h.eq_pushOperand hv hpending
    have hfinish : A.finish (Frame.empty.pushOperand i) =
        (do A.result (← pure (Frame.empty.pushOperand i))) := rfl
    have hresult : A.result (Frame.empty.pushOperand i) = pure i := rfl
    rw [hfinish, pure_bind, hresult, pure_bind, List.length_nil, Nat.zero_add]
    rfl
  | cons o pending ih =>
    obtain ⟨hk, r, slots, hs, hreduce⟩ := A.exists_reduce h hv hpending
    have hsame := hreduce .empty
    simp only [above_empty] at hsame
    have htop : p (f.above base) = true := hp _ hv o (by simp [above, hpending]) hk
    have halone : f.hasPending = true := closes_hasPending k f hv o (by simp [hpending]) hk
    have hlen : (o :: pending).length + n = pending.length + n + 1 := by
      rw [List.length_cons]
      omega
    have hfinish : A.finish f = (do
        let i ← A.apply r
        A.finish ⟨.operand i :: slots, pending, true⟩) := by
      unfold finish
      rw [hpending, List.length_cons, A.reduceWhile_of _ halone, hsame]
      simp only [bind_assoc, pure_bind]
    rw [hlen, A.reduceWhile_of _ htop, hreduce, hfinish, bind_assoc, bind_assoc]
    refine bind_congr fun i => ?_
    rw [pure_bind]
    exact ih (.ready (.mk i hs)) rfl rfl

variable (A) in
/-- Behind `base`, and with what `p` says applied, `e` is the operand that `x` computes. -/
def Comes (p : Frame ι → Bool) (base : Frame ι) (e : Expr) (x : μ ι) : Prop :=
  (do
    let f ← A.pushTerms e base
    A.reduceWhile p f.pending.length f) =
  (do
    let i ← x
    A.reduceWhile p base.pending.length (base.pushOperand i))

/-- A part of an expression comes to what it comes to alone. -/
theorem comes_run {p : Frame ι → Bool} (hbase : base.Awaits) (hp : Closes k p)
    (hk : k ≤ Operator.concat.precedence) {e : Expr} (he : ∀ o, .op o ∈ e → k ≤ o.precedence)
    (hwell : e.wellFormed false) : A.Comes p base e (A.run e) := by
  have hstart : (Frame.empty : Frame ι).above base = base := by
    simp [above, Frame.empty, ← hbase.value]
  have hlift : Lifts base _ (A.pushTerms e (Frame.empty.above base)) (A.pushTerms e .empty) :=
    lifts_pushTerms hbase hk he (.opened .nil) hwell
  have hclose := hlift.bind_eq (fun f => A.reduceWhile p f.pending.length f) (fun f => do
      let i ← A.finish f
      A.reduceWhile p base.pending.length (base.pushOperand i)) fun f hf => by
    rw [← reduceWhile_above hp hf.1 hf.2, above, List.length_append]
  rw [hstart] at hclose
  rw [Comes, hclose, run, bind_assoc]

/-- One operand. -/
theorem comes_operand (p : Frame ι → Bool) (hbase : base.value = false) {t : Term}
    (ht : ∀ o, t ≠ .op o) : A.Comes p base [t] (A.operand t) := by
  simp only [Comes, pushTerms, A.pushTerm_operand ht, pushOperand, hbase, Bool.false_eq_true,
    if_false, bind_assoc, pure_bind, bind_pure]
  rfl

/-- An operator between two parts is applied to what they come to. -/
theorem Comes.between {p : Frame ι → Bool} (hbase : base.Awaits) {o : Operator}
    (ho : o.fixity = .between) {l r : Expr} {x y : μ ι} (hp : Closes o.precedence p)
    (hl : A.Comes (·.shouldReduce o) base l x)
    (hr : ∀ i, A.Comes p ((base.pushOperand i).pushOp o) r y) :
    A.Comes p base (l ++ .op o :: r) (do
      let i ← x
      let j ← y
      A.apply (.binary o i j)) := by
  have hb : o.isBefore = false := Operator.isBefore_eq_false (Operator.fixity_ne ho (by decide))
  have hopen (i : ι) : (do
      let f ← A.reduceWhile (·.shouldReduce o) base.pending.length (base.pushOperand i)
      A.pushTerms r (f.pushOp o)) = A.pushTerms r ((base.pushOperand i).pushOp o) := by
    rw [A.reduceWhile_of_not _ (hbase.shouldReduce i o), pure_bind]
  have hpush : A.pushTerms (l ++ .op o :: r) base = (do
      let i ← x
      A.pushTerms r ((base.pushOperand i).pushOp o)) := by
    have hclosed := congrArg (fun z => z >>= fun f => A.pushTerms r (f.pushOp o)) hl
    simp only [bind_assoc] at hclosed
    rw [A.pushTerms_append]
    simp only [pushTerms, pushTerm, pushOperator, hb, Bool.false_eq_true, if_false, bind_assoc,
      pure_bind]
    rw [hclosed]
    exact bind_congr hopen
  have happly (i j : ι) :
      A.reduceWhile p ((base.pushOperand i).pushOp o).pending.length
        (((base.pushOperand i).pushOp o).pushOperand j) = (do
          let a ← A.apply (.binary o i j)
          A.reduceWhile p base.pending.length (base.pushOperand a)) := by
    have htop : p (((base.pushOperand i).pushOp o).pushOperand j) = true :=
      hp _ rfl o rfl (Nat.le_refl _)
    show A.reduceWhile p (base.pending.length + 1) _ = _
    rw [A.reduceWhile_of _ htop]
    simp [reduce, takeReduction?, pushOp, Frame.pushOperand, complete, hb]
  rw [Comes, hpush]
  simp only [bind_assoc]
  refine bind_congr fun i => ?_
  rw [hr i]
  exact bind_congr fun j => happly i j

/-- A part that is a whole expression. -/
theorem Comes.run_eq {e : Expr} {x : μ ι} (h : A.Comes hasPending .empty e x) : A.run e = x := by
  have hrun : A.run e = (do
      let f ← A.pushTerms e .empty
      let f ← A.reduceWhile hasPending f.pending.length f
      A.result f) := rfl
  have hresult (i : ι) : (do
      let f ← A.reduceWhile hasPending (Frame.empty : Frame ι).pending.length
        (Frame.empty.pushOperand i)
      A.result f) = pure i := by
    show (do A.result (← pure (Frame.empty.pushOperand i))) = pure i
    rw [pure_bind]
    rfl
  have hclosed := congrArg (· >>= A.result) h
  simp only [bind_assoc] at hclosed
  rw [hrun, hclosed, bind_congr hresult]
  exact bind_pure x

end Algebra

end Awk
