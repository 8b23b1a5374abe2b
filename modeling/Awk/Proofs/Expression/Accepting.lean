import Awk.Proofs.Expression.Logged

/-! Which expressions are reported. A frame keeps its operands and operators in the order in which
they were pushed, and applying an operator neither mends nor breaks that order. So what cannot stand
where it was pushed is still seen when all operators are applied, if not before; and where everything
can, nothing is reported. -/

namespace Awk

variable {ι : Type}

namespace Slot

def op? : Slot ι → Option Operator
  | .op o => some o
  | .operand _ => none

/-- Whether an operand stands last after the slot. -/
def leavesValue : Slot ι → Bool
  | .op o => o.isAfter
  | .operand _ => true

end Slot

namespace Frame

/-- Whether an operand stands last on the slots. -/
def standing : List (Slot ι) → Bool
  | [] => false
  | s :: _ => s.leavesValue

/-- Whether each slot can stand on those below it. -/
def inOrder : List (Slot ι) → Bool
  | [] => true
  | .op o :: slots => (o.isBefore != standing slots) && inOrder slots
  | .operand _ :: slots => !standing slots && inOrder slots

/-- A frame that knows its slots, and on which nothing stands on an operator that comes after its
operand: that has been applied before. -/
structure Sound (f : Frame ι) : Prop where
  pending : f.pending = f.slots.filterMap Slot.op?
  value : f.value = standing f.slots
  closed : ∀ o, .op o ∈ f.slots.tail → ¬ o.isAfter

theorem sound_empty : (empty : Frame ι).Sound := ⟨rfl, rfl, nofun⟩

namespace Sound

variable {f g : Frame ι} {r : Reduction ι}

/-- Where no operand stands last, no operator that comes after its operand is left. -/
theorem open_ (h : f.Sound) (hv : f.value = false) (o : Operator) (ho : .op o ∈ f.slots) :
    ¬ o.isAfter := by
  have hvalue := h.value
  have hclosed := h.closed o
  generalize f.slots = slots at *
  cases ho with
  | head =>
    have hlast : false = o.isAfter := hv.symm.trans hvalue
    rw [← hlast]
    exact Bool.false_ne_true
  | tail _ ho => exact hclosed ho

theorem pushOp (h : f.Sound) (hopen : ∀ o, .op o ∈ f.slots → ¬ o.isAfter) (o : Operator) :
    (f.pushOp o).Sound where
  pending := congrArg (o :: ·) h.pending
  value := rfl
  closed := hopen

theorem pushOperand (h : f.Sound) (hopen : ∀ o, .op o ∈ f.slots → ¬ o.isAfter) (i : ι) :
    (f.pushOperand i).Sound where
  pending := h.pending
  value := rfl
  closed := hopen

/-- What is left of a frame when its innermost operator has been applied. -/
structure Reduced (f g : Frame ι) : Prop where
  sound : g.Sound
  order : inOrder g.slots = inOrder f.slots
  value : g.value
  fewer : g.pending.length < f.pending.length

/-- Of a sound frame only an operator that fits its operands is taken, and putting the result in
their place leaves the order of the rest as it is. -/
theorem reduced (h : f.Sound) (hr : f.takeReduction? = some (r, g)) :
    r.fits ∧ ∀ i, Reduced f (g.complete i) := by
  obtain ⟨slots, pending, value⟩ := f
  obtain ⟨hpending, -, hclosed⟩ := h
  dsimp only at hpending hclosed
  obtain ⟨rest, rfl, ⟨o, i, ho, rfl, hs⟩ | ⟨o, i, ho, rfl, hs⟩ | ⟨o, i, j, ho, rfl, hs⟩⟩ :=
    takeReduction_cases hr
  all_goals
    dsimp only at hs
    subst hs
    subst hpending
  · have ha : o.isAfter = false := Operator.isAfter_eq_false
      (Operator.fixity_ne (Operator.isBefore_iff.mp ho) (by decide))
    have hfits : Reduction.fits (.unary o i) := by
      simp [Reduction.fits, Operator.isBefore_iff.mp ho]
    refine ⟨hfits, fun i' => ⟨⟨rfl, rfl, fun q hq => hclosed q (.tail _ hq)⟩, ?_, rfl, ?_⟩⟩
    · simp [inOrder, standing, Slot.leavesValue, ho, ha, complete, Frame.pushOperand]
    · exact Nat.lt_succ_self _
  · have hb : o.isBefore = false :=
      Bool.eq_false_iff.mpr (Operator.not_isBefore_of_isAfter ho)
    have hfits : Reduction.fits (.unary o i) := by
      simp [Reduction.fits, Operator.isAfter_iff.mp ho]
    refine ⟨hfits, fun i' => ⟨⟨rfl, rfl, fun q hq => hclosed q (.tail _ hq)⟩, ?_, rfl, ?_⟩⟩
    · simp [inOrder, standing, Slot.leavesValue, hb, complete, Frame.pushOperand]
    · exact Nat.lt_succ_self _
  · have hb : o.isBefore = false := Bool.eq_false_iff.mpr ho
    have ha : o.isAfter = false := Bool.eq_false_iff.mpr (hclosed o (.head _))
    have hbetween : o.fixity = .between := by
      have hnb := decide_eq_false_iff_not.mp hb
      have hna := decide_eq_false_iff_not.mp ha
      cases hfixity : o.fixity with
      | before => exact absurd hfixity hnb
      | after => exact absurd hfixity hna
      | between => rfl
    have hfits : Reduction.fits (.binary o i j) := by simp [Reduction.fits, hbetween]
    refine ⟨hfits, fun i' => ⟨⟨rfl, rfl, fun q hq => hclosed q (.tail _ (.tail _ hq))⟩, ?_, rfl, ?_⟩⟩
    · simp [inOrder, standing, Slot.leavesValue, hb, ha, complete, Frame.pushOperand]
    · exact Nat.lt_succ_self _

/-- Where the innermost operator does not stand by its operands, something is out of order. -/
theorem not_inOrder (h : f.Sound) (hr : f.takeReduction? = none) (hp : f.pending ≠ [])
    (hv : f.value) : inOrder f.slots = false := by
  obtain ⟨slots, pending, value⟩ := f
  obtain ⟨hpending, hvalue, hclosed⟩ := h
  dsimp only at *
  cases slots with
  | nil => exact absurd hpending hp
  | cons slot slots =>
    cases slot with
    | operand i =>
      cases slots with
      | nil => exact absurd hpending hp
      | cons slot slots =>
        cases slot with
        | operand j => rfl
        | op o =>
          have hb : o.isBefore = false := by
            cases hb : o.isBefore with
            | true => simp [takeReduction?, hb] at hr
            | false => rfl
          have hstanding : standing slots = false := by
            cases slots with
            | nil => rfl
            | cons slot slots =>
              cases slot with
              | operand j => simp [takeReduction?, hb] at hr
              | op q => exact Bool.eq_false_iff.mpr (hclosed q (.tail _ (.head _)))
          simp [inOrder, hb, hstanding]
    | op o =>
      have ha : o.isAfter = true := by rw [hvalue] at hv; exact hv
      have hb : o.isBefore = false := Bool.eq_false_iff.mpr (Operator.not_isBefore_of_isAfter ha)
      have hstanding : standing slots = false := by
        cases slots with
        | nil => rfl
        | cons slot slots =>
          cases slot with
          | operand j => simp [takeReduction?, ha] at hr
          | op q => exact Bool.eq_false_iff.mpr (hclosed q (.head _))
      simp [inOrder, hb, hstanding]

end Sound

end Frame

/-! Expressions that are built term by term. -/

/-- Whether a term can stand where an operand stands last, or where none does. -/
def Term.canFollow (value : Bool) : Term → Bool
  | .op o => o.isBefore != value
  | _ => true

namespace Expr

theorem wellFormed_cons (value : Bool) (t : Term) (e : Expr) :
    wellFormed value (t :: e) = (t.canFollow value && wellFormed t.leavesValue e) := by
  cases t <;> rfl

/-- No operator that comes before its operand follows right behind another operand. -/
def Spaced : Bool → Expr → Prop
  | _, [] => True
  | value, t :: e => (∀ o, t = .op o → o.isBefore → value = false) ∧ Spaced t.leavesValue e

theorem Spaced.append {value : Bool} {e : Expr} {t : Term} (h : Spaced value e)
    (ht : ∀ o, t = .op o → o.isBefore → leaves value e = false) : Spaced value (e ++ [t]) := by
  induction e generalizing value with
  | nil => exact ⟨ht, trivial⟩
  | cons u e ih => exact ⟨h.1, ih h.2 fun o ho hb => leaves_cons value u e ▸ ht o ho hb⟩

/-- Appending a term puts a concatenation between. -/
theorem Spaced.push {e : Expr} (h : Spaced false e) (t : Term) : Spaced false (e.push t) := by
  obtain ⟨o, rfl⟩ | ht := t.op_or_operand
  · show Spaced false (if o.isBefore && e.endsWithValue then _ else _)
    split
    · have hconcat : Spaced false (e ++ [.op .concat]) := h.append fun o ho hb => by
        cases ho
        cases hb
      rw [List.append_cons]
      exact hconcat.append fun _ _ _ => by
        show (e ++ [Term.op .concat]).endsWithValue = false
        rw [endsWithValue_append_singleton]
        rfl
    · rename_i hno
      refine h.append fun q hq hb => ?_
      cases hq
      rw [hb, Bool.true_and, Bool.not_eq_true] at hno
      exact hno
  · have hpush : e.push t = e ++ [t] := by
      cases t with
      | op o => exact absurd rfl (ht o)
      | _ => rfl
    rw [hpush]
    exact h.append fun o ho => absurd ho (ht o)

theorem spaced_ofTerms (ts : List Term) : Spaced false (ofTerms ts) := by
  have hfoldl (e : Expr) (he : Spaced false e) : Spaced false (ts.foldl Expr.push e) := by
    induction ts generalizing e with
    | nil => exact he
    | cons t ts ih => exact ih _ (he.push t)
  exact hfoldl [] trivial

end Expr

/-! What a logged evaluation does. -/

/-- Every operator that is applied fits its operands. -/
def Fitting (log : List (Deed ι)) : Prop := ∀ r, .applied r ∈ log → r.fits

theorem Fitting.applied {log : List (Deed ι)} (h : Fitting log) {r : Reduction ι} (hr : r.fits) :
    Fitting (.applied r :: log) := by
  intro q hq
  cases hq with
  | head => exact hr
  | tail _ hq => exact h q hq

theorem Fitting.malformed {log : List (Deed ι)} (h : Fitting log) :
    Fitting (.malformed :: log) := by
  intro q hq
  cases hq with
  | tail _ hq => exact h q hq

/-- Nothing has been reported, and nothing is out of order. -/
def Intact (f : Frame ι) (log : List (Deed ι)) : Prop :=
  .malformed ∉ log ∧ Frame.inOrder f.slots

theorem intact_pushOp {f : Frame ι} (h : f.Sound) (o : Operator) (log : List (Deed ι)) :
    Intact (f.pushOp o) log ↔ Intact f log ∧ Term.canFollow f.value (.op o) := by
  have horder : Frame.inOrder (f.pushOp o).slots =
      (Term.canFollow f.value (.op o) && Frame.inOrder f.slots) := by
    rw [h.value]
    rfl
  rw [Intact, Intact, horder, Bool.and_eq_true, and_assoc, and_comm (a := Frame.inOrder f.slots)]

theorem intact_pushOperand {f : Frame ι} (h : f.Sound) (hv : f.value = false) (i : ι)
    (log : List (Deed ι)) : Intact (f.pushOperand i) log ↔ Intact f log := by
  have horder : Frame.inOrder (f.pushOperand i).slots = Frame.inOrder f.slots := by
    show (!Frame.standing f.slots && _) = _
    rw [← h.value, hv]
    rfl
  rw [Intact, Intact, horder]

/-- A frame and a log of an evaluation in which nothing has gone wrong just where `I` holds. -/
structure Underway (I : Prop) (f : Frame ι) (log : List (Deed ι)) : Prop where
  sound : f.Sound
  fitting : Fitting log
  intact : Intact f log ↔ I

namespace Run

/-- `x` may run out of fuel. -/
def Stalls {α : Type} (x : Run α) : Prop := ∃ m e m', x m = .error e m'

end Run

namespace Algebra

open Awk.Frame Logged

/-- A part of an expression, or an operator that has been applied, may have run out of fuel. -/
def Stalled (A : Algebra Run ι) (e : Expr) (log : List (Deed ι)) : Prop :=
  (∃ t ∈ e, (A.operand t).Stalls) ∨ ∃ r, .applied r ∈ log ∧ (A.apply r).Stalls

/-- What an evaluation does itself takes no fuel. -/
structure Unfailing (A : Algebra Run ι) : Prop where
  blank : ¬ A.blank.Stalls
  malformed : ¬ A.malformed.Stalls

variable {A : Algebra Run ι} (hA : A.Unfailing) {e : Expr} {I : Prop} {f : Frame ι}
  {log : List (Deed ι)}

/-- However an evaluation runs out of fuel, it has applied only operators that fit. -/
abbrev Stopped (A : Algebra Run ι) (e : Expr) (log : List (Deed ι)) : Prop :=
  Fitting log ∧ A.Stalled e log

include hA

theorem does_malformed (E : List (Deed ι) → Prop) (log : List (Deed ι)) :
    Does E A.logged.malformed log fun _ log' => log' = .malformed :: log :=
  .note (.plain (fun _ => rfl) fun m c m' hm => absurd ⟨m, c, m', hm⟩ hA.malformed)

theorem does_blank (E : List (Deed ι) → Prop) (log : List (Deed ι)) :
    Does E A.logged.blank log fun _ log' => log' = log :=
  .plain (fun _ => rfl) fun m c m' hm => absurd ⟨m, c, m', hm⟩ hA.blank

/-- Where the innermost operator does not stand by its operands, that is reported and the frame
starts anew. -/
theorem does_reset (h : Fitting log) (hr : f.takeReduction? = none) :
    Does (A.Stopped e) (A.logged.reduce f) log fun g log' =>
      Underway False g log' ∧ g.value ∧ g.pending = [] := by
  unfold Algebra.reduce
  rw [hr]
  refine (does_malformed hA _ log).bind fun _ log' hlog => ?_
  subst hlog
  refine (does_blank hA _ _).bind fun i log' hlog => .pure ?_
  subst hlog
  refine ⟨⟨sound_empty.pushOperand nofun i, h.malformed, ?_⟩, rfl, rfl⟩
  exact ⟨fun hintact => hintact.1 (.head _), False.elim⟩

/-- Applying an operator breaks nothing, and mends nothing. -/
theorem does_reduce (h : Underway I f log) (hp : f.pending ≠ []) (hv : f.value) :
    Does (A.Stopped e) (A.logged.reduce f) log fun g log' =>
      Underway I g log' ∧ g.value ∧ g.pending.length < f.pending.length := by
  cases hr : f.takeReduction? with
  | some taken =>
    obtain ⟨r, g⟩ := taken
    obtain ⟨hfits, hreduced⟩ := h.sound.reduced hr
    have hfitting := h.fitting.applied hfits
    unfold Algebra.reduce
    rw [hr]
    refine .bind (.note (.plain (fun i => ?_) fun m c m' hm => ?_)) fun i log' => .pure
    · have hg := hreduced i
      refine ⟨⟨hg.sound, hfitting, ?_⟩, hg.value, hg.fewer⟩
      rw [← h.intact, Intact, Intact, hg.order]
      simp
    · exact ⟨hfitting, .inr ⟨r, .head _, m, c, m', hm⟩⟩
  | none =>
    have hbroken := h.sound.not_inOrder hr hp hv
    have hno : I ↔ False := by
      rw [← h.intact, Intact, hbroken]
      simp
    rw [hno]
    refine (does_reset hA h.fitting hr).mono fun g log' hg => ⟨hg.1, hg.2.1, ?_⟩
    rw [hg.2.2]
    exact List.length_pos_iff.mpr hp

/-- A loop that goes on only while an operator is pending and an operand stands last ends by
itself. -/
theorem does_reduceWhile {p : Frame ι → Bool} (hp : ∀ f, p f → f.pending ≠ []) {n : Nat}
    (h : Underway I f log) (hv : p f → f.value) (hn : f.pending.length ≤ n) :
    Does (A.Stopped e) (A.logged.reduceWhile p n f) log fun g log' =>
      Underway I g log' ∧ g.value = f.value ∧ p g = false := by
  induction n generalizing f log with
  | zero =>
    have hnone : f.pending = [] := List.length_eq_zero_iff.mp (Nat.le_zero.mp hn)
    exact .pure ⟨h, rfl, Bool.eq_false_iff.mpr fun hpf => hp f hpf hnone⟩
  | succ n ih =>
    unfold Algebra.reduceWhile
    split
    · rename_i hpf
      rw [hv hpf]
      refine (does_reduce hA h (hp f hpf) (hv hpf)).bind fun g log' hg => ?_
      rw [← hg.2.1]
      exact ih hg.1 (fun _ => hg.2.1) (Nat.le_of_lt_succ (Nat.lt_of_lt_of_le hg.2.2 hn))
    · rename_i hpf
      exact .pure ⟨h, rfl, Bool.eq_false_iff.mpr hpf⟩

omit hA in
/-- Where nothing is to be applied before an operator, none is left that comes after its
operand. -/
theorem open_of_not_shouldReduce (h : f.Sound) {o : Operator} (ho : ¬ o.isBefore)
    (hreduce : f.shouldReduce o = false) (q : Operator) (hq : .op q ∈ f.slots) : ¬ q.isAfter := by
  intro ha
  cases hv : f.value with
  | false => exact h.open_ hv q hq ha
  | true =>
    have hslots : ∃ slots, f.slots = .op q :: slots := by
      generalize hs : f.slots = slots at hq
      cases hq with
      | head => exact ⟨_, rfl⟩
      | tail _ hq => exact absurd ha (h.closed q (by rw [hs]; exact hq))
    obtain ⟨slots, hslots⟩ := hslots
    have hpending : f.pending.head? = some q := by rw [h.pending, hslots]; rfl
    rw [shouldReduce, hv, hpending, Option.any_some, Operator.bindsTighter_of_isAfter ha ho] at hreduce
    cases hreduce

/-- An operator can stand where it is pushed, or something goes wrong. -/
theorem does_pushOperator (h : Underway I f log) {o : Operator} (ho : o.isBefore → f.value = false) :
    Does (A.Stopped e) (A.logged.pushOperator o f) log fun g log' =>
      Underway (I ∧ Term.canFollow f.value (.op o)) g log' ∧ g.value = o.isAfter ∧ g.slots ≠ [] := by
  have hpush {g : Frame ι} {log' : List (Deed ι)} (hg : Underway I g log')
      (hopen : ∀ q, .op q ∈ g.slots → ¬ q.isAfter) (hv : g.value = f.value) :
      Underway (I ∧ Term.canFollow f.value (.op o)) (g.pushOp o) log' := by
    refine ⟨hg.sound.pushOp hopen o, hg.fitting, ?_⟩
    rw [intact_pushOp hg.sound, hg.intact, hv]
  unfold Algebra.pushOperator
  split
  · rename_i hb
    exact .pure ⟨hpush h (h.sound.open_ (ho hb)) rfl, rfl, List.cons_ne_nil _ _⟩
  · rename_i hb
    have hpending (g : Frame ι) (hg : g.shouldReduce o) : g.pending ≠ [] := by
      rintro hnil
      rw [shouldReduce, hnil, List.head?_nil, Option.any_none, Bool.and_false] at hg
      cases hg
    have hvalue (hg : f.shouldReduce o) : f.value := (Bool.and_eq_true_iff.mp hg).1
    refine (does_reduceWhile hA hpending h hvalue (Nat.le_refl _)).bind fun g log' hg => .pure ?_
    obtain ⟨hunderway, hv, hreduce⟩ := hg
    have hopen := open_of_not_shouldReduce hunderway.sound hb hreduce
    exact ⟨hpush hunderway hopen hv, rfl, List.cons_ne_nil _ _⟩

/-- An operand can stand everywhere: behind another one it starts a concatenation. -/
theorem does_pushOperand (h : Underway I f log) (i : ι) :
    Does (A.Stopped e) (A.logged.pushOperand i f) log fun g log' =>
      Underway I g log' ∧ g.value ∧ g.slots ≠ [] := by
  have hpush {g : Frame ι} {log' : List (Deed ι)} (hg : Underway I g log') (hv : g.value = false) :
      Underway I (g.pushOperand i) log' :=
    ⟨hg.sound.pushOperand (hg.sound.open_ hv) i, hg.fitting,
      (intact_pushOperand hg.sound hv i log').trans hg.intact⟩
  unfold Algebra.pushOperand
  split
  · rename_i hv
    refine (does_pushOperator hA h (o := .concat) nofun).bind fun g log' hg => .pure ?_
    obtain ⟨⟨hsound, hfitting, hintact⟩, hvalue, -⟩ := hg
    rw [hv] at hintact
    have hg : Underway I g log' := ⟨hsound, hfitting, hintact.trans (and_iff_left rfl)⟩
    exact ⟨hpush hg hvalue, rfl, List.cons_ne_nil _ _⟩
  · rename_i hv
    exact .pure ⟨hpush h (Bool.eq_false_iff.mpr hv), rfl, List.cons_ne_nil _ _⟩

theorem does_pushTerm (h : Underway I f log) {t : Term} (ht : t ∈ e)
    (hspaced : ∀ o, t = .op o → o.isBefore → f.value = false) :
    Does (A.Stopped e) (A.logged.pushTerm t f) log fun g log' =>
      Underway (I ∧ t.canFollow f.value) g log' ∧ g.value = t.leavesValue ∧ g.slots ≠ [] := by
  obtain ⟨o, rfl⟩ | hop := t.op_or_operand
  · exact does_pushOperator hA h (hspaced o rfl)
  · have hfollow : t.canFollow f.value = true := by
      cases t with
      | op o => exact absurd rfl (hop o)
      | _ => rfl
    rw [pushTerm_operand _ hop, hfollow, Expr.leavesValue_operand hop]
    simp only [and_true]
    refine Does.bind (.plain (fun _ => rfl) fun m c m' hm => ⟨h.fitting, .inl ⟨t, ht, m, c, m', hm⟩⟩)
      fun i log' hlog => ?_
    subst hlog
    exact does_pushOperand hA h i

/-- Nothing has gone wrong before the rest of an expression, and that is well-formed, just where
nothing has gone wrong after it and an operand stands last. -/
theorem does_pushTerms {ts : List Term} (h : Underway I f log) (hts : ∀ t ∈ ts, t ∈ e)
    (hspaced : Expr.Spaced f.value ts) (hsome : f.slots = [] → ts ≠ []) :
    Does (A.Stopped e) (A.logged.pushTerms ts f) log fun g log' =>
      ∃ J, Underway J g log' ∧ (J ∧ g.value ↔ I ∧ Expr.wellFormed f.value ts) ∧ g.slots ≠ [] := by
  induction ts generalizing f log I with
  | nil => exact .pure ⟨I, h, Iff.rfl, fun hnil => hsome hnil rfl⟩
  | cons t ts ih =>
    refine (does_pushTerm hA h (hts t (.head _)) hspaced.1).bind fun g log' hg => ?_
    obtain ⟨hunderway, hv, hslots⟩ := hg
    have hrest := ih hunderway (fun u hu => hts u (.tail _ hu)) (hv ▸ hspaced.2)
      fun hnil => absurd hnil hslots
    rw [hv, and_assoc, ← Bool.and_eq_true, ← Expr.wellFormed_cons] at hrest
    exact hrest

/-- What is left when all operators are applied is one operand, or something has gone wrong. -/
theorem does_result (h : Underway I f log) (hv : f.value) (hp : f.hasPending = false) :
    Does (A.Stopped e) (A.logged.result f) log fun _ log' =>
      Fitting log' ∧ (.malformed ∉ log' ↔ I) := by
  obtain ⟨hsound, hfitting, hintact⟩ := h
  have hpending : f.slots.filterMap Slot.op? = [] := by
    rw [← hsound.pending]
    simpa [hasPending] using hp
  have hvalue := hsound.value
  unfold Algebra.result result?
  match hs : f.slots with
  | [] =>
    rw [hs, hv] at hvalue
    cases hvalue
  | .op o :: slots =>
    rw [hs] at hpending
    cases hpending
  | .operand i :: .op o :: slots =>
    rw [hs] at hpending
    cases hpending
  | [.operand i] =>
    refine .pure ⟨hfitting, ?_⟩
    rw [← hintact, Intact, hs]
    exact (and_iff_left rfl).symm
  | .operand i :: .operand j :: slots =>
    have hno : I ↔ False := by
      rw [← hintact, Intact, hs]
      exact iff_false_intro fun h => Bool.false_ne_true h.2
    refine (does_malformed hA _ log).bind fun _ log' hlog => ?_
    subst hlog
    refine (does_blank hA _ _).mono fun _ log' hlog => ?_
    subst hlog
    rw [hno]
    exact ⟨hfitting.malformed, fun h => h (.head _), False.elim⟩

theorem does_finish (h : Underway I f log) (hslots : f.slots ≠ []) :
    Does (A.Stopped e) (A.logged.finish f) log fun _ log' =>
      Fitting log' ∧ (.malformed ∉ log' ↔ I ∧ f.value) := by
  have hloop (g : Frame ι) (hg : g.hasPending) : g.pending ≠ [] := by
    rintro hnil
    rw [hasPending, hnil] at hg
    cases hg
  have hfinish {J : Prop} {g : Frame ι} {log' : List (Deed ι)} (n : Nat) (hg : Underway J g log')
      (hv : g.value) (hn : g.pending.length ≤ n) :
      Does (A.Stopped e) (do A.logged.result (← A.logged.reduceWhile hasPending n g)) log'
        fun _ log' => Fitting log' ∧ (.malformed ∉ log' ↔ J) :=
    (does_reduceWhile hA hloop hg (fun _ => hv) hn).bind fun g' log'' hg' =>
      does_result hA hg'.1 (hg'.2.1.trans hv) hg'.2.2
  cases hv : f.value with
  | true =>
    simp only [and_true]
    exact hfinish _ h hv (Nat.le_refl _)
  | false =>
    -- an operator stands last that needs an operand behind it
    obtain ⟨o, slots, hs, ha⟩ : ∃ o slots, f.slots = .op o :: slots ∧ o.isAfter = false := by
      have hvalue := h.sound.value
      match hs : f.slots with
      | [] => exact absurd hs hslots
      | .operand i :: slots =>
        rw [hs, hv] at hvalue
        cases hvalue
      | .op o :: slots =>
        rw [hs, hv] at hvalue
        exact ⟨o, slots, rfl, hvalue.symm⟩
    have hpending : f.pending = o :: slots.filterMap Slot.op? := by rw [h.sound.pending, hs]; rfl
    have hr : f.takeReduction? = none := by
      unfold takeReduction?
      rw [hs]
      cases slots with
      | nil => rfl
      | cons s slots => cases s <;> simp [ha]
    have hfirst : A.logged.finish f = (do
        let g ← A.logged.reduce f
        A.logged.result (← A.logged.reduceWhile hasPending (slots.filterMap Slot.op?).length g)) := by
      unfold Algebra.finish
      rw [hpending, List.length_cons, Algebra.reduceWhile, hasPending, hpending]
      simp
    simp only [Bool.false_eq_true, and_false]
    rw [hfirst]
    refine (does_reset hA h.fitting hr).bind fun g log' hg => ?_
    exact hfinish _ hg.1 hg.2.1 (by rw [hg.2.2]; exact Nat.zero_le _)

/-- An evaluation reports that its expression is malformed just where it is, applies only operators
that fit their operands, and runs out of fuel only where a part of the expression or an operator
does. -/
theorem does_run (he : Expr.Spaced false e) :
    Does (A.Stopped e) (A.logged.run e) [] fun _ log =>
      Fitting log ∧ (.malformed ∉ log ↔ e = [] ∨ e.wellFormed false) := by
  cases e with
  | nil =>
    refine (does_blank hA _ _).mono fun _ log hlog => ?_
    subst hlog
    exact ⟨nofun, fun _ => .inl rfl, fun _ => nofun⟩
  | cons t ts =>
    have hstart : Underway True (.empty : Frame ι) [] :=
      ⟨sound_empty, nofun, fun _ => trivial, fun _ => ⟨nofun, rfl⟩⟩
    refine (does_pushTerms hA hstart (fun _ ht => ht) he nofun).bind fun f log hf => ?_
    obtain ⟨J, hunderway, hiff, hslots⟩ := hf
    refine (does_finish hA hunderway hslots).mono fun _ log' hlog => ⟨hlog.1, ?_⟩
    rw [hlog.2, hiff, true_and]
    exact ⟨.inr, fun h => h.resolve_left (List.cons_ne_nil _ _)⟩

end Algebra

end Awk
