import Awk.Proofs.Control.Fuel
import Awk.Proofs.Invariant.Guarded

/-! Guarded runs that come to their end. A guard only ever stops a run, so a guarded run that is not
stopped has done what the run itself does. -/

namespace Awk

open Machine Run

theorem Run.Below.check {α : Type} {p : Machine → Bool} {f : Unit → Run α} {x : Run α}
    (h : (f ()).Below x) : (Run.check p >>= f).Below x := by
  intro m a m' hok
  obtain ⟨_, m₁, hcheck, hrest⟩ := bind_eq_ok hok
  rw [check_apply] at hcheck
  split at hcheck
  · cases hcheck
    exact h m a m' hrest
  · cases hcheck

namespace Algebra

/-- That the parts of an algebra end with nothing that those of another one do not end with. -/
structure Below {ι : Type} (A B : Algebra Run ι) : Prop where
  operand : ∀ x, (A.operand x).Below (B.operand x)
  apply : ∀ r, (A.apply r).Below (B.apply r)
  malformed : A.malformed.Below B.malformed

namespace Below

variable {ι : Type} {A B : Algebra Run ι} (h : A.Below B)

include h

theorem reduce (f : Frame ι) : (A.reduce f).Below (B.reduce f) := by
  unfold Algebra.reduce
  split
  · exact (h.apply _).andThen _
  · exact h.malformed.bind fun _ => (h.operand _).andThen _

theorem reduceWhile (p : Frame ι → Bool) (n : Nat) (f : Frame ι) :
    (A.reduceWhile p n f).Below (B.reduceWhile p n f) := by
  induction n generalizing f with
  | zero => exact .refl _
  | succ n ih => exact .ite ((h.reduce f).bind ih) (.refl _)

theorem pushOperator (o : Operator) (f : Frame ι) :
    (A.pushOperator o f).Below (B.pushOperator o f) :=
  .ite (.refl _) ((h.reduceWhile _ _ f).andThen _)

theorem pushOperand (i : ι) (f : Frame ι) : (A.pushOperand i f).Below (B.pushOperand i f) :=
  .ite ((h.pushOperator .concat f).andThen _) (.refl _)

theorem pushTerm (x : Term) (f : Frame ι) : (A.pushTerm x f).Below (B.pushTerm x f) := by
  cases x with
  | op o => exact h.pushOperator o f
  | _ => exact (h.operand _).bind fun i => h.pushOperand i f

theorem pushTerms (e : Expr) (f : Frame ι) : (A.pushTerms e f).Below (B.pushTerms e f) := by
  induction e generalizing f with
  | nil => exact .refl _
  | cons x e ih => exact (h.pushTerm x f).bind ih

theorem result (f : Frame ι) : (A.result f).Below (B.result f) := by
  refine .ite (h.operand _) ?_
  split
  · exact .refl _
  · exact h.malformed.bind fun _ => h.operand _

theorem run (e : Expr) : (A.run e).Below (B.run e) :=
  (h.pushTerms e .empty).bind fun f => (h.reduceWhile _ _ f).bind h.result

end Below

end Algebra

namespace Inner.Below

variable {self other : Inner} (h : self.Below other)

include h

theorem operandOf (x : Term) : (self.operandOf x).Below (other.operandOf x) := by
  cases x with
  | element name subscript => exact (h.subscriptKey subscript).andThen _
  | subscript parts => exact (h.subscriptKey parts).andThen _
  | call callee parts => exact (h.call callee parts).andThen _
  | getline target source => exact (h.getline target source).andThen _
  | _ => exact .refl _

theorem algebra : self.algebra.Below other.algebra := ⟨h.operandOf, h.apply, .refl _⟩

theorem selects (p : Pattern) : (self.selects p).Below (other.selects p) := by
  induction p with
  | all | begin_ | end_ | regex => exact .refl _
  | expr e => exact (h.value e).andThen _
  | not inner ih => exact ih.andThen _
  | and left right hl hr => exact hl.bind fun _ => .ite hr (.refl _)
  | or left right hl hr => exact hl.bind fun _ => .ite (.refl _) hr
  | range id first last hfirst hlast =>
    have hrest (starts : Bool) : (do
        if starts then
          let ends ← self.selects last
          setRange id (!ends)
          return true
        else return false : Run Bool).Below (do
        if starts then
          let ends ← other.selects last
          setRange id (!ends)
          return true
        else return false) := .ite (hlast.andThen _) (.refl _)
    refine .step fun active => ?_
    cases active with
    | true => exact hrest true
    | false => exact hfirst.bind hrest

theorem runItems (is : List Item) : (self.runItems is).Below (other.runItems is) := by
  induction is with
  | nil => exact .refl _
  | cons i is ih => exact (h.block i.action).bind fun _ => .step fun _ => .ite (.refl _) ih

theorem tryItems (is : List Item) : (self.tryItems is).Below (other.tryItems is) := by
  induction is with
  | nil => exact .refl _
  | cons i is ih =>
    refine (h.selects i.pattern).bind fun selected => .step fun flag => ?_
    split
    · exact .refl _
    · exact .refl _
    · exact .ite ((h.block i.action).bind fun _ => .step fun _ => .ite (.refl _) (.ite (.refl _) ih)) ih

theorem nextPass (is : List Item) : (self.nextPass is).Below (other.nextPass is) := by
  refine (MainInput.below_nextRecord h.fuel h.fuel).bind fun record => ?_
  cases record with
  | none => exact .refl _
  | some record => exact .step fun _ => .step fun _ => h.tryItems is

end Inner.Below

namespace Guard

variable (g : Guard)

theorem below_statements {self other : Inner} (h : self.Below other) (kind : BlockKind)
    (ss : List Statement) : (g.statements self kind ss).Below (other.statements kind ss) := by
  induction ss with
  | nil => exact .refl _
  | cons s ss ih =>
    refine .step fun flag => .ite (.check (.step fun _ => ?_)) (.refl _)
    exact (h.statement s).bind fun _ => ih

/-- What guarded evaluation ends with, evaluation ends with. -/
theorem below_withFuel (n : Nat) : (g.withFuel n).Below (Inner.withFuel n) := by
  induction n with
  | zero => exact ⟨Nat.le_refl _, fun _ => .refl _, fun _ => .refl _⟩
  | succ n ih =>
    have halgebra : (g.algebra (g.withFuel n).algebra).Below (Inner.withFuel n).algebra :=
      ⟨fun x => .check (.check (ih.operandOf x)), ih.apply, .refl _⟩
    have hoperand (e : Expr) : ((g.algebra (g.withFuel n).algebra).run e >>=
        (g.withFuel n).settle).Below ((Inner.withFuel n).terms e >>= (Inner.withFuel n).settle) := by
      rw [Inner.terms_withFuel]
      exact (halgebra.run e).bind ih.settle
    rw [withFuel_succ]
    exact ⟨Nat.le_refl _, hoperand, fun b => g.below_statements ih b.kind b.statements⟩

/-- A guarded run that comes to its end is the run itself. -/
theorem below_runProgram (n : Nat) :
    (g.runProgram (g.withFuel n)).Below (Inner.withFuel n).runProgram := by
  have h := g.below_withFuel n
  have hpass (is : List Item) :
      (g.nextPass (g.withFuel n) is).Below ((Inner.withFuel n).nextPass is) :=
    .check (h.nextPass is)
  have hend (is : List Item) : (do
      setFlag .none
      note .ending
      (g.withFuel n).runItems is
      setFlag .none
      Inner.closeStreams
      return (← get).status : Run Nat).Below (do
      setFlag .none
      note .ending
      (Inner.withFuel n).runItems is
      setFlag .none
      Inner.closeStreams
      return (← get).status) :=
    .step fun _ => .step fun _ => (h.runItems is).andThen _
  refine .step fun _ => .step fun m => (h.runItems _).bind fun _ => .step fun flag => ?_
  split
  · exact (Run.Below.repeatWhile (hpass _) h.fuel).bind fun _ => hend _
  · exact hend _

end Guard

end Awk
