import Awk.Eval.Interpreter
import Awk.Proofs.Conduct.Keeps

/-! More fuel. Whatever a run ends with, it ends with when there is more fuel: nothing that is done
depends on how much there is, but that it may run out. -/

namespace Awk

open Machine

namespace Run

variable {α β : Type}

/-- Whatever `x` ends with, `y` ends with, too. -/
def Below (x y : Run α) : Prop := ∀ m a m', x m = .ok a m' → y m = .ok a m'

namespace Below

theorem refl (x : Run α) : x.Below x := fun _ _ _ h => h

theorem trans {x y z : Run α} (hxy : x.Below y) (hyz : y.Below z) : x.Below z :=
  fun m a m' h => hyz m a m' (hxy m a m' h)

theorem outOfFuel (x : Run α) : (Run.outOfFuel : Run α).Below x := fun _ _ _ h => nomatch h

theorem bind {x y : Run α} {f g : α → Run β} (hxy : x.Below y) (hfg : ∀ a, (f a).Below (g a)) :
    (x >>= f).Below (y >>= g) := by
  intro m b m' h
  obtain ⟨a, m₁, hx, hf⟩ := bind_eq_ok h
  rw [bind_ok (hxy m a m₁ hx)]
  exact hfg a m₁ b m' hf

/-- A step that is the same on both sides. -/
theorem step {x : Run α} {f g : α → Run β} (hfg : ∀ a, (f a).Below (g a)) :
    (x >>= f).Below (x >>= g) := (refl x).bind hfg

/-- What follows is the same on both sides. -/
theorem andThen {x y : Run α} (hxy : x.Below y) (f : α → Run β) : (x >>= f).Below (y >>= f) :=
  hxy.bind fun a => refl (f a)

theorem ite {c : Prop} [Decidable c] {x y x' y' : Run α} (hx : x.Below x') (hy : y.Below y') :
    (if c then x else y).Below (if c then x' else y') := by
  split
  · exact hx
  · exact hy

theorem repeatWhile {pass pass' : Run Bool} (h : pass.Below pass') {n n' : Nat} (hn : n ≤ n') :
    (Run.repeatWhile pass n).Below (Run.repeatWhile pass' n') := by
  induction n generalizing n' with
  | zero => exact outOfFuel _
  | succ n ih =>
    obtain ⟨n', rfl⟩ := Nat.exists_eq_add_of_lt hn
    exact h.bind fun goes => .ite (ih (Nat.le_add_right n n')) (refl _)

theorem forWhile {f g : α → Run Bool} (h : ∀ a, (f a).Below (g a)) (as : List α) :
    (Run.forWhile f as).Below (Run.forWhile g as) := by
  induction as with
  | nil => exact refl _
  | cons a as ih => exact (h a).bind fun goes => .ite ih (refl _)

theorem collect {f g : α → Run β} (h : ∀ a, (f a).Below (g a)) (as : List α) :
    (Run.collect f as).Below (Run.collect g as) := by
  induction as with
  | nil => exact refl _
  | cons a as ih => exact (h a).bind fun b => ih.andThen _

theorem onFrame {x y : Run α} (h : x.Below y) : (Inner.onFrame x).Below (Inner.onFrame y) := by
  intro m a m' hx
  unfold Inner.onFrame at hx ⊢
  cases hok : x (beginFrame m).2 with
  | error e m₁ =>
    rw [hok] at hx
    cases hx
  | ok b m₁ =>
    rw [hok] at hx
    rw [h _ _ _ hok]
    exact hx

end Below

end Run

open Run

namespace MainInput

theorem below_openBelow (count : Int) {n n' : Nat} (hn : n ≤ n') :
    (openBelow count n).Below (openBelow count n') := by
  induction n generalizing n' with
  | zero => exact .outOfFuel _
  | succ n ih =>
    obtain ⟨n', rfl⟩ := Nat.exists_eq_add_of_lt hn
    have hrest := ih (Nat.le_add_right n n')
    refine .step fun m => .ite (.step fun _ => .step fun v => ?_) (.refl _)
    cases v with
    | none => exact hrest
    | some v => exact .ite hrest (.step fun opened => .ite (.refl _) hrest)

theorem below_openNext {n n' : Nat} (hn : n ≤ n') : (openNext n).Below (openNext n') :=
  .step fun _ => .ite (.refl _) (.step fun _ => below_openBelow _ hn)

theorem below_nextRecord {fuel fuel' n n' : Nat} (hfuel : fuel ≤ fuel') (hn : n ≤ n') :
    (nextRecord fuel n).Below (nextRecord fuel' n') := by
  induction n generalizing n' with
  | zero => exact .outOfFuel _
  | succ n ih =>
    obtain ⟨n', rfl⟩ := Nat.exists_eq_add_of_lt hn
    have hrest := ih (Nat.le_add_right n n')
    refine .step fun m => ?_
    cases m.input.current with
    | none => exact (below_openNext hfuel).bind fun opened => .ite hrest (.refl _)
    | some r =>
      refine .step fun record => ?_
      cases record with
      | none => exact hrest
      | some record => exact .refl _

end MainInput

namespace Inner

/-- That the parts of one evaluation have less fuel than those of another one. -/
structure Below (less more : Inner) : Prop where
  fuel : less.fuel ≤ more.fuel
  operand : ∀ e, (less.operand e).Below (more.operand e)
  block : ∀ b, (less.block b).Below (more.block b)

namespace Below

variable {self other : Inner} (h : self.Below other)

include h

/-! Values and calls. -/

theorem value (e : Expr) : (self.value e).Below (other.value e) := (h.operand e).andThen _

theorem settle (d : Delayed) : (self.settle d).Below (other.settle d) := by
  cases d with
  | ready o => exact .refl _
  | group e => exact h.operand e

theorem force (d : Delayed) : (self.force d).Below (other.force d) := (h.settle d).andThen _

theorem pattern (d : Delayed) : (self.pattern d).Below (other.pattern d) := by
  unfold Inner.pattern
  split
  · exact .refl _
  · exact (h.force d).andThen _

theorem subscriptKey (parts : List Expr) :
    (self.subscriptKey parts).Below (other.subscriptKey parts) :=
  (Run.Below.collect h.value parts).andThen _

theorem passArgument (e : Expr) : (self.passArgument e).Below (other.passArgument e) := by
  unfold Inner.passArgument
  split
  · exact .refl _
  · exact (h.value e).andThen _

theorem enter (f : Function) (passed : List Environment.Argument) :
    (self.enter f passed).Below (other.enter f passed) :=
  .step fun _ => (h.block f.body).andThen _

theorem callUser (name : Name) (parts : List Expr) :
    (self.callUser name parts).Below (other.callUser name parts) := by
  refine .step fun m => ?_
  cases m.program.function? name with
  | none => exact .refl _
  | some f => exact .ite (.refl _) ((Run.Below.collect h.passArgument parts).bind (h.enter f))

theorem call (callee : Callee) (parts : List Expr) :
    (self.call callee parts).Below (other.call callee parts) := by
  cases callee with
  | builtin b => exact .ite ((Run.Below.collect h.operand parts).andThen _) (.refl _)
  | user name => exact h.callUser name parts

theorem fetch (kind : Host.InputKind) (source : Expr) :
    (self.fetch kind source).Below (other.fetch kind source) := (h.value source).andThen _

theorem fetchFrom (source : InputSource Expr) :
    (self.fetchFrom source).Below (other.fetchFrom source) := by
  cases source with
  | main => exact (MainInput.below_nextRecord h.fuel h.fuel).andThen _
  | file name => exact h.fetch .file name
  | command text => exact (h.fetch .command text).andThen _

theorem targetPlace (target : Target Expr) :
    (self.targetPlace target).Below (other.targetPlace target) := by
  cases target with
  | var name => exact .refl _
  | element name subscript => exact (h.subscriptKey subscript).andThen _
  | field index => exact (h.value index).andThen _

theorem getline (target : Option (Target Expr)) (source : InputSource Expr) :
    (self.getline target source).Below (other.getline target source) := by
  refine (h.fetchFrom source).bind fun fetched => ?_
  cases fetched with
  | atEnd => exact .refl _
  | failed => exact .refl _
  | record text =>
    cases target with
    | none => exact .refl _
    | some t => exact (h.targetPlace t).andThen _

/-! Operators. -/

theorem applyUnary (o : Operator) (d : Delayed) :
    (self.applyUnary o d).Below (other.applyUnary o d) := by
  cases o with
  | plus | neg | not | field => exact (h.force d).andThen _
  | _ => exact .refl _

theorem applyAssignment (o : Operator) (left right : Delayed) :
    (self.applyAssignment o left right).Below (other.applyAssignment o left right) :=
  (h.force right).andThen _

theorem applyMem (left right : Delayed) :
    (self.applyMem left right).Below (other.applyMem left right) := (h.force left).andThen _

theorem applyBinary (o : Operator) (left right : Delayed) :
    (self.applyBinary o left right).Below (other.applyBinary o left right) := by
  have hl := h.force left
  have hr := h.force right
  refine .ite (h.applyAssignment o left right) ?_
  cases o with
  | question => exact hl.andThen _
  | or => exact hl.bind fun v => .ite (.refl _) (hr.andThen _)
  | and => exact hl.bind fun v => .ite (hr.andThen _) (.refl _)
  | mem => exact h.applyMem left right
  | «matches» | notMatches => exact hl.bind fun text => (h.pattern right).andThen _
  | less | lessEq | equal | notEqual | greaterEq | greater | concat | add | sub | mul | div | mod
  | pow => exact hl.bind fun a => hr.andThen _
  | _ => exact .refl _

theorem apply (r : Reduction Delayed) : (self.apply r).Below (other.apply r) := by
  cases r with
  | unary o d => exact h.applyUnary o d
  | binary o l r => exact h.applyBinary o l r

/-! Expressions. -/

theorem reduce : self.reduce.Below other.reduce := by
  refine .step fun m => ?_
  split
  · exact .refl _
  · split
    · exact .step fun _ => (h.apply _).andThen _
    · exact .refl _

theorem reduceWhile (p : Frame Delayed → Bool) (n : Nat) :
    (self.reduceWhile p n).Below (other.reduceWhile p n) := by
  induction n with
  | zero => exact .refl _
  | succ n ih => exact .step fun _ => .ite (h.reduce.bind fun _ => ih) (.refl _)

theorem pushOperator (o : Operator) : (self.pushOperator o).Below (other.pushOperator o) := by
  unfold Inner.pushOperator
  cases o.isBefore with
  | true => exact .refl _
  | false => exact .step fun n => (h.reduceWhile _ n).andThen _

theorem pushOperand (d : Delayed) : (self.pushOperand d).Below (other.pushOperand d) := by
  refine .step fun value => ?_
  cases value with
  | true => exact (h.pushOperator .concat).andThen _
  | false => exact .refl _

theorem pushTerm (t : Term) : (self.pushTerm t).Below (other.pushTerm t) := by
  cases t with
  | op o => exact h.pushOperator o
  | value v => exact h.pushOperand _
  | var name => exact h.pushOperand _
  | element name subscript => exact (h.subscriptKey subscript).bind fun _ => h.pushOperand _
  | group inner => exact h.pushOperand _
  | subscript parts => exact (h.subscriptKey parts).bind fun _ => h.pushOperand _
  | regex pattern => exact h.pushOperand _
  | call callee parts => exact (h.call callee parts).bind fun _ => h.pushOperand _
  | getline target source => exact (h.getline target source).bind fun _ => h.pushOperand _

theorem pushTerms (e : Expr) : (self.pushTerms e).Below (other.pushTerms e) := by
  induction e with
  | nil => exact .refl _
  | cons t e ih => exact (h.pushTerm t).bind fun _ => ih

theorem finish : self.finish.Below other.finish := .step fun n => (h.reduceWhile _ n).andThen _

theorem expression (e : Expr) : (self.expression e).Below (other.expression e) :=
  (Run.Below.onFrame ((h.pushTerms e).bind fun _ => h.finish)).bind h.settle

/-! Statements. -/

theorem pass (body : Block) : (self.pass body).Below (other.pass body) := (h.block body).andThen _

theorem holds (condition : Expr) : (self.holds condition).Below (other.holds condition) :=
  (h.value condition).andThen _

theorem perform (e : Option Expr) : (self.perform e).Below (other.perform e) := by
  cases e with
  | none => exact .refl _
  | some e => exact (h.operand e).andThen _

theorem round (condition : Option Expr) (body : Block) (step : Option Expr) :
    (self.round condition body step).Below (other.round condition body step) := by
  have hrest (goes : Bool) : (do
      if goes then
        if ← self.pass body then
          self.perform step
          return true
        else return false
      else return false : Run Bool).Below (do
      if goes then
        if ← other.pass body then
          other.perform step
          return true
        else return false
      else return false) :=
    .ite ((h.pass body).bind fun _ => .ite ((h.perform step).andThen _) (.refl _)) (.refl _)
  cases condition with
  | none => exact hrest true
  | some c => exact (h.holds c).bind hrest

theorem write (output : Option Redirect) (text : String) :
    (self.write output text).Below (other.write output text) := by
  cases output with
  | none => exact .refl _
  | some r => exact (h.value r.target).andThen _

theorem printed (parts : List Expr) : (self.printed parts).Below (other.printed parts) := by
  refine .ite (.refl _) (.step fun _ => ?_)
  exact (Run.Below.collect h.value parts).andThen _

theorem statement (s : Statement) : (self.statement s).Below (other.statement s) := by
  cases s with
  | print parts output => exact (h.printed parts).bind (h.write output)
  | printf parts output =>
    cases parts with
    | nil => exact .refl _
    | cons format parts =>
      exact (h.value format).bind fun _ =>
        (Run.Below.collect h.value parts).bind fun _ => h.write output _
  | expr e => exact (h.value e).andThen _
  | if_ condition yes no =>
    refine (h.value condition).bind fun _ => .ite ((h.block yes).andThen _) ?_
    cases no with
    | none => exact .refl _
    | some no => exact (h.block no).andThen _
  | while_ condition body => exact .repeatWhile (h.round _ body _) h.fuel
  | doWhile body condition =>
    exact .repeatWhile ((h.pass body).bind fun _ => .ite (h.holds condition) (.refl _)) h.fuel
  | for_ start condition step body =>
    exact (h.perform start).bind fun _ => .repeatWhile (h.round condition body step) h.fuel
  | forIn name array body =>
    exact .step fun _ => .forWhile (fun _ => .step fun _ => h.pass body) _
  | block body => exact (h.block body).andThen _
  | break_ | continue_ | next => exact .refl _
  | return_ e =>
    cases e with
    | none => exact .refl _
    | some e => exact (h.value e).andThen _
  | exit e =>
    cases e with
    | none => exact .refl _
    | some e => exact (h.value e).andThen _
  | delete array subscript =>
    cases subscript with
    | none => exact .refl _
    | some subscript => exact (h.subscriptKey subscript).andThen _

theorem statements (kind : BlockKind) (ss : List Statement) :
    (self.statements kind ss).Below (other.statements kind ss) := by
  induction ss with
  | nil => exact .refl _
  | cons s ss ih =>
    exact .step fun _ => .ite (.step fun _ => (h.statement s).bind fun _ => ih) (.refl _)

theorem body (b : Block) : (self.body b).Below (other.body b) := h.statements b.kind b.statements

end Below

/-- More fuel changes nothing that a run with less fuel ends with. -/
theorem below_withFuel {n n' : Nat} (hn : n ≤ n') : (withFuel n).Below (withFuel n') := by
  induction n generalizing n' with
  | zero => exact ⟨hn, fun _ => .outOfFuel _, fun _ => .outOfFuel _⟩
  | succ n ih =>
    obtain ⟨n', rfl⟩ := Nat.exists_eq_add_of_lt hn
    have hless := ih (Nat.le_add_right n n')
    exact ⟨hn, hless.expression, hless.body⟩

end Inner

end Awk
