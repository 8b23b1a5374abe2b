import Awk.Proofs.Ast.Parts
import Awk.Proofs.Evaluation.Statements

/-! What evaluation keeps. A discipline is a property of conducts that survives each thing that a
program does to its control, for the expressions and blocks that it admits; whatever is built of
admitted parts then keeps it. -/

namespace Awk

open Machine Run

namespace Machine.Conduct

def note (c : Conduct) (e : Event) : Conduct := { c with history := e :: c.history }

def raise (c : Conduct) (jump : Flag) : Conduct :=
  { c with flag := jump, history := .jump c.flag jump :: c.history }

def clear (c : Conduct) : Conduct := { c with flag := .none }

end Machine.Conduct

/-- A property of conducts, and the expressions and blocks that keep it. -/
structure Discipline extends Admission where
  holds : Conduct → Prop
  /-- The functions of a program that is running have admitted bodies. -/
  body : ∀ {c name f}, holds c → c.program.function? name = some f → block f.body
  /-- A statement starts where no jump is pending. -/
  statement : ∀ {c} s, holds c → c.flag = .none → holds (c.note (.statement s))
  /-- `break`, `continue` and `next` are raised where no jump is pending. -/
  jump : ∀ {c j}, holds c → c.flag = .none → j = .break_ ∨ j = .continue_ ∨ j = .next →
    holds (c.raise j)
  /-- `return` and `exit` may meet a jump that their operand has raised. -/
  leave : ∀ {c j}, holds c → j = .return_ ∨ j = .exit → holds (c.raise j)
  /-- A block that does not leave a jump to the block around it clears it. -/
  settle : ∀ {b c}, block b → holds c → b.kind.settlement c.flag ≠ .leave → holds c.clear

namespace Discipline

variable (D : Discipline)

/-- What comes of admitted parts keeps the discipline. -/
structure KeptBy (i : Inner) : Prop where
  operand : ∀ {e}, D.expr e → Keeps D.holds (i.operand e) fun _ => True
  block : ∀ {b}, D.block b → Keeps D.holds (i.block b) fun _ => True

end Discipline

/-- Reading the pending jump. -/
theorem Run.KeepsAt.getFlag_bind {α : Type} {J : Conduct → Prop} {Q : α → Prop} {m : Machine}
    {k : Flag → Run α} (hk : KeepsAt J (k m.flag) Q m) : KeepsAt J (getFlag >>= k) Q m :=
  ⟨hk.blind, hk.conduct, hk.value⟩

theorem Run.Keeps.getFlag_bind {α : Type} {J : Conduct → Prop} {Q : α → Prop} {k : Flag → Run α}
    (hk : ∀ m, J m.conduct → KeepsAt J (k m.flag) Q m) : Keeps J (getFlag >>= k) Q :=
  fun m hm => .getFlag_bind (hk m hm)

theorem Run.KeepsAt.note {J : Conduct → Prop} {e : Event} {m : Machine}
    (h : J (m.conduct.note e)) : KeepsAt J (liftM (Machine.note e)) (fun _ => True) m :=
  ⟨fun _ => rfl, h, fun _ _ _ => trivial⟩

theorem Run.KeepsAt.raise {J : Conduct → Prop} {j : Flag} {m : Machine}
    (h : J (m.conduct.raise j)) : KeepsAt J (liftM (Machine.raise j)) (fun _ => True) m :=
  ⟨fun _ => rfl, h, fun _ _ _ => trivial⟩

theorem Run.KeepsAt.clear {J : Conduct → Prop} {m : Machine}
    (h : J m.conduct.clear) : KeepsAt J (liftM (setFlag .none)) (fun _ => True) m :=
  ⟨fun _ => rfl, h, fun _ _ _ => trivial⟩

/-- What runs keep, and with them all quiet acts. -/
def Act.Calculus.keeps (J : Conduct → Prop) : Act.Calculus where
  toLogic := .keeps J
  acts := Quiet.acts
  lift ha hq := .lift_value ha hq
  get_bind hf _ h := .get_bind (fun m fs => hf m ⟨fs, m.ranges⟩) fun m _ => h m
  outOfFuel := .outOfFuel

/-- The expressions and blocks that a discipline admits, walked over. Nothing is asked of what they
assign to. -/
def Discipline.walk (D : Discipline) : Walk where
  toCalculus := .keeps D.holds
  given p x _ Q := ∀ m : Machine, D.holds m.conduct → p m → KeepsAt D.holds x Q m
  given_of h m hm _ := h m hm
  given_bind hx hf m hm hp := (hx m hm hp).bind fun a m' _ ha hm' => hf a ha m' hm'
  given_mono hpq h m hm hq := h m hm (hpq m hq)
  asks _ := True
  jump hj _ hm hflag := .raise (D.jump hm hflag hj)
  leave hj _ hm := .raise (D.leave hm hj)
  expr := D.expr
  block := D.block
  denotes _ _ := True
  passes _ _ := True
  expr_part := D.expr_part
  expr_may _ _ _ := trivial
  expr_passes _ _ := trivial
  block_expr := D.block_expr
  block_block := D.block_block
  block_may _ _ _ := trivial

namespace Inner

variable {D : Discipline} {self : Inner} (h : D.KeptBy self)

include h

theorem keeps_passArgument {e : Expr} (he : D.expr e) :
    Keeps D.holds (self.passArgument e) fun _ => True := by
  unfold passArgument
  split
  · exact fun m hm => ⟨fun _ => rfl, hm, fun _ _ _ => trivial⟩
  · have hvalue : Keeps D.holds (self.value e) fun _ => True :=
      (h.operand he).andThen fun o => .lift (Quiet.acts.valueOf o)
    exact hvalue.andThen fun _ => .pure trivial

theorem keeps_enter {f : Function} (hf : D.block f.body) (passed : List Environment.Argument) :
    Keeps D.holds (self.enter f passed) fun _ => True := by
  refine (Keeps.lift (quiet_modifyEnv _)).andThen fun _ => (h.block hf).andThen fun _ => ?_
  exact fun m hm => ⟨fun _ => rfl, hm, fun _ _ _ => trivial⟩

theorem keeps_callUser (name : Name) {es : List Expr} (hes : ∀ e ∈ es, D.expr e) :
    Keeps D.holds (self.callUser name es) fun _ => True := by
  have hreport {d : Diagnostic} (hd : d ≠ .malformedExpression) :
      Keeps D.holds (do report d; return .empty : Run Value) fun _ => True :=
    (Keeps.lift (quiet_report hd)).andThen fun _ => .pure trivial
  refine .get_bind (fun _ _ => rfl) fun m hm => ?_
  cases hf : m.program.function? name with
  | none => exact hreport (by nofun)
  | some f =>
    refine .ite (hreport (by nofun)) ?_
    refine (Keeps.collect es fun e he => keeps_passArgument h (hes e he)).andThen fun passed => ?_
    exact keeps_enter h (D.body hm hf) passed

/-- What keeps a discipline, once, is in relation to itself. -/
theorem relates_self : D.walk.Relates self self where
  operand he := (h.operand he).mono fun _ _ _ _ => trivial
  block := h.block
  loop hx := hx.repeatWhile self.fuel
  request := D.walk.given_of
    (Act.Calculus.nextRecord (L := .keeps D.holds) (fun _ => trivial) quiet_modifyInput _ _)
  call {name} _ hx := keeps_callUser h name hx.parts

end Inner

end Awk
