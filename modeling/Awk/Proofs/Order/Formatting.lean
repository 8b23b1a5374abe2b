import Awk.Eval.Interpreter
import Awk.Proofs.Order.Commute
import Awk.Shell.Run

/-! `printf` and `sprintf`. The statement reads each argument as soon as it is evaluated; the
function evaluates all of them and then reads them. The two agree where it does not matter whether
an argument is read before or after those behind it are evaluated. -/

namespace Awk

open Machine Run

namespace Inner

/-- Whether reading the operand of each expression commutes with evaluating the expressions behind
it. -/
def Undisturbed (self : Inner) : List Expr → Machine → Prop
  | [], _ => True
  | e :: es, m => ∀ o m', self.operand e m = .ok o m' →
      Commute (liftM (valueOf o)) (collect self.operand es) m' ∧
        Undisturbed self es (valueOf o m').2

variable {self : Inner}

/-- Reading operands in the course of their evaluation comes to reading them at the end of it. -/
theorem Undisturbed.collect_value {es : List Expr} {m : Machine} (h : self.Undisturbed es m) :
    collect self.value es m = (do Builtin.arguments (← collect self.operand es) : Run _) m := by
  induction es generalizing m with
  | nil => rfl
  | cons e es ih =>
    have hvalues : collect self.value (e :: es) = (do
        let o ← self.operand e
        let v ← valueOf o
        let vs ← collect self.value es
        return v :: vs : Run _) := by
      simp only [collect, value, bind_assoc]
    have hoperands : (do Builtin.arguments (← collect self.operand (e :: es)) : Run _) = (do
        let o ← self.operand e
        let os ← collect self.operand es
        let v ← valueOf o
        let vs ← Builtin.arguments os
        return v :: vs : Run _) := by
      simp only [collect, bind_assoc, pure_bind, Builtin.arguments]
      rfl
    rw [hvalues, hoperands]
    cases he : self.operand e m with
    | error x m' => rw [bind_error he, bind_error he]
    | ok o m' =>
      obtain ⟨hcommute, hrest⟩ := h o m' he
      have hread : (liftM (valueOf o) : Run Value) m' = .ok (valueOf o m').1 (valueOf o m').2 := rfl
      have hlate : (do
          let v ← valueOf o
          let vs ← collect self.value es
          return v :: vs : Run _) m' = (do
          let v ← valueOf o
          let os ← collect self.operand es
          let vs ← Builtin.arguments os
          return v :: vs : Run _) m' := by
        rw [bind_ok hread, bind_ok hread, bind_congr_left (ih hrest), bind_assoc]
      rw [bind_ok he, bind_ok he, hlate]
      exact hcommute.bind fun v os => do
        let vs ← Builtin.arguments os
        return v :: vs

/-- Reading a variable commutes with a step if and only if the step leaves its value as it is. -/
theorem commute_scalar_iff {β : Type} (name : Name) (y : Run β) (m : Machine) :
    Commute (liftM (valueOf (.place (.scalar name)))) y m ↔
      ∀ b m', y m = .ok b m' → m'.env.value name = m.env.value name :=
  Commute.get_iff fun m => m.env.value name

/-- So does reading a field with a step that leaves the field as it is. -/
theorem commute_field_iff {β : Type} (index : Nat) (y : Run β) (m : Machine) :
    Commute (liftM (valueOf (.place (.field index)))) y m ↔
      ∀ b m', y m = .ok b m' →
        Value.ofString (m'.record.field index) = .ofString (m.record.field index) :=
  Commute.get_iff fun m => Value.ofString (m.record.field index)

/-- Arguments that come to values may do anything, and the last argument may come to anything. -/
theorem undisturbed_of_values {es : List Expr} {last : Expr}
    (h : ∀ e ∈ es, ∀ m o m', self.operand e m = .ok o m' → ∃ v, o = .value v) (m : Machine) :
    self.Undisturbed (es ++ [last]) m := by
  induction es generalizing m with
  | nil => exact fun o m' _ => ⟨.pure_right _ [] m', trivial⟩
  | cons e es ih =>
    obtain ⟨he, hes⟩ := List.forall_mem_cons.mp h
    intro o m' ho
    obtain ⟨v, rfl⟩ := he m o m' ho
    exact ⟨.pure_left v _ m', ih hes _⟩

theorem call_sprintf (self : Inner) (format : Expr) (parts : List Expr) :
    self.call (.builtin .sprintf) (format :: parts) =
      (do
        let vs ← (do Builtin.arguments (← collect self.operand (format :: parts)) : Run _)
        return Builtin.formatted vs) := by
  have haccepts : Builtin.accepts .sprintf (format :: parts).length := by
    simp [Builtin.accepts, Builtin.argumentRange]
  simp only [call, Builtin.call, if_pos haccepts, bind_assoc]
  rfl

theorem statement_printf (self : Inner) (format : Expr) (parts : List Expr)
    (output : Option Redirect) :
    self.statement (.printf (format :: parts) output) =
      (do
        let vs ← collect self.value (format :: parts)
        self.write output (Builtin.formatted vs).text) := by
  simp only [statement, collect, bind_assoc, pure_bind]
  rfl

end Inner

/-- Where reading each argument commutes with evaluating those behind it, `printf` writes the text
that `sprintf` gives for the same arguments, and does nothing else that `sprintf` does not do. -/
theorem printf_writes_sprintf {n : Nat} {format : Expr} {parts : List Expr} {m : Machine}
    (h : (Inner.withFuel n).Undisturbed (format :: parts) m) (output : Option Redirect) :
    (Inner.withFuel n).statement (.printf (format :: parts) output) m =
      (do
        let text ← (Inner.withFuel n).call (.builtin .sprintf) (format :: parts)
        (Inner.withFuel n).write output text.text : Run Unit) m := by
  rw [Inner.statement_printf, Inner.call_sprintf, bind_assoc,
    bind_congr_left h.collect_value fun vs => _]
  simp only [pure_bind]

/-- `"%s %s %s", $1, y, x++`. -/
def stepping : List Expr :=
  [[.value ⟨"%s %s %s"⟩], [.op .field, .value ⟨"1"⟩], [.var "y"], [.var "x", .op .postIncr]]

def steppingStart : Machine := .start .empty {} (.start .empty [] .captured)

/-- The step leaves the field and the variable before it as they are. -/
theorem undisturbed_stepping : (Inner.withFuel 2).Undisturbed stepping steppingStart := by
  rintro _ _ ⟨⟩
  refine ⟨.pure_left _ _ _, ?_⟩
  rintro _ _ ⟨⟩
  refine ⟨(Inner.commute_field_iff _ _ _).mpr ?_, ?_⟩
  · rintro _ _ ⟨⟩
    rfl
  rintro _ _ ⟨⟩
  refine ⟨(Inner.commute_scalar_iff _ _ _).mpr ?_, ?_⟩
  · rintro _ _ ⟨⟩
    rfl
  rintro _ _ ⟨⟩
  exact ⟨.pure_right _ _ _, trivial⟩

theorem printf_stepping :
    (Inner.withFuel 2).Undisturbed stepping steppingStart ∧
      (Inner.withFuel 2).statement (.printf stepping none) steppingStart =
        (do
          let text ← (Inner.withFuel 2).call (.builtin .sprintf) stepping
          (Inner.withFuel 2).write none text.text : Run Unit) steppingStart :=
  ⟨undisturbed_stepping, printf_writes_sprintf undisturbed_stepping none⟩

end Awk
