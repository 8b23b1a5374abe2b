import Awk.Proofs.Conduct.Evaluation

/-! Runs that are stopped. A guard says in which states a run may go on: where a statement starts,
where a term of an expression is evaluated and where a record of the main input is asked for. A
guarded run does what the run itself does as long as its guard holds, and otherwise ends there as
one that is out of fuel. So a run is the same guarded and unguarded where no state that it comes to
breaks the guard. -/

namespace Awk

open Machine

/-- Where a run may go on: before a statement, a term, and the next record of the main input. -/
structure Guard where
  statement : Machine → Bool
  term : Machine → Bool
  request : Machine → Bool

namespace Guard

/-- The guard that stops nothing. -/
def free : Guard := ⟨fun _ => true, fun _ => true, fun _ => true⟩

end Guard

/-- Goes on where `p` holds. -/
def Run.check (p : Machine → Bool) : Run Unit := do
  if p (← get) then return () else Run.outOfFuel

theorem Run.check_apply (p : Machine → Bool) (m : Machine) :
    Run.check p m = if p m then .ok () m else .error {} m := by
  show (if p m then (return () : Run Unit) else Run.outOfFuel) m = _
  split <;> rfl

namespace Guard

variable (g : Guard)

/-- The operands of an expression, each guarded. -/
def operand (A : Algebra Run Delayed) (x : Term) : Run Delayed := do
  Run.check g.term
  Run.check fun m => !x.asksMain || g.request m
  A.operand x

def algebra (A : Algebra Run Delayed) : Algebra Run Delayed := { A with operand := g.operand A }

/-- Statements in order until a jump is pending, each guarded. -/
def statements (self : Inner) (kind : BlockKind) : List Statement → Run Flag
  | [] => Inner.settleFlag kind
  | s :: ss => do
    if (← getFlag) = .none then
      Run.check g.statement
      note (.statement s)
      self.statement s
      statements self kind ss
    else Inner.settleFlag kind

/-- Evaluation with some fuel, guarded. -/
def withFuel : Nat → Inner
  | 0 => Inner.withFuel 0
  | n + 1 => {
      fuel := n + 1
      operand := fun e => do
        (withFuel n).settle (← (g.algebra (withFuel n).algebra).run e)
      block := fun b => g.statements (withFuel n) b.kind b.statements }

theorem withFuel_succ (n : Nat) :
    g.withFuel (n + 1) = {
      fuel := n + 1
      operand := fun e => do
        (g.withFuel n).settle (← (g.algebra (g.withFuel n).algebra).run e)
      block := fun b => g.statements (g.withFuel n) b.kind b.statements } := by
  rw [withFuel]

/-- Takes the next record through the items, with the request guarded. -/
def nextPass (self : Inner) (items : List Item) : Run Bool := do
  Run.check g.request
  self.nextPass items

/-- Runs the program to its end, guarded. -/
def runProgram (self : Inner) : Run Nat := do
  modify fun m => { m with history := [] }
  let program := (← get).program
  self.runItems program.beginItems
  if (← getFlag) ≠ .exit && program.readsInput then
    Run.repeatWhile (g.nextPass self program.mainItems) self.fuel
  setFlag .none
  note .ending
  self.runItems program.endItems
  setFlag .none
  Inner.closeStreams
  return (← get).status

/-! The guard that stops nothing changes nothing. -/

theorem operand_free (A : Algebra Run Delayed) : free.operand A = A.operand := by
  funext x
  have hfree : (fun m => !x.asksMain || free.request m) = fun _ => true :=
    funext fun _ => Bool.or_true _
  rw [operand, hfree]
  rfl

theorem algebra_free (A : Algebra Run Delayed) : free.algebra A = A := by
  rw [algebra, operand_free]

theorem statements_free (self : Inner) (kind : BlockKind) (ss : List Statement) :
    free.statements self kind ss = self.statements kind ss := by
  induction ss with
  | nil => rfl
  | cons s ss ih =>
    rw [statements, Inner.statements, ih]
    rfl

theorem withFuel_free (n : Nat) : free.withFuel n = Inner.withFuel n := by
  induction n with
  | zero => rfl
  | succ n ih =>
    have hoperand (e : Expr) : (free.withFuel (n + 1)).operand e = evalOperand (n + 1) e := by
      show (free.algebra (free.withFuel n).algebra).run e >>= (free.withFuel n).settle = _
      rw [algebra_free, ih, ← Inner.terms_withFuel]
      rfl
    have hblock (b : Block) : (free.withFuel (n + 1)).block b = runBlock (n + 1) b := by
      show free.statements (free.withFuel n) b.kind b.statements = _
      rw [statements_free, ih]
      rfl
    calc free.withFuel (n + 1)
        = ⟨n + 1, (free.withFuel (n + 1)).operand, (free.withFuel (n + 1)).block⟩ := rfl
      _ = Inner.withFuel (n + 1) := by
        rw [funext hoperand, funext hblock]
        rfl

theorem runProgram_free (self : Inner) : free.runProgram self = self.runProgram := rfl

end Guard

end Awk
