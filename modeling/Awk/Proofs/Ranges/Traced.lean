import Awk.Proofs.Conduct.Keeps

/-! Runs that keep a log of the tests of their items. The log is kept on the side: without it, a
traced run is the run itself. -/

namespace Awk

open Machine Run

/-- A test of an item for a record: its pattern, the machine before it, whether it selects the
record, and the machine after it. -/
structure Test where
  pattern : Pattern
  before : Machine
  selected : Bool
  after : Machine

/-- A run with the tests that it has made, last first, also where it runs out of fuel. -/
abbrev Traced := EStateM OutOfFuel (Machine × List Test)

namespace Traced

variable {α β : Type}

/-- A run that makes no test. -/
def plain (x : Run α) : Traced α := fun (m, log) =>
  match x m with
  | .ok a m' => .ok a (m', log)
  | .error e m' => .error e (m', log)

instance : MonadLift Run Traced := ⟨plain⟩

def machine : Traced Machine := fun s => .ok s.1 s

/-- Tests a pattern. A test that runs out of fuel is none. -/
def test (self : Inner) (p : Pattern) : Traced Bool := fun (m, log) =>
  match self.selects p m with
  | .ok selected m' => .ok selected (m', ⟨p, m, selected, m'⟩ :: log)
  | .error e m' => .error e (m', log)

def repeatWhile (pass : Traced Bool) : Nat → Traced Unit
  | 0 => Run.outOfFuel
  | n + 1 => do if ← pass then repeatWhile pass n else return ()

/-- Tries the items for the current record. -/
def tryItems (self : Inner) : List Item → Traced Bool
  | [] => return true
  | i :: is => do
    let selected ← test self i.pattern
    match ← getFlag with
    | .exit => return false
    | .next =>
      setFlag .none
      return true
    | _ =>
      if selected then
        let absorbed ← self.block i.action
        if (← getFlag) = .exit then return false
        else if absorbed = .next then return true
        else tryItems self is
      else tryItems self is

def nextPass (self : Inner) (items : List Item) : Traced Bool := do
  match ← MainInput.nextRecord self.fuel self.fuel with
  | none => return false
  | some record =>
    setRecord record
    note .record
    tryItems self items

/-- What follows the main input. -/
def ending (self : Inner) (p : Program) : Run Nat := do
  setFlag .none
  note .ending
  self.runItems p.endItems
  setFlag .none
  Inner.closeStreams
  return (← get).status

/-- Runs the items of a program. -/
def runAll (self : Inner) (p : Program) : Traced Nat := do
  self.runItems p.beginItems
  if (← getFlag) ≠ .exit && p.readsInput then
    repeatWhile (nextPass self p.mainItems) self.fuel
  ending self p

/-- Runs the program to its end. -/
def runProgram (self : Inner) : Traced Nat := do
  (modify fun m => { m with history := [] } : Act Unit)
  runAll self (← machine).program

/-- An outcome without the log. -/
def forget : EStateM.Result OutOfFuel (Machine × List Test) α → Outcome α
  | .ok a s => .ok a s.1
  | .error e s => .error e s.1

/-- Where a run ends, and the tests that it has made. -/
def ends : EStateM.Result OutOfFuel (Machine × List Test) α → Machine × List Test
  | .ok _ s => s
  | .error _ s => s

/-- `x` does what `y` does, with a log on the side. -/
def Follows (x : Traced α) (y : Run α) : Prop := ∀ m log, forget (x (m, log)) = y m

namespace Follows

theorem pure (a : α) : Follows (Pure.pure a) (Pure.pure a) := fun _ _ => rfl

theorem plain (x : Run α) : Follows (plain x) x := by
  intro m log
  show forget (match x m with | .ok a m' => .ok a (m', log) | .error e m' => .error e (m', log)) = _
  cases x m <;> rfl

theorem machine : Follows machine get := fun _ _ => rfl

theorem test (self : Inner) (p : Pattern) : Follows (test self p) (self.selects p) := by
  intro m log
  show forget (match self.selects p m with
    | .ok selected m' => .ok selected (m', ⟨p, m, selected, m'⟩ :: log)
    | .error e m' => .error e (m', log)) = _
  cases self.selects p m <;> rfl

theorem bind {x : Traced α} {y : Run α} {f : α → Traced β} {g : α → Run β} (hx : Follows x y)
    (hf : ∀ a, Follows (f a) (g a)) : Follows (x >>= f) (y >>= g) := by
  intro m log
  have hm := hx m log
  show forget (EStateM.bind x f (m, log)) = _
  cases h : x (m, log) with
  | ok a s =>
    rw [h] at hm
    simp only [EStateM.bind, h]
    rw [bind_ok hm.symm]
    exact hf a s.1 s.2
  | error e s =>
    rw [h] at hm
    simp only [EStateM.bind, h]
    rw [bind_error hm.symm]
    rfl

theorem ite {c : Prop} [Decidable c] {x x' : Traced α} {y y' : Run α} (hx : Follows x y)
    (hx' : Follows x' y') : Follows (if c then x else x') (if c then y else y') := by
  split
  · exact hx
  · exact hx'

theorem repeatWhile {x : Traced Bool} {y : Run Bool} (h : Follows x y) (n : Nat) :
    Follows (repeatWhile x n) (Run.repeatWhile y n) := by
  induction n with
  | zero => exact fun _ _ => rfl
  | succ n ih => exact h.bind fun _ => .ite ih (.pure _)

theorem tryItems (self : Inner) (is : List Item) :
    Follows (tryItems self is) (self.tryItems is) := by
  induction is with
  | nil => exact .pure _
  | cons i is ih =>
    refine .bind (.test self i.pattern) fun selected => .bind (.plain _) fun flag => ?_
    cases flag with
    | exit => exact .pure _
    | next => exact .bind (.plain _) fun _ => .pure _
    | _ =>
      refine .ite (.bind (.plain _) fun absorbed => .bind (.plain _) fun flag => ?_) ih
      exact .ite (.pure _) (.ite (.pure _) ih)

theorem nextPass (self : Inner) (is : List Item) :
    Follows (nextPass self is) (self.nextPass is) := by
  refine .bind (.plain _) fun r => ?_
  cases r with
  | none => exact .pure _
  | some record => exact .bind (.plain _) fun _ => .bind (.plain _) fun _ => tryItems self is

theorem runProgram (self : Inner) : Follows (runProgram self) self.runProgram := by
  refine .bind (.plain _) fun _ => .bind .machine fun m => .bind (.plain _) fun _ => ?_
  refine .bind (.plain _) fun flag => ?_
  split
  · exact .bind ((nextPass self _).repeatWhile _) fun _ => .plain _
  · exact .plain _

end Follows

/-- `x` keeps `I`, however it ends. -/
def Keeps (I : Machine → List Test → Prop) (x : Traced α) : Prop :=
  ∀ m log, I m log → I (ends (x (m, log))).1 (ends (x (m, log))).2

namespace Keeps

variable {I : Machine → List Test → Prop}

theorem pure (a : α) : Keeps I (Pure.pure a) := fun _ _ h => h

theorem bind {x : Traced α} {f : α → Traced β} (hx : Keeps I x) (hf : ∀ a, Keeps I (f a)) :
    Keeps I (x >>= f) := by
  intro m log hI
  have hm := hx m log hI
  show I (ends (EStateM.bind x f (m, log))).1 (ends (EStateM.bind x f (m, log))).2
  cases h : x (m, log) with
  | ok a s =>
    rw [h] at hm
    simp only [EStateM.bind, h]
    exact hf a s.1 s.2 hm
  | error e s =>
    rw [h] at hm
    simp only [EStateM.bind, h]
    exact hm

theorem ite {c : Prop} [Decidable c] {x y : Traced α} (hx : Keeps I x) (hy : Keeps I y) :
    Keeps I (if c then x else y) := by
  split
  · exact hx
  · exact hy

/-- What makes no test keeps what it keeps of the machine. -/
theorem plain {x : Run α} (h : ∀ m log, I m log → I (Outcome.machine (x m)) log) :
    Keeps I (plain x) := by
  intro m log hI
  have hm := h m log hI
  have hplain : Traced.plain x (m, log) = match x m with
    | .ok a m' => .ok a (m', log)
    | .error e m' => .error e (m', log) := rfl
  rw [hplain]
  cases hx : x m with
  | ok a m' =>
    rw [hx] at hm
    exact hm
  | error e m' =>
    rw [hx] at hm
    exact hm

theorem repeatWhile {x : Traced Bool} (h : Keeps I x) (n : Nat) : Keeps I (repeatWhile x n) := by
  induction n with
  | zero => exact fun _ _ h => h
  | succ n ih => exact h.bind fun _ => .ite ih (.pure _)

end Keeps

end Traced

end Awk
