import Mathlib.Data.List.Sort
import Mathlib.Data.String.Basic
import Std.Data.TreeMap.Lemmas
import Awk.Eval.Interpreter
import Awk.Proofs.Ast.Parts
import Awk.Proofs.Conduct.Keeps

/-! Structured control flow. A statement ends normally or with a jump, and what is around it decides
how it goes on from there: the next statement follows a normal end, a loop meets `break` and
`continue`, and everything else ends the same way. Nothing is pending while statements run. -/

namespace Awk

open Machine

namespace Environment

/-- The keys of an array stand in order. -/
theorem sortedLT_keys (env : Environment) (name : Name) : (env.keys name).SortedLT := by
  unfold keys
  split
  · exact List.sortedLT_iff_pairwise.mpr
      (Std.TreeMap.ordered_keys.imp fun h => compare_lt_iff_lt.mp h)
  · exact List.sortedLT_iff_pairwise.mpr .nil

/-- The keys of an array are those that it has. -/
theorem mem_keys (env : Environment) (name : Name) (key : String) :
    key ∈ env.keys name ↔ env.hasElement name key := by
  unfold keys hasElement
  split
  · exact Std.TreeMap.mem_keys.trans Std.TreeMap.mem_iff_contains
  · simp

end Environment

namespace Flag

/-- Whether a loop goes on when its body ends so. -/
def goesOn : Flag → Bool
  | none | continue_ => true
  | _ => false

/-- How a loop ends when its body ends so and is the last one. -/
def afterLoop : Flag → Flag
  | break_ | continue_ => none
  | e => e

theorem afterLoop_of_goesOn {e : Flag} (h : e.goesOn = true) : e.afterLoop = none := by
  cases e <;> first | rfl | cases h

end Flag

namespace Machine

/-- The machine with a jump pending. -/
def pending (m : Machine) (jump : Flag) : Machine := { m with flag := jump }

def noting (m : Machine) (e : Event) : Machine := (note e m).2

/-- A jump starts where none is pending. -/
def jumping (m : Machine) (jump : Flag) : Machine := m.noting (.jump .none jump)

theorem pending_none {m : Machine} (h : m.flag = .none) : m.pending .none = m := by
  cases m
  cases h
  rfl

theorem raise_eq {m : Machine} (h : m.flag = .none) (jump : Flag) :
    (raise jump m).2 = (m.jumping jump).pending jump := by
  cases m
  cases h
  rfl

end Machine

/-- What a block does when its statements end so: the jump that it absorbs and the machine that it
leaves, where what it does not meet is pending. A `break` or `continue` without a loop is
reported. -/
def BlockKind.conclude : BlockKind → Flag → Machine → Flag × Machine
  | .program, .break_, m | .routine, .break_, m => (.none, (report .breakOutsideLoop m).2)
  | .program, .continue_, m | .routine, .continue_, m => (.none, (report .continueOutsideLoop m).2)
  | .program, .next, m => (.next, m)
  | .program, .return_, m | .routine, .return_, m => (.return_, m)
  | .iteration, .break_, m => (.break_, m)
  | .iteration, .continue_, m => (.continue_, m)
  | _, e, m => (.none, m.pending e)

/-- Whether a statement does what it does and ends normally. -/
def Statement.isPlain : Statement → Bool
  | print .. | printf .. | expr _ | delete .. => true
  | _ => false

/-- With enough fuel `x` gives a result, and it leaves no jump pending. -/
structure Finishes {α : Type} (x : Nat → Run α) (m : Machine) (a : α) (m' : Machine) : Prop where
  ends : ∃ n, x n m = .ok a m'
  calm : m'.flag = .none

/-- Evaluating an expression. -/
abbrev Evaluates (e : Expr) : Machine → Value → Machine → Prop :=
  Finishes fun n => (Inner.withFuel n).value e

/-- Evaluating the first or the last clause of a `for`, for what it does. -/
abbrev Performs (e : Option Expr) : Machine → Unit → Machine → Prop :=
  Finishes fun n => (Inner.withFuel n).perform e

/-- Testing the condition of a loop. One that is left out holds. -/
inductive Tests : Option Expr → Machine → Bool → Machine → Prop
  | absent {m : Machine} : Tests none m true m
  | value {c : Expr} {m m' : Machine} {v : Value} : Evaluates c m v m' →
      Tests (some c) m v.toBool m'

/-- What is left to be done. -/
inductive Code where
  | statement (s : Statement)
  | sequence (ss : List Statement)
  /-- A loop before the test of its condition. -/
  | loop (condition step : Option Expr) (body : Block)
  /-- A loop over keys before the first of the keys that are left. -/
  | keys (name : Name) (ks : List String) (body : Block)

/-- `Ends c m e m'`: done from `m` on, `c` ends so, which `.none` says is normally, and leaves
`m'`. -/
inductive Ends : Code → Machine → Flag → Machine → Prop
  | plain {s : Statement} {m m' : Machine} : s.isPlain →
      Finishes (fun n => (Inner.withFuel n).statement s) m () m' → Ends (.statement s) m .none m'
  | block {b : Block} {m m' : Machine} {e : Flag} : Ends (.sequence b.statements) m e m' →
      Ends (.statement (.block b)) m e m'
  | yes {c : Expr} {b : Block} {no : Option Block} {m m₁ m' : Machine} {v : Value} {e : Flag} :
      Evaluates c m v m₁ → v.toBool = true → Ends (.sequence b.statements) m₁ e m' →
      Ends (.statement (.if_ c b no)) m e m'
  | no {c : Expr} {yes b : Block} {m m₁ m' : Machine} {v : Value} {e : Flag} :
      Evaluates c m v m₁ → v.toBool = false → Ends (.sequence b.statements) m₁ e m' →
      Ends (.statement (.if_ c yes (some b))) m e m'
  | neither {c : Expr} {yes : Block} {m m' : Machine} {v : Value} :
      Evaluates c m v m' → v.toBool = false → Ends (.statement (.if_ c yes none)) m .none m'
  | while_ {c : Expr} {b : Block} {m m' : Machine} {e : Flag} :
      Ends (.loop (some c) none b) m e m' → Ends (.statement (.while_ c b)) m e m'
  | for_ {start c step : Option Expr} {b : Block} {m m₁ m' : Machine} {e : Flag} :
      Performs start m () m₁ → Ends (.loop c step b) m₁ e m' →
      Ends (.statement (.for_ start c step b)) m e m'
  /-- The keys are those that the array has when the loop starts. -/
  | forIn {name array : Name} {b : Block} {m m' : Machine} {e : Flag} {ks : List String} :
      ks.SortedLT → (∀ k, k ∈ ks ↔ m.env.hasElement array k) → Ends (.keys name ks b) m e m' →
      Ends (.statement (.forIn name array b)) m e m'
  | doLeft {c : Expr} {b : Block} {m m' : Machine} {e : Flag} :
      Ends (.sequence b.statements) m e m' → e.goesOn = false → Ends (.statement (.doWhile b c)) m e.afterLoop m'
  | doOver {c : Expr} {b : Block} {m m₁ m' : Machine} {v : Value} {e : Flag} :
      Ends (.sequence b.statements) m e m₁ → e.goesOn = true → Evaluates c m₁ v m' →
      v.toBool = false → Ends (.statement (.doWhile b c)) m .none m'
  | doAgain {c : Expr} {b : Block} {m m₁ m₂ m' : Machine} {v : Value} {e e' : Flag} :
      Ends (.sequence b.statements) m e m₁ → e.goesOn = true → Evaluates c m₁ v m₂ →
      v.toBool = true → Ends (.statement (.doWhile b c)) m₂ e' m' →
      Ends (.statement (.doWhile b c)) m e' m'
  | break_ {m : Machine} : Ends (.statement .break_) m .break_ (m.jumping .break_)
  | continue_ {m : Machine} : Ends (.statement .continue_) m .continue_ (m.jumping .continue_)
  | next {m : Machine} : Ends (.statement .next) m .next (m.jumping .next)
  | return_ {m : Machine} : Ends (.statement (.return_ none)) m .return_
      ((modifyEnv (·.setReturned .empty) m).2.jumping .return_)
  | returnValue {x : Expr} {m m₁ : Machine} {v : Value} : Evaluates x m v m₁ →
      Ends (.statement (.return_ (some x))) m .return_
        ((modifyEnv (·.setReturned v) m₁).2.jumping .return_)
  | exit {m : Machine} : Ends (.statement (.exit none)) m .exit (m.jumping .exit)
  | exitStatus {x : Expr} {m m₁ : Machine} {v : Value} : Evaluates x m v m₁ →
      Ends (.statement (.exit (some x))) m .exit
        ({ m₁ with status := (v.toInteger % 256).toNat }.jumping .exit)
  | nil {m : Machine} : Ends (.sequence []) m .none m
  | cons {s : Statement} {ss : List Statement} {m m₁ m' : Machine} {e : Flag} :
      Ends (.statement s) (m.noting (.statement s)) .none m₁ → Ends (.sequence ss) m₁ e m' →
      Ends (.sequence (s :: ss)) m e m'
  | leave {s : Statement} {ss : List Statement} {m m' : Machine} {e : Flag} :
      Ends (.statement s) (m.noting (.statement s)) e m' → e ≠ .none →
      Ends (.sequence (s :: ss)) m e m'
  | loopOver {c step : Option Expr} {b : Block} {m m' : Machine} : Tests c m false m' →
      Ends (.loop c step b) m .none m'
  | loopLeft {c step : Option Expr} {b : Block} {m m₁ m' : Machine} {e : Flag} : Tests c m true m₁ →
      Ends (.sequence b.statements) m₁ e m' → e.goesOn = false →
      Ends (.loop c step b) m e.afterLoop m'
  | loopAgain {c step : Option Expr} {b : Block} {m m₁ m₂ m₃ m' : Machine} {e e' : Flag} :
      Tests c m true m₁ → Ends (.sequence b.statements) m₁ e m₂ → e.goesOn = true →
      Performs step m₂ () m₃ → Ends (.loop c step b) m₃ e' m' → Ends (.loop c step b) m e' m'
  | keysOver {name : Name} {b : Block} {m : Machine} : Ends (.keys name [] b) m .none m
  | keyLeft {name : Name} {k : String} {ks : List String} {b : Block} {m m' : Machine} {e : Flag} :
      Ends (.sequence b.statements) (assign (.scalar name) ⟨k⟩ m).2 e m' → e.goesOn = false →
      Ends (.keys name (k :: ks) b) m e.afterLoop m'
  | keyNext {name : Name} {k : String} {ks : List String} {b : Block} {m m₁ m' : Machine}
      {e e' : Flag} : Ends (.sequence b.statements) (assign (.scalar name) ⟨k⟩ m).2 e m₁ →
      e.goesOn = true → Ends (.keys name ks b) m₁ e' m' → Ends (.keys name (k :: ks) b) m e' m'

theorem Machine.Quiet.flag {α : Type} {a : Act α} (h : Quiet a) (m : Machine) :
    (a m).2.flag = m.flag :=
  congrArg Conduct.flag (h.conduct m)

theorem Machine.assign_calm {m : Machine} (h : m.flag = .none) (p : Place) (v : Value) :
    (assign p v m).2.flag = .none :=
  (Quiet.flag (Quiet.acts.assign trivial v) m).trans h

theorem Tests.calm {c : Option Expr} {m m' : Machine} {b : Bool} (h : Tests c m b m')
    (hm : m.flag = .none) : m'.flag = .none := by
  cases h with
  | absent => exact hm
  | value h => exact h.calm

/-- Nothing is pending where something has ended. -/
theorem Ends.calm {c : Code} {m m' : Machine} {e : Flag} (h : Ends c m e m')
    (hm : m.flag = .none) : m'.flag = .none := by
  induction h with
  | plain _ h => exact h.calm
  | block _ ih => exact ih hm
  | yes h _ _ ih => exact ih h.calm
  | no h _ _ ih => exact ih h.calm
  | neither h => exact h.calm
  | while_ _ ih => exact ih hm
  | for_ h _ ih => exact ih h.calm
  | forIn _ _ _ ih => exact ih hm
  | doLeft _ _ ih => exact ih hm
  | doOver _ _ h => exact h.calm
  | doAgain _ _ h _ _ _ ih => exact ih h.calm
  | break_ | continue_ | next | return_ | exit => exact hm
  | returnValue h => exact h.calm
  | exitStatus h => exact h.calm
  | nil => exact hm
  | cons _ _ ihs ih => exact ih (ihs hm)
  | leave _ _ ih => exact ih hm
  | loopOver h => exact h.calm hm
  | loopLeft h _ _ ih => exact ih (h.calm hm)
  | loopAgain _ _ _ h _ _ ih => exact ih h.calm
  | keysOver => exact hm
  | keyLeft _ _ ih => exact ih (assign_calm hm _ _)
  | keyNext _ _ _ ihb ih => exact ih (ihb (assign_calm hm _ _))

end Awk
