import Mathlib
import Awk.Proofs.Conduct.Evaluation
import Awk.Proofs.Grammar.Programs
import Awk.Shell.Run

/-! No program that is read reports a malformed expression: its expressions are well-formed, and
evaluation only comes to expressions of the program. -/

namespace Awk

open Machine Run

/-- How often a malformed expression has been reported. -/
def Machine.malformedReports (m : Machine) : Nat := m.diagnostics.count .malformedExpression

/-- Expressions that are well-formed, down to any depth. -/
abbrev Expr.WellFormed (e : Expr) : Prop := e.Everywhere (·.wellFormed false)

/-- Running `p` and having reported a malformed expression `k` times. -/
def Discipline.wellFormed {p : Program} (hp : p.Everywhere (·.wellFormed false)) (k : Nat) :
    Discipline where
  toAdmission := .everywhere (·.wellFormed false)
  holds c := c.program = p ∧ c.malformed = k
  body {c name f} h hf := by
    rw [h.1] at hf
    exact (hp.functions f (List.mem_of_find?_eq_some hf)).2
  statement _ h _ := h
  jump h _ _ := h
  leave h _ := h
  settle _ h _ := h

/-- Evaluating a well-formed expression of a program of such expressions reports nothing
malformed. -/
theorem malformedReports_evalOperand {p : Program} (hp : p.Everywhere (·.wellFormed false))
    {e : Expr} (he : e.WellFormed) (n : Nat) {m : Machine} (hm : m.program = p) :
    (Outcome.machine (evalOperand n e m)).malformedReports = m.malformedReports :=
  ((Inner.keptBy_withFuel (.wellFormed hp m.malformedReports) (fun _ h => h.here) n).operand he m
    ⟨hm, rfl⟩).conduct.2

/-- Every expression anywhere in a program that is read comes to a tree that spells it, so that each
reduction finds its operands and one operand is left; and evaluating it never reports a malformed
expression, whatever the state of the program and also where the evaluation runs out of fuel. -/
theorem parse_never_malformed {source : String} {p : Program} (h : parse source = .ok p) :
    p.Everywhere fun e =>
      (∃ t, Tree.build e = some t ∧ t.terms = e.explicit false) ∧
      ∀ n m, m.program = p →
        (Outcome.machine (evalOperand n e m)).malformedReports = m.malformedReports := by
  have hp := parse_wellFormed h
  refine hp.mono fun e he => ⟨?_, fun n m hm => malformedReports_evalOperand hp he n hm⟩
  obtain ⟨t, ht, -, hterms⟩ := Tree.build_wellFormed he.here
  exact ⟨t, ht, hterms⟩

/-- `x = -$y`. -/
def assignment : Expr := [.var "x", .op .assign, .op .neg, .op .field, .var "y"]

/-- `BEGIN { x = -$y }`. -/
def assigning : Program :=
  { items := [⟨.begin_, .mk .program [.expr assignment]⟩]
    functions := []
    ranges := 0 }

theorem parse_assigning : parse "BEGIN { x = -$y }" = .ok assigning := by cbv

theorem assigning_never_malformed :
    (∃ t, Tree.build assignment = some t ∧ t.terms = assignment.explicit false) ∧
      (Outcome.machine (evalOperand 5 assignment
        (.start assigning {} (.start .empty [] .captured)))).malformedReports = 0 := by
  obtain ⟨-, haction⟩ := (parse_never_malformed parse_assigning).actions _ (.head _)
  obtain ⟨hbuild, hreports⟩ := (haction.expr (.head _) (.head _)).here
  exact ⟨hbuild, hreports 5 _ rfl⟩

end Awk
