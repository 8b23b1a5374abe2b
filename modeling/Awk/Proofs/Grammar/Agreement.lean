import Awk.Proofs.Expression.Precedence
import Awk.Proofs.Grammar.Programs

/-! The grammar and the precedence of operators agree on the structure of expressions, but where a
power or a step follows a field whose index has a sign: the grammar applies it to the field, and
precedence to the index. -/

namespace Awk

/-- Where the parser reads an expression of its own: anywhere; the second branch of a conditional;
an operand of `||`; an operand of `&&` or of a pattern; where output goes; a file or a field of
`getline`. -/
inductive Entry where
  | expr
  | conditional
  | and
  | mem
  | concat
  | operand

namespace Entry

open Awk.Parser

/-- Reads an expression. -/
def parse : Entry → Nat → Parser Expr
  | expr, n => Parser.expr n
  | conditional, n => conditionalInto n []
  | and, n => andInto n []
  | mem, n => memInto n []
  | concat, n => concatInto n []
  | operand, n => do return (← operandInto n []).1

/-- The tree of the derivation. -/
def derive : Entry → Nat → Parser Tree
  | expr, 0 => outOfFuel
  | expr, n + 1 => exprTree n
  | conditional, n => conditionalTree n
  | and, n => andTree n
  | mem, n => memTree n
  | concat, n => concatTree n
  | operand, n => do return (← operandTree n).1

theorem parse_eq (s : Entry) (n : Nat) : s.parse n = Tree.written <$> s.derive n := by
  cases s with
  | expr =>
    cases n with
    | zero => rfl
    | succ n => exact exprInto_eq rfl n
  | conditional => exact conditionalInto_eq rfl n
  | and => exact andInto_eq rfl n
  | mem => exact memInto_eq rfl n
  | concat => exact concatInto_eq rfl n
  | operand =>
    simp only [parse, derive, (writes n).operand, bind_map_left, map_bind, map_pure]
    rfl

theorem derive_ensures (s : Entry) (n : Nat) : Ensures (s.derive n) Tree.Conforms := by
  cases s with
  | expr =>
    cases n with
    | zero => exact .outOfFuel
    | succ n => exact (derives n).exprTree.mono fun _ h => h.conforms
  | conditional => exact (derives n).conditionalTree.mono fun _ h => h.conforms
  | and => exact (derives n).andTree.mono fun _ h => h.conforms
  | mem => exact (derives n).memTree.mono fun _ h => h.conforms
  | concat => exact (derives n).concatTree.mono fun _ h => h.conforms
  | operand => exact (derives n).operandTree.bind fun r h => .pure h.conforms

end Entry

theorem Parser.map_ok {α β : Type} {p : Parser α} {f : α → β} {c c' : Cursor} {b : β}
    (h : (f <$> p) c = some (.ok b, c')) : ∃ a, p c = some (.ok a, c') ∧ f a = b := by
  rw [map_eq_pure_bind] at h
  obtain ⟨a, c'', ha, hb⟩ := bind_eq_ok h
  cases hb
  exact ⟨a, ha, rfl⟩

/-- The tree that precedence gives what the parser reads, which is the tree that it is evaluated
along, is the tree of the derivation if and only if no power and no step of that is applied to what
has a sign on its right spine. -/
theorem parse_tree_iff (s : Entry) {n : Nat} {c c' : Cursor} {e : Expr}
    (h : s.parse n c = some (.ok e, c')) :
    ∃ d t, s.derive n c = some (.ok d, c') ∧ d.written = e ∧ Tree.build e = some t ∧
      (∀ k m v m', (Inner.withFuel k).terms e m = .ok v m' → (Inner.withFuel k).Computes t v) ∧
      (t = d ↔ d.SignFree) := by
  rw [s.parse_eq] at h
  obtain ⟨d, hd, rfl⟩ := Parser.map_ok h
  have hconforms := s.derive_ensures n c d c' hd
  obtain ⟨t, ht, -, -⟩ := Tree.build_wellFormed hconforms.placed.wellFormed_written
  refine ⟨d, t, hd, rfl, ht, fun k m v m' hv => Inner.terms_computes ht hv, ?_⟩
  rw [← hconforms.build_written_iff, ht]
  exact Option.some_inj.symm

/-- `$ + 2 ^ 2`, where the grammar takes the power of a field. -/
def signedFieldPower : Cursor :=
  .start ([.symbol .dollar, .symbol .plus, .number ⟨"2"⟩, .symbol .caret, .number ⟨"2"⟩, .eof].map
    (⟨·, ⟨0, 0⟩⟩))

/-- The tree of the derivation of `$ + 2 ^ 2`. -/
def signedFieldPowerTree : Tree :=
  .between .pow (.before .field (.before .plus (.operand (.value ⟨"2"⟩)))) (.operand (.value ⟨"2"⟩))

/-- The grammar takes the power of a field, and precedence the field of a power. -/
theorem parse_tree_signedFieldPower :
    ∃ d t, Entry.derive .expr 20 signedFieldPower =
        some (.ok d, ⟨[⟨.eof, ⟨0, 0⟩⟩], false, 0⟩) ∧
      Tree.build d.written = some t ∧ t ≠ d := by
  have hparse : Entry.parse .expr 20 signedFieldPower =
      some (.ok signedFieldPowerTree.written, ⟨[⟨.eof, ⟨0, 0⟩⟩], false, 0⟩) := rfl
  have hderive : Entry.derive .expr 20 signedFieldPower =
      some (.ok signedFieldPowerTree, ⟨[⟨.eof, ⟨0, 0⟩⟩], false, 0⟩) := rfl
  obtain ⟨d, t, hd, -, ht, -, hiff⟩ := parse_tree_iff .expr hparse
  rw [hderive] at hd
  cases hd
  refine ⟨_, t, hderive, ht, fun htd => ?_⟩
  exact (hiff.mp htd).2.2 rfl .plus (.tail _ (.head _)) rfl

end Awk
