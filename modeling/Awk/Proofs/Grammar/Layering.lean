import Awk.Proofs.Expression.Layers
import Awk.Proofs.Grammar.Agreement

/-! The levels of the grammar and the operators that may skip an operand. Below `&&` all operators
are tight; from there up each level puts its own operator over what the tighter levels derive, and
what may be skipped is deferred. -/

namespace Awk

namespace Tree

/-! Trees without loose operators. -/

theorem Tight.operand (x : Term) : (operand x).Tight := fun _ h => nomatch h

theorem Tight.before {o : Operator} (ho : o.fixity = .before) {t : Tree} (h : t.Tight) :
    (before o t).Tight :=
  List.forall_mem_cons.mpr ⟨Nat.le_trans (by decide) (Operator.before_levels ho).1, h⟩

theorem Tight.after {o : Operator} (ho : o.fixity = .after) {t : Tree} (h : t.Tight) :
    (after t o).Tight :=
  List.forall_mem_cons.mpr
    ⟨Nat.le_trans (by decide) (Nat.le_of_eq (Operator.after_level ho).1.symm), h⟩

theorem Tight.between {o : Operator} {k : Nat} (ho : Parser.OfLevel k o) (hk : 5 ≤ k) {l r : Tree}
    (hl : l.Tight) (hr : r.Tight) : (between o l r).Tight := by
  refine List.forall_mem_cons.mpr ⟨by rw [ho.2]; exact hk, fun p hp => ?_⟩
  exact (List.mem_append.mp hp).elim (hl p) (hr p)

/-- An operand that is evaluated when its value is needed does nothing before. -/
theorem deferred_lazily (e : Expr) : (lazily e).Deferred := by
  refine ⟨e.lazyTerm, ?_, rfl⟩
  unfold Expr.lazyTerm
  split <;> rfl

end Tree

namespace Parser

open Awk.Tree (Tight Layered)

theorem Ensures.and {α : Type} {p : Parser α} {Q R : α → Prop} (hq : Ensures p Q)
    (hr : Ensures p R) : Ensures p fun a => Q a ∧ R a :=
  fun c a c' h => ⟨hq c a c' h, hr c a c' h⟩

/-- The levels from signs down to operands derive tight trees. -/
structure Tightens (n : Nat) : Prop where
  unary : Ensures (unaryTree n) Tight
  power : Ensures (powerTree n) Tight
  step : Ensures (stepTree n) Tight
  operand : Ensures (operandTree n) fun r => r.1.Tight
  stepBefore : ∀ {o} place, o.fixity = .before →
    Ensures (stepBeforeTree n o place) fun r => r.1.Tight

theorem tightens (n : Nat) : Tightens n := by
  induction n with
  | zero =>
    exact ⟨.outOfFuel, .outOfFuel, .outOfFuel, .outOfFuel, fun _ _ => .outOfFuel⟩
  | succ n ih =>
    refine ⟨?_, ?_, ?_, ?_, fun place ho => ?_⟩
    · refine .andThen fun t => ?_
      cases ho : sign? t with
      | none => exact ih.power
      | some o =>
        exact .andThen fun _ => ih.unary.bind fun t ht => .pure (ht.before (sign?_spec ho).1)
    · refine ih.step.bind fun l hl => .andThen fun found => .ite ?_ (.pure hl)
      exact ih.unary.bind fun r hr => .pure (.between (k := 13) ⟨rfl, rfl⟩ (by decide) hl hr)
    · refine ih.operand.bind fun r hr => .andThen fun t => ?_
      cases ho : stepAfter? t with
      | none => exact .pure hr
      | some o => exact .ite (.andThen fun _ => .pure (hr.after (stepAfter?_fixity ho))) (.pure hr)
    · refine .andThen fun place => .andThen fun t => ?_
      split
      · refine .andThen fun _ => .andThen fun t => ?_
        cases ho : (stepBefore? t).or (sign? t) with
        | none => exact ih.operand.bind fun r hr => .pure (hr.before rfl)
        | some o =>
          have hfix : o.fixity = .before := by
            rcases Option.or_eq_some_iff.mp ho with ho | ⟨-, ho⟩
            · exact stepBefore?_fixity ho
            · exact (sign?_spec ho).1
          exact .andThen fun _ => ih.operand.bind fun r hr => .pure ((hr.before hfix).before rfl)
      · exact ih.stepBefore place rfl
      · exact ih.stepBefore place rfl
      · exact .andThen fun _ => .pure (.operand _)
      · exact .andThen fun _ => .pure (.operand _)
      · exact .andThen fun _ => .pure (.operand _)
      · refine .andThen fun _ => .andThen fun list => .andThen fun _ => .andThen fun _ => ?_
        split
        · exact .fail _ _
        · exact .pure (.operand _)
        · exact .andThen fun _ => .ite (.pure (.operand _)) (.failExpected _)
      · exact .andThen fun _ => .andThen fun _ => .pure (.operand _)
      · refine .andThen fun _ => ?_
        split
        · refine .andThen fun _ => .ite (.andThen fun _ => .pure (.operand _)) ?_
          exact .ite (.pure (.operand _)) (.fail _ _)
        · exact .andThen fun _ => .ite (.andThen fun _ => .pure (.operand _)) (.pure (.operand _))
      · refine .andThen fun _ => .andThen fun _ => .andThen fun _ => .ite ?_ (.pure (.operand _))
        exact .andThen fun _ => .pure (.operand _)
      · exact ih.unary.bind fun t ht => .pure ht
      · exact ih.unary.bind fun t ht => .pure ht
      · exact ih.unary.bind fun t ht => .pure ht
      · exact .failUnexpected
    · refine .andThen fun _ => ih.operand.bind fun r hr => .ite (.pure (hr.before ho)) ?_
      exact .fail _ _

/-- A level whose operators group to the left, over what a tighter level derives. -/
theorem restTree_tight (look : Parser (Option Operator)) {next : Nat → Parser Tree}
    {rest : Nat → Tree → Parser Tree} {k : Nat} (hk : 5 ≤ k)
    (hlook : Ensures look fun o => ∀ p ∈ o, OfLevel k p) (hnext : ∀ n, Ensures (next n) Tight)
    (hzero : ∀ l, rest 0 l = outOfFuel)
    (hsucc : ∀ n l, rest (n + 1) l = do
      match ← look with
      | some o =>
        advance
        rest n (.between o l (← next n))
      | none => return l)
    {l : Tree} (hl : l.Tight) (n : Nat) : Ensures (rest n l) Tight := by
  induction n generalizing l with
  | zero =>
    rw [hzero]
    exact .outOfFuel
  | succ n ih =>
    rw [hsucc]
    refine hlook.bind fun o ho => ?_
    cases o with
    | none => exact .pure hl
    | some o => exact .andThen fun _ => (hnext n).bind fun r hr => ih (.between (ho o rfl) hk hl hr)

theorem multiplicativeTree_tight (n : Nat) : Ensures (multiplicativeTree n) Tight := by
  cases n with
  | zero => exact .outOfFuel
  | succ n =>
    refine (tightens n).unary.bind fun l hl => ?_
    exact restTree_tight (do return multiplicative? (← token)) (by decide)
      (.andThen fun t => .pure fun _ h => multiplicative?_level h) (fun n => (tightens n).unary)
      (fun _ => rfl) (fun _ _ => rfl) hl n

theorem additiveTree_tight (n : Nat) : Ensures (additiveTree n) Tight := by
  cases n with
  | zero => exact .outOfFuel
  | succ n =>
    refine (multiplicativeTree_tight n).bind fun l hl => ?_
    exact restTree_tight (do return additive? (← token)) (by decide)
      (.andThen fun t => .pure fun _ h => additive?_level h) multiplicativeTree_tight
      (fun _ => rfl) (fun _ _ => rfl) hl n

theorem concatRestTree_tight {l : Tree} (hl : l.Tight) (n : Nat) :
    Ensures (concatRestTree n l) Tight := by
  induction n generalizing l with
  | zero => exact .outOfFuel
  | succ n ih =>
    refine .andThen fun t => .andThen fun t' => .ite ?_ (.andThen fun t => .ite ?_ (.pure hl))
    · exact .andThen fun _ => .andThen fun _ => .andThen fun target => ih (.operand _)
    · refine (additiveTree_tight n).bind fun r hr => ih ?_
      exact .between (k := 8) ⟨rfl, rfl⟩ (by decide) hl hr

theorem concatTree_tight (n : Nat) : Ensures (concatTree n) Tight := by
  cases n with
  | zero => exact .outOfFuel
  | succ n => exact (additiveTree_tight n).bind fun l hl => concatRestTree_tight hl n

theorem comparisonTree_tight (n : Nat) : Ensures (comparisonTree n) Tight := by
  cases n with
  | zero => exact .outOfFuel
  | succ n =>
    refine (concatTree_tight n).bind fun l hl => ?_
    exact restTree_tight (do return comparison? (← get).redirects (← token)) (by decide)
      (.andThen fun c => .andThen fun t => .pure fun _ h => comparison?_level h) concatTree_tight
      (fun _ => rfl) (fun _ _ => rfl) hl n

theorem matchTree_tight (n : Nat) : Ensures (matchTree n) Tight := by
  cases n with
  | zero => exact .outOfFuel
  | succ n =>
    refine (comparisonTree_tight n).bind fun l hl => ?_
    exact restTree_tight (do return matching? (← token)) (by decide)
      (.andThen fun t => .pure fun _ h => matching?_level h) comparisonTree_tight
      (fun _ => rfl) (fun _ _ => rfl) hl n

theorem memRestTree_tight {l : Tree} (hl : l.Tight) (n : Nat) :
    Ensures (memRestTree n l) Tight := by
  induction n generalizing l with
  | zero => exact .outOfFuel
  | succ n ih =>
    refine .andThen fun found => .ite (.andThen fun t => ?_) (.pure hl)
    split
    · exact .andThen fun _ => ih (.between (k := 5) ⟨rfl, rfl⟩ (by decide) hl (.operand _))
    · exact .failExpected _

theorem memTree_tight (n : Nat) : Ensures (memTree n) Tight := by
  cases n with
  | zero => exact .outOfFuel
  | succ n => exact (matchTree_tight n).bind fun l hl => memRestTree_tight hl n

/-! Loose operators over tight trees. -/

theorem andRestTree_layered {l : Tree} (hl : l.Layered 4) (n : Nat) :
    Ensures (andRestTree n l) (Layered 4) := by
  induction n generalizing l with
  | zero => exact .outOfFuel
  | succ n ih =>
    refine .andThen fun found => .ite (.andThen fun _ => .andThen fun e => ih ?_) (.pure hl)
    exact .and (Nat.le_refl _) hl (Tree.deferred_lazily e)

theorem tight_layered {p : Parser Tree} {l r : Nat} (ht : Ensures p Tight)
    (hp : Ensures p (Tree.Level l r)) {k : Nat} (hk : k ≤ 5) : Ensures p (Layered k) :=
  (ht.and hp).mono fun _ h => .tight hk h.2.conforms.placed h.1

theorem andTree_layered (n : Nat) : Ensures (andTree n) (Layered 4) := by
  cases n with
  | zero => exact .outOfFuel
  | succ n =>
    have hmem := tight_layered (memTree_tight n) (derives n).memTree (k := 4) (by decide)
    exact hmem.bind fun l hl => andRestTree_layered hl n

theorem orRestTree_layered {l : Tree} (hl : l.Layered 3) (n : Nat) :
    Ensures (orRestTree n l) (Layered 3) := by
  induction n generalizing l with
  | zero => exact .outOfFuel
  | succ n ih =>
    refine .andThen fun found => .ite (.andThen fun _ => .andThen fun e => ih ?_) (.pure hl)
    exact .or (Nat.le_refl _) hl (Tree.deferred_lazily e)

theorem orTree_layered (n : Nat) : Ensures (orTree n) (Layered 3) := by
  cases n with
  | zero => exact .outOfFuel
  | succ n => exact (andTree_layered n).bind fun l hl => orRestTree_layered (hl.mono (by decide)) n

theorem conditionalTree_layered (n : Nat) : Ensures (conditionalTree n) (Layered 2) := by
  cases n with
  | zero => exact .outOfFuel
  | succ n =>
    refine (orTree_layered n).bind fun c hc => .andThen fun found => .ite ?_ ?_
    · refine .andThen fun _ => .andThen fun yes => .andThen fun _ => .andThen fun _ => ?_
      refine .andThen fun _ => .andThen fun no => .pure ?_
      exact .conditional (Nat.le_refl _) hc (Tree.deferred_lazily yes) (Tree.deferred_lazily no)
    · exact .pure (hc.mono (by decide))

theorem exprTree_layered (n : Nat) : Ensures (exprTree n) (Layered 1) := by
  induction n with
  | zero => exact .outOfFuel
  | succ n ih =>
    refine (conditionalTree_layered n).bind fun l hl => .andThen fun t => ?_
    cases ho : assignment? t with
    | none => exact .pure (hl.mono (by decide))
    | some o =>
      refine .andThen fun _ => .andThen fun _ => ih.bind fun r hr => .pure ?_
      exact .assignment (Nat.le_refl _) (decide_eq_true (assignment?_level ho).2) hl hr

end Parser

theorem Entry.derive_layered (s : Entry) (n : Nat) :
    Parser.Ensures (s.derive n) (Tree.Layered 1) := by
  cases s with
  | expr =>
    cases n with
    | zero => exact .outOfFuel
    | succ n => exact Parser.exprTree_layered n
  | conditional => exact (Parser.conditionalTree_layered n).mono fun _ h => h.mono (by decide)
  | and => exact (Parser.andTree_layered n).mono fun _ h => h.mono (by decide)
  | mem =>
    exact Parser.tight_layered (Parser.memTree_tight n) (Parser.derives n).memTree (by decide)
  | concat =>
    exact Parser.tight_layered (Parser.concatTree_tight n) (Parser.derives n).concatTree (by decide)
  | operand =>
    refine ((Parser.tightens n).operand.and (Parser.derives n).operandTree).bind fun r hr => ?_
    exact .pure (.tight (by decide) hr.2.conforms.placed hr.1)

/-- Whatever the parser reads is evaluated to the outcome of its derivation tree: the right operand
of `&&` or `||` only if the left one does not decide, of a conditional only the branch that is
selected, each once, and otherwise nothing is done but to evaluate the left operand or the
condition. So it is with each operator of the tree, over the values of what it stands over. -/
theorem parse_outcome (s : Entry) {n : Nat} {c c' : Cursor} {e : Expr}
    (h : s.parse n c = some (.ok e, c')) :
    ∃ d, s.derive n c = some (.ok d, c') ∧ d.written = e ∧ d.Layered 1 ∧
      (∀ k, evalOperand (k + 1) e =
        (do (Inner.withFuel k).settle (← d.outcome (Inner.withFuel k)) : Run Operand)) ∧
      ∀ t ∈ d.layers, ∀ k, t.Lazy k := by
  rw [s.parse_eq] at h
  obtain ⟨d, hd, rfl⟩ := Parser.map_ok h
  have hlayered := s.derive_layered n c d c' hd
  exact ⟨d, hd, rfl, hlayered, hlayered.evalOperand_written,
    fun t ht k => hlayered.lazy_layers ht k⟩

/-- `z = x && y++ ? "t" : n++`. -/
def skipping : Cursor :=
  .start ([.ident "z", .symbol .assign, .ident "x", .symbol .andand, .ident "y", .symbol .incr,
    .symbol .question, .string "t", .symbol .colon, .ident "n", .symbol .incr, .eof].map
      (⟨·, ⟨0, 0⟩⟩))

/-- The steps of `y` and `n` are expressions of their own. -/
theorem parse_skipping :
    ∃ d, Entry.derive .expr 20 skipping = some (.ok d, ⟨[⟨.eof, ⟨0, 0⟩⟩], false, 0⟩) ∧
      d.written = [.var "z", .op .assign, .var "x", .op .and, .group [.var "y", .op .postIncr],
        .op .question, .value (.ofString "t"), .op .colon, .group [.var "n", .op .postIncr]] ∧
      d.Layered 1 ∧
      (∀ k, evalOperand (k + 1) d.written =
        (do (Inner.withFuel k).settle (← d.outcome (Inner.withFuel k)) : Run Operand)) ∧
      ∀ t ∈ d.layers, ∀ k, t.Lazy k := by
  have hparse : Entry.parse .expr 20 skipping =
      some (.ok [.var "z", .op .assign, .var "x", .op .and, .group [.var "y", .op .postIncr],
        .op .question, .value (.ofString "t"), .op .colon, .group [.var "n", .op .postIncr]],
        ⟨[⟨.eof, ⟨0, 0⟩⟩], false, 0⟩) := rfl
  obtain ⟨d, hd, hwritten, hlayered, heval, hlazy⟩ := parse_outcome .expr hparse
  exact ⟨d, hd, hwritten, hlayered, by rwa [hwritten], hlazy⟩

end Awk
