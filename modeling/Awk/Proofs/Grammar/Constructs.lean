import Awk.Proofs.Grammar.Newlines
import Awk.Proofs.Grammar.Numbering

/-! What a construct of the grammar leaves behind. However it ends, `>` is read as it was before;
and where it takes no number for a range, what it came to can be given up without a trace, though
only the lexemes are put back. -/

namespace Awk.Parser

variable {α β : Type}

/-! How `>` is read. -/

/-- However `p` ends, `>` is read as it was before. -/
def KeepsRedirects (p : Parser α) : Prop :=
  ∀ c r c', p c = some (r, c') → c'.redirects = c.redirects

theorem Stays.keepsRedirects {p : Parser α} (hp : Stays p) : KeepsRedirects p := by
  intro c r c' h
  obtain ⟨_, rfl⟩ := hp c r c' h
  rfl

namespace KeepsRedirects

theorem bind {p : Parser α} {f : α → Parser β} (hp : KeepsRedirects p)
    (hf : ∀ a, KeepsRedirects (f a)) : KeepsRedirects (p >>= f) := by
  intro c r c' h
  rw [bind_apply] at h
  cases hpc : p c with
  | none =>
    rw [hpc] at h
    cases h
  | some s =>
    rw [hpc] at h
    obtain ⟨_ | a, c₁⟩ := s
    · cases h
      exact hp c _ _ hpc
    · exact (hf a c₁ r c' h).trans (hp c _ c₁ hpc)

theorem ite {b : Prop} [Decidable b] {p q : Parser α} (hp : KeepsRedirects p)
    (hq : KeepsRedirects q) : KeepsRedirects (if b then p else q) := by
  split
  · exact hp
  · exact hq

end KeepsRedirects

theorem keepsRedirects_itemPattern (n : Nat) : KeepsRedirects (itemPattern n) := by
  refine .bind Stays.token.keepsRedirects fun t => ?_
  split
  · exact (Stays.bind .advance fun _ => .pure _).keepsRedirects
  · exact (Stays.bind .advance fun _ => .pure _).keepsRedirects
  · exact (Stays.pure _).keepsRedirects
  · refine .bind (stays_pattern n).keepsRedirects fun _ => ?_
    refine .bind (Stays.eat _).keepsRedirects fun _ => .ite ?_ (Stays.pure _).keepsRedirects
    refine .bind Stays.skipNewlines.keepsRedirects fun _ => ?_
    refine .bind (stays_pattern n).keepsRedirects fun _ => ?_
    rintro c _ _ ⟨⟩
    rfl

theorem keepsRedirects_item (n : Nat) : KeepsRedirects (item n) := by
  refine (keepsRedirects_itemPattern n).bind fun p => Stays.keepsRedirects ?_
  refine .bind (.check _) fun _ => .ite ?_ (.ite (.failExpected _) (.pure _))
  exact ((statementsStay n).block .program).bind fun _ => .pure _

theorem keepsRedirects_program (n : Nat) (p : Program) : KeepsRedirects (program n p) := by
  induction n generalizing p with
  | zero => exact Stays.outOfFuel.keepsRedirects
  | succ n ih =>
    refine .bind Stays.skipTerminators.keepsRedirects fun _ => ?_
    refine .bind (Stays.check _).keepsRedirects fun _ => .ite (Stays.look).keepsRedirects ?_
    refine .bind (Stays.check _).keepsRedirects fun _ => .ite ?_ ?_
    · refine .bind (stays_function n).keepsRedirects fun _ => .ite ?_ (ih _)
      exact (Stays.fail _ _).keepsRedirects
    · exact .bind (keepsRedirects_item n) fun _ => ih _

/-! Coming to an end. -/

/-- From cursors with at most `b` lexemes to come, the first of them such that `T`, the parser comes
to a result or an error. -/
def Comes (T : Token → Prop) (b : Nat) (p : Parser α) : Prop :=
  ∀ c, Ended c.rest → T c.token → c.rest.length ≤ b → ∃ r c', p c = some (r, c')

variable {n b : Nat}

/-- The change that changes nothing is carried over to results and errors only. -/
theorem Change.Carries.comes {T : Token → Prop} {strict : Bool} {R : α → β → Prop} {p : Parser α}
    {q : Parser β} (h : moreNewline.Carries T b strict R p q) : Comes T b p := by
  intro c hended hT hb
  have hout := h c c ⟨.behind hended, rfl, (Nat.zero_add c.ranges).symm⟩ hT hb
  generalize p c = l, q c = r at hout
  cases hout with
  | ok => exact ⟨_, _, rfl⟩
  | error => exact ⟨_, _, rfl⟩

theorem comes_itemPattern (h : 32 * b + 15 ≤ n) : Comes anyToken b (itemPattern n) := by
  intro c hended _ hb
  by_cases hc : c.token = .symbol .lbrace
  · exact ⟨_, _, itemPattern_all hc⟩
  · exact (itemPattern_carried (M := moreNewline) (Nat.le_refl n) h).comes c hended hc hb

/-- Parameters are read up to a parenthesis, or fail before it. -/
theorem comes_parameters (h : 32 * b + 1 ≤ n) (before : List Name) :
    Comes anyToken b (parameters n before) := by
  intro c hended hc hb
  -- What is known is of parameters with more behind them, so the parenthesis is read too.
  have hrest (ps : List Name) : moreNewline.Carries anyToken b true Eq
      (do expect .rparen; return ps) (do expect .rparen; return ps) :=
    .expect (.plain rfl) fun _ => .pure rfl
  have hclosed := (parameters_carried (Nat.le_refl n) h before hrest).comes
  obtain ⟨r, c', hr⟩ := hclosed c hended hc hb
  rw [bind_apply] at hr
  cases hp : parameters n before c with
  | none =>
    rw [hp] at hr
    cases hr
  | some s => exact ⟨s.1, s.2, rfl⟩

theorem turnsProgram_self (p : Program) : moreNewline.TurnsProgram p p where
  items := by
    rw [show moreNewline.ranges = 0 from rfl, item_renumber_zero, List.map_id]
  functions := List.forall₂_same.mpr fun _ _ => ⟨rfl, rfl, rfl, rfl⟩

/-! The constructs. -/

/-- The functions of the grammar, with what they are given. -/
inductive Construct : Type → Type
  | expr : Construct Expr
  | exprList (close : Symbol) : Construct (List Expr)
  | exprListRest : Construct (List Expr)
  | exprInto (e : Expr) : Construct Expr
  | conditionalInto (e : Expr) : Construct Expr
  | orInto (e : Expr) : Construct Expr
  | orRest (e : Expr) : Construct Expr
  | andInto (e : Expr) : Construct Expr
  | andRest (e : Expr) : Construct Expr
  | memInto (e : Expr) : Construct Expr
  | memRest (e : Expr) : Construct Expr
  | matchInto (e : Expr) : Construct Expr
  | matchRest (e : Expr) : Construct Expr
  | comparisonInto (e : Expr) : Construct Expr
  | comparisonRest (e : Expr) : Construct Expr
  | concatInto (e : Expr) : Construct Expr
  | concatRest (start : Nat) (e : Expr) : Construct Expr
  | additiveInto (e : Expr) : Construct Expr
  | additiveRest (e : Expr) : Construct Expr
  | multiplicativeInto (e : Expr) : Construct Expr
  | multiplicativeRest (e : Expr) : Construct Expr
  | unaryInto (e : Expr) : Construct Expr
  | powerInto (e : Expr) : Construct Expr
  | stepInto (e : Expr) : Construct Expr
  | operandInto (e : Expr) : Construct (Expr × Bool)
  | stepBeforeInto (o : Operator) (place : Span) (e : Expr) : Construct (Expr × Bool)
  | arguments : Construct (List Expr)
  | subscript : Construct (List Expr)
  | target : Construct (Option (Target Expr))
  | optionalExpr : Construct (Option Expr)
  | condition : Construct Expr
  | forClause (close : Symbol) : Construct (Option Expr)
  | parenthesizedList : Construct (List Expr)
  | printList : Construct (List Expr)
  | printRest : Construct (List Expr × Option Redirect)
  | print : Construct Statement
  | printf : Construct Statement
  | delete : Construct Statement
  | ended (s : Statement) : Construct Statement
  | block (kind : BlockKind) : Construct Block
  | statements : Construct (List Statement)
  | body (kind : BlockKind) : Construct Block
  | statement : Construct Statement
  | ifStatement : Construct Statement
  | forStatement : Construct Statement
  | patternLeaf : Construct Pattern
  | patternAndRest (left : Pattern) : Construct Pattern
  | patternOrRest (left : Pattern) : Construct Pattern
  | compoundPattern : Construct Pattern
  | pattern : Construct Pattern
  | itemPattern : Construct Pattern
  | item : Construct Item
  | parameters (before : List Name) : Construct (List Name)
  | function : Construct Function
  | program (before : Program) : Construct Program

namespace Construct

/-- How a construct is read. -/
def parser : Construct α → Nat → Parser α
  | expr, n => Parser.expr n
  | exprList close, n => Parser.exprList n close
  | exprListRest, n => Parser.exprListRest n
  | exprInto e, n => Parser.exprInto n e
  | conditionalInto e, n => Parser.conditionalInto n e
  | orInto e, n => Parser.orInto n e
  | orRest e, n => Parser.orRest n e
  | andInto e, n => Parser.andInto n e
  | andRest e, n => Parser.andRest n e
  | memInto e, n => Parser.memInto n e
  | memRest e, n => Parser.memRest n e
  | matchInto e, n => Parser.matchInto n e
  | matchRest e, n => Parser.matchRest n e
  | comparisonInto e, n => Parser.comparisonInto n e
  | comparisonRest e, n => Parser.comparisonRest n e
  | concatInto e, n => Parser.concatInto n e
  | concatRest start e, n => Parser.concatRest n start e
  | additiveInto e, n => Parser.additiveInto n e
  | additiveRest e, n => Parser.additiveRest n e
  | multiplicativeInto e, n => Parser.multiplicativeInto n e
  | multiplicativeRest e, n => Parser.multiplicativeRest n e
  | unaryInto e, n => Parser.unaryInto n e
  | powerInto e, n => Parser.powerInto n e
  | stepInto e, n => Parser.stepInto n e
  | operandInto e, n => Parser.operandInto n e
  | stepBeforeInto o place e, n => Parser.stepBeforeInto n o place e
  | arguments, n => Parser.arguments n
  | subscript, n => Parser.subscript n
  | target, n => Parser.target? n
  | optionalExpr, n => Parser.optionalExpr n
  | condition, n => Parser.condition n
  | forClause close, n => Parser.forClause n close
  | parenthesizedList, n => Parser.parenthesizedList n
  | printList, n => Parser.printList n
  | printRest, n => Parser.printRest n
  | print, n => Parser.print n
  | printf, n => Parser.printf n
  | delete, n => Parser.delete n
  | ended s, _ => Parser.ended s
  | block kind, n => Parser.block n kind
  | statements, n => Parser.statements n
  | body kind, n => Parser.body n kind
  | statement, n => Parser.statement n
  | ifStatement, n => Parser.ifStatement n
  | forStatement, n => Parser.forStatement n
  | patternLeaf, n => Parser.patternLeaf n
  | patternAndRest left, n => Parser.patternAndRest n left
  | patternOrRest left, n => Parser.patternOrRest n left
  | compoundPattern, n => Parser.compoundPattern n
  | pattern, n => Parser.pattern n
  | itemPattern, n => Parser.itemPattern n
  | item, n => Parser.item n
  | parameters before, n => Parser.parameters n before
  | function, n => Parser.function n
  | program before, n => Parser.program n before

/-- Items and programs take numbers for their ranges; nothing inside an item does. -/
def numbers : Construct α → Bool
  | itemPattern | item | program _ => true
  | _ => false

/-- The token that a construct is only read at. -/
def Begins : Construct α → Token → Prop
  | stepBeforeInto .. => (stepBefore? · ≠ none)
  | parenthesizedList => (· = .symbol .lparen)
  | print => (· = .keyword .print)
  | printf => (· = .keyword .printf)
  | delete => (· = .keyword .delete)
  | ifStatement => (· = .keyword .if_)
  | forStatement => (· = .keyword .for_)
  | function => (· = .keyword .function)
  | _ => anyToken

/-- Nothing but the lexemes to come is changed where no numbers are taken. -/
theorem stays (k : Construct α) (n : Nat) (h : k.numbers = false) : Stays (k.parser n) := by
  have hexprs := exprsStay n
  have hstatements := statementsStay n
  cases k with
  | expr => exact hexprs.expr
  | exprList close => exact hexprs.exprList close
  | exprListRest => exact hexprs.exprListRest
  | exprInto e => exact hexprs.exprInto e
  | conditionalInto e => exact hexprs.conditionalInto e
  | orInto e => exact hexprs.orInto e
  | orRest e => exact hexprs.orRest e
  | andInto e => exact hexprs.andInto e
  | andRest e => exact hexprs.andRest e
  | memInto e => exact hexprs.memInto e
  | memRest e => exact hexprs.memRest e
  | matchInto e => exact hexprs.matchInto e
  | matchRest e => exact hexprs.matchRest e
  | comparisonInto e => exact hexprs.comparisonInto e
  | comparisonRest e => exact hexprs.comparisonRest e
  | concatInto e => exact hexprs.concatInto e
  | concatRest start e => exact hexprs.concatRest start e
  | additiveInto e => exact hexprs.additiveInto e
  | additiveRest e => exact hexprs.additiveRest e
  | multiplicativeInto e => exact hexprs.multiplicativeInto e
  | multiplicativeRest e => exact hexprs.multiplicativeRest e
  | unaryInto e => exact hexprs.unaryInto e
  | powerInto e => exact hexprs.powerInto e
  | stepInto e => exact hexprs.stepInto e
  | operandInto e => exact hexprs.operandInto e
  | stepBeforeInto o place e => exact hexprs.stepBeforeInto o place e
  | arguments => exact hexprs.arguments
  | subscript => exact hexprs.subscript
  | target => exact hexprs.target
  | optionalExpr => exact stays_optionalExpr n
  | condition => exact stays_condition n
  | forClause close => exact stays_forClause n close
  | parenthesizedList => exact stays_parenthesizedList n
  | printList => exact stays_printList n
  | printRest => exact stays_printRest n
  | print => exact stays_print n
  | printf => exact stays_printf n
  | delete => exact stays_delete n
  | ended s => exact stays_ended s
  | block kind => exact hstatements.block kind
  | statements => exact hstatements.statements
  | body kind => exact hstatements.body kind
  | statement => exact hstatements.statement
  | ifStatement => exact hstatements.ifStatement
  | forStatement => exact hstatements.forStatement
  | patternLeaf => exact stays_patternLeaf n
  | patternAndRest left => exact stays_patternAndRest n left
  | patternOrRest left => exact stays_patternOrRest n left
  | compoundPattern => exact stays_compoundPattern n
  | pattern => exact stays_pattern n
  | itemPattern => nomatch h
  | item => nomatch h
  | parameters before => exact stays_parameters n before
  | function => exact stays_function n
  | program before => nomatch h

theorem keepsRedirects (k : Construct α) (n : Nat) : KeepsRedirects (k.parser n) := by
  cases hk : k.numbers with
  | false => exact (k.stays n hk).keepsRedirects
  | true =>
    cases k with
    | itemPattern => exact keepsRedirects_itemPattern n
    | item => exact keepsRedirects_item n
    | program before => exact keepsRedirects_program n before
    | _ => nomatch hk

/-- With fuel for the lexemes to come, a construct comes to a result or an error. -/
theorem comes (k : Construct α) (h : 32 * b + 18 ≤ n) : Comes k.Begins b (k.parser n) := by
  have hle := Nat.le_refl n
  have hexprs := carriedExprs moreNewline hle
  have hstatements := carriedStatements moreNewline hle
  cases k with
  | expr => exact (hexprs.expr (by omega)).comes
  | exprList close => exact (hexprs.exprList close (by omega)).comes
  | exprListRest => exact (hexprs.exprListRest (by omega)).comes
  | exprInto e => exact (hexprs.exprInto e (by omega)).comes
  | conditionalInto e => exact (hexprs.conditionalInto e (by omega)).comes
  | orInto e => exact (hexprs.orInto e (by omega)).comes
  | orRest e => exact (hexprs.orRest e (by omega)).comes
  | andInto e => exact (hexprs.andInto e (by omega)).comes
  | andRest e => exact (hexprs.andRest e (by omega)).comes
  | memInto e => exact (hexprs.memInto e (by omega)).comes
  | memRest e => exact (hexprs.memRest e (by omega)).comes
  | matchInto e => exact (hexprs.matchInto e (by omega)).comes
  | matchRest e => exact (hexprs.matchRest e (by omega)).comes
  | comparisonInto e => exact (hexprs.comparisonInto e (by omega)).comes
  | comparisonRest e => exact (hexprs.comparisonRest e (by omega)).comes
  | concatInto e => exact (hexprs.concatInto e (by omega)).comes
  | concatRest start e => exact (hexprs.concatRest start e (by omega)).comes
  | additiveInto e => exact (hexprs.additiveInto e (by omega)).comes
  | additiveRest e => exact (hexprs.additiveRest e (by omega)).comes
  | multiplicativeInto e => exact (hexprs.multiplicativeInto e (by omega)).comes
  | multiplicativeRest e => exact (hexprs.multiplicativeRest e (by omega)).comes
  | unaryInto e => exact (hexprs.unaryInto e (by omega)).comes
  | powerInto e => exact (hexprs.powerInto e (by omega)).comes
  | stepInto e => exact (hexprs.stepInto e (by omega)).comes
  | operandInto e => exact (hexprs.operandInto e (by omega)).comes
  | stepBeforeInto o place e => exact (hexprs.stepBeforeInto o rfl e (by omega)).comes
  | arguments => exact (hexprs.arguments (by omega)).comes
  | subscript => exact (hexprs.subscript (by omega)).comes
  | target => exact (hexprs.target (by omega)).comes
  | optionalExpr => exact (optionalExpr_carried hle (by omega)).comes
  | condition => exact (condition_carried hle (by omega)).comes
  | forClause close => exact (forClause_carried hle close (by omega)).comes
  | parenthesizedList => exact (parenthesizedList_carried hle (by omega)).comes
  | printList => exact (printList_carried hle (by omega)).comes
  | printRest => exact (printRest_carried hle (by omega)).comes
  | print => exact (print_carried hle (by omega)).comes
  | printf => exact (printf_carried hle (by omega)).comes
  | delete => exact (delete_carried hle (by omega)).comes
  | ended s => exact (ended_carried s).comes
  | block kind => exact (hstatements.block kind (by omega)).comes
  | statements => exact (hstatements.statements (by omega)).comes
  | body kind => exact (hstatements.body kind (by omega)).comes
  | statement => exact (hstatements.statement (by omega)).comes
  | ifStatement => exact (hstatements.ifStatement (by omega)).comes
  | forStatement => exact (hstatements.forStatement (by omega)).comes
  | patternLeaf => exact (patternLeaf_carried hle (by omega)).comes
  | patternAndRest left => exact (patternAndRest_carried hle (by omega) left).comes
  | patternOrRest left => exact (patternOrRest_carried hle (by omega) left).comes
  | compoundPattern => exact (compoundPattern_carried hle (by omega)).comes
  | pattern => exact (pattern_carried hle (by omega)).comes
  | itemPattern => exact comes_itemPattern (by omega)
  | item => exact (item_carried hle (by omega)).comes
  | parameters before => exact comes_parameters (by omega) before
  | function => exact (function_carried hle (by omega)).comes
  | program before =>
    exact (program_carried (M := moreNewline) nofun hle (by omega) (turnsProgram_self before)).comes

end Construct

/-- What is tried and given up leaves no trace. However a construct ends, and at whatever depth, `>`
is read as it was before; where it is tried and fails, the parser is just as it was, since nothing
that can be tried takes a number for a range; and it does end. -/
theorem attempt_traceless (k : Construct α) (n : Nat) (c : Cursor) :
    (∀ r c', k.parser n c = some (r, c') → c'.redirects = c.redirects) ∧
    (k.numbers = false → ∀ e c', k.parser n c = some (.error e, c') →
      attempt (k.parser n) c = some (.ok none, c)) ∧
    (Ended c.rest → k.Begins c.token → 32 * c.rest.length + 18 ≤ n →
      ∃ r c', k.parser n c = some (r, c')) := by
  refine ⟨k.keepsRedirects n c, fun hk e c' h => ?_, fun hended hbegins hn => ?_⟩
  · exact (k.stays n hk).attempt_error h
  · exact k.comes hn c hended hbegins (Nat.le_refl _)

/-- A list in parentheses that fails in a group in a subscript, behind a `>`. -/
def unclosed : Cursor where
  rest := [.symbol .lparen, .ident "a", .symbol .lbracket, .symbol .lparen, .ident "b",
    .symbol .greater, .symbol .rbracket, .eof].map (⟨·, ⟨0, 0⟩⟩)
  redirects := true
  ranges := 3

set_option maxRecDepth 3000 in
/-- The failure is found two lexemes before the end; the list and a pattern there are given up. -/
theorem attempt_traceless_unclosed :
    Ended unclosed.rest ∧ unclosed.token = .symbol .lparen ∧
      (∃ r c', parenthesizedList 300 unclosed = some (r, c') ∧ c'.redirects = true) ∧
      (∃ e rest, parenthesizedList 300 unclosed = some (.error e, { unclosed with rest }) ∧
        rest.length = 2) ∧
      attempt (parenthesizedList 300) unclosed = some (.ok none, unclosed) ∧
      attempt (compoundPattern 300) unclosed = some (.ok none, unclosed) := by
  have hended : Ended unclosed.rest := ⟨unclosed.rest.take 7, ⟨.eof, ⟨0, 0⟩⟩, rfl, rfl⟩
  obtain ⟨hredirects, hlist, hcomes⟩ := attempt_traceless .parenthesizedList 300 unclosed
  obtain ⟨-, hpattern, -⟩ := attempt_traceless .compoundPattern 300 unclosed
  obtain ⟨r, c', hr⟩ := hcomes hended rfl (by decide)
  have hread : ∃ e rest, parenthesizedList 300 unclosed = some (.error e, { unclosed with rest }) ∧
      rest.length = 2 := ⟨_, _, rfl, rfl⟩
  obtain ⟨e, rest, hread, hlength⟩ := hread
  exact ⟨hended, rfl, ⟨r, c', hr, hredirects r c' hr⟩, ⟨e, rest, hread, hlength⟩,
    hlist rfl e _ hread, hpattern rfl _ _ rfl⟩

end Awk.Parser
