import Awk.Grammar.Program
import Awk.Proofs.Grammar.Ensures

/-! Parsers that only move through the lexemes. Those of expressions, statements and functions leave
how `>` is read as it was and take no numbers for ranges, whether they succeed, fail, or are tried
and given up. -/

namespace Awk.Parser

variable {α β : Type}

/-- Where `p` comes to, also if it fails, differs from where it starts in the lexemes to come. -/
def Stays (p : Parser α) : Prop := ∀ c r c', p c = some (r, c') → ∃ rest, c' = { c with rest }

namespace Stays

theorem ranges {p : Parser α} (hp : Stays p) {c c' : Cursor} {r : Except SyntaxError α}
    (h : p c = some (r, c')) : c'.ranges = c.ranges := by
  obtain ⟨_, rfl⟩ := hp c r c' h
  rfl

theorem pure (a : α) : Stays (Pure.pure a : Parser α) := by
  rintro c _ _ ⟨⟩
  exact ⟨c.rest, rfl⟩

theorem outOfFuel : Stays (Parser.outOfFuel : Parser α) := fun _ _ _ h => nomatch h

theorem fail (cause : SyntaxCause) (span : Span) : Stays (Parser.fail cause span : Parser α) := by
  rintro c _ _ ⟨⟩
  exact ⟨c.rest, rfl⟩

theorem bind {p : Parser α} {f : α → Parser β} (hp : Stays p) (hf : ∀ a, Stays (f a)) :
    Stays (p >>= f) := by
  intro c r c' h
  rw [bind_apply] at h
  cases hpc : p c with
  | none =>
    rw [hpc] at h
    cases h
  | some s =>
    rw [hpc] at h
    obtain ⟨_ | a, c₁⟩ := s
    · cases h
      exact hp c _ _ hpc
    · obtain ⟨rest, rfl⟩ := hp c _ c₁ hpc
      exact hf a { c with rest } r c' h

/-- Looking at where the parser stands. -/
theorem get_bind {f : Cursor → Parser α} (h : ∀ c, Stays (f c)) : Stays (get >>= f) :=
  fun c r c' hr => h c c r c' hr

theorem look {f : Cursor → α} : Stays (do return f (← get) : Parser α) :=
  .get_bind fun _ => .pure _

theorem ite {b : Prop} [Decidable b] {p q : Parser α} (hp : Stays p) (hq : Stays q) :
    Stays (if b then p else q) := by
  split
  · exact hp
  · exact hq

theorem modify {f : Cursor → Cursor} (hf : ∀ c, ∃ rest, f c = { c with rest }) :
    Stays (modify f : Parser Unit) := by
  rintro c _ _ ⟨⟩
  exact hf c

theorem withRedirects {p : Parser α} (redirects : Bool) (hp : Stays p) :
    Stays (withRedirects redirects p) := by
  intro c r c' h
  unfold Parser.withRedirects at h
  split at h
  · cases h
  · rename_i r c₁ hr
    cases h
    obtain ⟨rest, rfl⟩ := hp { c with redirects } r c₁ hr
    exact ⟨rest, rfl⟩

theorem attempt {p : Parser α} (hp : Stays p) : Stays (attempt p) := by
  intro c r c' h
  unfold Parser.attempt at h
  split at h
  · cases h
  · rename_i a c₁ hr
    cases h
    exact hp c _ _ hr
  · rename_i e c₁ hr
    cases h
    obtain ⟨rest, rfl⟩ := hp c _ c₁ hr
    exact ⟨c.rest, rfl⟩

/-- What is given up leaves the parser where it was. -/
theorem attempt_error {p : Parser α} (hp : Stays p) {c c' : Cursor} {e : SyntaxError}
    (h : p c = some (.error e, c')) : Parser.attempt p c = some (.ok none, c) := by
  obtain ⟨rest, rfl⟩ := hp c _ c' h
  unfold Parser.attempt
  rw [h]

theorem token : Stays Parser.token := look

theorem span : Stays Parser.span := look

theorem peek (n : Nat) : Stays (Parser.peek n) := look

theorem advance : Stays Parser.advance := by
  refine .modify fun c => ?_
  unfold Cursor.advance
  split
  · exact ⟨_, rfl⟩
  · exact ⟨c.rest, rfl⟩

theorem skipNewlines : Stays Parser.skipNewlines := .modify fun _ => ⟨_, rfl⟩

theorem skipTerminators : Stays Parser.skipTerminators := .modify fun _ => ⟨_, rfl⟩

theorem failExpected (what : String) : Stays (Parser.failExpected what : Parser α) :=
  token.bind fun _ => span.bind fun _ => .fail _ _

theorem failUnexpected : Stays (Parser.failUnexpected : Parser α) :=
  token.bind fun _ => span.bind fun _ => .fail _ _

theorem check (t : Token) : Stays (Parser.check t) := token.bind fun _ => .pure _

theorem eat (t : Token) : Stays (Parser.eat t) :=
  (check t).bind fun _ => .ite (advance.bind fun _ => .pure _) (.pure _)

theorem expect (s : Symbol) : Stays (Parser.expect s) :=
  (eat _).bind fun _ => .ite (.pure _) (.failExpected _)

/-- Looking for an `else` behind newlines and semicolons: where there is none, the parser goes back
to where it looked for one. -/
theorem else_ahead {p q : Parser α} (hp : Stays p) (hq : Stays q) :
    Stays (do
      let before ← get
      Parser.skipTerminators
      if ← Parser.eat (.keyword .else_) then p
      else
        set before
        q : Parser α) := by
  intro c r c' h
  rw [elseAhead_apply] at h
  split at h
  · have hmoved : ∃ rest, (c.skip terminates).advance = { c with rest } :=
      (skipTerminators.bind fun _ => advance) c (.ok ()) _ rfl
    obtain ⟨rest, hmoved⟩ := hmoved
    rw [hmoved] at h
    exact hp { c with rest } r c' h
  · exact hq c r c' h

end Stays

/-! Expressions. -/

/-- The functions for expressions only move through the lexemes. -/
structure ExprsStay (n : Nat) : Prop where
  expr : Stays (expr n)
  exprList : ∀ close, Stays (exprList n close)
  exprListRest : Stays (exprListRest n)
  exprInto : ∀ e, Stays (exprInto n e)
  conditionalInto : ∀ e, Stays (conditionalInto n e)
  orInto : ∀ e, Stays (orInto n e)
  orRest : ∀ e, Stays (orRest n e)
  andInto : ∀ e, Stays (andInto n e)
  andRest : ∀ e, Stays (andRest n e)
  memInto : ∀ e, Stays (memInto n e)
  memRest : ∀ e, Stays (memRest n e)
  matchInto : ∀ e, Stays (matchInto n e)
  matchRest : ∀ e, Stays (matchRest n e)
  comparisonInto : ∀ e, Stays (comparisonInto n e)
  comparisonRest : ∀ e, Stays (comparisonRest n e)
  concatInto : ∀ e, Stays (concatInto n e)
  concatRest : ∀ start e, Stays (concatRest n start e)
  additiveInto : ∀ e, Stays (additiveInto n e)
  additiveRest : ∀ e, Stays (additiveRest n e)
  multiplicativeInto : ∀ e, Stays (multiplicativeInto n e)
  multiplicativeRest : ∀ e, Stays (multiplicativeRest n e)
  unaryInto : ∀ e, Stays (unaryInto n e)
  powerInto : ∀ e, Stays (powerInto n e)
  stepInto : ∀ e, Stays (stepInto n e)
  operandInto : ∀ e, Stays (operandInto n e)
  stepBeforeInto : ∀ o place e, Stays (stepBeforeInto n o place e)
  arguments : Stays (arguments n)
  subscript : Stays (subscript n)
  target : Stays (target? n)

namespace ExprsStay

theorem zero : ExprsStay 0 := by
  constructor
  all_goals intros
  all_goals exact .outOfFuel

variable {n : Nat} (ih : ExprsStay n)

/-- A level whose operators group to the left, over a tighter level. -/
theorem rest_succ {look : Parser (Option Operator)} (hlook : Stays look)
    {next rest : Expr → Parser Expr} (hnext : ∀ e, Stays (next e))
    (hrest : ∀ e, Stays (rest e)) (e : Expr) :
    Stays (do
      match ← look with
      | some o =>
        Parser.advance
        rest (← next (e.push (.op o)))
      | none => return e : Parser Expr) := by
  refine hlook.bind fun o => ?_
  cases o with
  | none => exact .pure _
  | some o => exact .bind .advance fun _ => (hnext _).bind hrest

/-- A level whose operands on the right are expressions of their own. -/
theorem lazyRest_succ (t : Token) {next rest : Expr → Parser Expr}
    (hnext : ∀ e, Stays (next e)) (hrest : ∀ e, Stays (rest e)) (o : Operator) (e : Expr) :
    Stays (do
      if ← Parser.eat t then
        Parser.skipNewlines
        rest ((e.push (.op o)).pushLazy (← next []))
      else return e : Parser Expr) :=
  .bind (.eat t) fun _ => .ite
    (.bind .skipNewlines fun _ => (hnext []).bind fun _ => hrest _) (.pure _)

include ih

theorem exprList_succ (close : Symbol) : Stays (Parser.exprList (n + 1) close) :=
  .bind .skipNewlines fun _ => .bind (.check _) fun _ => .ite (.pure _) ih.exprListRest

theorem exprListRest_succ : Stays (Parser.exprListRest (n + 1)) :=
  ih.expr.bind fun _ => .bind (.eat _) fun _ =>
    .ite (.bind .skipNewlines fun _ => ih.exprListRest.bind fun _ => .pure _) (.pure _)

theorem exprInto_succ (e : Expr) : Stays (Parser.exprInto (n + 1) e) := by
  refine (ih.conditionalInto e).bind fun l => .bind .token fun t => ?_
  cases assignment? t with
  | none => exact .pure _
  | some o => exact .bind .advance fun _ => .bind .skipNewlines fun _ => ih.exprInto _

theorem conditionalInto_succ (e : Expr) : Stays (Parser.conditionalInto (n + 1) e) := by
  refine (ih.orInto e).bind fun _ => .bind (.eat _) fun _ => .ite ?_ (.pure _)
  refine .bind .skipNewlines fun _ => ih.expr.bind fun _ => .bind .skipNewlines fun _ => ?_
  refine .bind (.expect _) fun _ => .bind .skipNewlines fun _ => ?_
  exact (ih.conditionalInto []).bind fun _ => .pure _

theorem memRest_succ (e : Expr) : Stays (Parser.memRest (n + 1) e) := by
  refine .bind (.eat _) fun _ => .ite (.bind .token fun t => ?_) (.pure _)
  split
  · exact .bind .advance fun _ => ih.memRest _
  · exact .failExpected _

theorem concatRest_succ (start : Nat) (e : Expr) :
    Stays (Parser.concatRest (n + 1) start e) := by
  refine .bind .token fun _ => .bind (.peek 1) fun _ => .ite ?_ (.bind .token fun _ => .ite ?_ (.pure _))
  · exact .bind .advance fun _ => .bind .advance fun _ => ih.target.bind fun _ => ih.concatRest start _
  · exact (ih.additiveInto e).bind fun _ => ih.concatRest start _

theorem unaryInto_succ (e : Expr) : Stays (Parser.unaryInto (n + 1) e) := by
  refine .bind .token fun t => ?_
  cases sign? t with
  | none => exact ih.powerInto e
  | some o => exact .bind .advance fun _ => ih.unaryInto _

theorem powerInto_succ (e : Expr) : Stays (Parser.powerInto (n + 1) e) :=
  (ih.stepInto e).bind fun _ => .bind (.eat _) fun _ => .ite (ih.unaryInto _) (.pure _)

theorem stepInto_succ (e : Expr) : Stays (Parser.stepInto (n + 1) e) := by
  refine (ih.operandInto e).bind fun r => .bind .token fun t => ?_
  cases stepAfter? t with
  | none => exact .pure _
  | some o => exact .ite (.bind .advance fun _ => .pure _) (.pure _)

theorem operandInto_succ (e : Expr) : Stays (Parser.operandInto (n + 1) e) := by
  refine .bind .span fun place => .bind .token fun t => ?_
  split
  · refine .bind .advance fun _ => .bind .token fun t => ?_
    split
    · exact .bind .advance fun _ => (ih.operandInto _).bind fun _ => .pure _
    · exact (ih.operandInto _).bind fun _ => .pure _
  · exact ih.stepBeforeInto _ _ _
  · exact ih.stepBeforeInto _ _ _
  · exact .bind .advance fun _ => .pure _
  · exact .bind .advance fun _ => .pure _
  · exact .bind .advance fun _ => .pure _
  · refine .bind .advance fun _ => ((ih.exprList .rparen).withRedirects false).bind fun list => ?_
    refine .bind .skipNewlines fun _ => .bind (.expect _) fun _ => ?_
    split
    · exact .fail _ _
    · exact .pure _
    · exact .bind (.check _) fun _ => .ite (.pure _) (.failExpected _)
  · exact .bind .advance fun _ => ih.arguments.bind fun _ => .pure _
  · rename_i name
    refine .bind .advance fun _ => ?_
    cases Builtin.ofName? name with
    | none =>
      exact .bind (.eat _) fun _ => .ite (ih.subscript.bind fun _ => .pure _) (.pure _)
    | some b =>
      refine .bind (.check _) fun _ => .ite (ih.arguments.bind fun _ => .pure _) ?_
      exact .ite (.pure _) (.fail _ _)
  · refine .bind .advance fun _ => ih.target.bind fun _ => .bind (.eat _) fun _ => ?_
    exact .ite ((ih.operandInto []).bind fun _ => .pure _) (.pure _)
  · exact (ih.unaryInto e).bind fun _ => .pure _
  · exact (ih.unaryInto e).bind fun _ => .pure _
  · exact (ih.unaryInto e).bind fun _ => .pure _
  · exact .failUnexpected

theorem stepBeforeInto_succ (o : Operator) (place : Span) (e : Expr) :
    Stays (Parser.stepBeforeInto (n + 1) o place e) :=
  .bind .advance fun _ => (ih.operandInto _).bind fun _ => .ite (.pure _) (.fail _ _)

theorem arguments_succ : Stays (Parser.arguments (n + 1)) :=
  .bind (.expect _) fun _ => ((ih.exprList .rparen).withRedirects false).bind fun _ =>
    .bind .skipNewlines fun _ => .bind (.expect _) fun _ => .pure _

theorem subscript_succ : Stays (Parser.subscript (n + 1)) :=
  ((ih.exprList .rbracket).withRedirects false).bind fun _ => .ite (.failExpected _)
    (.bind .skipNewlines fun _ => .bind (.expect _) fun _ => .pure _)

theorem target_succ : Stays (target? (n + 1)) := by
  refine .bind .token fun t => ?_
  split
  · exact .bind .advance fun _ => (ih.operandInto []).bind fun _ => .pure _
  · refine .ite (.pure _) (.bind .advance fun _ => .bind (.eat _) fun _ => ?_)
    exact .ite (ih.subscript.bind fun _ => .pure _) (.pure _)
  · exact .pure _

theorem succ : ExprsStay (n + 1) where
  expr := ih.exprInto []
  exprList := ih.exprList_succ
  exprListRest := ih.exprListRest_succ
  exprInto := ih.exprInto_succ
  conditionalInto := ih.conditionalInto_succ
  orInto e := (ih.andInto e).bind ih.orRest
  orRest := lazyRest_succ _ ih.andInto ih.orRest .or
  andInto e := (ih.memInto e).bind ih.andRest
  andRest := lazyRest_succ _ ih.memInto ih.andRest .and
  memInto e := (ih.matchInto e).bind ih.memRest
  memRest := ih.memRest_succ
  matchInto e := (ih.comparisonInto e).bind ih.matchRest
  matchRest := rest_succ (.bind .token fun _ => .pure _) ih.comparisonInto ih.matchRest
  comparisonInto e := (ih.concatInto e).bind ih.comparisonRest
  comparisonRest := rest_succ (.get_bind fun _ => .bind .token fun _ => .pure _) ih.concatInto
    ih.comparisonRest
  concatInto e := (ih.additiveInto e).bind (ih.concatRest e.length)
  concatRest := ih.concatRest_succ
  additiveInto e := (ih.multiplicativeInto e).bind ih.additiveRest
  additiveRest := rest_succ (.bind .token fun _ => .pure _) ih.multiplicativeInto ih.additiveRest
  multiplicativeInto e := (ih.unaryInto e).bind ih.multiplicativeRest
  multiplicativeRest := rest_succ (.bind .token fun _ => .pure _) ih.unaryInto ih.multiplicativeRest
  unaryInto := ih.unaryInto_succ
  powerInto := ih.powerInto_succ
  stepInto := ih.stepInto_succ
  operandInto := ih.operandInto_succ
  stepBeforeInto := ih.stepBeforeInto_succ
  arguments := ih.arguments_succ
  subscript := ih.subscript_succ
  target := ih.target_succ

end ExprsStay

theorem exprsStay (n : Nat) : ExprsStay n := by
  induction n with
  | zero => exact .zero
  | succ n ih => exact ih.succ

/-! Statements. -/

theorem stays_optionalExpr (n : Nat) : Stays (optionalExpr n) :=
  .bind .token fun _ => .ite (.pure _) ((exprsStay n).expr.bind fun _ => .pure _)

theorem stays_condition (n : Nat) : Stays (condition n) := by
  refine .bind (.expect _) fun _ => .bind (.withRedirects false ?_) fun _ => ?_
  · refine .bind .skipNewlines fun _ => (exprsStay n).expr.bind fun _ => ?_
    exact .bind .skipNewlines fun _ => .pure _
  · exact .bind (.expect _) fun _ => .pure _

theorem stays_forClause (n : Nat) (close : Symbol) : Stays (forClause n close) :=
  .bind (.check _) fun _ => .ite (.pure _) ((exprsStay n).expr.bind fun _ => .pure _)

theorem stays_parenthesizedList (n : Nat) : Stays (parenthesizedList n) := by
  refine .bind .advance fun _ => ((exprsStay n).exprList _).withRedirects false |>.bind fun _ => ?_
  exact .bind (.expect _) fun _ => .bind .token fun _ => .ite (.pure _) .failUnexpected

theorem stays_printList (n : Nat) : Stays (printList n) := by
  have hlist := (exprsStay n).exprList .semicolon
  refine .bind .token fun _ => .ite (.pure _) (.bind (.check _) fun _ => .ite ?_ hlist)
  refine .bind (stays_parenthesizedList n).attempt fun r => ?_
  cases r with
  | none => exact hlist
  | some es => exact .pure _

theorem stays_printRest (n : Nat) : Stays (printRest n) := by
  refine (stays_printList n).bind fun _ => .bind .token fun t => ?_
  cases redirection? t with
  | none => exact .pure _
  | some kind => exact .bind .advance fun _ => ((exprsStay n).concatInto []).bind fun _ => .pure _

theorem stays_print (n : Nat) : Stays (print n) :=
  .bind .advance fun _ => .bind ((stays_printRest n).withRedirects true) fun _ => .pure _

theorem stays_printf (n : Nat) : Stays (printf n) :=
  .bind .span fun _ => .bind .advance fun _ =>
    .bind ((stays_printRest n).withRedirects true) fun _ => .ite (.fail _ _) (.pure _)

theorem stays_delete (n : Nat) : Stays (delete n) := by
  refine .bind .advance fun _ => .bind .token fun t => ?_
  split
  · refine .bind .advance fun _ => .bind (.eat _) fun _ => .ite ?_ (.pure _)
    exact ((exprsStay n).exprList _).bind fun _ => .bind (.expect _) fun _ => .pure _
  · exact .failExpected _

theorem stays_ended (s : Statement) : Stays (ended s) :=
  .bind .token fun _ => .ite (.pure _) .failUnexpected

/-- The functions for statements only move through the lexemes. -/
structure StatementsStay (n : Nat) : Prop where
  block : ∀ kind, Stays (block n kind)
  statements : Stays (statements n)
  body : ∀ kind, Stays (body n kind)
  statement : Stays (statement n)
  ifStatement : Stays (ifStatement n)
  forStatement : Stays (forStatement n)

namespace StatementsStay

theorem zero : StatementsStay 0 := by
  constructor
  all_goals intros
  all_goals exact .outOfFuel

variable {n : Nat} (ih : StatementsStay n)

include ih

theorem statements_succ : Stays (Parser.statements (n + 1)) := by
  refine .bind .skipTerminators fun _ => .bind (.eat _) fun _ => .ite (.pure _) ?_
  refine .bind (.check _) fun _ => .ite (.failExpected _) ?_
  exact ih.statement.bind fun _ => ih.statements.bind fun _ => .pure _

theorem body_succ (kind : BlockKind) : Stays (Parser.body (n + 1) kind) :=
  .bind .skipNewlines fun _ => .bind (.check _) fun _ => .ite (ih.block kind)
    (.bind (.eat _) fun _ => .ite (.pure _) (ih.statement.bind fun _ => .pure _))

theorem statement_succ : Stays (Parser.statement (n + 1)) := by
  refine .bind .token fun t => ?_
  split
  · exact (ih.block .simple).bind fun _ => .pure _
  · exact ih.ifStatement
  · refine .bind .advance fun _ => (stays_condition n).bind fun _ => ?_
    exact (ih.body .iteration).bind fun _ => .pure _
  · exact ih.forStatement
  · refine .bind .advance fun _ => (ih.body .iteration).bind fun _ => ?_
    refine .bind .skipTerminators fun _ => .bind (.eat _) fun _ => .ite ?_ (.failExpected _)
    exact (stays_condition n).bind fun _ => stays_ended _
  · exact .bind .advance fun _ => stays_ended _
  · exact .bind .advance fun _ => stays_ended _
  · exact .bind .advance fun _ => stays_ended _
  · exact .bind .advance fun _ => (stays_optionalExpr n).bind fun _ => stays_ended _
  · exact .bind .advance fun _ => (stays_optionalExpr n).bind fun _ => stays_ended _
  · exact (stays_delete n).bind stays_ended
  · exact (stays_print n).bind stays_ended
  · exact (stays_printf n).bind stays_ended
  · exact (exprsStay n).expr.bind fun _ => stays_ended _

theorem ifStatement_succ : Stays (Parser.ifStatement (n + 1)) := by
  refine .bind .advance fun _ => (stays_condition n).bind fun _ => ?_
  refine (ih.body .simple).bind fun _ => .else_ahead ?_ (.pure _)
  exact (ih.body .simple).bind fun _ => .pure _

theorem forStatement_succ : Stays (Parser.forStatement (n + 1)) := by
  refine .bind .advance fun _ => .bind (.expect _) fun _ => .get_bind fun c => ?_
  split
  · refine .bind .advance fun _ => .bind .advance fun _ => ?_
    refine .bind .advance fun _ => .bind .advance fun _ => ?_
    exact (ih.body .iteration).bind fun _ => .pure _
  · refine .bind (.withRedirects false ?_) fun _ => .bind (.expect _) fun _ => ?_
    · refine (stays_forClause n _).bind fun _ => .bind (.expect _) fun _ => ?_
      refine .bind .skipNewlines fun _ => (stays_forClause n _).bind fun _ => ?_
      refine .bind (.expect _) fun _ => .bind .skipNewlines fun _ => ?_
      exact (stays_forClause n _).bind fun _ => .pure _
    · exact (ih.body .iteration).bind fun _ => .pure _

theorem succ : StatementsStay (n + 1) where
  block _ := .bind (.expect _) fun _ => ih.statements.bind fun _ => .pure _
  statements := ih.statements_succ
  body := ih.body_succ
  statement := ih.statement_succ
  ifStatement := ih.ifStatement_succ
  forStatement := ih.forStatement_succ

end StatementsStay

theorem statementsStay (n : Nat) : StatementsStay n := by
  induction n with
  | zero => exact .zero
  | succ n ih => exact ih.succ

theorem stays_parameters (n : Nat) (before : List Name) : Stays (parameters n before) := by
  induction n generalizing before with
  | zero => exact .outOfFuel
  | succ n ih =>
    refine .bind .token fun t => ?_
    split
    · refine .ite (.bind .span fun _ => .fail _ _) (.bind .advance fun _ => ?_)
      refine .bind .skipNewlines fun _ => .bind (.eat _) fun _ => .ite ?_ (.pure _)
      exact .bind .skipNewlines fun _ => ih _
    · exact .pure _

theorem stays_function (n : Nat) : Stays (function n) := by
  refine .bind .span fun first => .bind .advance fun _ => .bind .token fun t => ?_
  have hrest (name : Name) : Stays (do
      advance
      expect .lparen
      skipNewlines
      let ps ← parameters n []
      expect .rparen
      skipNewlines
      let b ← block n .routine
      return (⟨name, ps, b, first.merge (← span)⟩ : Function)) := by
    refine .bind .advance fun _ => .bind (.expect _) fun _ => .bind .skipNewlines fun _ => ?_
    refine (stays_parameters n []).bind fun _ => .bind (.expect _) fun _ => ?_
    refine .bind .skipNewlines fun _ => ((statementsStay n).block .routine).bind fun _ => ?_
    exact .bind .span fun _ => .pure _
  split
  · exact .bind (.pure _) hrest
  · exact .bind (.pure _) hrest
  · exact .bind (.failExpected _) hrest

end Awk.Parser
