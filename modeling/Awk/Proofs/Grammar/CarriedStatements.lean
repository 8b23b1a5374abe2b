import Awk.Grammar.Statement
import Awk.Proofs.Grammar.Attempts
import Awk.Proofs.Grammar.CarriedExprs

/-! Every change is carried over by the parsers of statements. -/

namespace Awk.Parser

variable {M : Change} {n m b : Nat}

/-! Statements that have no others inside. -/

theorem optionalExpr_carried (hnm : n ≤ m) (h : 32 * b + 15 ≤ n) :
    M.Carries anyToken b false Eq (optionalExpr n) (optionalExpr m) :=
  .token rfl fun _ _ => .ite (.pure rfl) (((carriedExprs M hnm).expr h).bind fun _ => .pure rfl).on

/-- How `>` is read plays no part in leaving out newlines. -/
theorem withRedirects_skipNewlines {α : Type} (redirects : Bool) (p : Parser α) :
    (withRedirects redirects do
        skipNewlines
        let a ← p
        skipNewlines
        return a) = (do
      skipNewlines
      let a ← withRedirects redirects p
      skipNewlines
      return a) := by
  funext c
  have hskip (c : Cursor) : skipNewlines c = some (.ok (), c.skip (· = .newline)) := rfl
  unfold withRedirects
  simp only [bind_apply, hskip]
  have hmoved : ({ c with redirects } : Cursor).skip (· = .newline) =
      { c.skip (· = .newline) with redirects } := rfl
  rw [hmoved]
  generalize p { c.skip (· = .newline) with redirects } = r
  match r with
  | none => rfl
  | some (.error _, _) => rfl
  | some (.ok _, _) => rfl

theorem condition_carried (hnm : n ≤ m) (h : 32 * b ≤ n) :
    M.Carries anyToken b true Eq (condition n) (condition m) := by
  refine .expect (.plain rfl) fun hb => ?_
  rw [withRedirects_skipNewlines, withRedirects_skipNewlines]
  simp only [bind_assoc, pure_bind]
  refine .skipNewlines ?_
  refine (((carriedExprs M hnm).expr (by omega)).withRedirects false).first fun _ _ => ?_
  exact .skipNewlines (.expect (.plain rfl) fun _ => .pure rfl)

theorem forClause_carried (hnm : n ≤ m) (close : Symbol) (h : 32 * b + 15 ≤ n) :
    M.Carries anyToken b false Eq (forClause n close) (forClause m close) :=
  .check nofun nofun (fun _ => .pure rfl) (((carriedExprs M hnm).expr h).bind fun _ => .pure rfl)

/-- At the end no clause is read. -/
theorem forClause_end (hnm : n ≤ m) (close : Symbol) (h : 32 * b + 15 ≤ n) :
    M.Carries (· = .eof) b true Eq (forClause n close) (forClause m close) :=
  .check nofun nofun nofun (((carriedExprs M hnm).expr h).first fun _ _ => .pure rfl).on

theorem parenthesizedList_carried (hnm : n ≤ m) (h : 32 * b ≤ n) :
    M.Carries (· = .symbol .lparen) b true Eq (parenthesizedList n) (parenthesizedList m) := by
  refine .advance (.plain rfl) fun hb => ?_
  refine (((carriedExprs M hnm).exprList .rparen (by omega)).withRedirects false).bind fun _ => ?_
  exact .expect (.plain rfl) fun _ => .token rfl fun _ _ => .ite (.pure rfl) .failUnexpected

/-- What is to come behind a list in parentheses. -/
def closing (list : List Expr) : Parser (List Expr) := do
  expect .rparen
  if endsPrint (← token) then return list else failUnexpected

theorem parenthesizedList_eq {c c₁ : Cursor} {list : List Expr}
    (h : exprList n .rparen { c.advance with redirects := false } = some (.ok list, c₁)) :
    parenthesizedList n c = closing list { c₁ with redirects := c.advance.redirects } := by
  have hlist : withRedirects false (exprList n .rparen) c.advance =
      some (.ok list, { c₁ with redirects := c.advance.redirects }) := by
    unfold withRedirects
    rw [h]
  exact bind_ok hlist

/-- Where a list is not closed, or more comes behind it, this is seen after the change. -/
theorem closing_fails {c d : Cursor} (hcd : M.Turns c d) {list : List Expr} {e : SyntaxError}
    {c' : Cursor} (h : closing list c = some (.error e, c')) :
    ∃ e' d', closing list d = some (.error e', d') := by
  unfold closing at h ⊢
  rw [expect_bind_apply] at h ⊢
  simp only [hcd.token_eq_iff (t := .symbol .rparen) nofun nofun]
  split at h
  · rename_i hc
    rw [if_pos hc]
    exact (hcd.advance (hc ▸ rfl)).1.unended rfl h
  · rename_i hc
    rw [if_neg hc]
    exact ⟨_, _, rfl⟩

theorem printList_carried (hnm : n ≤ m) (h : 32 * b + 17 ≤ n) :
    M.Carries anyToken b false Eq (printList n) (printList m) := by
  have hlist := (carriedExprs M hnm).exprList .semicolon h
  refine .token rfl fun t _ => .ite (.pure rfl) (.check nofun nofun (fun _ => ?_) hlist.on)
  refine .attempt (stays_parenthesizedList n) (stays_parenthesizedList m)
    ((parenthesizedList_carried hnm (by omega)).weaken) (fun a a' ha => ?_) hlist.on ?_
  · exact ha ▸ .pure rfl
  · rintro - c d hcd hc hb ⟨e, c', hleft⟩ ⟨list, _, hlist⟩
    obtain ⟨inner, c₁, hinner⟩ := exprList_parenthesized (by nofun) hc hlist
    obtain ⟨turns, lt⟩ := hcd.advance (by rw [hc]; rfl)
    have hinside : M.Turns { c.advance with redirects := false } { d.advance with redirects := false } :=
      ⟨turns.lexemes, rfl, turns.ranges⟩
    obtain ⟨_, d₁, hinner', rfl, turns₁, -⟩ := ((carriedExprs M hnm).exprList .rparen h).of_ok
      hinside trivial (Nat.le_trans (Nat.le_of_lt lt) hb) hinner
    have hback : M.Turns { c₁ with redirects := c.advance.redirects }
        { d₁ with redirects := d.advance.redirects } :=
      ⟨turns₁.lexemes, turns.redirects, turns₁.ranges⟩
    rw [parenthesizedList_eq hinner] at hleft
    rw [parenthesizedList_eq hinner']
    exact closing_fails hback hleft

theorem printRest_carried (hnm : n ≤ m) (h : 32 * b + 17 ≤ n) :
    M.Carries anyToken b false Eq (printRest n) (printRest m) := by
  refine (printList_carried hnm h).bind fun _ => .token rfl fun t _ => ?_
  cases ht : redirection? t with
  | none => exact .pure rfl
  | some kind =>
    refine .advance (.plain (Token.plain_of_some (by decide) ht)) fun _ => ?_
    exact ((carriedExprs M hnm).concatInto [] (by omega)).bind fun _ => .pure rfl

theorem print_carried (hnm : n ≤ m) (h : 32 * b ≤ n) :
    M.Carries (· = .keyword .print) b true Eq (print n) (print m) :=
  .advance (.plain rfl) fun _ =>
    ((printRest_carried hnm (by omega)).withRedirects true).bind fun _ => .pure rfl

theorem printf_carried (hnm : n ≤ m) (h : 32 * b ≤ n) :
    M.Carries (· = .keyword .printf) b true Eq (printf n) (printf m) :=
  .span fun _ _ hplace => .advance (.plain rfl) fun _ =>
    ((printRest_carried hnm (by omega)).withRedirects true).bind fun _ =>
      .ite (.fail hplace) (.pure rfl)

theorem delete_carried (hnm : n ≤ m) (h : 32 * b ≤ n) :
    M.Carries (· = .keyword .delete) b true Eq (delete n) (delete m) := by
  refine .advance (.plain rfl) fun _ => .token rfl fun t _ => ?_
  split
  · refine .advance (.plain rfl) fun _ => .eat nofun (.plain rfl) (fun _ => ?_) (.pure rfl)
    refine ((carriedExprs M hnm).exprList _ (by omega)).bind fun _ => ?_
    exact .expect (.plain rfl) fun _ => .pure rfl
  · exact .failExpected

theorem ended_carried (s : Statement) : M.Carries anyToken b false Eq (ended s) (ended s) :=
  .token rfl fun _ _ => .ite (.pure rfl) .failUnexpected

/-! Statements with others inside. -/

theorem keyLoop?_eq_some {c : Cursor} {name array : Name} :
    keyLoop? c = some (name, array) ↔ c.peek 0 = .ident name ∧ c.peek 1 = .keyword .in_ ∧
      c.peek 2 = .ident array ∧ c.peek 3 = .symbol .rparen := by
  unfold keyLoop?
  split
  · rename_i h₀ h₁ h₂ h₃
    rw [h₀, h₁, h₂, h₃]
    simp
  · rename_i hother
    refine ⟨nofun, fun ⟨h₀, h₁, h₂, h₃⟩ => absurd h₃ ?_⟩
    exact hother _ _ h₀ h₁ h₂

theorem Change.Turns.keyLoop? {c d : Cursor} (hcd : M.Turns c d) : keyLoop? d = keyLoop? c := by
  refine Option.ext fun ⟨name, array⟩ => ?_
  rw [keyLoop?_eq_some, keyLoop?_eq_some]
  have hfirst : d.peek 0 = .ident name ↔ c.peek 0 = .ident name :=
    hcd.peek_eq_iff (k := 0) nofun nofun nofun
  refine (and_congr_left' hfirst).trans (and_congr_right fun h₀ => ?_)
  have hplain₁ := plain_lt_succ (k := 0) nofun h₀ rfl
  have hsecond : d.peek 1 = .keyword .in_ ↔ c.peek 1 = .keyword .in_ :=
    hcd.peek_eq_iff hplain₁ nofun nofun
  refine (and_congr_left' hsecond).trans (and_congr_right fun h₁ => ?_)
  have hplain₂ := plain_lt_succ hplain₁ h₁ rfl
  have hthird : d.peek 2 = .ident array ↔ c.peek 2 = .ident array :=
    hcd.peek_eq_iff hplain₂ nofun nofun
  refine (and_congr_left' hthird).trans (and_congr_right fun h₂ => ?_)
  exact hcd.peek_eq_iff (plain_lt_succ hplain₂ h₂ rfl) nofun nofun

/-- Looking for the start of a loop over keys. -/
theorem keyLoop_ahead {T : Token → Prop} {strict : Bool} {α β : Type} {R : α → β → Prop}
    {p : Name → Name → Parser α} {q : Name → Name → Parser β} {p' : Parser α} {q' : Parser β}
    (hyes : 0 < b → ∀ name array, M.Carries anyToken (b - 1) false R (p name array) (q name array))
    (hno : M.Carries T b strict R p' q') :
    M.Carries T b strict R
      (do
        match keyLoop? (← get) with
        | some (name, array) =>
          advance
          advance
          advance
          advance
          p name array
        | none => p')
      (do
        match keyLoop? (← get) with
        | some (name, array) =>
          advance
          advance
          advance
          advance
          q name array
        | none => q') := by
  intro c d hcd hT hb
  show M.Outcome _ _ _
    ((match keyLoop? c with
      | some (name, array) => do
        advance
        advance
        advance
        advance
        p name array
      | none => p' : Parser α) c)
    ((match keyLoop? d with
      | some (name, array) => do
        advance
        advance
        advance
        advance
        q name array
      | none => q' : Parser β) d)
  rw [hcd.keyLoop?]
  cases hloop : Parser.keyLoop? c with
  | none => exact hno c d hcd hT hb
  | some loop =>
    obtain ⟨name, array⟩ := loop
    obtain ⟨h₀, h₁, h₂, h₃⟩ := keyLoop?_eq_some.mp hloop
    have hplain : ∀ i < 4, (c.peek i).plain = true :=
      plain_lt_succ (plain_lt_succ (plain_lt_succ (plain_lt_succ (k := 0) nofun h₀ rfl) h₁ rfl) h₂ rfl) h₃ rfl
    exact hcd.past_ahead (k := 4) (by decide) hplain hb fun hb => hyes hb name array

theorem body_skips (n : Nat) (kind : BlockKind) : Skips (body n kind) := by
  cases n with
  | zero => exact .outOfFuel
  | succ n => exact .newlines _

theorem statements_skips (n : Nat) : Skips (statements n) := by
  cases n with
  | zero => exact .outOfFuel
  | succ n => exact .terminators _

/-- The parsers of statements with fuel `n` come to a result or an error, and every change is
carried over to those with fuel `m`. -/
structure CarriedStatements (M : Change) (n m : Nat) : Prop where
  block {b : Nat} (kind : BlockKind) (h : 32 * b + 1 ≤ n) :
    M.Carries anyToken b true Eq (block n kind) (block m kind)
  statements {b : Nat} (h : 32 * b + 17 ≤ n) :
    M.Carries anyToken b true Eq (statements n) (statements m)
  body {b : Nat} (kind : BlockKind) (h : 32 * b + 17 ≤ n) :
    M.Carries anyToken b true Eq (body n kind) (body m kind)
  statement {b : Nat} (h : 32 * b + 16 ≤ n) :
    M.Carries anyToken b true Eq (statement n) (statement m)
  ifStatement {b : Nat} (h : 32 * b + 1 ≤ n) :
    M.Carries (· = .keyword .if_) b true Eq (ifStatement n) (ifStatement m)
  forStatement {b : Nat} (h : 32 * b + 1 ≤ n) :
    M.Carries (· = .keyword .for_) b true Eq (forStatement n) (forStatement m)

namespace CarriedStatements

theorem zero (m : Nat) : CarriedStatements M 0 m := by
  constructor
  all_goals
    intros
    omega

variable (hnm : n ≤ m) (ih : CarriedStatements M n m)

include ih

theorem statements_succ (h : 32 * b + 17 ≤ n + 1) :
    M.Carries anyToken b true Eq (Parser.statements (n + 1)) (Parser.statements (m + 1)) := by
  refine .skipTerminators (.eat nofun (.plain rfl) (fun _ => .pure rfl) (.end_fails ?_))
  refine (ih.statement (by omega)).first fun _ _ => ?_
  exact (ih.statements (by omega)).bind fun _ => .pure rfl

theorem body_succ (kind : BlockKind) (h : 32 * b + 17 ≤ n + 1) :
    M.Carries anyToken b true Eq (Parser.body (n + 1) kind) (Parser.body (m + 1) kind) := by
  refine .skipNewlines (.check nofun nofun (fun _ => (ih.block kind (by omega)).on) ?_)
  refine .eat nofun (.plain rfl) (fun _ => .pure rfl) ?_
  exact (ih.statement (by omega)).first fun _ _ => .pure rfl

include hnm

theorem statement_succ (h : 32 * b + 16 ≤ n + 1) :
    M.Carries anyToken b true Eq (Parser.statement (n + 1)) (Parser.statement (m + 1)) := by
  refine .token rfl fun t _ => ?_
  split
  · exact .first (ih.block .simple (by omega)).on fun _ _ => .pure rfl
  · exact ih.ifStatement (by omega)
  · refine .advance (.plain rfl) fun _ => (condition_carried hnm (by omega)).bind fun _ => ?_
    exact (ih.body .iteration (by omega)).bind fun _ => .pure rfl
  · exact ih.forStatement (by omega)
  · have hskips (n : Nat) := (body_skips n .iteration).bind (α := Statement)
    refine .advance (.opens rfl (hskips n _) (hskips m _)) fun _ => ?_
    refine (ih.body .iteration (by omega)).bind fun _ => .skipTerminators ?_
    refine .eat nofun (.plain rfl) (fun _ => ?_) .failExpected
    exact (condition_carried hnm (by omega)).bind fun _ => ended_carried _
  · exact .advance (.plain rfl) fun _ => ended_carried _
  · exact .advance (.plain rfl) fun _ => ended_carried _
  · exact .advance (.plain rfl) fun _ => ended_carried _
  · refine .advance (.plain rfl) fun _ => ?_
    exact (optionalExpr_carried hnm (by omega)).bind fun _ => ended_carried _
  · refine .advance (.plain rfl) fun _ => ?_
    exact (optionalExpr_carried hnm (by omega)).bind fun _ => ended_carried _
  · exact (delete_carried hnm (by omega)).first fun _ _ => ended_carried _
  · exact (print_carried hnm (by omega)).first fun _ _ => ended_carried _
  · exact (printf_carried hnm (by omega)).first fun _ _ => ended_carried _
  · exact .first ((carriedExprs M hnm).expr (by omega)).on fun _ _ => ended_carried _

theorem ifStatement_succ (h : 32 * b + 1 ≤ n + 1) :
    M.Carries (· = .keyword .if_) b true Eq (Parser.ifStatement (n + 1))
      (Parser.ifStatement (m + 1)) := by
  refine .advance (.plain rfl) fun _ => (condition_carried hnm (by omega)).bind fun _ => ?_
  refine (ih.body .simple (by omega)).bind fun _ => ?_
  have hskips (n : Nat) := (body_skips n .simple).bind (α := Statement)
  refine .elseAhead (hskips n _) (hskips m _) (fun _ => ?_) (.pure rfl)
  exact (ih.body .simple (by omega)).bind fun _ => .pure rfl

theorem forStatement_succ (h : 32 * b + 1 ≤ n + 1) :
    M.Carries (· = .keyword .for_) b true Eq (Parser.forStatement (n + 1))
      (Parser.forStatement (m + 1)) := by
  refine .advance (.plain rfl) fun _ => .expect (.plain rfl) fun _ => keyLoop_ahead ?_ ?_
  · exact fun _ _ _ => (ih.body .iteration (by omega)).bind fun _ => .pure rfl
  · have hclauses : M.Carries anyToken (b - 1 - 1) false Eq
        (do
          let start ← forClause n .semicolon
          expect .semicolon
          skipNewlines
          let test ← forClause n .semicolon
          expect .semicolon
          skipNewlines
          return (start, test, ← forClause n .rparen))
        (do
          let start ← forClause m .semicolon
          expect .semicolon
          skipNewlines
          let test ← forClause m .semicolon
          expect .semicolon
          skipNewlines
          return (start, test, ← forClause m .rparen)) := by
      refine (forClause_carried hnm _ (by omega)).bind fun _ => .expect (.plain rfl) fun _ => ?_
      refine .skipNewlines ((forClause_carried hnm _ (by omega)).bind fun _ => ?_)
      refine .expect (.plain rfl) fun _ => .skipNewlines_of_end ?_ ?_
      · exact (forClause_end hnm _ (by omega)).first fun _ _ => .pure rfl
      · exact (forClause_carried hnm _ (by omega)).bind fun _ => .pure rfl
    refine (hclauses.withRedirects false).bind fun _ => .expect (.plain rfl) fun _ => ?_
    exact (ih.body .iteration (by omega)).bind fun _ => .pure rfl

theorem succ : CarriedStatements M (n + 1) (m + 1) where
  block kind h := .expect (.opens rfl ((statements_skips n).bind _) ((statements_skips m).bind _))
    fun _ => (ih.statements (by omega)).bind fun _ => .pure rfl
  statements := ih.statements_succ
  body := ih.body_succ
  statement := ih.statement_succ hnm
  ifStatement := ih.ifStatement_succ hnm
  forStatement := ih.forStatement_succ hnm

end CarriedStatements

theorem carriedStatements (M : Change) {n m : Nat} (h : n ≤ m) : CarriedStatements M n m := by
  induction n generalizing m with
  | zero => exact .zero m
  | succ n ih =>
    obtain ⟨m, rfl⟩ := Nat.exists_eq_add_of_lt h
    exact (ih (Nat.le_add_right n m)).succ (Nat.le_add_right n m)

end Awk.Parser
