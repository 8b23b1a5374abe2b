import Awk.Grammar.Expr
import Awk.Proofs.Grammar.Change

/-! Every change is carried over by the parsers of expressions. -/

namespace Awk.Parser

variable {M : Change}

/-- The parsers of expressions with fuel `n` come to a result or an error, and every change is
carried over to those with fuel `m`. Each level of the grammar needs a unit more than the one below
it, and each lexeme that is taken leaves 32 units. -/
structure CarriedExprs (M : Change) (n m : Nat) : Prop where
  expr {b : Nat} (h : 32 * b + 15 ≤ n) : M.Carries anyToken b true Eq (expr n) (expr m)
  exprList {b : Nat} (close : Symbol) (h : 32 * b + 17 ≤ n) :
    M.Carries anyToken b false Eq (exprList n close) (exprList m close)
  exprListRest {b : Nat} (h : 32 * b + 16 ≤ n) :
    M.Carries anyToken b true Eq (exprListRest n) (exprListRest m)
  exprInto {b : Nat} (e : Expr) (h : 32 * b + 14 ≤ n) :
    M.Carries anyToken b true Eq (exprInto n e) (exprInto m e)
  conditionalInto {b : Nat} (e : Expr) (h : 32 * b + 13 ≤ n) :
    M.Carries anyToken b true Eq (conditionalInto n e) (conditionalInto m e)
  orInto {b : Nat} (e : Expr) (h : 32 * b + 12 ≤ n) :
    M.Carries anyToken b true Eq (orInto n e) (orInto m e)
  orRest {b : Nat} (e : Expr) (h : 32 * b + 1 ≤ n) :
    M.Carries anyToken b false Eq (orRest n e) (orRest m e)
  andInto {b : Nat} (e : Expr) (h : 32 * b + 11 ≤ n) :
    M.Carries anyToken b true Eq (andInto n e) (andInto m e)
  andRest {b : Nat} (e : Expr) (h : 32 * b + 1 ≤ n) :
    M.Carries anyToken b false Eq (andRest n e) (andRest m e)
  memInto {b : Nat} (e : Expr) (h : 32 * b + 10 ≤ n) :
    M.Carries anyToken b true Eq (memInto n e) (memInto m e)
  memRest {b : Nat} (e : Expr) (h : 32 * b + 1 ≤ n) :
    M.Carries anyToken b false Eq (memRest n e) (memRest m e)
  matchInto {b : Nat} (e : Expr) (h : 32 * b + 9 ≤ n) :
    M.Carries anyToken b true Eq (matchInto n e) (matchInto m e)
  matchRest {b : Nat} (e : Expr) (h : 32 * b + 1 ≤ n) :
    M.Carries anyToken b false Eq (matchRest n e) (matchRest m e)
  comparisonInto {b : Nat} (e : Expr) (h : 32 * b + 8 ≤ n) :
    M.Carries anyToken b true Eq (comparisonInto n e) (comparisonInto m e)
  comparisonRest {b : Nat} (e : Expr) (h : 32 * b + 1 ≤ n) :
    M.Carries anyToken b false Eq (comparisonRest n e) (comparisonRest m e)
  concatInto {b : Nat} (e : Expr) (h : 32 * b + 7 ≤ n) :
    M.Carries anyToken b true Eq (concatInto n e) (concatInto m e)
  concatRest {b : Nat} (start : Nat) (e : Expr) (h : 32 * b + 7 ≤ n) :
    M.Carries anyToken b false Eq (concatRest n start e) (concatRest m start e)
  additiveInto {b : Nat} (e : Expr) (h : 32 * b + 6 ≤ n) :
    M.Carries anyToken b true Eq (additiveInto n e) (additiveInto m e)
  additiveRest {b : Nat} (e : Expr) (h : 32 * b + 1 ≤ n) :
    M.Carries anyToken b false Eq (additiveRest n e) (additiveRest m e)
  multiplicativeInto {b : Nat} (e : Expr) (h : 32 * b + 5 ≤ n) :
    M.Carries anyToken b true Eq (multiplicativeInto n e) (multiplicativeInto m e)
  multiplicativeRest {b : Nat} (e : Expr) (h : 32 * b + 1 ≤ n) :
    M.Carries anyToken b false Eq (multiplicativeRest n e) (multiplicativeRest m e)
  unaryInto {b : Nat} (e : Expr) (h : 32 * b + 4 ≤ n) :
    M.Carries anyToken b true Eq (unaryInto n e) (unaryInto m e)
  /-- A sign is taken at once. -/
  signed {b : Nat} (e : Expr) (h : 32 * b ≤ n) :
    M.Carries (sign? · ≠ none) b true Eq (Parser.unaryInto n e) (Parser.unaryInto m e)
  powerInto {b : Nat} (e : Expr) (h : 32 * b + 3 ≤ n) :
    M.Carries anyToken b true Eq (powerInto n e) (powerInto m e)
  stepInto {b : Nat} (e : Expr) (h : 32 * b + 2 ≤ n) :
    M.Carries anyToken b true Eq (stepInto n e) (stepInto m e)
  operandInto {b : Nat} (e : Expr) (h : 32 * b + 1 ≤ n) :
    M.Carries anyToken b true Eq (operandInto n e) (operandInto m e)
  stepBeforeInto {b : Nat} (o : Operator) {x y : Span} (hplace : M.Place x y) (e : Expr)
    (h : 32 * b ≤ n) :
    M.Carries (stepBefore? · ≠ none) b true Eq (stepBeforeInto n o x e) (stepBeforeInto m o y e)
  arguments {b : Nat} (h : 32 * b + 1 ≤ n) :
    M.Carries anyToken b true Eq (arguments n) (arguments m)
  subscript {b : Nat} (h : 32 * b + 18 ≤ n) :
    M.Carries anyToken b true Eq (subscript n) (subscript m)
  target {b : Nat} (h : 32 * b + 1 ≤ n) :
    M.Carries anyToken b false Eq (target? n) (target? m)

namespace CarriedExprs

theorem zero (m : Nat) : CarriedExprs M 0 m := by
  constructor
  case signed | stepBeforeInto =>
    intro b
    intros
    obtain rfl : b = 0 := by omega
    exact .nothing
  all_goals
    intros
    omega

variable {n m b : Nat} (ih : CarriedExprs M n m)

include ih

omit ih in
/-- A level whose operators group to the left, over a tighter level. -/
theorem rest_succ {look : Parser (Option Operator)} (hlook : M.Looks look)
    {next rest next' rest' : Expr → Parser Expr}
    (hnext : ∀ e, 0 < b → M.Carries anyToken (b - 1) true Eq (next e) (next' e))
    (hrest : ∀ e, 0 < b → M.Carries anyToken (b - 1) false Eq (rest e) (rest' e)) (e : Expr) :
    M.Carries anyToken b false Eq
      (do
        match ← look with
        | some o =>
          advance
          rest (← next (e.push (.op o)))
        | none => return e)
      (do
        match ← look with
        | some o =>
          advance
          rest' (← next' (e.push (.op o)))
        | none => return e) := by
  refine .look hlook fun o => ?_
  cases o with
  | none => exact .pure rfl
  | some o =>
    refine .advance_of (fun t ht => .plain (ht.2 nofun)) fun hb => ?_
    exact (hnext _ hb).bind fun e => hrest e hb

omit ih in
/-- A level whose operands on the right are expressions of their own. -/
theorem lazyRest_succ {t : Symbol} (ht : Token.opens (.symbol t) = true)
    {next rest next' rest' : Expr → Parser Expr}
    (hnext : 0 < b → M.Carries anyToken (b - 1) true Eq (next []) (next' []))
    (hrest : ∀ e, 0 < b → M.Carries anyToken (b - 1) false Eq (rest e) (rest' e)) (o : Operator)
    (e : Expr) :
    M.Carries anyToken b false Eq
      (do
        if ← eat (.symbol t) then
          skipNewlines
          rest ((e.push (.op o)).pushLazy (← next []))
        else return e)
      (do
        if ← eat (.symbol t) then
          skipNewlines
          rest' ((e.push (.op o)).pushLazy (← next' []))
        else return e) :=
  .eat nofun (.opens ht (.newlines _) (.newlines _))
    (fun hb => .skipNewlines ((hnext hb).first fun _ _ => (hrest _ hb).mono (Nat.sub_le _ _)))
    (.pure rfl)

theorem exprListRest_succ (h : 32 * b + 16 ≤ n + 1) :
    M.Carries anyToken b true Eq (Parser.exprListRest (n + 1)) (Parser.exprListRest (m + 1)) :=
  (ih.expr (by omega)).first fun hb _ => .eat nofun (.opens rfl (.newlines _) (.newlines _))
    (fun _ => .skipNewlines ((ih.exprListRest (by omega)).first fun _ _ => .pure rfl)) (.pure rfl)

theorem exprList_succ (close : Symbol) (h : 32 * b + 17 ≤ n + 1) :
    M.Carries anyToken b false Eq (Parser.exprList (n + 1) close)
      (Parser.exprList (m + 1) close) := by
  have hrest := ih.exprListRest (b := b) (by omega)
  refine .skipNewlines_of_end ?_ ?_
  · exact .check nofun nofun nofun hrest.on
  · exact .check nofun nofun (fun _ => .pure rfl) hrest.weaken

theorem exprInto_succ (e : Expr) (h : 32 * b + 14 ≤ n + 1) :
    M.Carries anyToken b true Eq (Parser.exprInto (n + 1) e) (Parser.exprInto (m + 1) e) := by
  refine (ih.conditionalInto e (by omega)).first fun hb l => ?_
  refine .token rfl fun t _ => ?_
  cases ht : assignment? t with
  | none => exact .pure rfl
  | some o =>
    refine .advance (.plain (Token.plain_of_some (by decide) ht)) fun _ => ?_
    exact .skipNewlines (ih.exprInto _ (by omega))

theorem conditionalInto_succ (e : Expr) (h : 32 * b + 13 ≤ n + 1) :
    M.Carries anyToken b true Eq (Parser.conditionalInto (n + 1) e)
      (Parser.conditionalInto (m + 1) e) := by
  refine (ih.orInto e (by omega)).first fun hb l => .eat nofun (.plain rfl) (fun _ => ?_) (.pure rfl)
  refine .skipNewlines ((ih.expr (by omega)).first fun _ yes => .skipNewlines ?_)
  refine .expect (.plain rfl) fun _ => .skipNewlines ?_
  exact (ih.conditionalInto [] (by omega)).first fun _ _ => .pure rfl

theorem memRest_succ (e : Expr) (h : 32 * b + 1 ≤ n + 1) :
    M.Carries anyToken b false Eq (Parser.memRest (n + 1) e) (Parser.memRest (m + 1) e) := by
  refine .eat nofun (.plain rfl) (fun hb => .token rfl fun t _ => ?_) (.pure rfl)
  split
  · exact .advance (.plain rfl) fun _ => (ih.memRest _ (by omega))
  · exact .failExpected

omit ih in
/-- Looking for a `| getline`. -/
theorem getline_ahead {T : Token → Prop} {strict : Bool} {p q p' q' : Parser Expr}
    (hyes : 0 < b → M.Carries anyToken (b - 1) false Eq p q) (hno : M.Carries T b strict Eq p' q') :
    M.Carries T b strict Eq
      (do
        if (← token) = .symbol .pipe && (← peek 1) = .keyword .getline then
          advance
          advance
          p
        else p')
      (do
        if (← token) = .symbol .pipe && (← peek 1) = .keyword .getline then
          advance
          advance
          q
        else q') := by
  intro c d hcd hT hb
  have hsame : (decide (d.token = .symbol .pipe) && decide (d.peek 1 = .keyword .getline)) =
      (decide (c.token = .symbol .pipe) && decide (c.peek 1 = .keyword .getline)) := by
    rw [Bool.eq_iff_iff]
    simp only [Bool.and_eq_true, decide_eq_true_eq,
      hcd.token_eq_iff (t := .symbol .pipe) nofun nofun]
    exact and_congr_right fun hc => hcd.peek_eq_iff (plain_lt_succ (k := 0) nofun hc rfl) nofun nofun
  show M.Outcome _ _ _
    ((if decide (c.token = .symbol .pipe) && decide (c.peek 1 = .keyword .getline) then do
        advance
        advance
        p
      else p' : Parser Expr) c)
    ((if decide (d.token = .symbol .pipe) && decide (d.peek 1 = .keyword .getline) then do
        advance
        advance
        q
      else q' : Parser Expr) d)
  rw [hsame]
  split
  · rename_i hc
    simp only [Bool.and_eq_true, decide_eq_true_eq] at hc
    have hplain : ∀ i < 2, (c.peek i).plain = true :=
      plain_lt_succ (plain_lt_succ (k := 0) nofun hc.1 rfl) hc.2 rfl
    exact hcd.past_ahead (k := 2) (by decide) hplain hb hyes
  · exact hno c d hcd hT hb

theorem concatRest_succ (start : Nat) (e : Expr) (h : 32 * b + 7 ≤ n + 1) :
    M.Carries anyToken b false Eq (Parser.concatRest (n + 1) start e)
      (Parser.concatRest (m + 1) start e) := by
  refine getline_ahead (fun _ => ?_) (.token rfl fun t _ => .ite ?_ (.pure rfl))
  · exact (ih.target (by omega)).bind fun _ => ih.concatRest start _ (by omega)
  · exact ((ih.additiveInto e (by omega)).first fun _ _ => ih.concatRest start _ (by omega)).on

theorem unaryInto_succ (e : Expr) (h : 32 * b + 4 ≤ n + 1) :
    M.Carries anyToken b true Eq (Parser.unaryInto (n + 1) e) (Parser.unaryInto (m + 1) e) := by
  refine .token rfl fun t _ => ?_
  cases ht : sign? t with
  | none => exact (ih.powerInto e (by omega)).on
  | some o =>
    refine .advance (.plain (Token.plain_of_some (by decide) ht)) fun _ => ?_
    exact (ih.unaryInto _ (by omega)).weaken

theorem powerInto_succ (e : Expr) (h : 32 * b + 3 ≤ n + 1) :
    M.Carries anyToken b true Eq (Parser.powerInto (n + 1) e) (Parser.powerInto (m + 1) e) := by
  refine (ih.stepInto e (by omega)).first fun hb l => .eat nofun (.plain rfl) (fun _ => ?_) (.pure rfl)
  exact (ih.unaryInto _ (by omega)).weaken

theorem stepInto_succ (e : Expr) (h : 32 * b + 2 ≤ n + 1) :
    M.Carries anyToken b true Eq (Parser.stepInto (n + 1) e) (Parser.stepInto (m + 1) e) := by
  refine (ih.operandInto e (by omega)).first fun hb r => .token rfl fun t _ => ?_
  cases ht : stepAfter? t with
  | none => exact .pure rfl
  | some o =>
    have hplain : t.plain = true := Token.plain_of_some (by decide) ht
    exact .ite (.advance (.plain hplain) fun _ => .pure rfl) (.pure rfl)

theorem operandInto_succ (e : Expr) (h : 32 * b + 1 ≤ n + 1) :
    M.Carries anyToken b true Eq (Parser.operandInto (n + 1) e)
      (Parser.operandInto (m + 1) e) := by
  refine .span fun x y hplace => .token rfl fun t _ => ?_
  split
  · refine .advance (.plain rfl) fun hb => .token rfl fun t _ => ?_
    cases ht : (stepBefore? t).or (sign? t) with
    | none => exact ((ih.operandInto _ (by omega)).bind fun _ => .pure rfl).on
    | some o =>
      have hplain : t.plain = true := Token.plain_of_some
        (f := fun t => (stepBefore? t).or (sign? t)) (by decide) ht
      refine .advance (.plain hplain) fun _ => ?_
      exact (ih.operandInto _ (by omega)).bind fun _ => .pure rfl
  · exact (ih.stepBeforeInto _ hplace _ (by omega)).of_token nofun
  · exact (ih.stepBeforeInto _ hplace _ (by omega)).of_token nofun
  · exact .advance (.plain rfl) fun _ => .pure rfl
  · exact .advance (.plain rfl) fun _ => .pure rfl
  · exact .advance (.plain rfl) fun _ => .pure rfl
  · refine .advance (.plain rfl) fun _ => ?_
    refine ((ih.exprList .rparen (by omega)).withRedirects false).bind fun list => ?_
    refine .skipNewlines (.expect (.plain rfl) fun _ => ?_)
    split
    · exact .fail hplace
    · exact .pure rfl
    · exact .check nofun nofun (fun _ => .pure rfl) .failExpected
  · refine .advance (.plain rfl) fun _ => ?_
    exact (ih.arguments (by omega)).bind fun _ => .pure rfl
  · rename_i name _
    refine .advance (.plain rfl) fun _ => ?_
    cases Builtin.ofName? name with
    | none =>
      refine .eat nofun (.plain rfl) (fun _ => ?_) (.pure rfl)
      exact (ih.subscript (by omega)).bind fun _ => .pure rfl
    | some b =>
      refine .check nofun nofun (fun _ => ?_) (.ite (.pure rfl) (.fail hplace))
      exact ((ih.arguments (by omega)).bind fun _ => .pure rfl).on
  · refine .advance (.plain rfl) fun _ => (ih.target (by omega)).bind fun _ => ?_
    refine .eat nofun (.plain rfl) (fun _ => ?_) (.pure rfl)
    exact (ih.operandInto [] (by omega)).bind fun _ => .pure rfl
  · exact .first ((ih.signed e (by omega)).of_token nofun) fun _ _ => .pure rfl
  · exact .first ((ih.signed e (by omega)).of_token nofun) fun _ _ => .pure rfl
  · exact .first ((ih.signed e (by omega)).of_token nofun) fun _ _ => .pure rfl
  · exact .failUnexpected

theorem signed_succ (e : Expr) (h : 32 * b ≤ n + 1) :
    M.Carries (sign? · ≠ none) b true Eq (Parser.unaryInto (n + 1) e)
      (Parser.unaryInto (m + 1) e) := by
  refine .token rfl fun t hsign => ?_
  cases ht : sign? t with
  | none => exact absurd ht hsign
  | some o =>
    refine .advance (.plain (Token.plain_of_some (by decide) ht)) fun _ => ?_
    exact (ih.unaryInto _ (by omega)).weaken

theorem stepBeforeInto_succ (o : Operator) {x y : Span} (hplace : M.Place x y) (e : Expr)
    (h : 32 * b ≤ n + 1) :
    M.Carries (stepBefore? · ≠ none) b true Eq (Parser.stepBeforeInto (n + 1) o x e)
      (Parser.stepBeforeInto (m + 1) o y e) := by
  have hplain (t : Token) (ht : stepBefore? t ≠ none) : t.plain = true :=
    Token.plain_of_not_mem fun hmem => ht ((by decide : ∀ t ∈ Token.bounds, stepBefore? t = none) t hmem)
  refine .advance_of (fun t ht => .plain (hplain t ht)) fun _ => ?_
  exact (ih.operandInto _ (by omega)).bind fun _ => .ite (.pure rfl) (.fail hplace)

theorem arguments_succ (h : 32 * b + 1 ≤ n + 1) :
    M.Carries anyToken b true Eq (Parser.arguments (n + 1)) (Parser.arguments (m + 1)) := by
  refine .expect (.plain rfl) fun _ => ?_
  refine ((ih.exprList .rparen (by omega)).withRedirects false).bind fun _ => ?_
  exact .skipNewlines (.expect (.plain rfl) fun _ => .pure rfl)

theorem subscript_succ (h : 32 * b + 18 ≤ n + 1) :
    M.Carries anyToken b true Eq (Parser.subscript (n + 1)) (Parser.subscript (m + 1)) := by
  refine ((ih.exprList .rbracket (by omega)).withRedirects false).bind fun _ => ?_
  exact .ite .failExpected (.skipNewlines (.expect (.plain rfl) fun _ => .pure rfl))

theorem target_succ (h : 32 * b + 1 ≤ n + 1) :
    M.Carries anyToken b false Eq (target? (n + 1)) (target? (m + 1)) := by
  refine .token rfl fun t _ => ?_
  split
  · refine .advance (.plain rfl) fun _ => ?_
    exact (ih.operandInto [] (by omega)).bind fun _ => .pure rfl
  · refine .ite (.pure rfl) (.advance (.plain rfl) fun _ => ?_)
    refine .eat nofun (.plain rfl) (fun _ => ?_) (.pure rfl)
    exact (ih.subscript (by omega)).bind fun _ => .pure rfl
  · exact .pure rfl

theorem succ : CarriedExprs M (n + 1) (m + 1) where
  expr h := ih.exprInto [] (by omega)
  exprList := ih.exprList_succ
  exprListRest := ih.exprListRest_succ
  exprInto := ih.exprInto_succ
  conditionalInto := ih.conditionalInto_succ
  orInto e h := (ih.andInto e (by omega)).first fun _ l => ih.orRest l (by omega)
  orRest e h := lazyRest_succ rfl (fun _ => ih.andInto [] (by omega)) (fun l _ => ih.orRest l (by omega)) .or e
  andInto e h := (ih.memInto e (by omega)).first fun _ l => ih.andRest l (by omega)
  andRest e h := lazyRest_succ rfl (fun _ => ih.memInto [] (by omega)) (fun l _ => ih.andRest l (by omega)) .and e
  memInto e h := (ih.matchInto e (by omega)).first fun _ l => ih.memRest l (by omega)
  memRest := ih.memRest_succ
  matchInto e h := (ih.comparisonInto e (by omega)).first fun _ l => ih.matchRest l (by omega)
  matchRest e h := rest_succ (M.looks_token (f := matching?) (by decide))
    (fun l _ => ih.comparisonInto l (by omega)) (fun l _ => ih.matchRest l (by omega)) e
  comparisonInto e h := (ih.concatInto e (by omega)).first fun _ l => ih.comparisonRest l (by omega)
  comparisonRest e h := rest_succ (M.looks (f := comparison?) (by decide))
    (fun l _ => ih.concatInto l (by omega)) (fun l _ => ih.comparisonRest l (by omega)) e
  concatInto e h := (ih.additiveInto e (by omega)).first fun _ l => ih.concatRest _ l (by omega)
  concatRest := ih.concatRest_succ
  additiveInto e h := (ih.multiplicativeInto e (by omega)).first fun _ l => ih.additiveRest l (by omega)
  additiveRest e h := rest_succ (M.looks_token (f := additive?) (by decide))
    (fun l _ => ih.multiplicativeInto l (by omega)) (fun l _ => ih.additiveRest l (by omega)) e
  multiplicativeInto e h := (ih.unaryInto e (by omega)).first fun _ l => ih.multiplicativeRest l (by omega)
  multiplicativeRest e h := rest_succ (M.looks_token (f := multiplicative?) (by decide))
    (fun l _ => ih.unaryInto l (by omega)) (fun l _ => ih.multiplicativeRest l (by omega)) e
  unaryInto := ih.unaryInto_succ
  signed := ih.signed_succ
  powerInto := ih.powerInto_succ
  stepInto := ih.stepInto_succ
  operandInto := ih.operandInto_succ
  stepBeforeInto := ih.stepBeforeInto_succ
  arguments := ih.arguments_succ
  subscript := ih.subscript_succ
  target := ih.target_succ

end CarriedExprs

theorem carriedExprs (M : Change) {n m : Nat} (h : n ≤ m) : CarriedExprs M n m := by
  induction n generalizing m with
  | zero => exact .zero m
  | succ n ih =>
    obtain ⟨m, rfl⟩ := Nat.exists_eq_add_of_lt h
    exact (ih (Nat.le_add_right n m)).succ

end Awk.Parser
