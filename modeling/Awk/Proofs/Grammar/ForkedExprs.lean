import Awk.Grammar.Expr
import Awk.Proofs.Grammar.Forks

/-! An expression that ends before a fork in one text ends there in the other. -/

namespace Awk.Parser

variable {K : Fork} {n : Nat}

/-- What an expression's parser comes to before a fork in one text, it comes to in the other. -/
structure ExprsFollow (K : Fork) (n : Nat) : Prop where
  expr : K.Follows anyToken (expr n) (expr n)
  exprList : ∀ close, endsPrint (.symbol close) = false →
    K.Follows anyToken (exprList n close) (exprList n close)
  exprListRest : K.Follows anyToken (exprListRest n) (exprListRest n)
  exprInto : ∀ e, K.Follows anyToken (exprInto n e) (exprInto n e)
  conditionalInto : ∀ e, K.Follows anyToken (conditionalInto n e) (conditionalInto n e)
  orInto : ∀ e, K.Follows anyToken (orInto n e) (orInto n e)
  orRest : ∀ e, K.Follows anyToken (orRest n e) (orRest n e)
  andInto : ∀ e, K.Follows anyToken (andInto n e) (andInto n e)
  andRest : ∀ e, K.Follows anyToken (andRest n e) (andRest n e)
  memInto : ∀ e, K.Follows anyToken (memInto n e) (memInto n e)
  memRest : ∀ e, K.Follows anyToken (memRest n e) (memRest n e)
  matchInto : ∀ e, K.Follows anyToken (matchInto n e) (matchInto n e)
  matchRest : ∀ e, K.Follows anyToken (matchRest n e) (matchRest n e)
  comparisonInto : ∀ e, K.Follows anyToken (comparisonInto n e) (comparisonInto n e)
  comparisonRest : ∀ e, K.Follows anyToken (comparisonRest n e) (comparisonRest n e)
  concatInto : ∀ e, K.Follows anyToken (concatInto n e) (concatInto n e)
  concatRest : ∀ start e, K.Follows anyToken (concatRest n start e) (concatRest n start e)
  additiveInto : ∀ e, K.Follows anyToken (additiveInto n e) (additiveInto n e)
  additiveRest : ∀ e, K.Follows anyToken (additiveRest n e) (additiveRest n e)
  multiplicativeInto : ∀ e, K.Follows anyToken (multiplicativeInto n e) (multiplicativeInto n e)
  multiplicativeRest : ∀ e, K.Follows anyToken (multiplicativeRest n e) (multiplicativeRest n e)
  unaryInto : ∀ e, K.Follows anyToken (unaryInto n e) (unaryInto n e)
  powerInto : ∀ e, K.Follows anyToken (powerInto n e) (powerInto n e)
  stepInto : ∀ e, K.Follows anyToken (stepInto n e) (stepInto n e)
  operandInto : ∀ e, K.Follows anyToken (operandInto n e) (operandInto n e)
  stepBeforeInto : ∀ o x y e, K.Follows (fun t => endsPrint t = false) (stepBeforeInto n o x e)
    (stepBeforeInto n o y e)
  arguments : K.Follows anyToken (arguments n) (arguments n)
  subscript : K.Follows anyToken (subscript n) (subscript n)
  target : K.Follows anyToken (target? n) (target? n)

/-- Parsers have no operator for a closing token. -/
theorem endsPrint_of_some {γ : Type} {look : Token → Option γ}
    (hlook : ∀ t ∈ closers, look t = none) {t : Token} {o : γ} (h : look t = some o) :
    endsPrint t = false :=
  endsPrint_of_not_mem fun ht => by
    rw [hlook t ht] at h
    cases h

theorem comparison?_of_ne {t : Token} (h : t ≠ .symbol .greater) (r r' : Bool) :
    comparison? r t = comparison? r' t := by
  unfold comparison?
  split <;> first | rfl | exact absurd rfl h

theorem comparisonRest_apply (n : Nat) (e : Expr) (c : Cursor) :
    comparisonRest (n + 1) e c =
      match comparison? c.redirects c.token with
      | some o => (concatInto n (e.push (.op o)) >>= comparisonRest n) c.advance
      | none => some (.ok e, c) := by
  show (match comparison? c.redirects c.token with
    | some o => do
      advance
      comparisonRest n (← concatInto n (e.push (.op o)))
    | none => return e : Parser Expr) c = _
  cases comparison? c.redirects c.token <;> rfl

theorem comparison?_closers : ∀ t ∈ closers, comparison? true t = none := by decide

/-- What reads a list does not start with `>`. -/
theorem exprList_starts {close : Symbol} (hclose : endsPrint (.symbol close) = false)
    {c c' : Cursor} {list : List Expr} (h : exprList n close c = some (.ok list, c')) :
    c.token ≠ .symbol .greater := by
  intro hc
  cases n with
  | zero => cases h
  | succ n =>
    have hnot : c.token ≠ .symbol close := by
      rw [hc]
      rintro ⟨⟩
      cases hclose
    rw [exprList_succ_of_ne n (by rw [hc]; nofun) hnot] at h
    refine exprListRest_refuses n c list c' h ?_
    rw [hc]
    decide

namespace ExprsFollow

theorem zero : ExprsFollow K 0 := by
  constructor
  all_goals intros
  all_goals exact .nothing .outOfFuel

variable {T : Token → Prop}

/-- A level whose operators group to the left, over a tighter level. -/
theorem rest_succ {look : Token → Option Operator} (hlook : ∀ t ∈ closers, look t = none)
    {next rest : Expr → Parser Expr} (hnext : ∀ e, K.Follows anyToken (next e) (next e))
    (hrest : ∀ e, K.Follows anyToken (rest e) (rest e)) (e : Expr) :
    K.Follows T
      (do
        match look (← token) with
        | some o =>
          advance
          rest (← next (e.push (.op o)))
        | none => return e : Parser Expr)
      (do
        match look (← token) with
        | some o =>
          advance
          rest (← next (e.push (.op o)))
        | none => return e) := by
  refine .token (fun t ht => by rw [hlook t ht, hlook .eof (by decide)]) fun t _ => ?_
  cases ho : look t with
  | none => exact .pure _
  | some o => exact .advance (endsPrint_of_some hlook ho) ((hnext _).bind hrest)

/-- A level whose operands on the right are expressions of their own. -/
theorem lazyRest_succ {t : Token} (ht : t ∉ closers) {next rest : Expr → Parser Expr}
    (hnext : ∀ e, K.Follows anyToken (next e) (next e))
    (hrest : ∀ e, K.Follows anyToken (rest e) (rest e)) (o : Operator) (e : Expr) :
    K.Follows anyToken
      (do
        if ← eat t then
          skipNewlines
          rest ((e.push (.op o)).pushLazy (← next []))
        else return e : Parser Expr)
      (do
        if ← eat t then
          skipNewlines
          rest ((e.push (.op o)).pushLazy (← next []))
        else return e) :=
  .eat ht (.skipNewlines ((hnext []).bind fun _ => hrest _)) (.pure _)

/-- A list within brackets, where `>` compares. -/
theorem enclosed {close : Symbol} (hclose : endsPrint (.symbol close) = false)
    (h : K.Follows anyToken (Parser.exprList n close) (Parser.exprList n close)) :
    K.Follows T (withRedirects false (Parser.exprList n close))
      (withRedirects false (Parser.exprList n close)) :=
  .withRedirects ((exprsStay n).exprList close) (fun _ _ _ => exprList_starts hclose) h

variable (ih : ExprsFollow K n)

include ih

theorem exprList_succ (close : Symbol) (hclose : endsPrint (.symbol close) = false) :
    K.Follows anyToken (Parser.exprList (n + 1) close) (Parser.exprList (n + 1) close) :=
  .skipNewlines (.closed hclose (exprListRest_refuses n) (.pure _) ih.exprListRest)

theorem exprListRest_succ :
    K.Follows anyToken (Parser.exprListRest (n + 1)) (Parser.exprListRest (n + 1)) :=
  ih.expr.bind fun _ =>
    .eat (by decide) (.skipNewlines (ih.exprListRest.bind fun _ => .pure _)) (.pure _)

theorem exprInto_succ (e : Expr) :
    K.Follows anyToken (Parser.exprInto (n + 1) e) (Parser.exprInto (n + 1) e) := by
  have hlook : ∀ t ∈ closers, assignment? t = none := by decide
  refine (ih.conditionalInto e).bind fun l =>
    .token (fun t ht => by rw [hlook t ht, hlook .eof (by decide)]) fun t _ => ?_
  cases ho : assignment? t with
  | none => exact .pure _
  | some o => exact .advance (endsPrint_of_some hlook ho) (.skipNewlines (ih.exprInto _))

theorem conditionalInto_succ (e : Expr) :
    K.Follows anyToken (Parser.conditionalInto (n + 1) e) (Parser.conditionalInto (n + 1) e) := by
  refine (ih.orInto e).bind fun _ => .eat (by decide) (.skipNewlines ?_) (.pure _)
  refine ih.expr.bind fun _ => .skipNewlines (.expect rfl (.skipNewlines ?_))
  exact (ih.conditionalInto []).bind fun _ => .pure _

theorem memRest_succ (e : Expr) :
    K.Follows anyToken (Parser.memRest (n + 1) e) (Parser.memRest (n + 1) e) := by
  refine .eat (by decide) (.token (fun t ht => by fin_cases ht <;> rfl) fun t _ => ?_) (.pure _)
  split
  · exact .advance rfl (ih.memRest _)
  · exact .nothing (.failExpected _)

omit ih in
/-- Where `>` redirects nothing more is read. On the right it may compare, but then the one on the
left is not stopped by it. -/
theorem comparisonRest_redirecting (e : Expr) {c c' : Cursor} {a : Expr}
    (hc : c.token = .symbol .greater) (hmode : c.redirects = true)
    (h : Parser.comparisonRest (n + 1) e c = some (.ok a, c')) (hbefore : K.Before c') :
    K.Before c ∧ ∀ d, K.Beside c d →
      ∃ d', Parser.comparisonRest (n + 1) e d = some (.ok a, d') ∧ K.Beside c' d' := by
  rw [comparisonRest_apply, hmode, hc] at h
  cases h
  refine ⟨hbefore, fun d hcd => ⟨d, ?_, hcd⟩⟩
  have hnone : comparison? d.redirects d.token = none := by
    rcases hcd.cases with ⟨-, hfork⟩ | ⟨hplace, -⟩
    · rcases Fork.token_of_right hfork with hd | hd <;> rw [hd] <;> rfl
    · have hd := hcd.token.resolve_right fun hfork => hplace hfork.1
      have hsame : d.redirects = c.redirects := hcd.redirects.resolve_right fun hlifts =>
        hplace (hcd.eq_left_of_le (hbefore.free hlifts.1 hmode hc))
      rw [hd, hc, hsame, hmode]
      rfl
  rw [comparisonRest_apply, hnone]

/-- Where `>` compares, what is taken as a comparison on the left is not at the fork. -/
theorem comparisonRest_comparing (e : Expr) {c c' : Cursor} {a : Expr}
    (hc : c.token = .symbol .greater) (hmode : c.redirects = false)
    (h : Parser.comparisonRest (n + 1) e c = some (.ok a, c')) (hbefore : K.Before c') :
    K.Before c ∧ ∀ d, K.Beside c d →
      ∃ d', Parser.comparisonRest (n + 1) e d = some (.ok a, d') ∧ K.Beside c' d' := by
  rw [comparisonRest_apply, hmode, hc] at h
  have hoperand : K.Follows anyToken
      (Parser.concatInto n (e.push (.op .greater)) >>= Parser.comparisonRest n)
      (Parser.concatInto n (e.push (.op .greater)) >>= Parser.comparisonRest n) :=
    (ih.concatInto _).bind ih.comparisonRest
  obtain ⟨hbefore₁, hright⟩ := hoperand c.advance a c' trivial h hbefore
  have hplace : c.rest ≠ K.left := by
    intro hleft
    refine Nat.not_lt.mpr (hleft ▸ hbefore₁.le) (length_advance_lt fun hstays => ?_)
    refine (concatInto_refuses n _).bind _ c.advance a c' h ?_
    rw [hstays, hc]
    decide
  refine ⟨⟨hbefore₁.le.trans (length_advance_le c), fun _ hredirects => ?_⟩, fun d hcd => ?_⟩
  · rw [hmode] at hredirects
    cases hredirects
  · have hd := hcd.token.resolve_right fun hfork => hplace hfork.1
    have hsame : d.redirects = c.redirects := hcd.redirects.resolve_right fun hlifts => by
      rw [hmode] at hlifts
      cases hlifts.2
    rw [comparisonRest_apply, hd, hc, hsame, hmode]
    exact hright d.advance (hcd.advance hplace)

theorem comparisonRest_succ (e : Expr) :
    K.Follows anyToken (Parser.comparisonRest (n + 1) e) (Parser.comparisonRest (n + 1) e) := by
  intro c a c' _ h hbefore
  by_cases hc : c.token = .symbol .greater
  · cases hmode : c.redirects with
    | true => exact comparisonRest_redirecting e hc hmode h hbefore
    | false => exact ih.comparisonRest_comparing e hc hmode h hbefore
  · -- How `>` is read does not matter.
    have hplain {c : Cursor} (hc : c.token ≠ .symbol .greater) :
        Parser.comparisonRest (n + 1) e c = (do
          match comparison? true (← token) with
          | some o =>
            advance
            Parser.comparisonRest n (← Parser.concatInto n (e.push (.op o)))
          | none => return e : Parser Expr) c :=
      congrArg (fun o => (match o with
        | some o => do
          advance
          Parser.comparisonRest n (← Parser.concatInto n (e.push (.op o)))
        | none => return e : Parser Expr) c) (comparison?_of_ne hc c.redirects true)
    rw [hplain hc] at h
    obtain ⟨hbefore₀, hright⟩ := rest_succ (T := anyToken) comparison?_closers ih.concatInto
      ih.comparisonRest e c a c' trivial h hbefore
    refine ⟨hbefore₀, fun d hcd => ?_⟩
    rw [hplain]
    · exact hright d hcd
    · rcases hcd.token with hd | ⟨-, hfork⟩
      · rw [hd]
        exact hc
      · rcases Fork.token_of_right hfork with hd | hd <;> rw [hd] <;> nofun

theorem concatRest_succ (start : Nat) (e : Expr) :
    K.Follows anyToken (Parser.concatRest (n + 1) start e) (Parser.concatRest (n + 1) start e) := by
  refine .getline_ahead (ih.target.bind fun _ => ih.concatRest start _) ?_
  refine .token (fun t ht => by fin_cases ht <;> rfl) fun t _ => .ite ?_ (.pure _)
  exact ((ih.additiveInto e).bind fun _ => ih.concatRest start _).on

theorem unaryInto_succ (e : Expr) :
    K.Follows anyToken (Parser.unaryInto (n + 1) e) (Parser.unaryInto (n + 1) e) := by
  have hlook : ∀ t ∈ closers, sign? t = none := by decide
  refine .token (fun t ht => by rw [hlook t ht, hlook .eof (by decide)]) fun t _ => ?_
  cases ho : sign? t with
  | none => exact (ih.powerInto e).on
  | some o => exact .advance (endsPrint_of_some hlook ho) (ih.unaryInto _)

theorem powerInto_succ (e : Expr) :
    K.Follows anyToken (Parser.powerInto (n + 1) e) (Parser.powerInto (n + 1) e) :=
  (ih.stepInto e).bind fun _ => .eat (by decide) (ih.unaryInto _) (.pure _)

theorem stepInto_succ (e : Expr) :
    K.Follows anyToken (Parser.stepInto (n + 1) e) (Parser.stepInto (n + 1) e) := by
  have hlook : ∀ t ∈ closers, stepAfter? t = none := by decide
  refine (ih.operandInto e).bind fun r =>
    .token (fun t ht => by rw [hlook t ht, hlook .eof (by decide)]) fun t _ => ?_
  cases ho : stepAfter? t with
  | none => exact .pure _
  | some o => exact .ite (.advance (endsPrint_of_some hlook ho) (.pure _)) (.pure _)

theorem operandInto_succ (e : Expr) :
    K.Follows anyToken (Parser.operandInto (n + 1) e) (Parser.operandInto (n + 1) e) := by
  have hlook : ∀ t ∈ closers, (stepBefore? t).or (sign? t) = none := by decide
  refine .span fun x y => .token (fun t ht => by fin_cases ht <;> rfl) fun t _ => ?_
  split
  · refine .advance rfl
      (.token (fun t ht => by rw [hlook t ht, hlook .eof (by decide)]) fun t _ => ?_)
    cases ho : (stepBefore? t).or (sign? t) with
    | none => exact ((ih.operandInto _).bind fun _ => .pure _).on
    | some o =>
      exact .advance (endsPrint_of_some hlook ho) ((ih.operandInto _).bind fun _ => .pure _)
  · exact (ih.stepBeforeInto _ x y _).weaken fun _ hu => hu ▸ rfl
  · exact (ih.stepBeforeInto _ x y _).weaken fun _ hu => hu ▸ rfl
  · exact .advance rfl (.pure _)
  · exact .advance rfl (.pure _)
  · exact .advance rfl (.pure _)
  · refine .advance rfl (.bind (enclosed rfl (ih.exprList .rparen rfl)) fun list => ?_)
    refine .skipNewlines (.expect rfl ?_)
    split
    · exact .nothing (.fail _ _)
    · exact .pure _
    · exact .check (by decide) (.pure _) (.nothing (.failExpected _))
  · exact .advance rfl (ih.arguments.bind fun _ => .pure _)
  · rename_i name _
    refine .advance rfl ?_
    cases Builtin.ofName? name with
    | none => exact .eat (by decide) (ih.subscript.bind fun _ => .pure _) (.pure _)
    | some b =>
      refine .check (by decide) (ih.arguments.bind fun _ => .pure _).on ?_
      exact .ite (.pure _) (.nothing (.fail _ _))
  · refine .advance rfl (ih.target.bind fun _ => .eat (by decide) ?_ (.pure _))
    exact (ih.operandInto []).bind fun _ => .pure _
  · exact ((ih.unaryInto e).bind fun _ => .pure _).on
  · exact ((ih.unaryInto e).bind fun _ => .pure _).on
  · exact ((ih.unaryInto e).bind fun _ => .pure _).on
  · exact .nothing .failUnexpected

theorem stepBeforeInto_succ (o : Operator) (x y : Span) (e : Expr) :
    K.Follows (fun t => endsPrint t = false) (Parser.stepBeforeInto (n + 1) o x e)
      (Parser.stepBeforeInto (n + 1) o y e) :=
  .advance_of (fun _ ht => ht) ((ih.operandInto _).bind fun _ =>
    .ite (.pure _) (.nothing (.fail _ _)))

theorem arguments_succ : K.Follows anyToken (Parser.arguments (n + 1)) (Parser.arguments (n + 1)) :=
  .expect rfl (.bind (enclosed rfl (ih.exprList .rparen rfl)) fun _ =>
    .skipNewlines (.expect rfl (.pure _)))

theorem subscript_succ : K.Follows anyToken (Parser.subscript (n + 1)) (Parser.subscript (n + 1)) :=
  .bind (enclosed rfl (ih.exprList .rbracket rfl)) fun _ =>
    .ite (.nothing (.failExpected _)) (.skipNewlines (.expect rfl (.pure _)))

theorem target_succ : K.Follows anyToken (target? (n + 1)) (target? (n + 1)) := by
  refine .token (fun t ht => by fin_cases ht <;> rfl) fun t _ => ?_
  split
  · exact .advance rfl ((ih.operandInto []).bind fun _ => .pure _)
  · refine .ite (.pure _) (.advance rfl (.eat (by decide) ?_ (.pure _)))
    exact ih.subscript.bind fun _ => .pure _
  · exact .pure _

theorem succ : ExprsFollow K (n + 1) where
  expr := ih.exprInto []
  exprList := ih.exprList_succ
  exprListRest := ih.exprListRest_succ
  exprInto := ih.exprInto_succ
  conditionalInto := ih.conditionalInto_succ
  orInto e := (ih.andInto e).bind ih.orRest
  orRest := lazyRest_succ (by decide) ih.andInto ih.orRest .or
  andInto e := (ih.memInto e).bind ih.andRest
  andRest := lazyRest_succ (by decide) ih.memInto ih.andRest .and
  memInto e := (ih.matchInto e).bind ih.memRest
  memRest := ih.memRest_succ
  matchInto e := (ih.comparisonInto e).bind ih.matchRest
  matchRest :=
    rest_succ (by decide : ∀ t ∈ closers, matching? t = none) ih.comparisonInto ih.matchRest
  comparisonInto e := (ih.concatInto e).bind ih.comparisonRest
  comparisonRest := ih.comparisonRest_succ
  concatInto e := (ih.additiveInto e).bind (ih.concatRest e.length)
  concatRest := ih.concatRest_succ
  additiveInto e := (ih.multiplicativeInto e).bind ih.additiveRest
  additiveRest :=
    rest_succ (by decide : ∀ t ∈ closers, additive? t = none) ih.multiplicativeInto
      ih.additiveRest
  multiplicativeInto e := (ih.unaryInto e).bind ih.multiplicativeRest
  multiplicativeRest :=
    rest_succ (by decide : ∀ t ∈ closers, multiplicative? t = none) ih.unaryInto
      ih.multiplicativeRest
  unaryInto := ih.unaryInto_succ
  powerInto := ih.powerInto_succ
  stepInto := ih.stepInto_succ
  operandInto := ih.operandInto_succ
  stepBeforeInto := ih.stepBeforeInto_succ
  arguments := ih.arguments_succ
  subscript := ih.subscript_succ
  target := ih.target_succ

end ExprsFollow

theorem exprsFollow (K : Fork) (n : Nat) : ExprsFollow K n := by
  induction n with
  | zero => exact .zero
  | succ n ih => exact ih.succ

end Awk.Parser
