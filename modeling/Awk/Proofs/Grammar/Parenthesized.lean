import Awk.Grammar.Statement
import Awk.Proofs.Grammar.CarriedStatements
import Awk.Proofs.Grammar.ForkedExprs

/-! Print lists with and without parentheses. A list that is read up to a redirection or the end of
its statement, with `>` as a redirection, is read up to a closing parenthesis with `>` as a
comparison. -/

namespace Awk.Parser

/-! Texts with the same tokens. -/

variable {α β γ : Type} {n : Nat} {c d : Cursor}

/-- Two parsers with the same tokens to come. -/
structure Alike (c d : Cursor) : Prop where
  tokens : d.rest.map Lexeme.token = c.rest.map Lexeme.token
  redirects : d.redirects = c.redirects
  ranges : d.ranges = c.ranges

namespace Alike

theorem symm (h : Alike c d) : Alike d c := ⟨h.tokens.symm, h.redirects.symm, h.ranges.symm⟩

theorem token (h : Alike c d) : d.token = c.token := by
  have hpeek (c : Cursor) : c.token = (c.rest.map Lexeme.token)[0]?.getD .eof := by
    rw [List.getElem?_map]
    rfl
  rw [hpeek, hpeek, h.tokens]

theorem advance (h : Alike c d) : Alike c.advance d.advance := by
  obtain ⟨l, redirects, ranges⟩ := c
  obtain ⟨l', redirects', ranges'⟩ := d
  have htokens : l'.map Lexeme.token = l.map Lexeme.token := h.tokens
  cases l with
  | nil =>
    obtain rfl := List.map_eq_nil_iff.mp htokens
    exact h
  | cons x l =>
    obtain ⟨y, l', rfl, -, htokens⟩ := List.map_eq_cons_iff.mp htokens
    cases l with
    | nil =>
      obtain rfl := List.map_eq_nil_iff.mp htokens
      exact h
    | cons x₁ l =>
      obtain ⟨y₁, l', rfl, -, -⟩ := List.map_eq_cons_iff.mp htokens
      exact ⟨htokens, h.redirects, h.ranges⟩

end Alike

/-- What `p` comes to from `c`, `q` comes to from `d`, with the same tokens to come, and the other
way round. -/
def Agree (p q : Parser α) (c d : Cursor) : Prop :=
  ∀ a, (∀ c', p c = some (.ok a, c') → ∃ d', q d = some (.ok a, d') ∧ Alike c' d') ∧
    ∀ d', q d = some (.ok a, d') → ∃ c', p c = some (.ok a, c') ∧ Alike c' d'

namespace Agree

variable {p q : Parser α} {f g : α → Parser β}

theorem of_forward (hcd : Alike c d)
    (h : ∀ c d c' a, Alike c d → p c = some (.ok a, c') →
      ∃ d', p d = some (.ok a, d') ∧ Alike c' d') :
    Agree p p c d := by
  refine fun a => ⟨fun c' hc => h c d c' a hcd hc, fun d' hd => ?_⟩
  obtain ⟨c', hc, hdc⟩ := h d c d' a hcd.symm hd
  exact ⟨c', hc, hdc.symm⟩

theorem pure (a : α) (h : Alike c d) : Agree (Pure.pure a) (Pure.pure a) c d := by
  refine fun b => ⟨?_, ?_⟩
  · rintro _ ⟨⟩
    exact ⟨d, rfl, h⟩
  · rintro _ ⟨⟩
    exact ⟨c, rfl, h⟩

theorem fail (cause : SyntaxCause) (place place' : Span) :
    Agree (Parser.fail cause place : Parser α) (Parser.fail cause place') c d :=
  fun _ => ⟨nofun, nofun⟩

/-- Steps that come to results from which the rest agrees. -/
theorem step {p q : Parser γ} {f g : γ → Parser β} {x y : γ} {c' d' : Cursor}
    (hc : p c = some (.ok x, c')) (hd : q d = some (.ok y, d')) (h : Agree (f x) (g y) c' d') :
    Agree (p >>= f) (q >>= g) c d := by
  unfold Agree
  rw [bind_ok hc, bind_ok hd]
  exact h

theorem bind (hp : Agree p q c d) (hf : ∀ a c' d', Alike c' d' → Agree (f a) (g a) c' d') :
    Agree (p >>= f) (q >>= g) c d := by
  refine fun b => ⟨fun c' h => ?_, fun d' h => ?_⟩
  · obtain ⟨a, c₁, hc₁, hc'⟩ := bind_eq_ok h
    obtain ⟨d₁, hd₁, halike⟩ := (hp a).1 c₁ hc₁
    obtain ⟨d', hd', halike'⟩ := (hf a c₁ d₁ halike b).1 c' hc'
    exact ⟨d', (bind_ok hd₁).trans hd', halike'⟩
  · obtain ⟨a, d₁, hd₁, hd'⟩ := bind_eq_ok h
    obtain ⟨c₁, hc₁, halike⟩ := (hp a).2 d₁ hd₁
    obtain ⟨c', hc', halike'⟩ := (hf a c₁ d₁ halike b).2 d' hd'
    exact ⟨c', (bind_ok hc₁).trans hc', halike'⟩

theorem withRedirects {redirects : Bool} (hmode : d.redirects = c.redirects)
    (h : Agree p q { c with redirects } { d with redirects }) :
    Agree (Parser.withRedirects redirects p) (Parser.withRedirects redirects q) c d := by
  have hback {p : Parser α} {c c₁ : Cursor} {a : α}
      (h : p { c with redirects } = some (.ok a, c₁)) :
      Parser.withRedirects redirects p c = some (.ok a, { c₁ with redirects := c.redirects }) := by
    unfold Parser.withRedirects
    rw [h]
  refine fun a => ⟨fun c' hc => ?_, fun d' hd => ?_⟩
  · obtain ⟨c₁, hc₁, rfl⟩ := withRedirects_ok hc
    obtain ⟨d₁, hd₁, halike⟩ := (h a).1 c₁ hc₁
    exact ⟨_, hback hd₁, ⟨halike.tokens, hmode, halike.ranges⟩⟩
  · obtain ⟨d₁, hd₁, rfl⟩ := withRedirects_ok hd
    obtain ⟨c₁, hc₁, halike⟩ := (h a).2 d₁ hd₁
    exact ⟨_, hback hc₁, ⟨halike.tokens, hmode, halike.ranges⟩⟩

end Agree

/-- Texts that never part. -/
def Fork.never : Fork where
  left := []
  right := []
  lifts := False
  left_ends := rfl
  right_ends := .inr rfl
  nil_iff := Iff.rfl

/-- Where the lexemes stand in the text does not matter to what an operand is. -/
theorem concatInto_agrees (e : Expr) (hcd : Alike c d) :
    Agree (concatInto n e) (concatInto n e) c d := by
  refine .of_forward hcd fun c d c' a hcd h => ?_
  have hbefore : Fork.never.Before c' := ⟨Nat.zero_le _, False.elim⟩
  have hbeside : Fork.never.Beside c d :=
    ⟨⟨c.rest, d.rest, (List.append_nil _).symm, (List.append_nil _).symm, hcd.tokens⟩,
      .inl hcd.redirects⟩
  obtain ⟨d', hd, hbeside'⟩ :=
    ((exprsFollow Fork.never n).concatInto e c a c' trivial h hbefore).2 d hbeside
  refine ⟨d', hd, ?_, ?_, ?_⟩
  · obtain ⟨l, l', hc', hd', htokens⟩ := hbeside'.lexemes
    rw [hc', hd', List.map_append, List.map_append, htokens]
    rfl
  · exact hbeside'.redirects.resolve_right fun hlifts => hlifts.1
  · rw [((exprsStay n).concatInto e).ranges hd, ((exprsStay n).concatInto e).ranges h, hcd.ranges]

/-! Print lists. -/

/-- Where output goes, behind the list of what is printed. -/
def destination (n : Nat) (list : List Expr) : Parser (List Expr × Option Redirect) := do
  match redirection? (← token) with
  | some kind =>
    advance
    return (list, some ⟨kind, ← concatInto n []⟩)
  | none => return (list, none)

theorem printRest_eq (n : Nat) : printRest n = printList n >>= destination n := rfl

theorem destination_agrees (n : Nat) (list : List Expr) (hcd : Alike c d) :
    Agree (destination n list) (destination n list) c d := by
  refine .step (p := token) (q := token) rfl rfl ?_
  rw [hcd.token]
  cases redirection? c.token with
  | none => exact .pure _ hcd
  | some kind =>
    refine .step (p := advance) (q := advance) rfl rfl ?_
    exact (concatInto_agrees [] hcd.advance).bind fun _ _ _ halike => .pure _ halike

/-- The lexemes `written`, not none and not beginning with a parenthesis, are all that a print list
takes of what is to come, and `follow` begins with a redirection or the end of the statement. -/
structure Bare (n ranges : Nat) (written follow : List Lexeme) (list : List Expr) : Prop where
  read : printList n ⟨written ++ follow, true, ranges⟩ = some (.ok list, ⟨follow, true, ranges⟩)
  bare : ∃ x ∈ written.head?, x.token ≠ .symbol .lparen
  ended : ∃ x ∈ follow.head?, endsPrint x.token = true

theorem printList_ended (n : Nat) (hends : endsPrint c.token = true) :
    printList n c = some (.ok [], c) := by
  show (if endsPrint c.token then return [] else _ : Parser _) c = _
  exact congrFun (if_pos hends) c

theorem printList_bare (n : Nat) (hends : endsPrint c.token = false)
    (hopen : c.token ≠ .symbol .lparen) : printList n c = exprList n .semicolon c := by
  show (if endsPrint c.token then return [] else _ : Parser _) c = _
  rw [hends, if_neg Bool.false_ne_true, check_ite_apply, if_neg hopen]

theorem printList_opening (n : Nat) (hopen : c.token = .symbol .lparen) :
    printList n c = (do
      match ← attempt (parenthesizedList n) with
      | some list => return list
      | none => exprList n .semicolon : Parser _) c := by
  show (if endsPrint c.token then return [] else _ : Parser _) c = _
  rw [hopen, if_neg (by decide), check_ite_apply]
  exact if_pos hopen

/-- Where a list in parentheses is given up, a list is read as if it had not been tried. -/
theorem printList_abandoned {c' : Cursor} {e : SyntaxError} (hopen : c.token = .symbol .lparen)
    (h : parenthesizedList n c = some (.error e, c')) :
    printList n c = exprList n .semicolon c := by
  rw [printList_opening n hopen, bind_ok ((stays_parenthesizedList n).attempt_error h)]

namespace Bare

variable {ranges : Nat} {written written' follow follow' : List Lexeme} {list : List Expr}
  {lparen rparen : Lexeme}

/-- The list is read expression by expression. -/
theorem exprListRest (h : Bare n ranges written follow list) : ∃ k, n = k + 1 ∧
    Parser.exprListRest k ⟨written ++ follow, true, ranges⟩ =
      some (.ok list, ⟨follow, true, ranges⟩) := by
  obtain ⟨x, hx, hopen⟩ := h.bare
  obtain ⟨rest, rfl⟩ := List.head?_eq_some_iff.mp hx
  have hends : endsPrint x.token = false := by
    -- Otherwise nothing would have been read.
    refine Bool.eq_false_iff.mpr fun hends => ?_
    have hnone := printList_ended (c := ⟨x :: rest ++ follow, true, ranges⟩) n hends
    have hsame := hnone.symm.trans h.read
    have hlength := congrArg (fun r => r.map fun p => p.2.rest.length) hsame
    simp at hlength
    omega
  have hread := h.read
  rw [printList_bare (c := ⟨x :: rest ++ follow, true, ranges⟩) n hends hopen] at hread
  cases n with
  | zero => cases hread
  | succ k =>
    rw [exprList_succ_of_ne] at hread
    · exact ⟨k, rfl, hread⟩
    · intro hx
      exact Bool.false_ne_true (hends.symm.trans (congrArg endsPrint hx))
    · intro hx
      exact Bool.false_ne_true (hends.symm.trans (congrArg endsPrint hx))

/-- Where a parenthesis closes the list it is read up to that, with `>` as a comparison. -/
theorem exprList_parenthesized (h : Bare n ranges written follow list)
    (hwritten : written'.map Lexeme.token = written.map Lexeme.token)
    (hrparen : rparen.token = .symbol .rparen) :
    exprList n .rparen ⟨written' ++ rparen :: follow', false, ranges⟩ =
      some (.ok list, ⟨rparen :: follow', false, ranges⟩) := by
  obtain ⟨k, rfl, hread⟩ := h.exprListRest
  obtain ⟨x, hx, hends⟩ := h.ended
  obtain ⟨behind, rfl⟩ := List.head?_eq_some_iff.mp hx
  let K : Fork :=
    { left := x :: behind, right := rparen :: follow', lifts := True, left_ends := hends,
      right_ends := .inl hrparen, nil_iff := ⟨nofun, nofun⟩ }
  have hbeside : K.Beside ⟨written ++ x :: behind, true, ranges⟩
      ⟨written' ++ rparen :: follow', false, ranges⟩ :=
    ⟨⟨written, written', rfl, rfl, hwritten⟩, .inr ⟨trivial, rfl⟩⟩
  obtain ⟨d', hd, hbeside'⟩ := ((exprsFollow K k).exprListRest _ list _ trivial hread
    ⟨Nat.le_refl _, fun _ _ _ => Nat.le_refl _⟩).2 _ hbeside
  have hstart := exprListRest_refuses k _ _ _ hread
  have htoken : Cursor.token ⟨written' ++ rparen :: follow', false, ranges⟩ =
      Cursor.token ⟨written ++ x :: behind, true, ranges⟩ :=
    hbeside.token_of_not_ends (endsPrint_of_not_mem hstart)
  rw [← htoken] at hstart
  obtain ⟨rest, rfl⟩ := (exprsStay k).exprListRest _ _ _ hd
  obtain ⟨-, hright⟩ : _ ∧ rest = rparen :: follow' := by
    obtain hfork | ⟨hplace, -⟩ := hbeside'.cases
    · exact hfork
    · exact absurd rfl hplace
  subst hright
  rw [exprList_succ_of_ne]
  · exact hd
  · intro hc
    rw [hc] at hstart
    exact hstart (by decide)
  · intro hc
    rw [hc] at hstart
    exact hstart (by decide)

/-- In parentheses the list is read to its end. -/
theorem printList_parenthesized (h : Bare n ranges written follow list)
    (hwritten : written'.map Lexeme.token = written.map Lexeme.token)
    (hfollow : follow'.map Lexeme.token = follow.map Lexeme.token)
    (hlparen : lparen.token = .symbol .lparen) (hrparen : rparen.token = .symbol .rparen) :
    printList n ⟨lparen :: (written' ++ rparen :: follow'), true, ranges⟩ =
      some (.ok list, ⟨follow', true, ranges⟩) := by
  obtain ⟨x, hx, hends⟩ := h.ended
  obtain ⟨behind, rfl⟩ := List.head?_eq_some_iff.mp hx
  obtain ⟨y, behind', rfl, htoken, -⟩ := List.map_eq_cons_iff.mp hfollow
  have hinner : written' ++ rparen :: y :: behind' ≠ [] := by simp
  have hadvance := advance_cons (x := lparen) hinner true ranges
  have hread : exprList n .rparen ⟨written' ++ rparen :: y :: behind', false, ranges⟩ =
      some (.ok list, ⟨rparen :: y :: behind', false, ranges⟩) :=
    h.exprList_parenthesized hwritten hrparen
  have hparentheses : parenthesizedList n
      ⟨lparen :: (written' ++ rparen :: y :: behind'), true, ranges⟩ =
      some (.ok list, ⟨y :: behind', true, ranges⟩) := by
    rw [parenthesizedList_eq (by rw [hadvance]; exact hread), hadvance]
    unfold closing
    rw [expect_bind_apply]
    refine (if_pos hrparen).trans ?_
    show (if endsPrint y.token then return list else failUnexpected : Parser _) _ = _
    rw [if_pos (htoken ▸ hends)]
    rfl
  exact (printList_opening (c := ⟨lparen :: _, true, ranges⟩) n hlparen).trans
    (bind_ok (attempt_ok hparentheses))

/-- Behind the list the same follows. -/
theorem printRest_agrees (h : Bare n ranges written follow list)
    (hwritten : written'.map Lexeme.token = written.map Lexeme.token)
    (hfollow : follow'.map Lexeme.token = follow.map Lexeme.token)
    (hlparen : lparen.token = .symbol .lparen) (hrparen : rparen.token = .symbol .rparen) :
    Agree (printRest n) (printRest n) ⟨written ++ follow, true, ranges⟩
      ⟨lparen :: (written' ++ rparen :: follow'), true, ranges⟩ := by
  rw [printRest_eq]
  refine .step h.read (h.printList_parenthesized hwritten hfollow hlparen hrparen) ?_
  exact destination_agrees n list ⟨hfollow, rfl, rfl⟩

theorem ne_nil (h : Bare n ranges written follow list) : written ++ follow ≠ [] := by
  obtain ⟨x, hx, -⟩ := h.bare
  obtain ⟨rest, rfl⟩ := List.head?_eq_some_iff.mp hx
  exact List.cons_ne_nil _ _

/-- Around what is printed there may be parentheses or not: `print` and `printf` come to the same
statement. If what begins with a parenthesis is no list in parentheses, having tried to read one
plays no part. -/
theorem print_parenthesized (h : Bare n ranges written follow list)
    (hwritten : written'.map Lexeme.token = written.map Lexeme.token)
    (hfollow : follow'.map Lexeme.token = follow.map Lexeme.token)
    (hlparen : lparen.token = .symbol .lparen) (hrparen : rparen.token = .symbol .rparen)
    (keyword keyword' : Lexeme) (redirects : Bool) :
    Agree (print n) (print n) ⟨keyword :: (written ++ follow), redirects, ranges⟩
        ⟨keyword' :: lparen :: (written' ++ rparen :: follow'), redirects, ranges⟩ ∧
      Agree (printf n) (printf n) ⟨keyword :: (written ++ follow), redirects, ranges⟩
        ⟨keyword' :: lparen :: (written' ++ rparen :: follow'), redirects, ranges⟩ ∧
      ∀ c e c', c.token = .symbol .lparen → parenthesizedList n c = some (.error e, c') →
        printList n c = exprList n .semicolon c := by
  have hleft : advance ⟨keyword :: (written ++ follow), redirects, ranges⟩ =
      some (Except.ok (), ⟨written ++ follow, redirects, ranges⟩) := by
    show some (Except.ok (), Cursor.advance _) = _
    rw [advance_cons h.ne_nil]
  have hrest : Agree (withRedirects true (printRest n)) (withRedirects true (printRest n))
      ⟨written ++ follow, redirects, ranges⟩
      ⟨lparen :: (written' ++ rparen :: follow'), redirects, ranges⟩ :=
    .withRedirects rfl (h.printRest_agrees hwritten hfollow hlparen hrparen)
  refine ⟨.step hleft rfl (hrest.bind fun a _ _ halike => .pure _ halike), ?_, fun c e c' =>
    printList_abandoned⟩
  refine .step (p := span) (q := span) rfl rfl (.step hleft rfl ?_)
  refine hrest.bind fun a c' d' halike => ?_
  dsimp only
  split
  · exact .fail _ _ _
  · exact .pure _ halike

end Bare

/-- Lexemes with these tokens, `n` further on in the text each than the one before it. -/
def spaced (n : Nat) (tokens : List Token) : List Lexeme :=
  tokens.mapIdx fun i t => ⟨t, ⟨n * i, n * i⟩⟩

/-- `a[b > c], d`. -/
def comparing : List Token :=
  [.ident "a", .symbol .lbracket, .ident "b", .symbol .greater, .ident "c", .symbol .rbracket,
   .symbol .comma, .ident "d"]

/-- `> "f"`. -/
def redirecting : List Token := [.symbol .greater, .string "f", .eof]

set_option maxRecDepth 1000 in
/-- Of two `>`, one in brackets compares and one behind them redirects, also with parentheses around
the list. -/
theorem print_parenthesized_comparing : ∃ d',
    print 40 ⟨⟨.keyword .print, ⟨0, 0⟩⟩ :: ⟨.symbol .lparen, ⟨5, 6⟩⟩ ::
        (spaced 2 comparing ++ ⟨.symbol .rparen, ⟨9, 9⟩⟩ :: spaced 2 redirecting), false, 0⟩ =
      some (.ok (.print [[.element "a" [[.var "b", .op .greater, .var "c"]]], [.var "d"]]
        (some ⟨.truncate, [.value (.ofString "f")]⟩)), d') ∧ d'.token = .eof := by
  have hbare : Bare 40 0 (spaced 1 comparing) (spaced 1 redirecting)
      [[.element "a" [[.var "b", .op .greater, .var "c"]]], [.var "d"]] :=
    ⟨by rfl, ⟨_, rfl, nofun⟩, ⟨_, rfl, rfl⟩⟩
  have hwritten : (spaced 2 comparing).map Lexeme.token = (spaced 1 comparing).map _ := rfl
  have hfollow : (spaced 2 redirecting).map Lexeme.token = (spaced 1 redirecting).map _ := rfl
  have hlparen : Lexeme.token ⟨.symbol .lparen, ⟨5, 6⟩⟩ = .symbol .lparen := rfl
  have hrparen : Lexeme.token ⟨.symbol .rparen, ⟨9, 9⟩⟩ = .symbol .rparen := rfl
  have hagree := (hbare.print_parenthesized hwritten hfollow hlparen hrparen
    ⟨.keyword .print, ⟨0, 0⟩⟩ ⟨.keyword .print, ⟨0, 0⟩⟩ false).1
  obtain ⟨d', hd, halike⟩ := (hagree _).1 ⟨[⟨.eof, ⟨2, 2⟩⟩], false, 0⟩ (by rfl)
  exact ⟨d', hd, halike.token⟩

end Awk.Parser
