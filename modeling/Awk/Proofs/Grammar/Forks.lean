import Mathlib.Tactic.FinCases
import Awk.Grammar.Statement
import Awk.Proofs.Grammar.Attempts
import Awk.Proofs.Grammar.Change

/-! Two texts that begin alike and then part. What a parser comes to in one text before they part,
it comes to in the other: before what can follow a print list the grammar stops just as before a
closing parenthesis. The exception is `>`, which stops a parser where it redirects and does not
where it compares. -/

namespace Awk.Parser

variable {α β γ : Type}

/-- What can follow a print list, and what closes one in parentheses. -/
def closers : List Token :=
  [.newline, .eof, .symbol .semicolon, .symbol .rbrace, .symbol .rparen, .symbol .greater,
   .symbol .append, .symbol .pipe]

theorem mem_closers_of_endsPrint {t : Token} (h : endsPrint t = true) : t ∈ closers := by
  unfold endsPrint endsStatement redirection? at h
  split at h <;> simp [closers]
  split at h <;> simp at h ⊢

theorem endsPrint_of_not_mem {t : Token} (h : t ∉ closers) : endsPrint t = false :=
  Bool.eq_false_iff.mpr fun ht => h (mem_closers_of_endsPrint ht)

/-! What has to start with an operand. -/

/-- The parser comes to no result before a closing token. -/
def Refuses (p : Parser α) : Prop := ∀ c a c', p c = some (.ok a, c') → c.token ∉ closers

namespace Refuses

theorem outOfFuel : Refuses (Parser.outOfFuel : Parser α) := fun _ _ _ h => nomatch h

theorem bind {p : Parser α} (hp : Refuses p) (f : α → Parser β) : Refuses (p >>= f) := by
  intro c b c' h
  obtain ⟨a, c₁, ha, -⟩ := bind_eq_ok h
  exact hp c a c₁ ha

/-- A level of the grammar starts with the level below it. -/
theorem level {below : Nat → Expr → Parser α} (h : ∀ n e, Refuses (below n e))
    (level : Nat → Expr → Parser β) (rest : Nat → Expr → α → Parser β)
    (hzero : ∀ e, level 0 e = Parser.outOfFuel)
    (hsucc : ∀ n e, level (n + 1) e = below n e >>= rest n e) (n : Nat) (e : Expr) :
    Refuses (level n e) := by
  cases n with
  | zero =>
    rw [hzero]
    exact outOfFuel
  | succ n =>
    rw [hsucc]
    exact (h n e).bind _

end Refuses

theorem operandInto_refuses (n : Nat) (e : Expr) : Refuses (operandInto n e) := by
  cases n with
  | zero => exact .outOfFuel
  | succ n =>
    intro c r c' h hc
    have hfails : operandInto (n + 1) e c = failUnexpected c := by
      refine (bind_ok (p := span) rfl).trans ((bind_ok (p := token) rfl).trans ?_)
      generalize c.token = t at hc
      fin_cases hc <;> rfl
    rw [hfails] at h
    cases h

theorem unaryInto_refuses (n : Nat) (e : Expr) : Refuses (unaryInto n e) := by
  have hstep := Refuses.level operandInto_refuses stepInto _ (fun _ => rfl) fun _ _ => rfl
  have hpower := Refuses.level hstep powerInto _ (fun _ => rfl) fun _ _ => rfl
  cases n with
  | zero => exact .outOfFuel
  | succ n =>
    intro c r c' h hc
    have hsign : sign? c.token = none := by
      generalize c.token = t at hc
      fin_cases hc <;> rfl
    rw [show unaryInto (n + 1) e c = powerInto n e c from
      look_none (do return sign? (← token)) rfl hsign] at h
    exact hpower n e c r c' h hc

theorem concatInto_refuses (n : Nat) (e : Expr) : Refuses (concatInto n e) := by
  have hmultiplicative :=
    Refuses.level unaryInto_refuses multiplicativeInto _ (fun _ => rfl) fun _ _ => rfl
  have hadditive := Refuses.level hmultiplicative additiveInto _ (fun _ => rfl) fun _ _ => rfl
  exact Refuses.level hadditive concatInto _ (fun _ => rfl) (fun _ _ => rfl) n e

theorem exprInto_refuses (n : Nat) (e : Expr) : Refuses (exprInto n e) := by
  have hcomparison :=
    Refuses.level concatInto_refuses comparisonInto _ (fun _ => rfl) fun _ _ => rfl
  have hmatch := Refuses.level hcomparison matchInto _ (fun _ => rfl) fun _ _ => rfl
  have hmem := Refuses.level hmatch memInto _ (fun _ => rfl) fun _ _ => rfl
  have hand := Refuses.level hmem andInto _ (fun _ => rfl) fun _ _ => rfl
  have hor := Refuses.level hand orInto _ (fun _ => rfl) fun _ _ => rfl
  have hconditional := Refuses.level hor conditionalInto _ (fun _ => rfl) fun _ _ => rfl
  exact Refuses.level hconditional exprInto _ (fun _ => rfl) (fun _ _ => rfl) n e

theorem exprListRest_refuses (n : Nat) : Refuses (exprListRest n) := by
  cases n with
  | zero => exact .outOfFuel
  | succ n =>
    cases n with
    | zero => exact Refuses.bind .outOfFuel _
    | succ n => exact Refuses.bind (exprInto_refuses n []) _

/-- A list that neither a newline nor its closing token precedes is read expression by
expression. -/
theorem exprList_succ_of_ne (n : Nat) {close : Symbol} {c : Cursor} (hnewline : c.token ≠ .newline)
    (hclose : c.token ≠ .symbol close) : exprList (n + 1) close c = exprListRest n c := by
  show (do if ← check (.symbol close) then return [] else exprListRest n : Parser _)
    (c.skip (· = .newline)) = _
  rw [skip_of_ne (decide_eq_false hnewline), check_ite_apply, if_neg hclose]

/-! Looking ahead. -/

theorem length_advance_le (c : Cursor) : c.advance.rest.length ≤ c.rest.length := by
  unfold Cursor.advance
  split
  · rename_i h
    rw [h]
    exact Nat.le_succ _
  · exact Nat.le_refl _

theorem length_advance_lt {c : Cursor} (h : c.advance.token ≠ c.token) :
    c.advance.rest.length < c.rest.length := by
  obtain ⟨l, redirects, ranges⟩ := c
  match l with
  | [] => exact absurd rfl h
  | [_] => exact absurd rfl h
  | _ :: _ :: _ => exact Nat.lt_succ_self _

/-- Looking behind the current token. -/
theorem peek_one {c : Cursor} {t : Token} (hc : c.token ≠ t) (ht : t ≠ .eof) :
    c.peek 1 = t ↔ c.advance.token = t := by
  obtain ⟨l, redirects, ranges⟩ := c
  match l with
  | [] => exact ⟨fun h => absurd h.symm ht, fun h => absurd h.symm ht⟩
  | [_] => exact ⟨fun h => absurd h.symm ht, fun h => absurd h hc⟩
  | _ :: _ :: _ => exact Iff.rfl

theorem getline_ahead_apply (p q : Parser α) (c : Cursor) :
    (do
      if (← Parser.token) = .symbol .pipe && (← Parser.peek 1) = .keyword .getline then
        Parser.advance
        Parser.advance
        p
      else q : Parser α) c =
      if c.token = .symbol .pipe ∧ c.advance.token = .keyword .getline then p c.advance.advance
      else q c := by
  have hsame : (decide (c.token = .symbol .pipe) && decide (c.peek 1 = .keyword .getline)) = true ↔
      c.token = .symbol .pipe ∧ c.advance.token = .keyword .getline := by
    rw [Bool.and_eq_true, decide_eq_true_eq, decide_eq_true_eq]
    exact and_congr_right fun hc => peek_one (by rw [hc]; nofun) nofun
  show (if decide (c.token = .symbol .pipe) && decide (c.peek 1 = .keyword .getline) then
      (do Parser.advance; Parser.advance; p) else q : Parser α) c = _
  by_cases h : c.token = .symbol .pipe ∧ c.advance.token = .keyword .getline
  · rw [if_pos h, if_pos (hsame.mpr h)]
    rfl
  · rw [if_neg h, if_neg (mt hsame.mp h)]

/-! Forks. -/

/-- How two texts go on behind what they begin with alike. -/
structure Fork where
  left : List Lexeme
  right : List Lexeme
  /-- Whether `>` may compare on the right where it redirects on the left. -/
  lifts : Prop
  left_ends : endsPrint (Cursor.start left).token = true
  right_ends : (Cursor.start right).token = .symbol .rparen ∨ (Cursor.start right).token = .eof
  nil_iff : left = [] ↔ right = []

namespace Fork

/-- A parser on the left and one on the right, equally far before the fork. -/
structure Beside (K : Fork) (c d : Cursor) : Prop where
  lexemes : ∃ l l', c.rest = l ++ K.left ∧ d.rest = l' ++ K.right ∧
    l'.map Lexeme.token = l.map Lexeme.token
  redirects : d.redirects = c.redirects ∨ K.lifts ∧ c.redirects = true

/-- A parser on the left has not gone past the fork, and is not stopped before it by a `>` that
does not stop the one on the right. -/
structure Before (K : Fork) (c : Cursor) : Prop where
  le : K.left.length ≤ c.rest.length
  free : K.lifts → c.redirects = true → c.token = .symbol .greater →
    c.rest.length ≤ K.left.length

variable {K : Fork} {c d : Cursor}

theorem token_of_left (h : c.rest = K.left) : endsPrint c.token = true := by
  have htoken : c.token = (Cursor.start K.left).token := by
    unfold Cursor.token Cursor.peek
    rw [h]
    rfl
  rw [htoken]
  exact K.left_ends

theorem token_of_right (h : d.rest = K.right) : d.token = .symbol .rparen ∨ d.token = .eof := by
  have htoken : d.token = (Cursor.start K.right).token := by
    unfold Cursor.token Cursor.peek
    rw [h]
    rfl
  rw [htoken]
  exact K.right_ends

theorem mem_closers_of_right (h : d.rest = K.right) : d.token ∈ closers := by
  rcases token_of_right h with h | h
  · rw [h]
    decide
  · rw [h]
    decide

namespace Beside

variable (h : K.Beside c d)

include h

/-- Both stand at the fork, or at lexemes that are alike. -/
theorem cases : (c.rest = K.left ∧ d.rest = K.right) ∨ c.rest ≠ K.left ∧ ∃ x l y l',
    c.rest = x :: (l ++ K.left) ∧ d.rest = y :: (l' ++ K.right) ∧ y.token = x.token ∧
      l'.map Lexeme.token = l.map Lexeme.token := by
  obtain ⟨l, l', hc, hd, htokens⟩ := h.lexemes
  cases l with
  | nil =>
    obtain rfl := List.map_eq_nil_iff.mp htokens
    exact .inl ⟨hc, hd⟩
  | cons x l =>
    obtain ⟨y, l', rfl, htoken, htokens⟩ := List.map_eq_cons_iff.mp htokens
    refine .inr ⟨fun hleft => ?_, x, l, y, l', hc, hd, htoken, htokens⟩
    have hlength := congrArg List.length (hc.symm.trans hleft)
    rw [List.length_append, List.length_cons] at hlength
    omega

theorem token : d.token = c.token ∨ (c.rest = K.left ∧ d.rest = K.right) := by
  rcases h.cases with hfork | ⟨-, x, l, y, l', hc, hd, htoken, -⟩
  · exact .inr hfork
  · refine .inl ?_
    unfold Cursor.token Cursor.peek
    rw [hc, hd]
    exact htoken

/-- With no more to come than from the fork on, the one on the left stands there. -/
theorem eq_left_of_le (hle : c.rest.length ≤ K.left.length) : c.rest = K.left := by
  obtain ⟨l, -, hc, -⟩ := h.lexemes
  rw [hc, List.length_append] at hle
  rw [hc, List.length_eq_zero_iff.mp (by omega : l.length = 0), List.nil_append]

/-- Before a token that ends no print list the two are not at the fork. -/
theorem token_of_not_ends (hc : endsPrint c.token = false) : d.token = c.token := by
  refine h.token.resolve_right fun hfork => ?_
  rw [token_of_left hfork.1] at hc
  cases hc

theorem token_eq_iff {t : Token} (ht : t ∉ closers) : d.token = t ↔ c.token = t := by
  rcases h.token with hd | ⟨hc, hd⟩
  · rw [hd]
  · refine ⟨?_, ?_⟩
    · rintro rfl
      exact absurd (mem_closers_of_right hd) ht
    · rintro rfl
      exact absurd (mem_closers_of_endsPrint (token_of_left hc)) ht

theorem advance (hc : c.rest ≠ K.left) : K.Beside c.advance d.advance := by
  rcases h.cases with hfork | ⟨-, x, l, y, l', hcrest, hdrest, -, htokens⟩
  · exact absurd hfork.1 hc
  · obtain ⟨lc, rc, kc⟩ := c
    obtain ⟨ld, rd, kd⟩ := d
    obtain rfl : lc = x :: (l ++ K.left) := hcrest
    obtain rfl : ld = y :: (l' ++ K.right) := hdrest
    have hnil : l ++ K.left = [] ↔ l' ++ K.right = [] := by
      rw [List.append_eq_nil_iff, List.append_eq_nil_iff, K.nil_iff,
        ← List.map_eq_nil_iff (f := Lexeme.token), ← htokens, List.map_eq_nil_iff]
    by_cases hl : l ++ K.left = []
    · -- Nothing comes behind the last lexeme, so it stays.
      obtain ⟨hl', hright⟩ := List.append_eq_nil_iff.mp (hnil.mp hl)
      obtain ⟨hl, hleft⟩ := List.append_eq_nil_iff.mp hl
      rw [hl, hleft, hl', hright] at h ⊢
      exact h
    · rw [advance_cons hl, advance_cons (fun h => hl (hnil.mpr h))]
      exact ⟨⟨l, l', rfl, rfl, htokens⟩, h.redirects⟩

theorem skipNewlines (hbefore : K.left.length ≤ (c.skip (· = .newline)).rest.length) :
    K.Beside (c.skip (· = .newline)) (d.skip (· = .newline)) := by
  obtain ⟨l, l', hc, hd, htokens⟩ := h.lexemes
  obtain ⟨lc, rc, kc⟩ := c
  obtain ⟨ld, rd, kd⟩ := d
  obtain rfl : lc = l ++ K.left := hc
  obtain rfl : ld = l' ++ K.right := hd
  refine ⟨?_, h.redirects⟩
  show ∃ k k', (l ++ K.left).dropWhile (·.token = .newline) = k ++ K.left ∧
    (l' ++ K.right).dropWhile (·.token = .newline) = k' ++ K.right ∧ _
  replace hbefore : K.left.length ≤ ((l ++ K.left).dropWhile (·.token = .newline)).length := hbefore
  clear h
  induction l generalizing l' with
  | nil =>
    obtain rfl := List.map_eq_nil_iff.mp htokens
    refine ⟨[], [], ?_, ?_, rfl⟩
    · exact (List.dropWhile_suffix _).eq_of_length_le hbefore
    · have hright := token_of_right (K := K) (d := ⟨K.right, rd, kd⟩) rfl
      exact congrArg Cursor.rest (skip_of_ne (P := (· = .newline)) (c := ⟨K.right, rd, kd⟩) (by
        rcases hright with h | h <;> rw [h] <;> rfl))
  | cons x l ih =>
    obtain ⟨y, l', rfl, htoken, htokens⟩ := List.map_eq_cons_iff.mp htokens
    by_cases hx : x.token = .newline
    · simp only [List.cons_append, List.dropWhile_cons, hx, htoken, decide_true, if_true]
        at hbefore ⊢
      exact ih l' htokens hbefore
    · simp only [List.cons_append, List.dropWhile_cons, hx, htoken, decide_false,
        Bool.false_eq_true, if_false]
      exact ⟨x :: l, y :: l', rfl, rfl, by rw [List.map_cons, List.map_cons, htoken, htokens]⟩

end Beside

/-- What is not past the fork behind a lexeme that may be taken was not before it. -/
theorem Before.of_advance (h : K.Before c.advance) (hc : c.token ≠ .symbol .greater) : K.Before c :=
  ⟨Nat.le_trans h.le (length_advance_le c), fun _ _ ht => absurd ht hc⟩

/-- What `p` comes to on the left without going past the fork, `q` comes to on the right. -/
def Follows (K : Fork) (T : Token → Prop) (p q : Parser α) : Prop :=
  ∀ c a c', T c.token → p c = some (.ok a, c') → K.Before c' →
    K.Before c ∧ ∀ d, K.Beside c d → ∃ d', q d = some (.ok a, d') ∧ K.Beside c' d'

namespace Follows

variable {T : Token → Prop} {p p' q q' : Parser α}

theorem pure (a : α) : K.Follows T (Pure.pure a) (Pure.pure a) := by
  rintro c _ _ - ⟨⟩ hbefore
  exact ⟨hbefore, fun d hcd => ⟨d, rfl, hcd⟩⟩

/-- What comes to no result. -/
theorem nothing (hp : Ensures p fun _ => False) : K.Follows T p q :=
  fun c a c' _ h => (hp c a c' h).elim

theorem weaken {U : Token → Prop} (h : K.Follows U p q) (hT : ∀ t, T t → U t) : K.Follows T p q :=
  fun c a c' hc => h c a c' (hT _ hc)

theorem on (h : K.Follows anyToken p q) : K.Follows T p q := h.weaken fun _ _ => trivial

theorem bind {f g : α → Parser β} (hp : K.Follows T p q)
    (hf : ∀ a, K.Follows anyToken (f a) (g a)) : K.Follows T (p >>= f) (q >>= g) := by
  intro c b c' hT h hbefore
  obtain ⟨a, c₁, ha, hb⟩ := bind_eq_ok h
  obtain ⟨hbefore₁, hright⟩ := hf a c₁ b c' trivial hb hbefore
  obtain ⟨hbefore₀, hleft⟩ := hp c a c₁ hT ha hbefore₁
  refine ⟨hbefore₀, fun d hcd => ?_⟩
  obtain ⟨d₁, hd₁, hcd₁⟩ := hleft d hcd
  obtain ⟨d', hd', hcd'⟩ := hright d₁ hcd₁
  exact ⟨d', (bind_ok hd₁).trans hd', hcd'⟩

theorem ite {x : Prop} [Decidable x] (hp : K.Follows T p q) (hq : K.Follows T p' q') :
    K.Follows T (if x then p else p') (if x then q else q') := by
  split
  · exact hp
  · exact hq

/-- Looking at the current token, where all closing tokens are taken alike. -/
theorem token {f g : Token → Parser α} (hg : ∀ t ∈ closers, g t = g .eof)
    (h : ∀ t, T t → K.Follows (· = t) (f t) (g t)) :
    K.Follows T (Parser.token >>= f) (Parser.token >>= g) := by
  intro c a c' hT hc hbefore
  obtain ⟨hbefore₀, hright⟩ := h c.token hT c a c' rfl hc hbefore
  refine ⟨hbefore₀, fun d hcd => ?_⟩
  have hd : g d.token = g c.token := by
    rcases hcd.token with hd | ⟨hleft, hd⟩
    · rw [hd]
    · rw [hg _ (mem_closers_of_right hd), hg _ (mem_closers_of_endsPrint (token_of_left hleft))]
  show ∃ d', g d.token d = some (.ok a, d') ∧ K.Beside c' d'
  rw [hd]
  exact hright d hcd

theorem span {f g : Span → Parser α} (h : ∀ x y, K.Follows T (f x) (g y)) :
    K.Follows T (Parser.span >>= f) (Parser.span >>= g) := by
  intro c a c' hT hc hbefore
  exact ⟨(h c.span c.span c a c' hT hc hbefore).1, fun d hcd =>
    (h c.span d.span c a c' hT hc hbefore).2 d hcd⟩

/-- Taking a lexeme that ends no print list. -/
theorem advance_of (hT : ∀ t, T t → endsPrint t = false) (hp : K.Follows anyToken p q) :
    K.Follows T (do Parser.advance; p) (do Parser.advance; q) := by
  intro c a c' hc h hbefore
  obtain ⟨hbefore₁, hright⟩ := hp c.advance a c' trivial h hbefore
  have hends := hT _ hc
  refine ⟨hbefore₁.of_advance fun ht => ?_, fun d hcd => ?_⟩
  · rw [ht] at hends
    cases hends
  · refine hright d.advance (hcd.advance fun hleft => ?_)
    rw [token_of_left hleft] at hends
    cases hends

theorem advance {t : Token} (ht : endsPrint t = false) (hp : K.Follows anyToken p q) :
    K.Follows (· = t) (do Parser.advance; p) (do Parser.advance; q) :=
  advance_of (fun _ hu => hu ▸ ht) hp

theorem check {t : Token} (ht : t ∉ closers) (hyes : K.Follows (· = t) p q)
    (hno : K.Follows T p' q') :
    K.Follows T (do if ← Parser.check t then p else p')
      (do if ← Parser.check t then q else q') := by
  intro c a c' hT h hbefore
  rw [check_ite_apply] at h
  simp only [check_ite_apply]
  split at h
  · rename_i hc
    obtain ⟨hbefore₀, hright⟩ := hyes c a c' hc h hbefore
    refine ⟨hbefore₀, fun d hcd => ?_⟩
    rw [if_pos ((hcd.token_eq_iff ht).mpr hc)]
    exact hright d hcd
  · rename_i hc
    obtain ⟨hbefore₀, hright⟩ := hno c a c' hT h hbefore
    refine ⟨hbefore₀, fun d hcd => ?_⟩
    rw [if_neg fun hd => hc ((hcd.token_eq_iff ht).mp hd)]
    exact hright d hcd

theorem eat {t : Token} (ht : t ∉ closers) (hyes : K.Follows anyToken p q)
    (hno : K.Follows T p' q') :
    K.Follows T (do if ← Parser.eat t then p else p') (do if ← Parser.eat t then q else q') := by
  have htake := advance (endsPrint_of_not_mem ht) hyes
  have heat (p p' : Parser α) : (do if ← Parser.eat t then p else p') =
      (do if ← Parser.check t then (do Parser.advance; p) else p' : Parser α) := by
    funext c
    rw [eat_ite_apply, check_ite_apply]
    rfl
  rw [heat, heat]
  exact check ht htake hno

/-- Taking a delimiter. On the left it cannot stand at the fork. -/
theorem expect {s : Symbol} (hs : endsPrint (.symbol s) = false) (hp : K.Follows anyToken p q) :
    K.Follows T (do Parser.expect s; p) (do Parser.expect s; q) := by
  intro c a c' _ h hbefore
  rw [expect_bind_apply] at h
  simp only [expect_bind_apply]
  split at h
  · rename_i hc
    obtain ⟨hbefore₀, hright⟩ := advance hs hp c a c' hc h hbefore
    refine ⟨hbefore₀, fun d hcd => ?_⟩
    rw [if_pos ((hcd.token_of_not_ends (hc ▸ hs)).trans hc)]
    exact hright d hcd
  · cases h

/-- Whether a list is closed before it begins: where it is not, something is to come that starts
with no closing token. -/
theorem closed {s : Symbol} (hs : endsPrint (.symbol s) = false) (hrefuses : Refuses p')
    (hyes : K.Follows (· = .symbol s) p q) (hno : K.Follows anyToken p' q') :
    K.Follows T (do if ← Parser.check (.symbol s) then p else p')
      (do if ← Parser.check (.symbol s) then q else q') := by
  intro c a c' _ h hbefore
  rw [check_ite_apply] at h
  simp only [check_ite_apply]
  split at h
  · rename_i hc
    obtain ⟨hbefore₀, hright⟩ := hyes c a c' hc h hbefore
    refine ⟨hbefore₀, fun d hcd => ?_⟩
    rw [if_pos ((hcd.token_of_not_ends (hc ▸ hs)).trans hc)]
    exact hright d hcd
  · rename_i hc
    have hends := endsPrint_of_not_mem (hrefuses c a c' h)
    obtain ⟨hbefore₀, hright⟩ := hno c a c' trivial h hbefore
    refine ⟨hbefore₀, fun d hcd => ?_⟩
    rw [if_neg (by rw [hcd.token_of_not_ends hends]; exact hc)]
    exact hright d hcd

theorem skipNewlines (hp : K.Follows anyToken p q) :
    K.Follows T (do Parser.skipNewlines; p) (do Parser.skipNewlines; q) := by
  intro c a c' _ h hbefore
  obtain ⟨hbefore₁, hright⟩ := hp (c.skip (· = .newline)) a c' trivial h hbefore
  refine ⟨⟨hbefore₁.le.trans (length_skip_le _ c), fun hlifts hredirects hc => ?_⟩, fun d hcd =>
    hright _ (hcd.skipNewlines hbefore₁.le)⟩
  rw [skip_of_ne (by rw [hc]; rfl)] at hbefore₁
  exact hbefore₁.free hlifts hredirects hc

/-- A command whose output is read: what is taken as one on the left is not at the fork. -/
theorem getline_ahead (hyes : K.Follows anyToken p q) (hno : K.Follows T p' q') :
    K.Follows T
      (do
        if (← Parser.token) = .symbol .pipe && (← Parser.peek 1) = .keyword .getline then
          Parser.advance
          Parser.advance
          p
        else p')
      (do
        if (← Parser.token) = .symbol .pipe && (← Parser.peek 1) = .keyword .getline then
          Parser.advance
          Parser.advance
          q
        else q') := by
  intro c a c' hT h hbefore
  rw [getline_ahead_apply] at h
  simp only [getline_ahead_apply]
  split at h
  · rename_i hc
    obtain ⟨hbefore₁, hright⟩ := hyes c.advance.advance a c' trivial h hbefore
    have hnext : endsPrint c.advance.token = false := by
      rw [hc.2]
      rfl
    have hplace : c.rest ≠ K.left := by
      intro hleft
      have hle := hbefore₁.le.trans (length_advance_le c.advance)
      rw [← hleft] at hle
      refine Nat.not_lt.mpr hle (length_advance_lt ?_)
      rw [hc.1, hc.2]
      nofun
    refine ⟨(hbefore₁.of_advance ?_).of_advance ?_, fun d hcd => ?_⟩
    · rw [hc.2]
      nofun
    · rw [hc.1]
      nofun
    · have hcd₁ := hcd.advance hplace
      have hd : d.token = c.token := hcd.token.resolve_right fun hfork => hplace hfork.1
      rw [if_pos ⟨hd.trans hc.1, (hcd₁.token_of_not_ends hnext).trans hc.2⟩]
      refine hright _ (hcd₁.advance fun hleft => ?_)
      rw [token_of_left hleft] at hnext
      cases hnext
  · rename_i hc
    obtain ⟨hbefore₀, hright⟩ := hno c a c' hT h hbefore
    refine ⟨hbefore₀, fun d hcd => ?_⟩
    rw [if_neg]
    · exact hright d hcd
    · rintro ⟨hpipe, hgetline⟩
      rcases hcd.cases with ⟨-, hfork⟩ | ⟨hplace, -⟩
      · rcases token_of_right hfork with h | h <;> rw [hpipe] at h <;> cases h
      · have hd : d.token = c.token := hcd.token.resolve_right fun hfork => hplace hfork.1
        exact hc ⟨hd.symm.trans hpipe, ((hcd.advance hplace).token_eq_iff (by decide)).mp hgetline⟩

/-- Reading `>` as a comparison in what does not start with it. -/
theorem withRedirects (hstays : Stays p)
    (hstarts : ∀ c a c', p c = some (.ok a, c') → c.token ≠ .symbol .greater)
    (hp : K.Follows anyToken p q) :
    K.Follows T (Parser.withRedirects false p) (Parser.withRedirects false q) := by
  intro c a c' _ h hbefore
  obtain ⟨c₁, hc₁, rfl⟩ := withRedirects_ok h
  have hmode : c₁.redirects = false := by
    obtain ⟨_, rfl⟩ := hstays _ _ _ hc₁
    rfl
  have hbefore₁ : K.Before c₁ :=
    ⟨hbefore.le, fun _ hredirects => absurd (hmode.symm.trans hredirects) Bool.false_ne_true⟩
  have hstart := hstarts _ a c₁ hc₁
  obtain ⟨hbefore₀, hright⟩ := hp _ a c₁ trivial hc₁ hbefore₁
  refine ⟨⟨hbefore₀.le, fun _ _ ht => absurd ht hstart⟩, fun d hcd => ?_⟩
  obtain ⟨d₁, hd₁, hcd₁⟩ := hright { d with redirects := false } ⟨hcd.lexemes, .inl rfl⟩
  refine ⟨{ d₁ with redirects := d.redirects }, ?_, ⟨hcd₁.lexemes, hcd.redirects⟩⟩
  unfold Parser.withRedirects
  rw [hd₁]

end Follows

end Fork

end Awk.Parser
