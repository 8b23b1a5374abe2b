import Mathlib.Logic.Function.Iterate
import Awk.Proofs.Grammar.Stays

/-! Changes of the lexemes that the parser reads which it takes no notice of: what it comes to before
the change, it comes to after it. A change is given by what its steps along the lexemes are; a
parser carries every change over if its parts do. With a result comes how much of the lexemes it
has taken, so that the fuel for what follows can be counted. -/

namespace Awk

namespace Token

/-- Behind these tokens newlines count for nothing. -/
def opens : Token → Bool
  | .symbol .lbrace | .symbol .andand | .symbol .oror | .symbol .comma => true
  | .keyword .do_ | .keyword .else_ => true
  | _ => false

/-- Neither the end nor one of the tokens that newlines may follow. -/
def plain : Token → Bool
  | .eof => false
  | t => !t.opens

/-- Newlines, and the tokens that are not plain. -/
def bounds : List Token :=
  [.newline, .eof, .symbol .lbrace, .symbol .andand, .symbol .oror, .symbol .comma,
   .keyword .do_, .keyword .else_]

theorem plain_of_not_mem {t : Token} (h : t ∉ bounds) : t.plain = true := by
  unfold plain opens
  split
  · simp [bounds] at h
  · split <;> first | rfl | simp [bounds] at h

theorem plain_of_some {γ : Type} {f : Token → Option γ} (hf : ∀ t ∈ bounds, f t = none) {t : Token}
    {o : γ} (ht : f t = some o) : t.plain = true :=
  plain_of_not_mem fun hmem => by
    rw [hf t hmem] at ht
    cases ht

end Token

namespace Parser

/-- A change of the lexemes and of what else the parser knows. -/
structure Change where
  /-- Which lexemes become which. -/
  Lexemes : List Lexeme → List Lexeme → Prop
  /-- Which places of the text become which. -/
  Place : Span → Span → Prop
  /-- The range patterns met before. -/
  ranges : Nat
  /-- Whether a newline and more comes where the lexemes ended. -/
  goesOn : Prop
  some_left : ∀ {l l'}, Lexemes l l' → l ≠ []
  some_right : ∀ {l l'}, Lexemes l l' → l' ≠ []
  token : ∀ {x l y l'}, Lexemes (x :: l) (y :: l') →
    y.token = x.token ∨ goesOn ∧ x.token = .eof ∧ y.token = .newline
  place : ∀ {x l y l'}, Lexemes (x :: l) (y :: l') → Place x.span y.span
  merge : ∀ {a a' b b'}, Place a a' → Place b b' → Place (a.merge b) (a'.merge b')
  next : ∀ {x l y l'}, Lexemes (x :: l) (y :: l') → x.token.plain = true → Lexemes l l'
  /-- Newlines behind an opening token may become more or fewer. -/
  opens : ∀ {x l y l'}, Lexemes (x :: l) (y :: l') → x.token.opens = true →
    Lexemes l l' ∨
      Lexemes (l.dropWhile (·.token = .newline)) (l'.dropWhile (·.token = .newline))
  last : ∀ {x l l'}, goesOn → Lexemes (x :: l) l' → x.token = .eof → l = []
  /-- Where more comes, it does not go on with an `else`. -/
  noElse : ∀ {x l l'}, goesOn → Lexemes (x :: l) l' → x.token = .eof →
    ((l'.dropWhile fun y => terminates y.token).head?.map Lexeme.token) ≠ some (.keyword .else_)

variable {M : Change}

theorem plain_lt_succ {c : Cursor} {k : Nat} {t : Token} (h : ∀ i < k, (c.peek i).plain = true)
    (hk : c.peek k = t) (ht : t.plain = true) : ∀ i < k + 1, (c.peek i).plain = true := by
  intro i hi
  rcases Nat.lt_succ_iff_lt_or_eq.mp hi with hi | rfl
  · exact h i hi
  · rw [hk]
    exact ht

/-- What the change makes of a cursor. -/
structure Change.Turns (M : Change) (c d : Cursor) : Prop where
  lexemes : M.Lexemes c.rest d.rest
  redirects : d.redirects = c.redirects
  ranges : d.ranges = M.ranges + c.ranges

theorem advance_cons {x : Lexeme} {l : List Lexeme} (hl : l ≠ []) (redirects : Bool) (ranges : Nat) :
    Cursor.advance ⟨x :: l, redirects, ranges⟩ = ⟨l, redirects, ranges⟩ := by
  cases l with
  | nil => exact absurd rfl hl
  | cons y l => rfl

namespace Change

/-- Tokens that are not the end are left out on both sides; where the end is come to, more may
follow. -/
theorem dropWhile {p : Token → Bool} (hp : ∀ t, p t = true → t.plain = true) {l l' : List Lexeme}
    (h : M.Lexemes l l') :
    ∃ k, M.Lexemes (l.dropWhile (p ·.token)) k ∧
      k.dropWhile (p ·.token) = l'.dropWhile (p ·.token) ∧
      (k = l'.dropWhile (p ·.token) ∨
        M.goesOn ∧ ∃ x, l.dropWhile (p ·.token) = [x] ∧ x.token = .eof) := by
  induction l generalizing l' with
  | nil => exact absurd rfl (M.some_left h)
  | cons x l ih =>
    obtain ⟨y, l', rfl⟩ := List.exists_cons_of_ne_nil (M.some_right h)
    by_cases hx : p x.token = true
    · have hy : y.token = x.token := by
        refine (M.token h).resolve_right fun hend => ?_
        have := hp _ hx
        rw [hend.2.1] at this
        cases this
      simp only [List.dropWhile_cons, hy, hx, if_true]
      exact ih (M.next h (hp _ hx))
    · have hxl : (x :: l).dropWhile (p ·.token) = x :: l := by
        simp only [List.dropWhile_cons, hx, Bool.false_eq_true, if_false]
      rw [hxl]
      refine ⟨y :: l', h, rfl, ?_⟩
      rcases M.token h with hy | ⟨hmore, hend, -⟩
      · simp only [List.dropWhile_cons, hy, hx, Bool.false_eq_true, if_false, true_or]
      · exact .inr ⟨hmore, x, by rw [M.last hmore h hend], hend⟩

end Change

namespace Change.Turns

variable {c d : Cursor} (h : M.Turns c d)

include h

theorem length_pos : 0 < c.rest.length := List.length_pos_iff.mpr (M.some_left h.lexemes)

theorem token : d.token = c.token ∨ M.goesOn ∧ c.token = .eof ∧ d.token = .newline := by
  obtain ⟨l, redirects, ranges⟩ := c
  obtain ⟨l', redirects', ranges'⟩ := d
  obtain ⟨x, l, rfl⟩ := List.exists_cons_of_ne_nil (M.some_left h.lexemes)
  obtain ⟨y, l', rfl⟩ := List.exists_cons_of_ne_nil (M.some_right h.lexemes)
  exact M.token h.lexemes

theorem token_eq_iff {t : Token} (hend : t ≠ .eof) (hnewline : t ≠ .newline) :
    d.token = t ↔ c.token = t := by
  rcases h.token with hd | ⟨-, hc, hd⟩
  · rw [hd]
  · rw [hc, hd]
    exact ⟨fun ht => absurd ht.symm hnewline, fun ht => absurd ht.symm hend⟩

theorem place : M.Place c.span d.span := by
  obtain ⟨l, redirects, ranges⟩ := c
  obtain ⟨l', redirects', ranges'⟩ := d
  obtain ⟨x, l, rfl⟩ := List.exists_cons_of_ne_nil (M.some_left h.lexemes)
  obtain ⟨y, l', rfl⟩ := List.exists_cons_of_ne_nil (M.some_right h.lexemes)
  exact M.place h.lexemes

theorem advance (hc : c.token.plain = true) :
    M.Turns c.advance d.advance ∧ c.advance.rest.length < c.rest.length := by
  obtain ⟨l, redirects, ranges⟩ := c
  obtain ⟨l', redirects', ranges'⟩ := d
  obtain ⟨x, l, rfl⟩ := List.exists_cons_of_ne_nil (M.some_left h.lexemes)
  obtain ⟨y, l', rfl⟩ := List.exists_cons_of_ne_nil (M.some_right h.lexemes)
  have hnext := M.next h.lexemes hc
  rw [advance_cons (M.some_left hnext), advance_cons (M.some_right hnext)]
  exact ⟨⟨hnext, h.redirects, h.ranges⟩, Nat.lt_succ_self _⟩

theorem peek_advance (hc : c.token.plain = true) (k : Nat) :
    c.advance.peek k = c.peek (k + 1) ∧ d.advance.peek k = d.peek (k + 1) := by
  obtain ⟨l, redirects, ranges⟩ := c
  obtain ⟨l', redirects', ranges'⟩ := d
  obtain ⟨x, l, rfl⟩ := List.exists_cons_of_ne_nil (M.some_left h.lexemes)
  obtain ⟨y, l', rfl⟩ := List.exists_cons_of_ne_nil (M.some_right h.lexemes)
  have hnext := M.next h.lexemes hc
  rw [advance_cons (M.some_left hnext), advance_cons (M.some_right hnext)]
  exact ⟨rfl, rfl⟩

/-- Along plain tokens the change goes on. -/
theorem ahead (k : Nat) (hplain : ∀ i < k, (c.peek i).plain = true) :
    M.Turns (Cursor.advance^[k] c) (Cursor.advance^[k] d) ∧
      (Cursor.advance^[k] c).rest.length + k ≤ c.rest.length ∧
      (Cursor.advance^[k] c).token = c.peek k ∧ (Cursor.advance^[k] d).token = d.peek k := by
  induction k generalizing c d with
  | zero => exact ⟨h, Nat.le_refl _, rfl, rfl⟩
  | succ k ih =>
    have hc : c.token.plain = true := hplain 0 (Nat.zero_lt_succ k)
    obtain ⟨turns, lt⟩ := h.advance hc
    obtain ⟨hturns, hle, hleft, hright⟩ := ih turns fun i hi => by
      rw [(h.peek_advance hc i).1]
      exact hplain (i + 1) (Nat.succ_lt_succ hi)
    refine ⟨hturns, ?_, hleft.trans (h.peek_advance hc k).1, hright.trans (h.peek_advance hc k).2⟩
    simp only [Function.iterate_succ_apply]
    omega

/-- Behind plain tokens the same is seen. -/
theorem peek_eq_iff {k : Nat} (hplain : ∀ i < k, (c.peek i).plain = true) {t : Token}
    (hend : t ≠ .eof) (hnewline : t ≠ .newline) : d.peek k = t ↔ c.peek k = t := by
  obtain ⟨turns, -, hleft, hright⟩ := h.ahead k hplain
  rw [← hleft, ← hright]
  exact turns.token_eq_iff hend hnewline

/-- Behind an opening token at least what is behind the newlines is changed into what is behind
them. -/
theorem advance_opens (hc : c.token.opens = true) :
    (M.Turns c.advance d.advance ∨
      M.Turns (c.advance.skip (· = .newline)) (d.advance.skip (· = .newline))) ∧
      c.advance.rest.length < c.rest.length := by
  obtain ⟨l, redirects, ranges⟩ := c
  obtain ⟨l', redirects', ranges'⟩ := d
  obtain ⟨x, l, rfl⟩ := List.exists_cons_of_ne_nil (M.some_left h.lexemes)
  obtain ⟨y, l', rfl⟩ := List.exists_cons_of_ne_nil (M.some_right h.lexemes)
  have hnext := M.opens h.lexemes hc
  have hl : l ≠ [] := by
    rintro rfl
    exact hnext.elim (fun hl => M.some_left hl rfl) fun hl => M.some_left hl rfl
  have hl' : l' ≠ [] := by
    rintro rfl
    exact hnext.elim (fun hl => M.some_right hl rfl) fun hl => M.some_right hl rfl
  rw [advance_cons hl, advance_cons hl']
  refine ⟨hnext.imp ?_ ?_, Nat.lt_succ_self _⟩
  · exact fun hl => ⟨hl, h.redirects, h.ranges⟩
  · exact fun hl => ⟨hl, h.redirects, h.ranges⟩

theorem skip {p : Token → Bool} (hp : ∀ t, p t = true → t.plain = true) :
    ∃ d₁, M.Turns (c.skip p) d₁ ∧ d₁.skip p = d.skip p ∧
      (d₁ = d.skip p ∨ M.goesOn ∧ (c.skip p).token = .eof ∧ (c.skip p).rest.length = 1) := by
  obtain ⟨k, hk, hdrop, hend⟩ := M.dropWhile hp h.lexemes
  refine ⟨{ d with rest := k }, ⟨hk, h.redirects, h.ranges⟩, ?_, ?_⟩
  · exact congrArg (fun rest => ({ d with rest } : Cursor)) hdrop
  · refine hend.imp (fun hk => congrArg (fun rest => ({ d with rest } : Cursor)) hk) ?_
    rintro ⟨hmore, x, hx, hxend⟩
    have hrest : (c.skip p).rest = [x] := hx
    refine ⟨hmore, ?_, by rw [hrest]; rfl⟩
    unfold Cursor.token Cursor.peek
    rw [hrest]
    exact hxend

/-- Up to a token that is not the end the same is left out. -/
theorem skip_of_ne_eof {p : Token → Bool} (hp : ∀ t, p t = true → t.plain = true)
    (hend : (c.skip p).token ≠ .eof) :
    M.Turns (c.skip p) (d.skip p) ∧ (d.skip p).token = (c.skip p).token := by
  obtain ⟨d₁, turns, -, hd⟩ := h.skip hp
  obtain rfl := hd.resolve_right fun hmore => hend hmore.2.1
  exact ⟨turns, turns.token.resolve_right fun hmore => hend hmore.2.1⟩

/-- Where the lexemes end and more comes, no `else` comes behind newlines and semicolons. -/
theorem no_else (hmore : M.goesOn) (hend : c.token = .eof) :
    (d.skip terminates).token ≠ .keyword .else_ := by
  obtain ⟨l, redirects, ranges⟩ := c
  obtain ⟨x, l, rfl⟩ := List.exists_cons_of_ne_nil (M.some_left h.lexemes)
  have hno := M.noElse hmore h.lexemes hend
  intro helse
  refine hno ?_
  have hrest : (d.skip terminates).rest = d.rest.dropWhile fun y => terminates y.token := rfl
  unfold Cursor.token Cursor.peek at helse
  rw [hrest] at helse
  generalize d.rest.dropWhile _ = k at helse ⊢
  cases k with
  | nil => cases helse
  | cons y k => exact congrArg some helse

end Change.Turns

/-! Parsers that carry a change over. -/

variable {α β γ δ : Type}

/-- What is come to from `c`, and from what the change makes of `c`: results that go together, and
cursors that do; or an error, and the same error unless more comes where it found the end. A result
has taken some lexemes if `strict`. -/
inductive Change.Outcome (M : Change) (strict : Bool) (R : α → β → Prop) (c : Cursor) :
    Option (Except SyntaxError α × Cursor) → Option (Except SyntaxError β × Cursor) → Prop
  | ok {a : α} {b : β} {c' d' : Cursor} (result : R a b) (turns : M.Turns c' d')
      (le : c'.rest.length ≤ c.rest.length)
      (lt : strict = true → c'.rest.length < c.rest.length) :
      Outcome M strict R c (some (.ok a, c')) (some (.ok b, d'))
  | error {e : SyntaxError} {c' : Cursor} {r : Option (Except SyntaxError β × Cursor)}
      (same : ¬ M.goesOn → ∃ e' d', r = some (.error e', d') ∧ e'.cause = e.cause ∧
        M.Place e.span e'.span) :
      Outcome M strict R c (some (.error e, c')) r

/-- What is come to from farther on. -/
theorem Change.Outcome.before {s strict : Bool} {R : α → β → Prop} {c c₁ : Cursor}
    {l : Option (Except SyntaxError α × Cursor)} {r : Option (Except SyntaxError β × Cursor)}
    (h : M.Outcome s R c₁ l r) (le : c₁.rest.length ≤ c.rest.length)
    (hs : strict = true → s = true ∨ c₁.rest.length < c.rest.length) :
    M.Outcome strict R c l r := by
  cases h with
  | ok result turns le' lt =>
    refine .ok result turns (Nat.le_trans le' le) fun hstrict => ?_
    rcases hs hstrict with hs | lt'
    · exact Nat.lt_of_lt_of_le (lt hs) le
    · exact Nat.lt_of_le_of_lt le' lt'
  | error same => exact .error same

/-- From cursors with at most `b` lexemes to come, the first of them such that `T`, the parser `p`
comes to a result or an error, and the change carries it over to `q`. -/
def Change.Carries (M : Change) (T : Token → Prop) (b : Nat) (strict : Bool) (R : α → β → Prop)
    (p : Parser α) (q : Parser β) : Prop :=
  ∀ c d, M.Turns c d → T c.token → c.rest.length ≤ b → M.Outcome strict R c (p c) (q d)

/-- What comes to a result before the change comes to one after it. -/
theorem Change.Carries.of_ok {T : Token → Prop} {b : Nat} {strict : Bool} {R : α → β → Prop}
    {p : Parser α} {q : Parser β} (h : M.Carries T b strict R p q) {c c' d : Cursor} {a : α}
    (hcd : M.Turns c d) (hT : T c.token) (hb : c.rest.length ≤ b)
    (hp : p c = some (.ok a, c')) :
    ∃ a' d', q d = some (.ok a', d') ∧ R a a' ∧ M.Turns c' d' ∧
      (strict = true → c'.rest.length < c.rest.length) := by
  have hout := h c d hcd hT hb
  rw [hp] at hout
  generalize q d = r at hout
  cases hout with
  | ok result turns _ lt => exact ⟨_, _, rfl, result, turns, lt⟩

/-- Any token. -/
def anyToken : Token → Prop := fun _ => True

namespace Change.Carries

variable {T : Token → Prop} {b : Nat} {strict s : Bool} {R : α → β → Prop} {Q : γ → δ → Prop}
  {p : Parser α} {q : Parser β}

theorem pure {a : α} {a' : β} (h : R a a') :
    M.Carries T b false R (Pure.pure a) (Pure.pure a') :=
  fun _ _ hcd _ _ => .ok h hcd (Nat.le_refl _) nofun

theorem fail {cause : SyntaxCause} {place place' : Span} (h : M.Place place place') :
    M.Carries T b strict R (Parser.fail cause place) (Parser.fail cause place') :=
  fun _ d _ _ _ => .error fun _ => ⟨⟨cause, place'⟩, d, rfl, rfl, h⟩

theorem failUnexpected : M.Carries T b strict R Parser.failUnexpected Parser.failUnexpected := by
  intro c d hcd _ _
  refine .error fun hends => ⟨⟨.unexpected d.token, d.span⟩, d, rfl, ?_, hcd.place⟩
  exact congrArg SyntaxCause.unexpected (hcd.token.resolve_right fun h => hends h.1)

theorem failExpected {what : String} :
    M.Carries T b strict R (Parser.failExpected what) (Parser.failExpected what) := by
  intro c d hcd _ _
  refine .error fun hends => ⟨⟨.expected what d.token, d.span⟩, d, rfl, ?_, hcd.place⟩
  exact congrArg (SyntaxCause.expected what) (hcd.token.resolve_right fun h => hends h.1)

/-- No cursor has no lexemes. -/
theorem nothing : M.Carries T 0 strict R p q := fun _ _ hcd _ hb =>
  absurd hcd.length_pos (Nat.not_lt.mpr hb)

theorem on (h : M.Carries anyToken b strict R p q) : M.Carries T b strict R p q :=
  fun c d hcd _ => h c d hcd trivial

theorem of_token {t : Token} (h : M.Carries T b strict R p q) (ht : T t) :
    M.Carries (· = t) b strict R p q :=
  fun c d hcd hc => h c d hcd (hc ▸ ht)

theorem weaken (h : M.Carries T b true R p q) : M.Carries T b strict R p q := by
  intro c d hcd hT hb
  exact (h c d hcd hT hb).before (Nat.le_refl _) fun _ => .inl rfl

/-- What is known of the results before the change. -/
theorem ensures {Q : α → Prop} (h : M.Carries T b strict R p q) (hp : Ensures p Q) :
    M.Carries T b strict (fun a b => R a b ∧ Q a) p q := by
  intro c d hcd hT hb
  have hout := h c d hcd hT hb
  generalize hl : p c = l, q d = r at hout ⊢
  cases hout with
  | ok result turns le lt => exact .ok ⟨result, hp c _ _ hl⟩ turns le lt
  | error same => exact .error same

/-- Fewer lexemes to come are fewer cursors. -/
theorem mono {b' : Nat} (hb : b' ≤ b) (h : M.Carries T b strict R p q) :
    M.Carries T b' strict R p q :=
  fun c d hcd hT hc => h c d hcd hT (Nat.le_trans hc hb)

theorem ite {x : Prop} [Decidable x] {p' : Parser α} {q' : Parser β}
    (hp : M.Carries T b strict R p q) (hq : M.Carries T b strict R p' q') :
    M.Carries T b strict R (if x then p else p') (if x then q else q') := by
  split
  · exact hp
  · exact hq

end Change.Carries

/-- One step after the other, from two cursors that go together. -/
theorem Change.Outcome.bind {s s' strict : Bool} {R : α → β → Prop} {Q : γ → δ → Prop}
    {p : Parser γ} {q : Parser δ} {f : γ → Parser α} {g : δ → Parser β} {c d : Cursor}
    (h : M.Outcome s Q c (p c) (q d)) (hs : strict = true → s = true ∨ s' = true)
    (hf : ∀ a a' c₁ d₁, Q a a' → M.Turns c₁ d₁ → c₁.rest.length ≤ c.rest.length →
      (s = true → c₁.rest.length < c.rest.length) → M.Outcome s' R c₁ (f a c₁) (g a' d₁)) :
    M.Outcome strict R c ((p >>= f) c) ((q >>= g) d) := by
  rw [bind_apply, bind_apply]
  generalize p c = l, q d = r at h ⊢
  cases h with
  | @ok a a' c₁ d₁ result turns le lt =>
    exact (hf a a' c₁ d₁ result turns le lt).before le fun hstrict => (hs hstrict).symm.imp_right lt
  | error same =>
    refine .error fun hends => ?_
    obtain ⟨e', d', rfl, hcause, hplace⟩ := same hends
    exact ⟨e', d', rfl, hcause, hplace⟩

namespace Change.Carries

variable {T : Token → Prop} {b : Nat} {strict s : Bool} {R : α → β → Prop} {Q : γ → δ → Prop}
  {f : γ → Parser α} {g : δ → Parser β}

/-- One step after the other; of the results of the first it is to be known how they go together. -/
theorem bindRel {p : Parser γ} {q : Parser δ} (hp : M.Carries T b s Q p q)
    (hf : ∀ a a', Q a a' → M.Carries anyToken b strict R (f a) (g a')) :
    M.Carries T b strict R (p >>= f) (q >>= g) := by
  intro c d hcd hT hb
  refine (hp c d hcd hT hb).bind .inr fun a a' c₁ d₁ ha turns le _ => ?_
  exact hf a a' ha c₁ d₁ turns trivial (Nat.le_trans le hb)

theorem bind {p q : Parser γ} {g : γ → Parser β} (hp : M.Carries T b s Eq p q)
    (hf : ∀ a, M.Carries anyToken b strict R (f a) (g a)) :
    M.Carries T b strict R (p >>= f) (q >>= g) :=
  hp.bindRel fun a _ ha => ha ▸ hf a

/-- Behind a step that takes a lexeme there is one less. -/
theorem firstRel {p : Parser γ} {q : Parser δ} (hp : M.Carries T b true Q p q)
    (hf : 0 < b → ∀ a a', Q a a' → M.Carries anyToken (b - 1) false R (f a) (g a')) :
    M.Carries T b strict R (p >>= f) (q >>= g) := by
  intro c d hcd hT hb
  have hs : strict = true → true = true ∨ false = true := fun _ => .inl rfl
  refine (hp c d hcd hT hb).bind hs fun a a' c₁ d₁ ha turns _ lt => ?_
  have hlt := Nat.lt_of_lt_of_le (lt rfl) hb
  exact hf (Nat.zero_lt_of_lt hlt) a a' ha c₁ d₁ turns trivial (Nat.le_sub_one_of_lt hlt)

theorem first {p q : Parser γ} {g : γ → Parser β} (hp : M.Carries T b true Eq p q)
    (hf : 0 < b → ∀ a, M.Carries anyToken (b - 1) false R (f a) (g a)) :
    M.Carries T b strict R (p >>= f) (q >>= g) :=
  hp.firstRel fun hb a _ ha => ha ▸ hf hb a

/-! The steps along the lexemes. -/

variable {p p' : Parser α} {q q' : Parser β}

/-- Looking at the current token, where the end and a newline are taken alike. -/
theorem token {f : Token → Parser α} {g : Token → Parser β} (hend : g .eof = g .newline)
    (h : ∀ t, T t → M.Carries (· = t) b strict R (f t) (g t)) :
    M.Carries T b strict R (Parser.token >>= f) (Parser.token >>= g) := by
  intro c d hcd hT hb
  have h := h c.token hT c d hcd rfl hb
  show M.Outcome _ _ _ (f c.token c) (g d.token d)
  rcases hcd.token with hd | ⟨_, hc, hd⟩
  · rw [hd]
    exact h
  · rw [hd, ← hend, ← hc]
    exact h

theorem span {f : Span → Parser α} {g : Span → Parser β}
    (h : ∀ x y, M.Place x y → M.Carries T b strict R (f x) (g y)) :
    M.Carries T b strict R (Parser.span >>= f) (Parser.span >>= g) :=
  fun c d hcd hT hb => h c.span d.span hcd.place c d hcd hT hb

theorem check {t : Token} (hend : t ≠ .eof) (hnewline : t ≠ .newline)
    (hyes : T t → M.Carries (· = t) b strict R p q) (hno : M.Carries T b strict R p' q') :
    M.Carries T b strict R (do if ← Parser.check t then p else p')
      (do if ← Parser.check t then q else q') := by
  intro c d hcd hT hb
  rw [check_ite_apply, check_ite_apply]
  simp only [hcd.token_eq_iff hend hnewline]
  split
  · rename_i hc
    exact hyes (hc ▸ hT) c d hcd hc hb
  · exact hno c d hcd hT hb

end Change.Carries

/-! Tokens that are taken. -/

/-- What comes first in `p` is to leave out newlines. -/
def Skips (p : Parser α) : Prop := ∀ c, p (c.skip (· = .newline)) = p c

theorem dropWhile_dropWhile_of_imp {ι : Type} {p q : ι → Bool} (h : ∀ x, p x = true → q x = true)
    (l : List ι) : (l.dropWhile p).dropWhile q = l.dropWhile q := by
  induction l with
  | nil => rfl
  | cons x l ih =>
    by_cases hp : p x = true
    · simp only [List.dropWhile_cons, hp, h x hp, if_true, ih]
    · simp only [List.dropWhile_cons, hp, Bool.false_eq_true, if_false]

namespace Skips

theorem newlines (p : Parser α) : Skips (do skipNewlines; p) := fun c =>
  congrArg (fun rest => p { c with rest }) (dropWhile_dropWhile_of_imp (fun _ h => h) c.rest)

theorem terminators (p : Parser α) : Skips (do skipTerminators; p) := fun c =>
  congrArg (fun rest => p { c with rest })
    (dropWhile_dropWhile_of_imp (fun _ h => Bool.or_eq_true_iff.mpr (.inl h)) c.rest)

theorem outOfFuel : Skips (Parser.outOfFuel : Parser α) := fun _ => rfl

theorem bind {p : Parser γ} (hp : Skips p) (f : γ → Parser α) : Skips (p >>= f) := fun c => by
  rw [bind_apply, bind_apply, hp c]

end Skips

/-- Behind the token `t`, the change goes on with `p` and `q`. -/
inductive Past (t : Token) (p : Parser α) (q : Parser β) : Prop
  | plain (h : t.plain = true)
  | opens (h : t.opens = true) (left : Skips p) (right : Skips q)

theorem Past.ne_eof {t : Token} {p : Parser α} {q : Parser β} (h : Past t p q) : t ≠ .eof := by
  rintro rfl
  rcases h with h | h
  · cases h
  · cases h

theorem length_skip_le (P : Token → Bool) (c : Cursor) : (c.skip P).rest.length ≤ c.rest.length :=
  (List.dropWhile_suffix _).length_le

/-- Where the current token is taken, less is to come. -/
theorem Change.Turns.past {strict : Bool} {b : Nat} {R : α → β → Prop} {p : Parser α}
    {q : Parser β} {c d : Cursor} (hcd : M.Turns c d) (hpast : Past c.token p q)
    (hb : c.rest.length ≤ b) (h : 0 < b → M.Carries anyToken (b - 1) false R p q) :
    M.Outcome strict R c (p c.advance) (q d.advance) := by
  have hstep : ∃ c₁ d₁, M.Turns c₁ d₁ ∧ c₁.rest.length < c.rest.length ∧
      p c₁ = p c.advance ∧ q d₁ = q d.advance := by
    rcases hpast with hplain | ⟨hopens, hp, hq⟩
    · obtain ⟨turns, lt⟩ := hcd.advance hplain
      exact ⟨_, _, turns, lt, rfl, rfl⟩
    · obtain ⟨turns | turns, lt⟩ := hcd.advance_opens hopens
      · exact ⟨_, _, turns, lt, rfl, rfl⟩
      · exact ⟨_, _, turns, Nat.lt_of_le_of_lt (length_skip_le _ _) lt, hp _, hq _⟩
  obtain ⟨c₁, d₁, turns, lt, hp, hq⟩ := hstep
  have hlt := Nat.lt_of_lt_of_le lt hb
  have h := h (Nat.zero_lt_of_lt hlt) c₁ d₁ turns trivial (Nat.le_sub_one_of_lt hlt)
  rw [← hp, ← hq]
  exact h.before (Nat.le_of_lt lt) fun _ => .inr lt

/-- Where plain tokens are taken. -/
theorem Change.Turns.past_ahead {strict : Bool} {b : Nat} {R : α → β → Prop} {p : Parser α}
    {q : Parser β} {c d : Cursor} (hcd : M.Turns c d) {k : Nat} (hk : 0 < k)
    (hplain : ∀ i < k, (c.peek i).plain = true) (hb : c.rest.length ≤ b)
    (h : 0 < b → M.Carries anyToken (b - 1) false R p q) :
    M.Outcome strict R c (p (Cursor.advance^[k] c)) (q (Cursor.advance^[k] d)) := by
  obtain ⟨turns, le, -⟩ := hcd.ahead k hplain
  have hout := h (by omega) _ _ turns trivial (by omega)
  exact hout.before (by omega) fun _ => .inr (by omega)

/-- Where lexemes are left out. What follows is to come to no result at the end, where more may
come. -/
theorem Change.Turns.behind {strict : Bool} {b : Nat} {R : α → β → Prop} {p : Parser α}
    {q : Parser β} {P : Token → Bool} (hP : ∀ t, P t = true → t.plain = true) {c d : Cursor}
    (hcd : M.Turns c d) (hb : c.rest.length ≤ b) (hend : M.Carries (· = .eof) b true R p q)
    (h : M.Carries anyToken b strict R p q) :
    M.Outcome strict R c (p (c.skip P)) (q (d.skip P)) := by
  have hle := length_skip_le P c
  obtain ⟨d₁, turns, -, rfl | ⟨hmore, heof, hone⟩⟩ := hcd.skip hP
  · exact (h _ _ turns trivial (Nat.le_trans hle hb)).before hle .inl
  · have h := hend _ d₁ turns heof (Nat.le_trans hle hb)
    generalize p (c.skip P) = l, q d₁ = r at h
    cases h with
    | ok _ turns _ lt =>
      have hnone := lt rfl
      rw [hone] at hnone
      exact absurd turns.length_pos (Nat.not_lt.mpr (Nat.le_of_lt_succ hnone))
    | error _ => exact .error fun hends => absurd hmore hends

namespace Change.Carries

variable {T : Token → Prop} {b : Nat} {strict : Bool} {R : α → β → Prop} {p p' : Parser α}
  {q q' : Parser β}

/-- Behind a lexeme that is taken there is one less. -/
theorem advance_of (ht : ∀ t, T t → Past t p q)
    (h : 0 < b → M.Carries anyToken (b - 1) false R p q) :
    M.Carries T b strict R (do Parser.advance; p) (do Parser.advance; q) :=
  fun _ _ hcd hT hb => hcd.past (ht _ hT) hb h

theorem advance {t : Token} (ht : Past t p q)
    (h : 0 < b → M.Carries anyToken (b - 1) false R p q) :
    M.Carries (· = t) b strict R (do Parser.advance; p) (do Parser.advance; q) :=
  advance_of (fun _ hu => hu ▸ ht) h

theorem eat {t : Token} (hnewline : t ≠ .newline) (ht : Past t p q)
    (hyes : 0 < b → M.Carries anyToken (b - 1) false R p q) (hno : M.Carries T b strict R p' q') :
    M.Carries T b strict R (do if ← Parser.eat t then p else p')
      (do if ← Parser.eat t then q else q') := by
  intro c d hcd hT hb
  rw [eat_ite_apply, eat_ite_apply]
  simp only [hcd.token_eq_iff ht.ne_eof hnewline]
  split
  · rename_i hc
    exact hcd.past (hc ▸ ht) hb hyes
  · exact hno c d hcd hT hb

theorem expect {s : Symbol} (ht : Past (.symbol s) p q)
    (h : 0 < b → M.Carries anyToken (b - 1) false R p q) :
    M.Carries T b strict R (do Parser.expect s; p) (do Parser.expect s; q) := by
  intro c d hcd hT hb
  rw [expect_bind_apply, expect_bind_apply]
  simp only [hcd.token_eq_iff (t := .symbol s) nofun nofun]
  split
  · rename_i hc
    exact hcd.past (hc ▸ ht) hb h
  · exact failExpected c d hcd hT hb

theorem plain_of_newline {t : Token} (h : decide (t = .newline) = true) : t.plain = true := by
  rw [of_decide_eq_true h]
  rfl

theorem plain_of_terminates {t : Token} (h : terminates t = true) : t.plain = true := by
  rcases Bool.or_eq_true_iff.mp h with h | h
  · exact plain_of_newline h
  · rw [of_decide_eq_true h]
    rfl

/-- Where something follows that may take nothing, it is to come to no result at the end. -/
theorem skipNewlines_of_end (hend : M.Carries (· = .eof) b true R p q)
    (h : M.Carries anyToken b strict R p q) :
    M.Carries T b strict R (do Parser.skipNewlines; p) (do Parser.skipNewlines; q) :=
  fun _ _ hcd _ hb => hcd.behind (fun _ => plain_of_newline) hb hend h

theorem skipNewlines (h : M.Carries anyToken b true R p q) :
    M.Carries T b strict R (do Parser.skipNewlines; p) (do Parser.skipNewlines; q) :=
  skipNewlines_of_end h.on h.weaken

theorem skipTerminators (h : M.Carries anyToken b true R p q) :
    M.Carries T b strict R (do Parser.skipTerminators; p) (do Parser.skipTerminators; q) :=
  fun _ _ hcd _ hb => hcd.behind (fun _ => plain_of_terminates) hb h.on h.weaken

/-- Looking for an `else` behind newlines and semicolons. -/
theorem elseAhead (hp : Skips p) (hq : Skips q)
    (hyes : 0 < b → M.Carries anyToken (b - 1) false R p q) (hno : M.Carries T b strict R p' q') :
    M.Carries T b strict R
      (do
        let before ← get
        Parser.skipTerminators
        if ← Parser.eat (.keyword .else_) then p
        else
          set before
          p')
      (do
        let before ← get
        Parser.skipTerminators
        if ← Parser.eat (.keyword .else_) then q
        else
          set before
          q') := by
  intro c d hcd hT hb
  rw [elseAhead_apply, elseAhead_apply]
  have hle := length_skip_le terminates c
  obtain ⟨d₁, turns, hdrop, rfl | ⟨hmore, hend, -⟩⟩ := hcd.skip fun _ => plain_of_terminates
  · simp only [turns.token_eq_iff (t := .keyword .else_) nofun nofun]
    split
    · rename_i hc
      have hout : M.Outcome true R _ _ _ :=
        turns.past (hc ▸ .opens rfl hp hq) (Nat.le_trans hle hb) hyes
      exact hout.before hle fun _ => .inl rfl
    · exact hno c d hcd hT hb
  · rw [if_neg (by rw [hend]; nofun), if_neg]
    · exact hno c d hcd hT hb
    · rw [← hdrop]
      exact turns.no_else hmore hend

theorem withRedirects (redirects : Bool) (h : M.Carries T b strict R p q) :
    M.Carries T b strict R (Parser.withRedirects redirects p)
      (Parser.withRedirects redirects q) := by
  intro c d hcd hT hb
  have h := h { c with redirects } { d with redirects } ⟨hcd.lexemes, rfl, hcd.ranges⟩ hT hb
  unfold Parser.withRedirects
  generalize p { c with redirects } = l, q { d with redirects } = r at h ⊢
  cases h with
  | ok result turns le lt =>
    exact .ok result ⟨turns.lexemes, hcd.redirects, turns.ranges⟩ le lt
  | error same =>
    refine .error fun hends => ?_
    obtain ⟨e', d', rfl, hcause, hplace⟩ := same hends
    exact ⟨e', _, rfl, hcause, hplace⟩

/-- What is tried and, if it fails, given up. Where more comes than before, it is to be shown that
what fails before the change fails after it, if what is done instead succeeds. -/
theorem attempt {Q : γ → δ → Prop} {try_ : Parser γ} {try' : Parser δ} {f : Option γ → Parser α}
    {g : Option δ → Parser β} (hkeep : Stays try_) (hkeep' : Stays try')
    (htry : M.Carries T b strict Q try_ try')
    (hyes : ∀ a a', Q a a' → M.Carries anyToken b false R (f (some a)) (g (some a')))
    (hno : M.Carries T b strict R (f none) (g none))
    (hfails : M.goesOn → ∀ c d, M.Turns c d → T c.token → c.rest.length ≤ b →
      (∃ e c', try_ c = some (.error e, c')) → (∃ a c', f none c = some (.ok a, c')) →
      ∃ e d', try' d = some (.error e, d')) :
    M.Carries T b strict R (Parser.attempt try_ >>= f) (Parser.attempt try' >>= g) := by
  intro c d hcd hT hb
  have h := htry c d hcd hT hb
  cases hl : try_ c with
  | none =>
    rw [hl] at h
    cases h
  | some l =>
    obtain ⟨e | a, c'⟩ := l
    · have hgiven (hr : ∃ e d', try' d = some (.error e, d')) :
          M.Outcome strict R c ((Parser.attempt try_ >>= f) c) ((Parser.attempt try' >>= g) d) := by
        obtain ⟨e', d', hr⟩ := hr
        rw [bind_ok (hkeep.attempt_error hl), bind_ok (hkeep'.attempt_error hr)]
        exact hno c d hcd hT hb
      by_cases hmore : M.goesOn
      · have hout := hno c d hcd hT hb
        cases hf : f none c with
        | none =>
          rw [hf] at hout
          cases hout
        | some l =>
          obtain ⟨e' | a, c''⟩ := l
          · rw [bind_ok (hkeep.attempt_error hl), hf]
            exact .error fun hends => absurd hmore hends
          · exact hgiven (hfails hmore c d hcd hT hb ⟨e, c', hl⟩ ⟨a, c'', hf⟩)
      · rw [hl] at h
        cases h with
        | error same =>
          obtain ⟨e', d', hr, -⟩ := same hmore
          exact hgiven ⟨e', d', hr⟩
    · rw [hl] at h
      generalize hr : try' d = r at h
      cases h with
      | @ok _ a' _ _ result turns le lt =>
        rw [bind_ok (attempt_ok hl), bind_ok (attempt_ok hr)]
        have hout := hyes a a' result _ _ turns trivial (Nat.le_trans le hb)
        exact hout.before le fun hs => .inr (lt hs)

/-- Where it is an error to have come to the end. -/
theorem end_fails {what : String} (h : M.Carries T b strict R p q) :
    M.Carries T b strict R (do if ← Parser.check .eof then Parser.failExpected what else p)
      (do if ← Parser.check .eof then Parser.failExpected what else q) := by
  intro c d hcd hT hb
  rw [check_ite_apply, check_ite_apply]
  by_cases hc : c.token = .eof
  · rw [if_pos hc]
    refine .error fun hends => ?_
    have hd : d.token = c.token := hcd.token.resolve_right fun hmore => hends hmore.1
    rw [if_pos (hd.trans hc)]
    refine ⟨⟨.expected what d.token, d.span⟩, d, rfl, ?_, hcd.place⟩
    exact congrArg (SyntaxCause.expected what) hd
  · have hd : d.token = c.token := hcd.token.resolve_right fun hmore => hc hmore.2.1
    rw [if_neg hc, if_neg (hd ▸ hc)]
    exact h c d hcd hT hb

end Change.Carries

/-- What is found at the current token, if anything, is found before and after the change. -/
def Change.Looks (M : Change) (look : Parser (Option γ)) : Prop :=
  ∀ c d, M.Turns c d → ∃ o, look c = some (.ok o, c) ∧ look d = some (.ok o, d) ∧
    (o ≠ none → c.token.plain = true)

theorem Change.looks {f : Bool → Token → Option γ} (hf : ∀ r, ∀ t ∈ Token.bounds, f r t = none) :
    M.Looks (do return f (← get).redirects (← Parser.token)) := by
  intro c d hcd
  refine ⟨f c.redirects c.token, rfl, ?_, fun hne => ?_⟩
  · have heq : f d.redirects d.token = f c.redirects c.token := by
      rw [hcd.redirects]
      rcases hcd.token with hd | ⟨-, hc, hd⟩
      · rw [hd]
      · rw [hc, hd, hf _ .newline (by decide), hf _ .eof (by decide)]
    exact congrArg (fun o => some (Except.ok o, d)) heq
  · exact Token.plain_of_not_mem fun ht => hne (hf _ _ ht)

theorem Change.looks_token {f : Token → Option γ} (hf : ∀ t ∈ Token.bounds, f t = none) :
    M.Looks (do return f (← Parser.token)) :=
  Change.looks (f := fun _ => f) fun _ => hf

namespace Change.Carries

variable {T : Token → Prop} {b : Nat} {strict : Bool} {R : α → β → Prop}

theorem look {look : Parser (Option γ)} (hlook : M.Looks look) {f : Option γ → Parser α}
    {g : Option γ → Parser β}
    (h : ∀ o, M.Carries (fun t => T t ∧ (o ≠ none → t.plain = true)) b strict R (f o) (g o)) :
    M.Carries T b strict R (look >>= f) (look >>= g) := by
  intro c d hcd hT hb
  obtain ⟨o, hl, hr, hplain⟩ := hlook c d hcd
  rw [bind_ok hl, bind_ok hr]
  exact h o c d hcd ⟨hT, hplain⟩ hb

end Change.Carries

/-- What has to end at the current token and goes on before the change goes on after it. -/
theorem Change.Turns.unended {ends : Token → Bool} (hends : ends .eof = true) {c c' d : Cursor}
    (hcd : M.Turns c d) {a : α} {b : β} {e : SyntaxError}
    (h : (do if ends (← Parser.token) then return a else failUnexpected : Parser α) c =
      some (.error e, c')) :
    ∃ e' d', (do if ends (← Parser.token) then return b else failUnexpected : Parser β) d =
      some (.error e', d') := by
  have hleft : (if ends c.token then return a else failUnexpected : Parser α) c =
      some (.error e, c') := h
  show ∃ e' d', (if ends d.token then return b else failUnexpected : Parser β) d =
    some (.error e', d')
  split at hleft
  · cases hleft
  · rename_i hmore
    have hd : d.token = c.token :=
      hcd.token.resolve_right fun hend => hmore (hend.2.1 ▸ hends)
    rw [hd, if_neg hmore]
    exact ⟨_, _, rfl⟩

end Parser

end Awk
