import Awk.Grammar.Cursor

/-! What a parser's results satisfy, wherever it starts. -/

namespace Awk.Parser

variable {α β : Type} {p : Parser α} {f : α → Parser β} {Q : α → Prop} {R : β → Prop} {c : Cursor}

/-- What `p` reads from `c`, if it succeeds, satisfies `Q`. -/
def EnsuresAt (p : Parser α) (c : Cursor) (Q : α → Prop) : Prop :=
  ∀ a c', p c = some (.ok a, c') → Q a

def Ensures (p : Parser α) (Q : α → Prop) : Prop := ∀ c, EnsuresAt p c Q

theorem bind_apply (p : Parser α) (f : α → Parser β) (c : Cursor) :
    (p >>= f) c =
      match p c with
      | none => none
      | some (.error e, c') => some (.error e, c')
      | some (.ok a, c') => f a c' := by
  show Option.bind (p c) _ = _
  rcases p c with _ | ⟨_ | a, c'⟩ <;> rfl

theorem bind_ok {a : α} {c' : Cursor} (h : p c = some (.ok a, c')) : (p >>= f) c = f a c' := by
  rw [bind_apply, h]

/-- What succeeds has got through its first step. -/
theorem bind_eq_ok {b : β} {c' : Cursor} (h : (p >>= f) c = some (.ok b, c')) :
    ∃ a c₁, p c = some (.ok a, c₁) ∧ f a c₁ = some (.ok b, c') := by
  rw [bind_apply] at h
  cases hp : p c with
  | none =>
    rw [hp] at h
    cases h
  | some r =>
    obtain ⟨_ | a, c₁⟩ := r
    · rw [hp] at h
      cases h
    · rw [hp] at h
      exact ⟨a, c₁, rfl, h⟩

theorem eat_apply (t : Token) (c : Cursor) :
    eat t c = if c.token = t then some (.ok true, c.advance) else some (.ok false, c) := by
  have hread : eat t c =
      (if decide (c.token = t) then do
        advance
        return true
      else return false : Parser Bool) c := rfl
  rw [hread]
  by_cases h : c.token = t <;> simp only [h, decide_true, decide_false, if_true] <;> rfl

theorem eat_ne {t : Token} {c : Cursor} (h : c.token ≠ t) : eat t c = some (.ok false, c) := by
  rw [eat_apply, if_neg h]

theorem eat_ite_apply (t : Token) (p q : Parser α) (c : Cursor) :
    (do if ← eat t then p else q : Parser α) c =
      if c.token = t then p c.advance else q c := by
  show (eat t >>= fun found => if found then p else q) c = _
  rw [bind_apply, eat_apply]
  by_cases h : c.token = t
  · simp only [if_pos h, if_true]
  · simp only [if_neg h, Bool.false_eq_true, if_false]

theorem check_ite_apply (t : Token) (p q : Parser α) (c : Cursor) :
    (do if ← check t then p else q : Parser α) c = if c.token = t then p c else q c := by
  show (if decide (c.token = t) then p else q : Parser α) c = _
  by_cases h : c.token = t
  · simp only [h, decide_true, if_true]
  · simp only [h, decide_false, Bool.false_eq_true, if_false]

theorem expect_bind_apply (s : Symbol) (p : Parser α) (c : Cursor) :
    (do
      expect s
      p : Parser α) c =
      if c.token = .symbol s then p c.advance
      else (failExpected ("`" ++ s.spelling ++ "`") : Parser α) c := by
  by_cases h : c.token = .symbol s
  · have hexpect : expect s c = some (.ok (), c.advance) :=
      (eat_ite_apply _ _ _ c).trans (if_pos h)
    rw [bind_ok hexpect, if_pos h]
  · have hexpect : expect s c = failExpected ("`" ++ s.spelling ++ "`") c :=
      (eat_ite_apply _ _ _ c).trans (if_neg h)
    rw [bind_apply, hexpect, if_neg h]
    rfl

theorem attempt_ok {a : α} {c' : Cursor} (h : p c = some (.ok a, c')) :
    attempt p c = some (.ok (some a), c') := by
  unfold attempt
  rw [h]

/-- What ends a statement on its line. -/
def terminates (t : Token) : Bool := t = .newline || t = .symbol .semicolon

/-- Looking for an `else` behind newlines and semicolons: where there is none, the parser goes back
to where it looked for one. -/
theorem elseAhead_apply (p q : Parser α) (c : Cursor) :
    (do
      let before ← get
      skipTerminators
      if ← eat (.keyword .else_) then p
      else
        set before
        q : Parser α) c =
      if (c.skip terminates).token = .keyword .else_ then p (c.skip terminates).advance
      else q c :=
  eat_ite_apply _ p (do
    set c
    q) (c.skip terminates)

theorem EnsuresAt.bind (hp : EnsuresAt p c Q) (hf : ∀ a c', Q a → EnsuresAt (f a) c' R) :
    EnsuresAt (p >>= f) c R := by
  intro b c'' h
  obtain ⟨a, c', ha, hb⟩ := bind_eq_ok h
  exact hf a c' (hp a c' ha) b c'' hb

theorem EnsuresAt.mono {Q' : α → Prop} (hp : EnsuresAt p c Q) (hq : ∀ a, Q a → Q' a) :
    EnsuresAt p c Q' := fun a c' h => hq a (hp a c' h)

/-- Looking at the current token. -/
theorem EnsuresAt.token_bind {k : Token → Parser β} (h : EnsuresAt (k c.token) c R) :
    EnsuresAt (token >>= k) c R := h

theorem EnsuresAt.span_bind {k : Span → Parser β} (h : EnsuresAt (k c.span) c R) :
    EnsuresAt (span >>= k) c R := h

theorem EnsuresAt.withRedirects {redirects : Bool} (h : EnsuresAt p { c with redirects } Q) :
    EnsuresAt (withRedirects redirects p) c Q := by
  intro a c' hp
  unfold Parser.withRedirects at hp
  split at hp
  · cases hp
  · rename_i r c'' hr
    cases hp
    exact h a c'' hr

theorem EnsuresAt.attempt (h : EnsuresAt p c Q) :
    EnsuresAt (attempt p) c fun r => ∀ a ∈ r, Q a := by
  intro r c' hp
  unfold Parser.attempt at hp
  split at hp
  · cases hp
  · rename_i a c'' ha
    cases hp
    rintro _ ⟨⟩
    exact h _ _ ha
  · cases hp
    rintro _ ⟨⟩

namespace Ensures

theorem pure {a : α} (ha : Q a) : Ensures (Pure.pure a) Q := by
  rintro c _ _ ⟨⟩
  exact ha

theorem outOfFuel : Ensures (Parser.outOfFuel : Parser α) Q := fun _ _ _ h => nomatch h

theorem fail (cause : SyntaxCause) (span : Span) : Ensures (Parser.fail cause span : Parser α) Q :=
  fun _ _ _ h => nomatch h

theorem failExpected (what : String) : Ensures (Parser.failExpected what : Parser α) Q :=
  fun _ _ _ h => nomatch h

theorem failUnexpected : Ensures (Parser.failUnexpected : Parser α) Q := fun _ _ _ h => nomatch h

theorem any (p : Parser α) : Ensures p fun _ => True := fun _ _ _ _ => trivial

theorem bind (hp : Ensures p Q) (hf : ∀ a, Q a → Ensures (f a) R) : Ensures (p >>= f) R :=
  fun c => (hp c).bind fun a c' ha => hf a ha c'

/-- A step of which nothing is to be known. -/
theorem andThen (hf : ∀ a, Ensures (f a) R) : Ensures (p >>= f) R := (any p).bind fun a _ => hf a

theorem map {g : α → β} (hp : Ensures p Q) (hg : ∀ a, Q a → R (g a)) : Ensures (g <$> p) R := by
  rw [map_eq_pure_bind]
  exact hp.bind fun a ha => .pure (hg a ha)

theorem mono {Q' : α → Prop} (hp : Ensures p Q) (hq : ∀ a, Q a → Q' a) : Ensures p Q' :=
  fun c => (hp c).mono hq

theorem ite {b : Prop} [Decidable b] {q : Parser α} (hp : Ensures p Q) (hq : Ensures q Q) :
    Ensures (if b then p else q) Q := by
  split
  · exact hp
  · exact hq

theorem withRedirects (redirects : Bool) (hp : Ensures p Q) :
    Ensures (withRedirects redirects p) Q := fun c => (hp { c with redirects }).withRedirects

theorem attempt (hp : Ensures p Q) : Ensures (attempt p) fun r => ∀ a ∈ r, Q a :=
  fun c => (hp c).attempt

end Ensures

end Awk.Parser
