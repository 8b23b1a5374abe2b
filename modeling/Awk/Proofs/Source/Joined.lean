import Awk.Proofs.Source.Tiling

/-! Texts that are joined by a newline. No step reaches over the newline, so the lexemes are those of
the first text, the newline, and those of the second text farther on. -/

namespace Awk

/-- The span `k` bytes farther on. -/
def Span.shift (k : Nat) (s : Span) : Span := ⟨s.start + k, s.stop + k⟩

theorem Span.shift_merge (k : Nat) (a b : Span) :
    (a.merge b).shift k = (a.shift k).merge (b.shift k) := by
  unfold Span.merge Span.shift
  rw [Nat.add_min_add_right, Nat.add_max_add_right]

/-- The lexeme `k` bytes farther on. -/
def Lexeme.shift (k : Nat) (l : Lexeme) : Lexeme := ⟨l.token, l.span.shift k⟩

namespace Lexer.Lexed

variable {afterOperand : Bool} {at_ : Nat} {s t : List Char} {ls ls' : List Lexeme}

theorem byteCount_take_add_drop (n : Nat) (s : List Char) :
    byteCount (s.take n) + byteCount (s.drop n) = byteCount s := by
  rw [← byteCount_append, List.take_append_drop]

/-- What a step takes, and what it leaves, where a newline follows. -/
theorem split_newline {c : Char} {r : List Char} {n : Nat} (h : n ≤ (c :: r).length)
    (t : List Char) :
    (c :: (r ++ '\n' :: t)).take n = (c :: r).take n ∧
      (c :: (r ++ '\n' :: t)).drop n = (c :: r).drop n ++ '\n' :: t :=
  ⟨List.take_append_of_le_length h, drop_newline h t⟩

theorem shift (h : Lexed afterOperand at_ s ls) (k : Nat) :
    Lexed afterOperand (at_ + k) s (ls.map (·.shift k)) := by
  induction h with
  | eof => exact eof _ _
  | skip hstep _ ih =>
    refine skip hstep ?_
    rw [Nat.add_right_comm]
    exact ih
  | token hstep _ ih =>
    rw [Nat.add_right_comm] at ih
    have hwhole := token hstep ih
    rwa [Nat.add_right_comm] at hwhole

/-- The newline ends the first text as its end does. -/
theorem joined (h : Lexed afterOperand at_ s ls) (ht : Lexed false 0 t ls') :
    ∃ tokens, ls = tokens ++ [⟨.eof, ⟨at_ + byteCount s, at_ + byteCount s⟩⟩] ∧
      Lexed afterOperand at_ (s ++ '\n' :: t)
        (tokens ++ ⟨.newline, ⟨at_ + byteCount s, at_ + byteCount s + 1⟩⟩ ::
          ls'.map (·.shift (at_ + byteCount s + 1))) := by
  induction h with
  | eof afterOperand at_ =>
    have hrest := ht.shift (at_ + 1)
    rw [Nat.zero_add] at hrest
    exact ⟨[], rfl, token (c := '\n') (r := t) (n := 1) rfl hrest⟩
  | @skip _ at_ n c r ls hstep _ ih =>
    obtain ⟨tokens, hls, hrest⟩ := ih
    obtain ⟨htake, hdrop⟩ := split_newline (Advances.of_step hstep).le t
    rw [Nat.add_assoc, byteCount_take_add_drop] at hls hrest
    rw [← hdrop, ← htake] at hrest
    exact ⟨tokens, hls, skip (step_newline hstep t) hrest⟩
  | @token _ at_ n c r u ls hstep _ ih =>
    obtain ⟨tokens, hls, hrest⟩ := ih
    obtain ⟨htake, hdrop⟩ := split_newline (Advances.of_step hstep).le t
    rw [Nat.add_assoc, byteCount_take_add_drop] at hls hrest
    rw [← hdrop, ← htake] at hrest
    have hwhole := token (step_newline hstep t) hrest
    rw [htake] at hwhole
    exact ⟨_ :: tokens, congrArg _ hls, hwhole⟩

end Lexer.Lexed

/-- What becomes of the lexemes of a text where a newline and another text follow. -/
theorem lex_joined {source source' : String} {ls ls' : List Lexeme} (h : lex source = .ok ls)
    (h' : lex source' = .ok ls') :
    ∃ tokens last newline k, ls = tokens ++ [last] ∧ last.token = .eof ∧
      (∀ l ∈ tokens, l.token ≠ .eof) ∧ newline.token = .newline ∧
      lex (source ++ "\n" ++ source') = .ok (tokens ++ newline :: ls'.map (·.shift k)) := by
  have hlexed := Lexer.lex_eq_ok.mp h
  obtain ⟨tokens, rfl, hjoined⟩ := hlexed.joined (Lexer.lex_eq_ok.mp h')
  obtain ⟨tokens', htokens, hnone⟩ := (Tiles.of_lexed hlexed).last
  obtain ⟨rfl, -⟩ := List.append_inj' htokens rfl
  have htext : (source ++ "\n" ++ source').toList = source.toList ++ '\n' :: source'.toList := by
    rw [String.toList_append, String.toList_append, List.append_assoc]
    rfl
  rw [← htext] at hjoined
  exact ⟨tokens, _, _, _, rfl, rfl, fun l hl => (hnone l hl).1, rfl, Lexer.lex_eq_ok.mpr hjoined⟩

end Awk
