import Mathlib
import Awk.Proofs.Source.Steps

/-! Lexemes tile the text. Their spans follow one another from the front of the text to its end, and
between them stand only blanks, comments and joined lines. -/

namespace Awk

open Lexer
open Literal (Written)

/-- What may stand between tokens before what is left: blanks, comments, each up to the end of its
line, and newlines that a backslash hides. -/
inductive Gap (rest : List Char) : List Char → Prop
  | nil : Gap rest []
  | blank {c : Char} {s : List Char} : isBlank c → Gap rest s → Gap rest (c :: s)
  | comment {text s : List Char} : '\n' ∉ text → (∀ c ∈ (s ++ rest).head?, c = '\n') →
      Gap rest s → Gap rest ('#' :: text ++ s)
  | join {blanks s : List Char} : (∀ c ∈ blanks, isJoinBlank c) → Gap rest s →
      Gap rest ('\\' :: blanks ++ '\n' :: s)

/-- Lexemes that a text is made up of, from a byte on. -/
inductive Tiles : Nat → List Char → List Lexeme → Prop
  | eof {at_ : Nat} {gap : List Char} : Gap [] gap →
      Tiles at_ gap [⟨.eof, ⟨at_ + byteCount gap, at_ + byteCount gap⟩⟩]
  | lexeme {at_ : Nat} {gap text rest : List Char} {t : Token} {ls : List Lexeme} :
      Gap (text ++ rest) gap → text ≠ [] → Takes (some t) text rest →
      Tiles (at_ + byteCount gap + byteCount text) rest ls →
      Tiles at_ (gap ++ (text ++ rest))
        (⟨t, ⟨at_ + byteCount gap, at_ + byteCount gap + byteCount text⟩⟩ :: ls)

/-- A text stands at a span of a source, before what is left. -/
def Stands (source : List Char) (span : Span) (text rest : List Char) : Prop :=
  ∃ front, source = front ++ (text ++ rest) ∧
    span = ⟨byteCount front, byteCount front + byteCount text⟩

variable {source gap text rest s : List Char} {at_ : Nat} {ls : List Lexeme} {t : Token}

theorem byteCount_eq (s : List Char) : byteCount s = (String.ofList s).utf8ByteSize := by
  induction s with
  | nil => rfl
  | cons c s ih =>
    rw [byteCount_cons, ih, ← List.singleton_append, String.ofList_append,
      String.utf8ByteSize_append, ← String.singleton_eq_ofList, String.utf8ByteSize_singleton]

theorem isValid_iff_byteCount {source : String} {n : Nat} :
    (⟨n⟩ : String.Pos.Raw).IsValid source ↔
      ∃ front back, source.toList = front ++ back ∧ n = byteCount front := by
  rw [String.Pos.Raw.isValid_iff_exists_append]
  constructor
  · rintro ⟨s, t, rfl, hn⟩
    refine ⟨s.toList, t.toList, String.toList_append, ?_⟩
    rw [byteCount_eq, String.ofList_toList]
    exact congrArg String.Pos.Raw.byteIdx hn
  · rintro ⟨front, back, hsource, rfl⟩
    refine ⟨.ofList front, .ofList back, ?_, ?_⟩
    · rw [← String.ofList_append, ← hsource, String.ofList_toList]
    · rw [byteCount_eq]
      rfl

theorem isValid_byteCount {source : String} {front back : List Char}
    (h : source.toList = front ++ back) :
    (⟨byteCount front⟩ : String.Pos.Raw).IsValid source :=
  isValid_iff_byteCount.mpr ⟨front, back, h, rfl⟩

theorem byteCount_pos (h : text ≠ []) : 0 < byteCount text := by
  cases text with
  | nil => exact absurd rfl h
  | cons c text =>
    have hc := c.utf8Size_pos
    rw [byteCount_cons]
    omega

theorem Gap.skip (h : Takes none text (gap ++ rest)) (hgap : Gap rest gap) :
    Gap rest (text ++ gap) := by
  cases h with
  | blanks _ hblank =>
    induction text with
    | nil => exact hgap
    | cons c text ih =>
      obtain ⟨hc, htext⟩ := List.forall_mem_cons.mp hblank
      exact .blank hc (ih htext)
  | comment htext hstop => exact .comment htext hstop hgap
  | join _ hblanks =>
    rw [List.append_assoc]
    exact .join hblanks hgap

namespace Tiles

/-- What stands between tokens belongs to the next gap. -/
theorem skip (h : Takes none text rest) (htiles : Tiles (at_ + byteCount text) rest ls) :
    Tiles at_ (text ++ rest) ls := by
  cases htiles with
  | eof hgap =>
    have hwhole := @eof at_ _ (Gap.skip (by rwa [List.append_nil]) hgap)
    rwa [byteCount_append, ← Nat.add_assoc] at hwhole
  | lexeme hgap hne ht hrest =>
    have hwhole := @lexeme at_ _ _ _ _ _ (hgap.skip h) hne ht (by
      rw [byteCount_append, ← Nat.add_assoc]
      exact hrest)
    rwa [byteCount_append, ← Nat.add_assoc, List.append_assoc] at hwhole

theorem of_lexed {afterOperand : Bool} (h : Lexed afterOperand at_ s ls) : Tiles at_ s ls := by
  induction h with
  | eof => exact eof .nil
  | @skip _ _ n c r _ hstep _ ih =>
    have hskip := skip (Advances.of_step hstep).takes ih
    rwa [List.take_append_drop] at hskip
  | @token _ at_ n c r t ls hstep _ ih =>
    obtain ⟨hpos, -, htakes⟩ := Advances.of_step hstep
    dsimp only at hpos
    have hne : (c :: r).take n ≠ [] := by
      rw [Ne, List.take_eq_nil_iff]
      simp [hpos.ne']
    have hlexeme := @lexeme at_ [] _ _ _ _ .nil hne htakes ih
    rw [List.nil_append, List.take_append_drop] at hlexeme
    exact hlexeme

/-- The last lexeme is the end of input, behind everything. -/
theorem last (h : Tiles at_ s ls) :
    ∃ tokens, ls = tokens ++ [⟨.eof, ⟨at_ + byteCount s, at_ + byteCount s⟩⟩] ∧
      ∀ l ∈ tokens, l.token ≠ .eof ∧ l.span.start < l.span.stop := by
  induction h with
  | eof => exact ⟨[], rfl, nofun⟩
  | @lexeme at_ gap text rest t ls _ hne ht _ ih =>
    obtain ⟨tokens, rfl, htokens⟩ := ih
    refine ⟨⟨t, ⟨at_ + byteCount gap, at_ + byteCount gap + byteCount text⟩⟩ :: tokens, ?_,
      List.forall_mem_cons.mpr ⟨⟨?_, Nat.lt_add_of_pos_right (byteCount_pos hne)⟩, htokens⟩⟩
    · rw [List.cons_append, byteCount_append, byteCount_append, ← Nat.add_assoc, ← Nat.add_assoc]
    · cases ht with
      | regex => nofun
      | token _ _ heof => exact heof

theorem start_le (h : Tiles at_ s ls) : ∀ l ∈ ls, at_ ≤ l.span.start := by
  induction h with
  | eof => exact List.forall_mem_cons.mpr ⟨Nat.le_add_right _ _, nofun⟩
  | lexeme _ _ _ _ ih =>
    refine List.forall_mem_cons.mpr ⟨Nat.le_add_right _ _, fun l hl => ?_⟩
    have := ih l hl
    omega

/-- The spans are in order and do not overlap. -/
theorem pairwise (h : Tiles at_ s ls) :
    (ls.map (·.span)).Pairwise fun a b => a.stop ≤ b.start := by
  induction h with
  | eof => exact List.pairwise_singleton _ _
  | lexeme _ _ _ hrest ih =>
    refine List.pairwise_cons.mpr ⟨fun b hb => ?_, ih⟩
    obtain ⟨l, hl, rfl⟩ := List.mem_map.mp hb
    exact hrest.start_le l hl

/-- Each lexeme is a text of the source, and what stands before it is a gap. -/
theorem stands (h : Tiles at_ s ls) {front : List Char} (hsource : source = front ++ s)
    (hat : at_ = byteCount front) :
    (∀ l ∈ ls, ∃ text rest, Stands source l.span text rest ∧
        (l.token ≠ .eof → Takes (some l.token) text rest)) ∧
      (⟨at_, at_⟩ :: ls.map (·.span)).IsChain fun a b =>
        ∃ gap rest, Stands source ⟨a.stop, b.start⟩ gap rest ∧ Gap rest gap := by
  induction h generalizing front with
  | @eof at_ gap hgap =>
    subst hat
    have hwhole : source = front ++ gap ++ ([] ++ []) := by simpa using hsource
    refine ⟨List.forall_mem_singleton.mpr ⟨[], [], ⟨front ++ gap, hwhole, ?_⟩, fun h => absurd rfl h⟩,
      List.isChain_pair.mpr ⟨gap, [], ⟨front, by simpa using hsource, rfl⟩, hgap⟩⟩
    rw [byteCount_append]
    rfl
  | @lexeme at_ gap text rest t ls hgap _ ht _ ih =>
    subst hat
    have hrest : source = front ++ (gap ++ text) ++ rest := by simpa using hsource
    obtain ⟨htexts, hchain⟩ := ih hrest (by rw [byteCount_append, byteCount_append, Nat.add_assoc])
    refine ⟨List.forall_mem_cons.mpr ⟨⟨text, rest, ⟨front ++ gap, by simpa using hsource, ?_⟩,
      fun _ => ht⟩, htexts⟩, ?_⟩
    · rw [byteCount_append]
    · refine List.IsChain.cons_cons ⟨gap, text ++ rest, ⟨front, hsource, rfl⟩, hgap⟩ ?_
      exact List.isChain_cons.mpr (List.isChain_cons.mp hchain)

end Tiles

/-- Lexemes make up a source: the end of input, behind tokens that are not empty. -/
structure Tiling (source : String) (ls : List Lexeme) : Prop where
  last : ∃ tokens, ls = tokens ++ [⟨.eof, ⟨source.utf8ByteSize, source.utf8ByteSize⟩⟩] ∧
    ∀ l ∈ tokens, l.token ≠ .eof ∧ l.span.start < l.span.stop
  /-- Each is a text of its own. -/
  stands : ∀ l ∈ ls, ∃ text rest, Stands source.toList l.span text rest
  /-- A regular expression goes from its slash to the slash that closes it. -/
  regex : ∀ l ∈ ls, ∀ pattern, l.token = .regex pattern → ∃ body rest,
    Stands source.toList l.span ('/' :: body ++ ['/']) rest ∧ Written false body pattern.toList
  /-- They are in order and do not overlap. -/
  ordered : (ls.map (·.span)).Pairwise fun a b => a.stop ≤ b.start
  /-- Before each of them stand only blanks, comments and joined lines. -/
  gaps : (⟨0, 0⟩ :: ls.map (·.span)).IsChain fun a b =>
    ∃ gap rest, Stands source.toList ⟨a.stop, b.start⟩ gap rest ∧ Gap rest gap

theorem lex_tiling {source : String} {ls : List Lexeme} (h : lex source = .ok ls) :
    Tiling source ls := by
  have htiles := Tiles.of_lexed (lex_eq_ok.mp h)
  obtain ⟨htexts, hchain⟩ := htiles.stands (List.nil_append source.toList).symm rfl
  obtain ⟨tokens, hlast, htokens⟩ := htiles.last
  rw [Nat.zero_add, byteCount_eq, String.ofList_toList] at hlast
  refine ⟨⟨tokens, hlast, htokens⟩, fun l hl => ?_, fun l hl pattern hpattern => ?_,
    htiles.pairwise, hchain⟩
  · obtain ⟨text, rest, hstands, -⟩ := htexts l hl
    exact ⟨text, rest, hstands⟩
  · obtain ⟨text, rest, hstands, htakes⟩ := htexts l hl
    have hregex := htakes (hpattern ▸ nofun)
    rw [hpattern] at hregex
    cases hregex with
    | @regex body p _ hwritten => exact ⟨body, rest, hstands, by rwa [String.toList_ofList]⟩
    | token _ _ _ hno => exact absurd rfl (hno pattern)

/-- A comment, a sign that divides, a joined line, and a regular expression with an equals sign, a
slash in brackets and one that is escaped. -/
def slashes : String := "# é\nx /= 2 \\ \n; $0 ~ /=[/]é\\//"

def slashesLexemes : List Lexeme :=
  [⟨.newline, ⟨4, 5⟩⟩, ⟨.ident "x", ⟨5, 6⟩⟩, ⟨.symbol .divAssign, ⟨7, 9⟩⟩, ⟨.number ⟨"2"⟩, ⟨10, 11⟩⟩,
    ⟨.symbol .semicolon, ⟨15, 16⟩⟩, ⟨.symbol .dollar, ⟨17, 18⟩⟩, ⟨.number ⟨"0"⟩, ⟨18, 19⟩⟩,
    ⟨.symbol .tilde, ⟨20, 21⟩⟩, ⟨.regex "=[/]é/", ⟨22, 32⟩⟩, ⟨.eof, ⟨32, 32⟩⟩]

theorem lex_tiling_slashes :
    lex slashes = .ok slashesLexemes ∧ Tiling slashes slashesLexemes := by
  have h : lex slashes = .ok slashesLexemes := by cbv
  exact ⟨h, lex_tiling h⟩

end Awk
