import Awk.Source.Report
import Awk.Proofs.Grammar.Newlines
import Awk.Proofs.Source.Tiling

/-! Syntax errors point into the text. A lexeme stands at a stretch of the text between two
characters, and an error names the place of a lexeme, or what reaches from one lexeme to another, or
what a step of the lexer could not take. A report marks the characters of that stretch. -/

namespace Awk

variable {source : String} {front back : List Char} {span : Span}

/-- The ends of the span are ends of characters of the source, in order. -/
structure Span.Within (source : String) (span : Span) : Prop where
  start : (⟨span.start⟩ : String.Pos.Raw).IsValid source
  stop : (⟨span.stop⟩ : String.Pos.Raw).IsValid source
  le : span.start ≤ span.stop

namespace Span.Within

theorem merge {a b : Span} (ha : Within source a) (hb : Within source b) :
    Within source (a.merge b) where
  start := by
    rcases Nat.le_total a.start b.start with h | h
    · rw [Span.merge, Nat.min_eq_left h]
      exact ha.start
    · rw [Span.merge, Nat.min_eq_right h]
      exact hb.start
  stop := by
    rcases Nat.le_total a.stop b.stop with h | h
    · rw [Span.merge, Nat.max_eq_right h]
      exact hb.stop
    · rw [Span.merge, Nat.max_eq_left h]
      exact ha.stop
  le := (Nat.min_le_left _ _).trans (ha.le.trans (Nat.le_max_left _ _))

theorem of_stands {text rest : List Char} (h : Stands source.toList span text rest) :
    span.Within source := by
  obtain ⟨front, hsource, rfl⟩ := h
  refine ⟨isValid_byteCount hsource, ?_, Nat.le_add_right _ _⟩
  rw [← byteCount_append]
  exact isValid_byteCount (by rw [hsource, List.append_assoc])

/-- What stands between the ends. -/
theorem exists_stretch (h : span.Within source) : ∃ front text rest,
    source.toList = front ++ (text ++ rest) ∧
      span = ⟨byteCount front, byteCount front + byteCount text⟩ := by
  obtain ⟨front, back, hfront, hstart⟩ := isValid_iff_byteCount.mp h.start
  obtain ⟨front', back', hfront', hstop⟩ := isValid_iff_byteCount.mp h.stop
  have hle := h.le
  have hprefix : front <+: front' := by
    obtain hprefix | ⟨text, rfl⟩ :=
      List.prefix_or_prefix_of_prefix ⟨back, hfront.symm⟩ ⟨back', hfront'.symm⟩
    · exact hprefix
    · -- The later end cannot stand before the earlier one.
      rw [byteCount_append] at hstart
      obtain rfl : text = [] := by
        by_contra hne
        have := byteCount_pos hne
        omega
      rw [List.append_nil]
  obtain ⟨text, rfl⟩ := hprefix
  refine ⟨front, text, back', by rw [hfront', List.append_assoc], ?_⟩
  rw [byteCount_append, ← hstart] at hstop
  rw [← hstart, ← hstop]

end Span.Within

/-! Errors of the lexer. -/

/-- What a step cannot take starts where the step does. -/
theorem Lexer.lexemes_within {fuel : Nat} {afterOperand : Bool} {e : LexicalError}
    (hsource : source.toList = front ++ back)
    (h : lexemes fuel afterOperand (byteCount front) back = .error (e, span)) :
    span.Within source := by
  induction fuel generalizing afterOperand front back with
  | zero => cases h
  | succ fuel ih =>
    cases back with
    | nil => cases h
    | cons c r =>
      have hrest (n : Nat) : source.toList = (front ++ (c :: r).take n) ++ (c :: r).drop n := by
        rw [List.append_assoc, List.take_append_drop, hsource]
      rw [lexemes] at h
      split at h
      · cases h
        exact .of_stands ⟨front, by rw [List.take_append_drop, hsource], rfl⟩
      · rename_i token n _
        dsimp only at h
        rw [← byteCount_append] at h
        cases token with
        | none => exact ih (hrest n) h
        | some t =>
          dsimp only at h
          generalize hread : lexemes fuel t.endsOperand _ _ = read at h
          cases read with
          | ok ls => cases h
          | error error =>
            cases h
            exact ih (hrest n) hread

theorem lex_error_within {e : LexicalError} (h : lex source = .error (e, span)) :
    span.Within source :=
  Lexer.lexemes_within (List.nil_append source.toList).symm h

/-! Errors of the parser. -/

/-- No change, of lexemes that stand in the source. -/
def unchanged (source : String) : Parser.Change where
  Lexemes l l' := l' = l ∧ Ended l ∧ ∀ x ∈ l, x.span.Within source
  Place a b := b = a ∧ a.Within source
  ranges := 0
  goesOn := False
  some_left h := h.2.1.ne_nil
  some_right h := h.1 ▸ h.2.1.ne_nil
  token := by
    rintro x l y l' ⟨hsame, -⟩
    cases hsame
    exact .inl rfl
  place := by
    rintro x l y l' ⟨hsame, -, hwithin⟩
    cases hsame
    exact ⟨rfl, hwithin x List.mem_cons_self⟩
  merge := by
    rintro a _ b _ ⟨rfl, ha⟩ ⟨rfl, hb⟩
    exact ⟨rfl, ha.merge hb⟩
  next := by
    rintro x l y l' ⟨hsame, hended, hwithin⟩ hplain
    cases hsame
    exact ⟨rfl, hended.tail (Parser.ne_eof_of_plain hplain), (List.forall_mem_cons.mp hwithin).2⟩
  opens := by
    rintro x l y l' ⟨hsame, hended, hwithin⟩ hopens
    cases hsame
    exact .inl ⟨rfl, hended.tail (Parser.ne_eof_of_opens hopens),
      (List.forall_mem_cons.mp hwithin).2⟩
  last h := h.elim
  noElse h := h.elim

theorem parseLexemes_error_within {l : List Lexeme} {e : SyntaxError} (hended : Ended l)
    (hwithin : ∀ x ∈ l, x.span.Within source) (h : parseLexemes l = some (.error e)) :
    e.span.Within source := by
  have hstart : (unchanged source).Turns (.start l) (.start l) := ⟨⟨rfl, hended, hwithin⟩, rfl, rfl⟩
  have hempty : (unchanged source).TurnsProgram .empty .empty := ⟨rfl, .nil⟩
  have hout := Parser.program_carried (M := unchanged source) (n := Parser.fuelFor l.length)
    (b := l.length) nofun (Nat.le_refl _) (by unfold Parser.fuelFor; omega) hempty _ _ hstart
    trivial (Nat.le_refl _)
  obtain ⟨⟨_, c⟩, hread, rfl⟩ := Option.map_eq_some_iff.mp h
  rw [hread] at hout
  cases hout with
  | error same =>
    obtain ⟨_, _, -, -, hplace⟩ := same nofun
    exact hplace.2

theorem parse_error_within {e : SyntaxError} (h : parse source = .error e) :
    e.span.Within source := by
  unfold parse at h
  split at h
  · rename_i hlex
    cases h
    exact lex_error_within hlex
  · rename_i l hlex
    have htiling := lex_tiling hlex
    have hended : Ended l := by
      obtain ⟨tokens, hl, -⟩ := htiling.last
      exact ⟨tokens, _, hl, rfl⟩
    obtain ⟨r, hr⟩ := parseLexemes_total hended
    rw [hr] at h
    refine parseLexemes_error_within hended (fun x hx => ?_) (hr.trans (congrArg some h))
    obtain ⟨text, rest, hstands⟩ := htiling.stands x hx
    exact .of_stands hstands

/-! Characters. -/

theorem charOffset_byteCount (front back : List Char) :
    charOffset (front ++ back) (byteCount front) = front.length := by
  induction front with
  | nil => cases back <;> rfl
  | cons c front ih =>
    have hpos := c.utf8Size_pos
    rw [List.cons_append, charOffset, byteCount_cons, if_neg (by omega), Nat.add_sub_cancel_left,
      ih]
    rfl

/-- A report marks the characters of a stretch, or, where the stretch is empty, the next character
if there is one. -/
theorem characters_of_stretch (front text rest : List Char) :
    Span.characters ⟨byteCount front, byteCount front + byteCount text⟩ (front ++ (text ++ rest)) =
      ⟨front.length, front.length + if text = [] ∧ rest ≠ [] then 1 else text.length⟩ := by
  have hstop : charOffset (front ++ (text ++ rest)) (byteCount front + byteCount text) =
      front.length + text.length := by
    rw [← byteCount_append, ← List.append_assoc, charOffset_byteCount, List.length_append]
  unfold Span.characters
  dsimp only
  rw [charOffset_byteCount, hstop, Nat.max_eq_left (Nat.le_add_right _ _)]
  cases text with
  | nil => cases rest <;> simp
  | cons c text => simp

/-- The characters that a report marks for a place in a source. -/
structure Marks (source : String) (span : Span) : Prop where
  within : span.Within source
  stop_le : span.stop ≤ source.utf8ByteSize
  /-- They are those of the stretch, or the one character behind an empty stretch that does not
  stand at the end. -/
  characters : ∃ front text rest, source.toList = front ++ (text ++ rest) ∧
    span = ⟨byteCount front, byteCount front + byteCount text⟩ ∧
    span.characters source.toList =
      ⟨front.length, front.length + if text = [] ∧ rest ≠ [] then 1 else text.length⟩
  le : (span.characters source.toList).start ≤ (span.characters source.toList).stop
  inside : (span.characters source.toList).stop ≤ source.length

theorem Span.Within.marks (h : span.Within source) : Marks source span := by
  obtain ⟨front, text, rest, hsource, rfl⟩ := h.exists_stretch
  have hcharacters := characters_of_stretch front text rest
  rw [← hsource] at hcharacters
  refine ⟨h, h.stop.le_utf8ByteSize, ⟨front, text, rest, hsource, rfl, hcharacters⟩, ?_, ?_⟩
  · rw [hcharacters]
    exact Nat.le_add_right _ _
  · rw [hcharacters, ← String.length_toList, hsource, List.length_append, List.length_append]
    cases text with
    | nil => cases rest <;> simp
    | cons c text => simp

/-- The place of the first syntax error of a text is a stretch of the text, and a report marks just
its characters. -/
theorem parse_error_marked {e : SyntaxError} (h : parse source = .error e) : Marks source e.span :=
  (parse_error_within h).marks

/-- A function that is defined again behind a comment and a string that take more bytes than
characters. The place of the error reaches from `function` over the newline behind the body. -/
def redefining : String :=
  "# é\nfunction f(a) \x7b \x7d\nfunction f() \x7b return \"é\" \x7d\n"

theorem parse_error_marked_redefining :
    parse redefining = .error ⟨.redefined "f", ⟨23, 52⟩⟩ ∧ Marks redefining ⟨23, 52⟩ ∧
      Span.characters ⟨23, 52⟩ redefining.toList = ⟨22, 50⟩ := by
  have h : parse redefining = .error ⟨.redefined "f", ⟨23, 52⟩⟩ := by cbv
  exact ⟨h, parse_error_marked h, by decide⟩

end Awk
