import Mathlib
import Awk.Source.Lexer
import Awk.Proofs.Source.Regexes

/-! What one step takes from a text: a token, or what may stand between tokens. A step takes the same
where a newline follows the text, whatever stands behind the newline. -/

namespace Awk.Lexer

open Literal (Written)

variable {s t : List Char} {p : Char → Bool} {n : Nat}

/-! Runs of characters and fixed words. -/

theorem take_count (p : Char → Bool) (s : List Char) : s.take (count p s) = s.takeWhile p :=
  (List.prefix_iff_eq_take.mp (List.takeWhile_prefix p)).symm

theorem drop_count (p : Char → Bool) (s : List Char) : s.drop (count p s) = s.dropWhile p := by
  conv_lhs => rw [← List.takeWhile_append_dropWhile (p := p) (l := s)]
  exact List.drop_left' (by rw [List.takeWhile_append_dropWhile]; rfl)

theorem count_pos {c : Char} (h : p c) (s : List Char) : 0 < count p (c :: s) := by
  rw [count, List.takeWhile_cons_of_pos h]
  exact Nat.succ_pos _

theorem count_le (p : Char → Bool) (s : List Char) : count p s ≤ s.length :=
  (List.takeWhile_prefix p).length_le

/-- A run of characters ends at a newline, if that is not one of them. -/
theorem count_newline (h : p '\n' = false) (s t : List Char) :
    count p (s ++ '\n' :: t) = count p s := by
  have hstop : ('\n' :: t).takeWhile p = [] := List.takeWhile_cons_of_neg (by simp [h])
  rw [count, List.takeWhile_append, hstop, List.append_nil]
  split
  · rename_i hall
    rw [count, hall]
  · rfl

theorem startsWith_iff {word : List Char} : startsWith word s ↔ word <+: s :=
  List.isPrefixOf_iff_prefix

/-- A word without a newline starts a text if it starts what stands before the newline. -/
theorem startsWith_newline {word : List Char} (h : '\n' ∉ word) (s t : List Char) :
    startsWith word (s ++ '\n' :: t) = startsWith word s := by
  rw [Bool.eq_iff_iff, startsWith_iff, startsWith_iff]
  refine ⟨fun hfull => ?_, fun hs => hs.trans (List.prefix_append _ _)⟩
  obtain hlt | hle := Nat.lt_or_ge s.length word.length
  · have hlong : s ++ ['\n'] <+: word := by
      have hfirst : s ++ ['\n'] <+: s ++ '\n' :: t := ⟨t, by simp⟩
      refine List.prefix_of_prefix_length_le hfirst hfull ?_
      rw [List.length_append]
      exact hlt
    exact absurd (hlong.subset (by simp)) h
  · exact List.prefix_of_prefix_length_le hfull (List.prefix_append _ _) hle

theorem drop_newline (h : n ≤ s.length) (t : List Char) :
    (s ++ '\n' :: t).drop n = s.drop n ++ '\n' :: t :=
  List.drop_append_of_le_length h

/-! Numerals. -/

/-- The length of a sign at the front. -/
def signLength : List Char → Nat
  | '+' :: _ | '-' :: _ => 1
  | _ => 0

theorem exponentLength_cons (e : Char) (r : List Char) : exponentLength (e :: r) =
    if e = 'e' || e = 'E' then
      if count Char.isDigit (r.drop (signLength r)) = 0 then 0
      else 1 + signLength r + count Char.isDigit (r.drop (signLength r))
    else 0 := rfl

theorem signLength_newline (s t : List Char) : signLength (s ++ '\n' :: t) = signLength s := by
  cases s with
  | nil => rfl
  | cons c s =>
    rw [List.cons_append, signLength.eq_def, signLength.eq_def]
    grind

theorem signLength_le (s : List Char) : signLength s ≤ s.length := by
  unfold signLength
  split <;> simp

theorem exponentLength_newline (s t : List Char) :
    exponentLength (s ++ '\n' :: t) = exponentLength s := by
  cases s with
  | nil => rfl
  | cons e r =>
    rw [List.cons_append, exponentLength_cons, exponentLength_cons, signLength_newline,
      drop_newline (signLength_le r), count_newline rfl]

theorem exponentLength_le (s : List Char) : exponentLength s ≤ s.length := by
  cases s with
  | nil => exact Nat.le_refl 0
  | cons e r =>
    have hsign := signLength_le r
    have hdigits := count_le Char.isDigit (r.drop (signLength r))
    rw [List.length_drop] at hdigits
    rw [exponentLength_cons, List.length_cons]
    split
    · split <;> omega
    · omega

/-- The length of a numeral without its exponent. -/
def mantissaLength (s : List Char) : Nat :=
  let whole := count Char.isDigit s
  match s.drop whole with
  | '.' :: r =>
    let fraction := count Char.isDigit r
    if whole = 0 && fraction = 0 then 0 else whole + 1 + fraction
  | _ => whole

theorem numeralLength_eq (s : List Char) : numeralLength s =
    if mantissaLength s = 0 then 0
    else mantissaLength s + exponentLength (s.drop (mantissaLength s)) := rfl

theorem mantissaLength_le (s : List Char) : mantissaLength s ≤ s.length := by
  have hwhole := count_le Char.isDigit s
  unfold mantissaLength
  dsimp only
  split
  · rename_i r hr
    have hlength := congrArg List.length hr
    have hfraction := count_le Char.isDigit r
    rw [List.length_drop, List.length_cons] at hlength
    split <;> omega
  · exact hwhole

theorem mantissaLength_newline (s t : List Char) :
    mantissaLength (s ++ '\n' :: t) = mantissaLength s := by
  unfold mantissaLength
  rw [count_newline rfl]
  dsimp only
  rw [drop_newline (count_le _ _)]
  cases hrest : s.drop (count Char.isDigit s) with
  | nil => rfl
  | cons d r =>
    by_cases hd : d = '.'
    · subst hd
      simp only [List.cons_append, count_newline (p := Char.isDigit) rfl]
    · rw [List.cons_append]
      split
      · exact absurd (List.cons.inj ‹_›).1 hd
      · split
        · exact absurd (List.cons.inj ‹_›).1 hd
        · rfl

theorem numeralLength_newline (s t : List Char) :
    numeralLength (s ++ '\n' :: t) = numeralLength s := by
  rw [numeralLength_eq, numeralLength_eq, mantissaLength_newline,
    drop_newline (mantissaLength_le s), exponentLength_newline]

theorem numeralLength_le (s : List Char) : numeralLength s ≤ s.length := by
  have hmantissa := mantissaLength_le s
  have hexponent := exponentLength_le (s.drop (mantissaLength s))
  rw [List.length_drop] at hexponent
  rw [numeralLength_eq]
  split <;> omega

/-! Strings. -/

theorem stringBody_escape (c : Char) (s : List Char) :
    stringBody ('\\' :: c :: s) = ((stringBody s).1 + 2, (stringBody s).2) := rfl

theorem stringBody_cons {c : Char} (h : c ≠ '\\') (s : List Char) : stringBody (c :: s) =
    if c = '"' then (0, true) else if c = '\n' then (0, false)
    else ((stringBody s).1 + 1, (stringBody s).2) := by
  rw [stringBody]
  all_goals grind

/-- A string that is closed is so within the text, whatever follows. -/
theorem stringBody_closed (h : (stringBody s).2) :
    (stringBody s).1 < s.length ∧ ∀ t, stringBody (s ++ t) = stringBody s := by
  fun_induction stringBody s with
  | case1 | case2 | case5 => cases h
  | case3 c s n closed hbody ih =>
    obtain ⟨hlt, happend⟩ := ih (hbody ▸ h)
    rw [hbody] at hlt happend
    refine ⟨by simp; omega, fun t => ?_⟩
    rw [List.cons_append, List.cons_append, stringBody_escape, happend]
  | case4 s hlast hescape =>
    exact ⟨Nat.succ_pos _, fun t => rfl⟩
  | case6 c s hlast hescape hquote hnewline n closed hbody ih =>
    obtain ⟨hlt, happend⟩ := ih (hbody ▸ h)
    rw [hbody] at hlt happend
    have hc : c ≠ '\\' := by
      rintro rfl
      cases s with
      | nil => exact hlast rfl rfl
      | cons d s => exact hescape d s rfl rfl
    refine ⟨by simp; omega, fun t => ?_⟩
    rw [List.cons_append, stringBody_cons hc, if_neg hquote, if_neg hnewline, happend]

/-! The steps that can fail, from the character that they start with. -/

theorem join_eq (r : List Char) : join ('\\' :: r) =
    if startsWith ['\n'] (r.drop (count isJoinBlank r)) then
      .ok ⟨none, count isJoinBlank r + 2⟩
    else .error (.unexpectedCharacter '\\', count isJoinBlank r + 1) := by
  show (if startsWith ['\n'] (('\\' :: r).drop (1 + count isJoinBlank r)) then _ else _ : Step) = _
  rw [Nat.add_comm 1, List.drop_succ_cons]
  rfl

theorem quoted_eq (r : List Char) : quoted ('"' :: r) =
    if (stringBody r).2 then
      .ok ⟨some (.string (Literal.unescape (String.ofList (r.take (stringBody r).1)))),
        (stringBody r).1 + 2⟩
    else .error (.unterminatedString, (stringBody r).1 + 1) := rfl

/-- A regular expression may start with an equals sign. -/
theorem slash_eq (afterOperand : Bool) (r : List Char) : slash afterOperand ('/' :: r) =
    if afterOperand then
      if startsWith ['='] r then .ok ⟨some (.symbol .divAssign), 2⟩
      else .ok ⟨some (.symbol .slash), 1⟩
    else match Literal.regexBody? false r with
      | none => .error (.unterminatedRegex, r.length + 1)
      | some (pattern, n) => .ok ⟨some (.regex (String.ofList pattern)), n + 1⟩ := by
  by_cases hassign : startsWith ['='] r
  · obtain ⟨r, rfl⟩ := startsWith_iff.mp hassign
    rw [if_pos hassign, List.singleton_append, Literal.regexBody?_outside (by decide)]
    show (if afterOperand then _ else match Literal.regexBody? false r with
      | none => _
      | some (pattern, n) => _ : Step) = _
    cases Literal.regexBody? false r with
    | none => rfl
    | some read =>
      obtain ⟨pattern, n⟩ := read
      cases afterOperand with
      | true => rfl
      | false =>
        show (.ok ⟨some (.regex (String.ofList ('=' :: pattern))), 2 + n⟩ : Step) = _
        rw [Nat.add_comm 2]
        rfl
  · have hslash : startsWith ['/', '='] ('/' :: r) = false :=
      Bool.eq_false_iff.mpr hassign
    rw [if_neg hassign, slash, hslash]
    show (if afterOperand then _ else match Literal.regexBody? false r with
      | none => _
      | some (pattern, n) => _ : Step) = _
    cases Literal.regexBody? false r with
    | none => rfl
    | some read =>
      obtain ⟨pattern, n⟩ := read
      cases afterOperand with
      | true => rfl
      | false =>
        show (.ok ⟨some (.regex (String.ofList pattern)), 1 + n⟩ : Step) = _
        rw [Nat.add_comm 1]
        rfl

theorem word_length (s : List Char) : (word s).length = count isNameChar s := by
  unfold word
  dsimp only
  split
  · rfl
  · split <;> rfl

/-! Steps. -/

/-- What may be taken before what is left. -/
inductive Takes : Option Token → List Char → List Char → Prop
  | blanks {text : List Char} (rest : List Char) : (∀ c ∈ text, isBlank c) → Takes none text rest
  | comment {text rest : List Char} : '\n' ∉ text → (∀ c ∈ rest.head?, c = '\n') →
      Takes none ('#' :: text) rest
  | join {blanks : List Char} (rest : List Char) : (∀ c ∈ blanks, isJoinBlank c) →
      Takes none ('\\' :: blanks ++ ['\n']) rest
  | regex {body pattern : List Char} (rest : List Char) : Written false body pattern →
      Takes (some (.regex (String.ofList pattern))) ('/' :: body ++ ['/']) rest
  | token {t : Token} (text rest : List Char) : t ≠ .eof → (∀ pattern, t ≠ .regex pattern) →
      Takes (some t) text rest

/-- A step takes so many characters off the front of a text. -/
structure Advances (s : List Char) (taken : Taken) : Prop where
  pos : 0 < taken.length
  le : taken.length ≤ s.length
  takes : Takes taken.token (s.take taken.length) (s.drop taken.length)

namespace Advances

variable {c : Char} {r : List Char} {taken : Taken} {afterOperand : Bool}

theorem of_text {token : Option Token} {text rest : List Char} (hpos : text ≠ [])
    (h : Takes token text rest) : Advances (text ++ rest) ⟨token, text.length⟩ where
  pos := List.length_pos_iff.mpr hpos
  le := by simp
  takes := by rwa [List.take_left, List.drop_left]

theorem blanks (hc : isBlank c) : Advances (c :: r) ⟨none, count isBlank (c :: r)⟩ where
  pos := count_pos hc r
  le := count_le _ _
  takes := by
    rw [take_count]
    exact .blanks _ fun c hc => List.mem_takeWhile_imp hc

theorem comment (r : List Char) : Advances ('#' :: r) ⟨none, count (· ≠ '\n') ('#' :: r)⟩ where
  pos := count_pos (by decide) r
  le := count_le _ _
  takes := by
    rw [take_count, drop_count, List.takeWhile_cons_of_pos (by decide),
      List.dropWhile_cons_of_pos (by decide)]
    refine .comment (fun hmem => ?_) fun c hc => ?_
    · simpa using List.mem_takeWhile_imp hmem
    · have hstop := List.head?_dropWhile_not (fun c => decide (c ≠ '\n')) r
      rw [Option.mem_def.mp hc] at hstop
      simpa using hstop

theorem join (h : Lexer.join ('\\' :: r) = .ok taken) : Advances ('\\' :: r) taken := by
  rw [join_eq, drop_count] at h
  split at h
  · rename_i hnewline
    cases h
    obtain ⟨rest, hrest⟩ := startsWith_iff.mp hnewline
    have hr : '\\' :: r = ('\\' :: r.takeWhile isJoinBlank ++ ['\n']) ++ rest := by
      rw [List.append_assoc, hrest, List.cons_append, List.takeWhile_append_dropWhile]
    have htext : '\\' :: r.takeWhile isJoinBlank ++ ['\n'] ≠ [] := by simp
    have h := of_text htext (.join rest fun c hc => List.mem_takeWhile_imp hc)
    rw [← hr] at h
    simpa [count] using h
  · cases h

theorem quoted (h : Lexer.quoted ('"' :: r) = .ok taken) : Advances ('"' :: r) taken := by
  rw [quoted_eq] at h
  split at h
  · rename_i hclosed
    cases h
    obtain ⟨hlt, -⟩ := stringBody_closed hclosed
    exact ⟨Nat.succ_pos _, by simp; omega, .token _ _ nofun nofun⟩
  · cases h

theorem regex {body pattern : List Char} (h : Written false body pattern) (rest : List Char) :
    Advances ('/' :: (body ++ '/' :: rest))
      ⟨some (.regex (String.ofList pattern)), body.length + 2⟩ := by
  have hregex := of_text (by simp) (Takes.regex rest h)
  simpa using hregex

theorem slash (h : Lexer.slash afterOperand ('/' :: r) = .ok taken) :
    Advances ('/' :: r) taken := by
  rw [slash_eq] at h
  split at h
  · split at h
    · rename_i hassign
      cases h
      obtain ⟨r, rfl⟩ := startsWith_iff.mp hassign
      exact ⟨Nat.succ_pos _, by simp, .token _ _ nofun nofun⟩
    · cases h
      exact ⟨Nat.one_pos, by simp, .token _ _ nofun nofun⟩
  · split at h
    · cases h
    · rename_i hread
      cases h
      obtain ⟨body, rest, rfl, rfl, hwritten⟩ := Written.of_regexBody? hread
      exact regex hwritten rest

theorem word (hc : isNameStart c) : Advances (c :: r) (Lexer.word (c :: r)) := by
  have hname : isNameChar c := by
    simp only [isNameStart, isNameChar, Bool.or_eq_true, Char.isAlphanum] at hc ⊢
    tauto
  have htoken : ∃ t, (Lexer.word (c :: r)).token = some t ∧ t ≠ .eof ∧ ∀ p, t ≠ .regex p := by
    unfold Lexer.word
    dsimp only
    split
    · exact ⟨_, rfl, nofun, nofun⟩
    · split <;> exact ⟨_, rfl, nofun, nofun⟩
  obtain ⟨t, ht, heof, hregex⟩ := htoken
  exact ⟨word_length _ ▸ count_pos hname r, word_length _ ▸ count_le _ _,
    ht ▸ .token _ _ heof hregex⟩

theorem sign (h : Lexer.sign c (c :: r) = .ok taken) : Advances (c :: r) taken := by
  unfold Lexer.sign at h
  split at h
  · rename_i spelling symbol hfound
    cases h
    have hpos : 0 < spelling.toList.length := by
      have hall : ∀ p ∈ Symbol.spellings, 0 < p.1.toList.length := by decide +kernel
      exact hall _ (List.mem_of_find?_eq_some hfound)
    have hstarts := List.find?_some hfound
    exact ⟨hpos, (startsWith_iff.mp hstarts).length_le, .token _ _ nofun nofun⟩
  · cases h

/-- A step that does not fail takes something. -/
theorem of_step (h : step afterOperand c r = .ok taken) : Advances (c :: r) taken := by
  unfold step at h
  dsimp only at h
  split at h
  · cases h
    exact blanks ‹_›
  split at h
  · subst c
    cases h
    exact comment r
  split at h
  · subst c
    cases h
    exact ⟨Nat.one_pos, Nat.succ_le_succ (Nat.zero_le _), .token _ _ nofun nofun⟩
  split at h
  · subst c
    exact join h
  split at h
  · subst c
    exact quoted h
  split at h
  · subst c
    exact slash h
  split at h
  · cases h
    exact word ‹_›
  split at h
  · exact sign h
  · cases h
    exact ⟨Nat.pos_of_ne_zero ‹_›, numeralLength_le _, .token _ _ nofun nofun⟩

end Advances

/-! Steps before a newline. -/

variable {c : Char} {r : List Char} {taken : Taken} {afterOperand : Bool}

theorem join_newline (h : join ('\\' :: r) = .ok taken) (t : List Char) :
    join ('\\' :: r ++ '\n' :: t) = .ok taken := by
  rw [join_eq] at h
  split at h
  · rename_i hnewline
    have hsame : startsWith ['\n'] ((r ++ '\n' :: t).drop (count isJoinBlank r)) := by
      rw [drop_newline (count_le _ _)]
      exact startsWith_iff.mpr ((startsWith_iff.mp hnewline).trans (List.prefix_append _ _))
    rw [List.cons_append, join_eq, count_newline rfl, if_pos hsame]
    exact h
  · cases h

theorem quoted_newline (h : quoted ('"' :: r) = .ok taken) (t : List Char) :
    quoted ('"' :: r ++ '\n' :: t) = .ok taken := by
  rw [quoted_eq] at h
  split at h
  · rename_i hclosed
    obtain ⟨hlt, happend⟩ := stringBody_closed hclosed
    rw [List.cons_append, quoted_eq, happend, if_pos hclosed,
      List.take_append_of_le_length hlt.le]
    exact h
  · cases h

theorem slash_newline (h : slash afterOperand ('/' :: r) = .ok taken) (t : List Char) :
    slash afterOperand ('/' :: r ++ '\n' :: t) = .ok taken := by
  rw [slash_eq] at h
  rw [List.cons_append, slash_eq, startsWith_newline (by decide)]
  cases afterOperand with
  | true => exact h
  | false =>
    cases hread : Literal.regexBody? false r with
    | none =>
      rw [hread] at h
      cases h
    | some read =>
      obtain ⟨body, rest, rfl, hn, hwritten⟩ := Written.of_regexBody? (p := read.1) (n := read.2) hread
      rw [hread] at h
      rw [List.append_assoc, List.cons_append, hwritten.regexBody?, ← hn]
      exact h

theorem word_newline (s t : List Char) : word (s ++ '\n' :: t) = word s := by
  unfold word
  rw [count_newline rfl]
  dsimp only
  rw [List.take_append_of_le_length (count_le _ _), drop_newline (count_le _ _),
    startsWith_newline (by decide)]

theorem sign_newline (c : Char) (s t : List Char) : sign c (s ++ '\n' :: t) = sign c s := by
  have hspelling : ∀ p ∈ Symbol.spellings, '\n' ∉ p.1.toList := by decide +kernel
  unfold sign
  rw [List.find?_congr fun p hp => startsWith_newline (hspelling p hp) s t]

/-- A step that does not fail takes the same where a newline follows. -/
theorem step_newline (h : step afterOperand c r = .ok taken) (t : List Char) :
    step afterOperand c (r ++ '\n' :: t) = .ok taken := by
  have hcons : c :: (r ++ '\n' :: t) = c :: r ++ '\n' :: t := rfl
  unfold step at h ⊢
  dsimp only at h ⊢
  rw [hcons, count_newline rfl, count_newline rfl, word_newline, numeralLength_newline, sign_newline,
    List.take_append_of_le_length (numeralLength_le _)]
  split_ifs at h ⊢ with hblank hcomment hnewline hjoin hquote hslash
  · exact h
  · exact h
  · exact h
  · subst c
    exact join_newline h t
  · subst c
    exact quoted_newline h t
  · subst c
    exact slash_newline h t
  · exact h
  · exact h
  · exact h

/-! Steps along a text. -/

/-- The lexemes that steps along a text come to, from a byte on. -/
inductive Lexed : Bool → Nat → List Char → List Lexeme → Prop
  | eof (afterOperand : Bool) (at_ : Nat) : Lexed afterOperand at_ [] [⟨.eof, ⟨at_, at_⟩⟩]
  | skip {afterOperand : Bool} {at_ n : Nat} {c : Char} {r : List Char} {ls : List Lexeme} :
      step afterOperand c r = .ok ⟨none, n⟩ →
      Lexed afterOperand (at_ + byteCount ((c :: r).take n)) ((c :: r).drop n) ls →
      Lexed afterOperand at_ (c :: r) ls
  | token {afterOperand : Bool} {at_ n : Nat} {c : Char} {r : List Char} {t : Token}
      {ls : List Lexeme} : step afterOperand c r = .ok ⟨some t, n⟩ →
      Lexed t.endsOperand (at_ + byteCount ((c :: r).take n)) ((c :: r).drop n) ls →
      Lexed afterOperand at_ (c :: r) (⟨t, ⟨at_, at_ + byteCount ((c :: r).take n)⟩⟩ :: ls)

/-- Behind a step there is less fuel needed. -/
theorem Advances.length_drop_lt {fuel : Nat} (h : Advances (c :: r) taken)
    (hfuel : (c :: r).length < fuel + 1) : ((c :: r).drop taken.length).length < fuel := by
  have hpos := h.pos
  have hle := h.le
  rw [List.length_drop]
  omega

namespace Lexed

variable {at_ fuel : Nat} {ls : List Lexeme}

theorem of_lexemes (hfuel : s.length < fuel) (h : lexemes fuel afterOperand at_ s = .ok ls) :
    Lexed afterOperand at_ s ls := by
  induction fuel generalizing afterOperand at_ s ls with
  | zero => exact absurd hfuel (Nat.not_lt_zero _)
  | succ fuel ih =>
    cases s with
    | nil =>
      cases h
      exact eof _ _
    | cons c r =>
      rw [lexemes] at h
      cases hstep : step afterOperand c r with
      | error e =>
        rw [hstep] at h
        cases h
      | ok taken =>
        have hlt := (Advances.of_step hstep).length_drop_lt hfuel
        obtain ⟨token, n⟩ := taken
        rw [hstep] at h
        cases token with
        | none => exact skip hstep (ih hlt h)
        | some t =>
          dsimp only at h
          cases hrest : lexemes fuel t.endsOperand (at_ + byteCount ((c :: r).take n))
              ((c :: r).drop n) with
          | error e =>
            rw [hrest] at h
            cases h
          | ok ls =>
            rw [hrest] at h
            cases h
            exact token hstep (ih hlt hrest)

/-- Any fuel that suffices comes to the same lexemes. -/
theorem lexemes (h : Lexed afterOperand at_ s ls) (hfuel : s.length < fuel) :
    Lexer.lexemes fuel afterOperand at_ s = .ok ls := by
  induction h generalizing fuel with
  | eof afterOperand at_ => cases fuel <;> rfl
  | skip hstep _ ih =>
    cases fuel with
    | zero => exact absurd hfuel (Nat.not_lt_zero _)
    | succ fuel =>
      have hrest := ih ((Advances.of_step hstep).length_drop_lt hfuel)
      rw [Lexer.lexemes, hstep]
      exact hrest
  | token hstep _ ih =>
    cases fuel with
    | zero => exact absurd hfuel (Nat.not_lt_zero _)
    | succ fuel =>
      have hrest := ih ((Advances.of_step hstep).length_drop_lt hfuel)
      rw [Lexer.lexemes, hstep]
      dsimp only
      rw [hrest]
      rfl

end Lexed

theorem lex_eq_ok {source : String} {ls : List Lexeme} :
    lex source = .ok ls ↔ Lexed false 0 source.toList ls :=
  ⟨.of_lexemes (Nat.lt_succ_self _), fun h => h.lexemes (Nat.lt_succ_self _)⟩

end Awk.Lexer
