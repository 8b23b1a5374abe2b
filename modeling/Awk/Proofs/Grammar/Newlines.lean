import Awk.Proofs.Grammar.CarriedPrograms

/-! The parser comes to a result or an error, and newlines are free where the language says so: a
newline behind one of the tokens that newlines may follow changes nothing. -/

namespace Awk

/-- The lexemes of a whole text, the last of which is the end. -/
def Ended (l : List Lexeme) : Prop := ∃ before last, l = before ++ [last] ∧ last.token = .eof

namespace Ended

variable {l : List Lexeme}

theorem ne_nil (h : Ended l) : l ≠ [] := by
  obtain ⟨before, last, rfl, -⟩ := h
  exact List.append_ne_nil_of_right_ne_nil _ (List.cons_ne_nil _ _)

theorem tail {x : Lexeme} (h : Ended (x :: l)) (hx : x.token ≠ .eof) : Ended l := by
  obtain ⟨before, last, hl, hlast⟩ := h
  cases before with
  | nil =>
    cases hl
    exact absurd hlast hx
  | cons y before =>
    cases hl
    exact ⟨before, last, rfl, hlast⟩

theorem dropWhile {p : Token → Bool} (hp : p .eof = false) (h : Ended l) :
    Ended (l.dropWhile (p ·.token)) := by
  induction l with
  | nil => exact absurd rfl h.ne_nil
  | cons x l ih =>
    by_cases hx : p x.token = true
    · simp only [List.dropWhile_cons, hx, if_true]
      refine ih (h.tail fun hend => ?_)
      rw [hend, hp] at hx
      cases hx
    · simpa only [List.dropWhile_cons, hx, Bool.false_eq_true, if_false] using h

theorem behind {a b : List Lexeme} {x : Lexeme} (h : Ended (a ++ x :: b)) (hx : x.token ≠ .eof) :
    Ended b := by
  obtain ⟨before, last, hl, hlast⟩ := h
  rcases List.eq_nil_or_concat b with rfl | ⟨b, y, rfl⟩
  · obtain ⟨-, hxlast⟩ := List.append_inj' hl rfl
    cases hxlast
    exact absurd hlast hx
  · have hsplit : (a ++ x :: b) ++ [y] = before ++ [last] := by
      rw [← hl, List.concat_eq_append, List.append_assoc]
      rfl
    obtain ⟨-, hy⟩ := List.append_inj' hsplit rfl
    cases hy
    exact ⟨b, last, List.concat_eq_append, hlast⟩

end Ended

namespace Parser

theorem ne_eof_of_plain {t : Token} (h : t.plain = true) : t ≠ .eof := by
  rintro rfl
  cases h

theorem ne_eof_of_opens {t : Token} (h : t.opens = true) : t ≠ .eof := by
  rintro rfl
  cases h

theorem not_opens_of_plain {t : Token} (h : t.plain = true) : t.opens = false := by
  cases t with
  | eof => cases h
  | _ => exact Bool.not_eq_true' _ |>.mp h

/-- A newline more behind an opening token. -/
inductive MoreNewline : List Lexeme → List Lexeme → Prop
  /-- The place has been passed. -/
  | behind {l : List Lexeme} (h : Ended l) : MoreNewline l l
  | here {x newline : Lexeme} {l : List Lexeme} (hx : x.token.opens = true)
      (hnewline : newline.token = .newline) (h : Ended l) :
      MoreNewline (x :: l) (x :: newline :: l)
  | later {x : Lexeme} {l l' : List Lexeme} (h : MoreNewline l l') : MoreNewline (x :: l) (x :: l')

def moreNewline : Change where
  Lexemes := MoreNewline
  Place := Eq
  ranges := 0
  goesOn := False
  some_left := by
    rintro l l' (h | _ | _)
    · exact h.ne_nil
    · exact List.cons_ne_nil _ _
    · exact List.cons_ne_nil _ _
  some_right := by
    rintro l l' (h | _ | _)
    · exact h.ne_nil
    · exact List.cons_ne_nil _ _
    · exact List.cons_ne_nil _ _
  token := by
    rintro x l y l' (_ | _ | _) <;> exact .inl rfl
  place := by
    rintro x l y l' (_ | _ | _) <;> rfl
  merge := by
    rintro _ _ _ _ rfl rfl
    rfl
  next := by
    rintro x l y l' (h | ⟨hx, -, -⟩ | h) hplain
    · exact .behind (h.tail (ne_eof_of_plain hplain))
    · rw [not_opens_of_plain hplain] at hx
      cases hx
    · exact h
  opens := by
    rintro x l y l' (h | ⟨hx, hnewline, h⟩ | h) hopens
    · exact .inl (.behind (h.tail (ne_eof_of_opens hopens)))
    · refine .inr ?_
      simp only [List.dropWhile_cons, hnewline, decide_true, if_true]
      exact .behind (h.dropWhile (p := (· = .newline)) rfl)
    · exact .inl h
  last h := h.elim
  noElse h := h.elim

theorem MoreNewline.length_le {l l' : List Lexeme} (h : MoreNewline l l') :
    l.length ≤ l'.length := by
  induction h with
  | behind => exact Nat.le_refl _
  | here => exact Nat.le_succ _
  | later _ ih => exact Nat.succ_le_succ ih

theorem renumber_zero (p : Pattern) : p.renumber 0 = p := by
  induction p with
  | not inner ih => exact congrArg Pattern.not ih
  | and l r ihl ihr => exact congrArg₂ Pattern.and ihl ihr
  | or l r ihl ihr => exact congrArg₂ Pattern.or ihl ihr
  | range id first last ihf ihl =>
    unfold Pattern.renumber
    rw [Nat.zero_add, ihf, ihl]
  | _ => rfl

theorem item_renumber_zero : Item.renumber 0 = id :=
  funext fun i => congrArg (Item.mk · i.action) (renumber_zero i.pattern)

theorem eq_of_turnsFunction {f f' : Function} (h : moreNewline.TurnsFunction f f') : f' = f := by
  obtain ⟨name, parameters, body, place⟩ := f
  obtain ⟨name', parameters', body', place'⟩ := f'
  obtain ⟨hname, hparameters, hbody, hplace⟩ := h
  cases hname
  cases hparameters
  cases hbody
  cases hplace
  rfl

theorem eq_of_turnsProgram {p p' : Program} (h : moreNewline.TurnsProgram p p')
    (hranges : p'.ranges = p.ranges) : p' = p := by
  have hfunctions : p.functions = p'.functions := by
    rw [← List.forall₂_eq_eq_eq]
    exact h.functions.imp fun f f' hf => (eq_of_turnsFunction hf).symm
  obtain ⟨items, functions, ranges⟩ := p
  obtain ⟨items', functions', ranges'⟩ := p'
  have hitems : items' = items.map (Item.renumber 0) := h.items
  rw [item_renumber_zero, List.map_id] at hitems
  cases hitems
  cases hfunctions
  cases hranges
  rfl

/-- A newline more behind an opening token changes neither a program nor an error. -/
theorem MoreNewline.parseLexemes {l l' : List Lexeme} (h : MoreNewline l l') :
    ∃ r, parseLexemes l = some r ∧ parseLexemes l' = some r := by
  have hle := h.length_le
  have hstart : moreNewline.Turns (.start l) (.start l') := ⟨h, rfl, rfl⟩
  have hempty : moreNewline.TurnsProgram .empty .empty := ⟨rfl, .nil⟩
  have hout := program_carried (M := moreNewline) (n := fuelFor l.length) (m := fuelFor l'.length)
    (b := l.length) nofun (by unfold fuelFor; omega) (by unfold fuelFor; omega) hempty _ _ hstart
    trivial (Nat.le_refl _)
  unfold Awk.parseLexemes
  generalize program (fuelFor l.length) .empty (.start l) = r,
    program (fuelFor l'.length) .empty (.start l') = r' at hout ⊢
  cases hout with
  | @ok p p' _ _ result _ _ _ =>
    obtain rfl := eq_of_turnsProgram result.1 (result.2.trans (Nat.zero_add _))
    exact ⟨_, rfl, rfl⟩
  | @error e _ _ same =>
    obtain ⟨e', _, rfl, hcause, hplace⟩ := same nofun
    obtain ⟨cause, place⟩ := e
    obtain ⟨cause', place'⟩ := e'
    cases hcause
    cases hplace
    exact ⟨_, rfl, rfl⟩

end Parser

/-- The parser of programs always comes to a program or a syntax error. -/
theorem parseLexemes_total {l : List Lexeme} (h : Ended l) : ∃ r, parseLexemes l = some r := by
  obtain ⟨r, hr, -⟩ := (Parser.MoreNewline.behind h).parseLexemes
  exact ⟨r, hr⟩

/-- Newlines are free behind an opening brace, `&&`, `||`, a comma, `do` and `else`: with one more
there the parser comes to the same program, or to the same error. -/
theorem parseLexemes_newline {a b : List Lexeme} {x newline : Lexeme} (h : Ended (a ++ x :: b))
    (hx : x.token.opens = true) (hnewline : newline.token = .newline) :
    ∃ r, parseLexemes (a ++ x :: b) = some r ∧ parseLexemes (a ++ x :: newline :: b) = some r := by
  have hmore : Parser.MoreNewline (a ++ x :: b) (a ++ x :: newline :: b) := by
    have hb := h.behind (Parser.ne_eof_of_opens hx)
    clear h
    induction a with
    | nil => exact .here hx hnewline hb
    | cons y a ih => exact .later ih
  exact hmore.parseLexemes

/-- An action that prints `a`, up to a comma. -/
def beforeComma : List Lexeme :=
  [.symbol .lbrace, .keyword .print, .ident "a"].map (⟨·, ⟨0, 0⟩⟩)

/-- What else it prints. -/
def behindComma : List Lexeme := [.ident "b", .symbol .rbrace, .eof].map (⟨·, ⟨0, 0⟩⟩)

def comma : Lexeme := ⟨.symbol .comma, ⟨0, 0⟩⟩

def lineEnd : Lexeme := ⟨.newline, ⟨0, 0⟩⟩

theorem parseLexemes_newline_comma :
    Ended (beforeComma ++ comma :: behindComma) ∧ comma.token.opens = true ∧
      ∃ p : Program, p.items.length = 1 ∧
        parseLexemes (beforeComma ++ comma :: behindComma) = some (.ok p) ∧
        parseLexemes (beforeComma ++ comma :: lineEnd :: behindComma) = some (.ok p) := by
  have hended : Ended (beforeComma ++ comma :: behindComma) :=
    ⟨beforeComma ++ comma :: [.ident "b", .symbol .rbrace].map (⟨·, ⟨0, 0⟩⟩), ⟨.eof, ⟨0, 0⟩⟩, rfl, rfl⟩
  obtain ⟨r, hbefore, hafter⟩ :=
    parseLexemes_newline hended (x := comma) rfl (show lineEnd.token = .newline from rfl)
  have hread : parseLexemes (beforeComma ++ comma :: behindComma) =
      some (.ok ⟨[⟨.all, .mk .program [.print [[.var "a"], [.var "b"]] none]⟩], [], 0⟩) := rfl
  rw [hread] at hbefore
  cases hbefore
  exact ⟨hended, rfl, _, rfl, hread, hafter⟩

end Awk
