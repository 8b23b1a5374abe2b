import Awk.Proofs.Source.Tiling

/-! String literals. Every text has a literal that denotes it: backslashes and quotes are written
with a backslash before them, and a newline as `\n`. The literal is read up to its own closing
quote, whatever follows, and its body is decoded to the text. -/

namespace Awk

namespace Literal

/-- How a character is written in a string literal. -/
def escapeChar (c : Char) : List Char :=
  if c = '\\' then ['\\', '\\']
  else if c = '"' then ['\\', '"']
  else if c = '\n' then ['\\', 'n']
  else [c]

/-- The body of the string literal of a text. -/
def escape (s : String) : String := String.ofList (s.toList.flatMap escapeChar)

/-- The string literal of a text. -/
def quote (s : String) : String := "\"" ++ escape s ++ "\""

/-- A character is written as itself or as an escape that stands for it. -/
theorem escapeChar_cases (c : Char) :
    (∃ d, escapeChar c = ['\\', d] ∧ isOctal d = false ∧ d ≠ '\n' ∧ escaped d = c) ∨
      escapeChar c = [c] ∧ c ≠ '\\' ∧ c ≠ '"' ∧ c ≠ '\n' := by
  unfold escapeChar
  split_ifs with hbackslash hquote hnewline
  · exact .inl ⟨'\\', rfl, by decide, by decide, hbackslash.symm⟩
  · exact .inl ⟨'"', rfl, by decide, by decide, hquote.symm⟩
  · exact .inl ⟨'n', rfl, by decide, by decide, hnewline.symm⟩
  · exact .inr ⟨rfl, hbackslash, hquote, hnewline⟩

/-- What is written is decoded to the text, and what follows is decoded by itself. -/
theorem unescapeFrom_escape (s t : List Char) :
    unescapeFrom .nothing (s.flatMap escapeChar ++ t) = s ++ unescapeFrom .nothing t := by
  induction s with
  | nil => rfl
  | cons c s ih =>
    rw [List.flatMap_cons, List.append_assoc, List.cons_append]
    obtain ⟨d, hd, hoctal, hnewline, rfl⟩ | ⟨hc, hbackslash, -, -⟩ := escapeChar_cases c
    · rw [hd, List.cons_append, unescapeFrom, if_pos rfl, List.cons_append, List.nil_append,
        unescapeFrom, hoctal, if_neg Bool.false_ne_true, if_neg hnewline, ih]
    · rw [hc, List.singleton_append, unescapeFrom, if_neg hbackslash, ih]

theorem unescape_escape (s : String) : unescape (escape s) = s := by
  rw [unescape, escape, String.toList_ofList, ← List.append_nil (s.toList.flatMap escapeChar),
    unescapeFrom_escape]
  exact (congrArg String.ofList (List.append_nil _)).trans String.ofList_toList

end Literal

namespace Lexer

open Literal

/-- The quotes of the text do not close its literal. -/
theorem stringBody_escape_append (s t : List Char) :
    stringBody (s.flatMap escapeChar ++ '"' :: t) = ((s.flatMap escapeChar).length, true) := by
  induction s with
  | nil => rfl
  | cons c s ih =>
    rw [List.flatMap_cons, List.append_assoc]
    obtain ⟨d, hd, -⟩ | ⟨hc, hbackslash, hquote, hnewline⟩ := escapeChar_cases c
    · rw [hd, List.cons_append, List.singleton_append, stringBody_escape, ih]
      simp only [List.cons_append, List.nil_append, List.length_cons]
    · rw [hc, List.singleton_append, stringBody_cons hbackslash, if_neg hquote, if_neg hnewline, ih]
      simp only [List.singleton_append, List.length_cons]

theorem toList_quote (s : String) :
    (quote s).toList = '"' :: (s.toList.flatMap escapeChar ++ ['"']) := by
  simp [quote, escape]

/-- One step takes the whole literal of a text, whatever follows. -/
theorem step_quote (afterOperand : Bool) (s : String) (t : List Char) :
    step afterOperand '"' (s.toList.flatMap escapeChar ++ '"' :: t) =
      .ok ⟨some (.string s), (quote s).toList.length⟩ := by
  have hquoted (r : List Char) : step afterOperand '"' r = quoted ('"' :: r) := rfl
  rw [hquoted, quoted_eq, stringBody_escape_append, if_pos rfl, List.take_left, ← escape,
    unescape_escape, toList_quote, List.length_cons, List.length_append, List.length_singleton]

end Lexer

/-- The literal of a text, by itself, is read as one string, which is the text; and the body of the
literal is decoded to it. -/
theorem lex_quote (s : String) :
    lex (Literal.quote s) = .ok
        [⟨.string s, ⟨0, (Literal.quote s).utf8ByteSize⟩⟩,
          ⟨.eof, ⟨(Literal.quote s).utf8ByteSize, (Literal.quote s).utf8ByteSize⟩⟩] ∧
      Literal.unescape (Literal.escape s) = s := by
  refine ⟨Lexer.lex_eq_ok.mpr ?_, Literal.unescape_escape s⟩
  have hstep := Lexer.step_quote false s []
  have hsize : byteCount (Literal.quote s).toList = (Literal.quote s).utf8ByteSize := by
    rw [byteCount_eq, String.ofList_toList]
  rw [← hsize]
  rw [Lexer.toList_quote] at hstep ⊢
  generalize s.toList.flatMap Literal.escapeChar ++ ['"'] = r at hstep ⊢
  have htoken := @Lexer.Lexed.token false 0 _ '"' r _
    [⟨.eof, ⟨byteCount ('"' :: r), byteCount ('"' :: r)⟩⟩] hstep
  rw [List.take_length, List.drop_length, Nat.zero_add] at htoken
  exact htoken (.eof _ _)

/-- What stands behind an escape does not become a part of it. -/
example : Literal.quote "é\"\\0\n" = "\"é\\\"\\\\0\\n\"" := by decide

end Awk
