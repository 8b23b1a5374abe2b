import Mathlib
import Awk.Source.Literal

/-! Regular expressions as they are written. What stands between the two slashes is made up of
escapes, bracket expressions and ordinary characters; reading one finds the slash that closes it and
the pattern. -/

namespace Awk.Literal

/-- What stands right behind an opening bracket without ending the bracket expression. -/
inductive Lead : List Char → List Char → Prop
  | both (body : List Char) : Lead ['^', ']'] body
  | caret {body : List Char} : body.head? ≠ some ']' → Lead ['^'] body
  | bracket (body : List Char) : Lead [']'] body
  | none {body : List Char} : body.head? ≠ some ']' → body.head? ≠ some '^' → Lead [] body

/-- What is written up to the slash that closes it, inside or outside of brackets, with the pattern
that it stands for. -/
inductive Written : Bool → List Char → List Char → Prop
  | done : Written false [] []
  | escape {b : Bool} {c : Char} {body p : List Char} : c ≠ '\n' → Written b body p →
      Written b ('\\' :: c :: body) (if c = '/' then '/' :: p else '\\' :: c :: p)
  | opening {lead body p : List Char} : Lead lead body → Written true body p →
      Written false ('[' :: lead ++ body) ('[' :: lead ++ p)
  | closing {body p : List Char} : Written false body p → Written true (']' :: body) (']' :: p)
  | outside {c : Char} {body p : List Char} : c ∉ ['\n', '\\', '/', '['] → Written false body p →
      Written false (c :: body) (c :: p)
  | inside {c : Char} {body p : List Char} : c ∉ ['\n', '\\', ']'] → Written true body p →
      Written true (c :: body) (c :: p)

variable {s body p : List Char} {b : Bool} {c : Char} {n : Nat}

namespace Lead

theorem exists_lead (s : List Char) : ∃ lead body, s = lead ++ body ∧ Lead lead body := by
  cases s with
  | nil => exact ⟨[], [], rfl, .none (by simp) (by simp)⟩
  | cons c r =>
    by_cases hclose : c = ']'
    · exact ⟨[']'], r, hclose ▸ rfl, .bracket r⟩
    · by_cases hcaret : c = '^'
      · by_cases hr : r.head? = some ']'
        · obtain ⟨r, rfl⟩ := List.head?_eq_some_iff.mp hr
          exact ⟨['^', ']'], r, hcaret ▸ rfl, .both r⟩
        · exact ⟨['^'], r, hcaret ▸ rfl, .caret hr⟩
      · exact ⟨[], c :: r, rfl, .none (by simpa using hclose) (by simpa using hcaret)⟩

/-- The closing slash does not belong to what stands behind the bracket. -/
theorem append_iff {lead rest : List Char} : Lead lead (body ++ '/' :: rest) ↔ Lead lead body := by
  have hhead {d : Char} (hd : d ≠ '/') :
      (body ++ '/' :: rest).head? ≠ some d ↔ body.head? ≠ some d := by
    cases body with
    | nil => simpa using hd.symm
    | cons c body => exact Iff.rfl
  have hclose := hhead (d := ']') (by decide)
  have hcaret := hhead (d := '^') (by decide)
  constructor
  · rintro (_ | h | _ | ⟨h, h'⟩)
    · exact .both body
    · exact .caret (hclose.mp h)
    · exact .bracket body
    · exact .none (hclose.mp h) (hcaret.mp h')
  · rintro (_ | h | _ | ⟨h, h'⟩)
    · exact .both _
    · exact .caret (hclose.mpr h)
    · exact .bracket _
    · exact .none (hclose.mpr h) (hcaret.mpr h')

end Lead

/-! The clauses of reading, one for each form. -/

/-- What is read, with more in front. -/
def prepend (text : List Char) (read : Option (List Char × Nat)) : Option (List Char × Nat) :=
  read.map fun (p, n) => (text ++ p, n + text.length)

theorem prepend_prepend (u v : List Char) (read : Option (List Char × Nat)) :
    prepend u (prepend v read) = prepend (u ++ v) read := by
  cases read with
  | none => rfl
  | some r => simp [prepend]; omega

theorem prepend_eq_some_iff {text : List Char} {read : Option (List Char × Nat)} :
    prepend text read = some (p, n) ↔
      ∃ q m, read = some (q, m) ∧ p = text ++ q ∧ n = m + text.length := by
  simp [prepend, eq_comm]

theorem regexBody?_escape (h : c ≠ '\n') (b : Bool) (s : List Char) :
    regexBody? b ('\\' :: c :: s) =
      (regexBody? b s).map fun (p, n) => (if c = '/' then '/' :: p else '\\' :: c :: p, n + 2) := by
  rw [regexBody?]
  all_goals grind

theorem regexBody?_plain (h : c ∉ ['\n', '\\', '[']) (b : Bool) (s : List Char) :
    regexBody? b (c :: s) = if c = '/' && !b then some ([], 1)
      else prepend [c] (regexBody? (if c = ']' then false else b) s) := by
  simp only [List.mem_cons, List.not_mem_nil, or_false, not_or] at h
  rw [regexBody?]
  · simp [prepend, h]
  all_goals grind

theorem regexBody?_both (b : Bool) (s : List Char) :
    regexBody? b ('[' :: '^' :: ']' :: s) = prepend ['[', '^', ']'] (regexBody? (!b) s) := by
  cases b <;> rfl

theorem regexBody?_caret (h : s.head? ≠ some ']') (b : Bool) :
    regexBody? b ('[' :: '^' :: s) = prepend ['[', '^'] (regexBody? true s) := by
  rw [regexBody?]
  · rfl
  · grind

theorem regexBody?_pair (b : Bool) (s : List Char) :
    regexBody? b ('[' :: ']' :: s) = prepend ['[', ']'] (regexBody? (!b) s) := by
  cases b <;> rfl

theorem regexBody?_bracket (hclose : s.head? ≠ some ']') (hcaret : s.head? ≠ some '^') (b : Bool) :
    regexBody? b ('[' :: s) = prepend ['['] (regexBody? true s) := by
  rw [regexBody?]
  · rfl
  all_goals grind

theorem regexBody?_opening {lead : List Char} (h : Lead lead s) :
    regexBody? false ('[' :: lead ++ s) = prepend ('[' :: lead) (regexBody? true s) := by
  cases h with
  | both => exact regexBody?_both false s
  | caret h => exact regexBody?_caret h false
  | bracket => exact regexBody?_pair false s
  | none hclose hcaret => exact regexBody?_bracket hclose hcaret false

theorem regexBody?_closing (s : List Char) :
    regexBody? true (']' :: s) = prepend [']'] (regexBody? false s) := by
  rw [regexBody?_plain (by decide)]
  rfl

/-- Inside of brackets another opening bracket is ordinary, although it is read together with what
stands behind it. -/
theorem regexBody?_inside (h : c ∉ ['\n', '\\', ']']) (s : List Char) :
    regexBody? true (c :: s) = prepend [c] (regexBody? true s) := by
  simp only [List.mem_cons, List.not_mem_nil, or_false, not_or] at h
  by_cases hc : c = '['
  · subst hc
    have hcaret (s : List Char) : regexBody? true ('^' :: s) = prepend ['^'] (regexBody? true s) := by
      rw [regexBody?_plain (by decide)]
      rfl
    obtain ⟨lead, body, rfl, hlead⟩ := Lead.exists_lead s
    cases hlead with
    | both =>
      show regexBody? true ('[' :: '^' :: ']' :: body) =
        prepend ['['] (regexBody? true ('^' :: ']' :: body))
      rw [regexBody?_both, hcaret, regexBody?_closing, prepend_prepend, prepend_prepend]
      rfl
    | caret h =>
      show regexBody? true ('[' :: '^' :: body) = prepend ['['] (regexBody? true ('^' :: body))
      rw [regexBody?_caret h, hcaret, prepend_prepend]
      rfl
    | bracket =>
      show regexBody? true ('[' :: ']' :: body) = prepend ['['] (regexBody? true (']' :: body))
      rw [regexBody?_pair, regexBody?_closing, prepend_prepend]
      rfl
    | none hclose hcaret => exact regexBody?_bracket hclose hcaret true
  · rw [regexBody?_plain (by simp [h, hc]), if_neg (by simp), if_neg h.2.2]

theorem regexBody?_outside (h : c ∉ ['\n', '\\', '/', '[']) (s : List Char) :
    regexBody? false (c :: s) = prepend [c] (regexBody? false s) := by
  simp only [List.mem_cons, List.not_mem_nil, or_false, not_or] at h
  rw [regexBody?_plain (by simp [h]), if_neg (by simp [h]), ite_self]

/-- What is written is read up to the slash that closes it. -/
theorem Written.regexBody? (h : Written b body p) (rest : List Char) :
    regexBody? b (body ++ '/' :: rest) = some (p, body.length + 1) := by
  induction h with
  | done => exact regexBody?_plain (by decide) false rest
  | escape hc _ ih =>
    rw [List.cons_append, List.cons_append, regexBody?_escape hc, ih]
    rfl
  | opening hlead _ ih =>
    rw [List.append_assoc, regexBody?_opening (Lead.append_iff.mpr hlead), ih,
      prepend_eq_some_iff]
    exact ⟨_, _, rfl, rfl, by simp; omega⟩
  | closing _ ih =>
    rw [List.cons_append, regexBody?_closing, ih]
    rfl
  | outside hc _ ih =>
    rw [List.cons_append, regexBody?_outside hc, ih]
    rfl
  | inside hc _ ih =>
    rw [List.cons_append, regexBody?_inside hc, ih]
    rfl

/-- What is read is written so. -/
theorem Written.of_regexBody? (h : Literal.regexBody? b s = some (p, n)) :
    ∃ body rest, s = body ++ '/' :: rest ∧ n = body.length + 1 ∧ Written b body p := by
  induction hk : s.length using Nat.strong_induction_on generalizing s b p n with
  | _ k ih =>
    have hprepend {text s' : List Char} {b' : Bool}
        (hread : prepend text (Literal.regexBody? b' s') = some (p, n)) (hs : s = text ++ s')
        (htext : text ≠ []) (hwritten : ∀ body rest q, s' = body ++ '/' :: rest →
          Written b' body q → Written b (text ++ body) (text ++ q)) :
        ∃ body rest, s = body ++ '/' :: rest ∧ n = body.length + 1 ∧ Written b body p := by
      obtain ⟨q, m, hq, rfl, rfl⟩ := prepend_eq_some_iff.mp hread
      have hlt : s'.length < k := by
        have hpos := List.length_pos_iff.mpr htext
        rw [← hk, hs, List.length_append]
        omega
      obtain ⟨body, rest, hs', rfl, hbody⟩ := ih _ hlt hq rfl
      exact ⟨text ++ body, rest, by rw [hs, hs', List.append_assoc], by simp; omega,
        hwritten body rest q hs' hbody⟩
    cases s with
    | nil =>
      rw [Literal.regexBody?] at h
      cases h
    | cons c s =>
      by_cases hnewline : c = '\n'
      · subst hnewline
        rw [Literal.regexBody?] at h
        cases h
      by_cases hescape : c = '\\'
      · subst hescape
        cases s with
        | nil =>
          rw [Literal.regexBody?] at h
          cases h
        | cons d s =>
          by_cases hd : d = '\n'
          · subst hd
            rw [Literal.regexBody?] at h
            cases h
          · rw [regexBody?_escape hd, Option.map_eq_some_iff] at h
            obtain ⟨⟨q, m⟩, hq, hpn⟩ := h
            cases hpn
            obtain ⟨body, rest, rfl, rfl, hbody⟩ := ih s.length (by simp at hk; omega) hq rfl
            exact ⟨'\\' :: d :: body, rest, rfl, rfl, .escape hd hbody⟩
      cases b with
      | true =>
        by_cases hclose : c = ']'
        · subst hclose
          rw [regexBody?_closing] at h
          exact hprepend h rfl nofun fun _ _ _ _ => .closing
        · have hc : c ∉ ['\n', '\\', ']'] := by simp [*]
          rw [regexBody?_inside hc] at h
          exact hprepend h rfl nofun fun _ _ _ _ => .inside hc
      | false =>
        by_cases hslash : c = '/'
        · subst hslash
          rw [regexBody?_plain (by decide)] at h
          cases h
          exact ⟨[], s, rfl, rfl, .done⟩
        by_cases hopen : c = '['
        · subst hopen
          obtain ⟨lead, body, rfl, hlead⟩ := Lead.exists_lead s
          have hread := h
          rw [show '[' :: (lead ++ body) = '[' :: lead ++ body from rfl,
            regexBody?_opening hlead] at hread
          exact hprepend hread rfl nofun fun _ _ _ hs =>
            .opening (Lead.append_iff.mp (hs ▸ hlead))
        · have hc : c ∉ ['\n', '\\', '/', '['] := by simp [*]
          rw [regexBody?_outside hc] at h
          exact hprepend h rfl nofun fun _ _ _ _ => .outside hc

end Awk.Literal
