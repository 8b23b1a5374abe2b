import Mathlib
import Awk.Printf

/-! The pieces of a format. A format that does not break off a conversion has the same pieces
whatever follows it, and each piece takes a number of arguments that is read off it, so formatting
distributes over appending formats. -/

namespace Awk.Printf

variable {s t : List Char} {α β : Type}

/-- What a scan leaves is the end of what it is given, and where it leaves anything it is the same
whatever follows. -/
structure Scans (scan : List Char → α × List Char) : Prop where
  suffix : ∀ s, (scan s).2 <:+ s
  append : ∀ s t, (scan s).2 ≠ [] → scan (s ++ t) = ((scan s).1, (scan s).2 ++ t)

namespace Scans

variable {scan : List Char → α × List Char} {next : α → List Char → β × List Char}

/-- One scan after another. -/
theorem andThen (h : Scans scan) (hnext : ∀ a, Scans (next a)) :
    Scans fun s => next (scan s).1 (scan s).2 where
  suffix s := ((hnext _).suffix _).trans (h.suffix s)
  append s t hrest := by
    have hleft : (scan s).2 ≠ [] := fun hnil => hrest (List.suffix_nil.mp
      (hnil ▸ (hnext (scan s).1).suffix (scan s).2))
    rw [h.append s t hleft, (hnext _).append _ t hrest]

theorem map (h : Scans scan) (f : α → β) : Scans fun s => (f (scan s).1, (scan s).2) where
  suffix := h.suffix
  append s t hrest := by rw [h.append s t hrest]

end Scans

theorem flagsOf_scans (f : Flags) : Scans (flagsOf f) where
  suffix s := by
    induction s generalizing f with
    | nil => exact List.suffix_rfl
    | cons c s ih =>
      rw [flagsOf]
      split
      · exact (ih _).trans (List.suffix_cons c s)
      · exact List.suffix_rfl
  append s t hrest := by
    induction s generalizing f with
    | nil => exact absurd rfl hrest
    | cons c s ih =>
      rw [List.cons_append, flagsOf]
      rw [flagsOf] at hrest ⊢
      cases hset : f.set? c with
      | some f' =>
        rw [hset] at hrest
        exact ih f' hrest
      | none => rfl

/-- The digits at the front, where something stands behind them. -/
theorem digits_append (hrest : s.dropWhile Char.isDigit ≠ []) (t : List Char) :
    (s ++ t).takeWhile Char.isDigit = s.takeWhile Char.isDigit ∧
      (s ++ t).dropWhile Char.isDigit = s.dropWhile Char.isDigit ++ t := by
  have hlength : (s.takeWhile Char.isDigit).length ≠ s.length := fun h => hrest <| by
    have hsplit := List.takeWhile_append_dropWhile (p := Char.isDigit) (l := s)
    have hsum := congrArg List.length hsplit
    rw [List.length_append] at hsum
    exact List.eq_nil_of_length_eq_zero (by omega)
  rw [List.takeWhile_append, List.dropWhile_append, if_neg hlength,
    if_neg (by simpa using hrest)]
  exact ⟨rfl, rfl⟩

theorem amountOf_scans : Scans amountOf where
  suffix s := by
    unfold amountOf
    split
    · exact List.suffix_cons _ _
    · exact List.dropWhile_suffix _
  append s t hrest := by
    by_cases hstar : ∃ r, s = '*' :: r
    · obtain ⟨r, rfl⟩ := hstar
      rfl
    · have hgiven {s : List Char} (hs : ∀ r, s ≠ '*' :: r) : amountOf s =
          (.given (digitsValue (s.takeWhile Char.isDigit)), s.dropWhile Char.isDigit) := by
        unfold amountOf
        split
        · exact absurd rfl (hs _)
        · rfl
      have hs : ∀ r, s ≠ '*' :: r := fun r h => hstar ⟨r, h⟩
      rw [hgiven hs] at hrest
      have hst : ∀ r, s ++ t ≠ '*' :: r := by
        cases s with
        | nil => exact absurd rfl hrest
        | cons c s => exact fun r h => hs s (by rw [(List.cons.inj h).1])
      rw [hgiven hs, hgiven hst, (digits_append hrest t).1, (digits_append hrest t).2]

theorem precisionOf_scans : Scans precisionOf where
  suffix s := by
    unfold precisionOf
    split
    · exact (amountOf_scans.suffix _).trans (List.suffix_cons _ _)
    · exact List.suffix_rfl
  append s t hrest := by
    cases s with
    | nil => exact absurd rfl hrest
    | cons c s =>
      by_cases hpoint : c = '.'
      · subst hpoint
        have happend := amountOf_scans.append s t hrest
        show (some (amountOf (s ++ t)).1, (amountOf (s ++ t)).2) = _
        rw [happend]
        rfl
      · have hnone (r : List Char) : precisionOf (c :: r) = (none, c :: r) := by
          unfold precisionOf
          split
          · rename_i h
            exact absurd (List.cons.inj h).1 hpoint
          · rfl
        rw [List.cons_append, hnone, hnone]
        rfl

theorem specOf_scans : Scans specOf := by
  have hwidth := (flagsOf_scans {}).andThen fun flags => amountOf_scans.map (Prod.mk flags)
  exact hwidth.andThen fun fw => precisionOf_scans.map fun precision =>
    ({ flags := fw.1, width := fw.2, precision } : Spec)

/-- What is left behind a conversion's letter. -/
theorem specOf_rest {l : Char} {rest : List Char} (h : (specOf s).2 = l :: rest) : rest <:+ s :=
  (List.suffix_cons l rest).trans (h ▸ specOf_scans.suffix s)

/-- A conversion that the format breaks off. -/
def Piece.isUnfinished : Piece → Bool
  | unfinished .. => true
  | _ => false

theorem piece_char {c : Char} (h : c ≠ '%') (s : List Char) : piece c s = (.char c, s) := if_pos h

theorem piece_unfinished (h : (specOf s).2 = []) :
    piece '%' s = (.unfinished ('%' :: s) (specOf s).1, []) := by
  rw [piece, if_neg fun hne => hne rfl]
  dsimp only
  split
  · rfl
  · rename_i hrest
    cases h.symm.trans hrest

theorem piece_conversion {l : Char} {rest : List Char} (h : (specOf s).2 = l :: rest) :
    piece '%' s = (if letters.contains l then .conversion (specOf s).1 l
      else .unknown ('%' :: s.take (s.length - rest.length)) (specOf s).1, rest) := by
  rw [piece, if_neg fun hne => hne rfl]
  dsimp only
  split
  · rename_i hrest
    cases h.symm.trans hrest
  · rename_i hrest
    cases h.symm.trans hrest
    split <;> rfl

theorem piece_suffix (c : Char) (s : List Char) : (piece c s).2 <:+ s := by
  by_cases hc : c = '%'
  · subst hc
    cases hrest : (specOf s).2 with
    | nil =>
      rw [piece_unfinished hrest]
      exact List.nil_suffix
    | cons l rest =>
      rw [piece_conversion hrest]
      exact specOf_rest hrest
  · rw [piece_char hc]

/-- A piece that is not broken off is the same whatever follows. -/
theorem piece_append {c : Char} (h : (piece c s).1.isUnfinished = false) (t : List Char) :
    piece c (s ++ t) = ((piece c s).1, (piece c s).2 ++ t) := by
  by_cases hc : c = '%'
  · subst hc
    cases hrest : (specOf s).2 with
    | nil =>
      rw [piece_unfinished hrest] at h
      cases h
    | cons l rest =>
      have happend := specOf_scans.append s t (hrest ▸ List.cons_ne_nil l rest)
      have hspec : (specOf (s ++ t)).1 = (specOf s).1 := by rw [happend]
      have hrest' : (specOf (s ++ t)).2 = l :: (rest ++ t) := by
        rw [happend, hrest, List.cons_append]
      have htext : (s ++ t).take ((s ++ t).length - (rest ++ t).length) =
          s.take (s.length - rest.length) := by
        rw [List.length_append, List.length_append, Nat.add_sub_add_right,
          List.take_append_of_le_length (Nat.sub_le _ _)]
      rw [piece_conversion hrest', piece_conversion hrest, hspec, htext]
  · rw [piece_char hc, piece_char hc]

theorem piecesFrom_cons (n : Nat) (c : Char) (s : List Char) :
    piecesFrom (n + 1) (c :: s) = (piece c s).1 :: piecesFrom n (piece c s).2 := rfl

/-- Every piece takes a character, so more fuel than characters changes nothing. -/
theorem piecesFrom_eq {n m : Nat} (hn : s.length ≤ n) (hm : s.length ≤ m) :
    piecesFrom n s = piecesFrom m s := by
  induction n generalizing s m with
  | zero =>
    rw [List.eq_nil_of_length_eq_zero (Nat.le_zero.mp hn)]
    cases m <;> rfl
  | succ n ih =>
    cases s with
    | nil => cases m <;> rfl
    | cons c s =>
      have hle := (piece_suffix c s).length_le
      rw [List.length_cons] at hn hm
      obtain ⟨m, rfl⟩ : ∃ k, m = k + 1 := ⟨m - 1, by omega⟩
      rw [piecesFrom_cons, piecesFrom_cons, ih (by omega) (by omega : _ ≤ m)]

theorem pieces_cons (c : Char) (s : List Char) :
    pieces (c :: s) = (piece c s).1 :: pieces (piece c s).2 := by
  rw [pieces, List.length_cons, piecesFrom_cons, pieces,
    piecesFrom_eq (piece_suffix c s).length_le le_rfl]

/-- A format that breaks off no conversion. -/
def Complete (s : List Char) : Prop := ∀ p ∈ pieces s, p.isUnfinished = false

instance (s : List Char) : Decidable (Complete s) :=
  inferInstanceAs (Decidable (∀ p ∈ pieces s, _))

theorem pieces_append (h : Complete s) (t : List Char) :
    pieces (s ++ t) = pieces s ++ pieces t := by
  induction hn : s.length using Nat.strong_induction_on generalizing s with
  | _ n ih =>
    cases s with
    | nil => rfl
    | cons c s =>
      have hpieces := pieces_cons c s
      have hfirst : (piece c s).1.isUnfinished = false := h _ (hpieces ▸ List.mem_cons_self)
      have hrest : Complete (piece c s).2 := fun p hp => h p (hpieces ▸ List.mem_cons_of_mem _ hp)
      have hlt : (piece c s).2.length < n :=
        hn ▸ Nat.lt_succ_of_le (piece_suffix c s).length_le
      rw [List.cons_append, pieces_cons, piece_append hfirst, hpieces, List.cons_append,
        ih _ hlt hrest rfl]

/-! The arguments that are taken. -/

/-- How many arguments a width or a precision takes. -/
def Amount.taken : Amount → Nat
  | given _ => 0
  | star => 1

def Spec.taken (spec : Spec) : Nat :=
  spec.width.taken + (spec.precision.map Amount.taken).getD 0

/-- How many arguments a piece takes: one for each star, and one for its letter unless that is the
percent sign or unknown. -/
def Piece.taken : Piece → Nat
  | char _ => 0
  | conversion spec letter => spec.taken + if letter = '%' then 0 else 1
  | unfinished _ spec | unknown _ spec => spec.taken

/-- How many arguments a format takes. -/
def taken (f : String) : Nat := ((pieces f.toList).map Piece.taken).sum

theorem Spec.layout_rest (spec : Spec) (args : List Value) :
    (spec.layout args).2 = args.drop spec.taken := by
  obtain ⟨flags, width, precision⟩ := spec
  cases width <;> rcases precision with _ | (_ | _) <;>
    simp [Spec.layout, Spec.taken, Amount.taken, take]

theorem render_rest (p : Piece) (args : List Value) :
    (render p args).2 = args.drop p.taken := by
  cases p with
  | char c => rfl
  | unfinished text spec | unknown text spec => exact spec.layout_rest args
  | conversion spec letter =>
    have hlayout := spec.layout_rest args
    rw [render, Piece.taken]
    dsimp only
    split
    · exact hlayout
    · show (spec.layout args).2.drop 1 = _
      rw [hlayout, List.drop_drop]

theorem renderAll_cons (p : Piece) (ps : List Piece) (args : List Value) :
    renderAll (p :: ps) args = (render p args).1 ++ renderAll ps (render p args).2 := rfl

theorem renderAll_append (ps qs : List Piece) (args : List Value) :
    renderAll (ps ++ qs) args =
      renderAll ps args ++ renderAll qs (args.drop (ps.map Piece.taken).sum) := by
  induction ps generalizing args with
  | nil => rfl
  | cons p ps ih =>
    rw [List.cons_append, renderAll_cons, renderAll_cons, List.map_cons, List.sum_cons, ← List.drop_drop,
      ← render_rest, ih, List.append_assoc]

/-! The arguments that are read: those that are taken, and the empty text where there are too few. -/

/-- Lists of arguments that agree on the first `n`, where missing ones are empty. -/
def Agree (n : Nat) (args args' : List Value) : Prop :=
  ∀ i < n, args.getD i .empty = args'.getD i .empty

instance (n : Nat) (args args' : List Value) : Decidable (Agree n args args') :=
  inferInstanceAs (Decidable (∀ i < n, _))

namespace Agree

variable {n k : Nat} {args args' : List Value}

theorem mono (h : Agree n args args') (hle : k ≤ n) : Agree k args args' :=
  fun i hi => h i (Nat.lt_of_lt_of_le hi hle)

theorem drop (h : Agree (k + n) args args') : Agree n (args.drop k) (args'.drop k) := by
  intro i hi
  simpa [List.getD_eq_getElem?_getD] using h (k + i) (by omega)

theorem head (h : Agree (n + 1) args args') : (take args).1 = (take args').1 := by
  simpa [take, List.headD_eq_head?_getD, List.getD_eq_getElem?_getD, List.head?_eq_getElem?]
    using h 0 (by omega)

end Agree

variable {args args' : List Value}

theorem Spec.layout_eq {spec : Spec} (h : Agree spec.taken args args') :
    (spec.layout args).1 = (spec.layout args').1 := by
  obtain ⟨flags, width, precision⟩ := spec
  cases width with
  | given n =>
    rcases precision with _ | _ | _
    · rfl
    · rfl
    · simp only [Spec.layout, Agree.head (n := 0) h]
  | star =>
    rcases precision with _ | _ | _
    · simp only [Spec.layout, Agree.head (n := 0) h]
    · simp only [Spec.layout, Agree.head (n := 0) h]
    · have hsecond : (take (take args).2).1 = (take (take args').2).1 :=
        Agree.head (n := 0) (Agree.drop (k := 1) h)
      simp only [Spec.layout, Agree.head (n := 1) h, hsecond]

theorem render_eq {p : Piece} (h : Agree p.taken args args') :
    (render p args).1 = (render p args').1 := by
  cases p with
  | char c => rfl
  | unfinished text spec | unknown text spec => rfl
  | conversion spec letter =>
    have hlayout := Spec.layout_eq (h.mono (Nat.le_add_right _ _))
    by_cases hletter : letter = '%'
    · simp only [render, if_pos hletter]
    · have hhead : Agree 1 (spec.layout args).2 (spec.layout args').2 := by
        rw [Piece.taken, if_neg hletter] at h
        rw [spec.layout_rest, spec.layout_rest]
        exact h.drop
      simp only [render, if_neg hletter, hlayout, Agree.head (n := 0) hhead]

theorem renderAll_eq {ps : List Piece} (h : Agree (ps.map Piece.taken).sum args args') :
    renderAll ps args = renderAll ps args' := by
  induction ps generalizing args args' with
  | nil => rfl
  | cons p ps ih =>
    rw [List.map_cons, List.sum_cons] at h
    rw [renderAll_cons, renderAll_cons, render_eq (h.mono (Nat.le_add_right _ _)), render_rest,
      render_rest, ih h.drop]

/-- A format that breaks off no conversion is followed by another as if each were formatted alone,
the other with the arguments that are left. It takes as many arguments as it has stars and
conversions of a known letter but the percent sign, and reads no others; missing ones read as
empty. -/
theorem format_append {f : String} (h : Complete f.toList) (g : String) (args : List Value) :
    format (f ++ g) args = format f args ++ format g (args.drop (taken f)) ∧
      ∀ args', Agree (taken f) args args' → format f args = format f args' := by
  refine ⟨?_, fun args' h => congrArg String.ofList (renderAll_eq h)⟩
  rw [format, String.toList_append, pieces_append h, renderAll_append, String.ofList_append]
  rfl

/-- Stars, a percent sign with a width, and a letter that is unknown. -/
def starred : String := "%-*.*d|%5%%*q%s"

theorem format_append_starred :
    Complete starred.toList ∧ taken starred = 5 ∧
      format (starred ++ "%s.%s") [⟨"4"⟩, ⟨"2"⟩, ⟨"7"⟩, ⟨"1"⟩, ⟨"é"⟩, ⟨"x"⟩] =
        format starred [⟨"4"⟩, ⟨"2"⟩, ⟨"7"⟩, ⟨"1"⟩, ⟨"é"⟩, ⟨"x"⟩] ++ format "%s.%s" [⟨"x"⟩] ∧
      format starred [⟨"4"⟩, ⟨"2"⟩, ⟨"7"⟩] =
        format starred [⟨"4"⟩, ⟨"2"⟩, ⟨"7"⟩, ⟨""⟩, ⟨""⟩, ⟨"x"⟩] := by
  have hcomplete : Complete starred.toList := by decide +kernel
  have htaken : taken starred = 5 := by decide +kernel
  have happend (args : List Value) := (format_append hcomplete "%s.%s" args).1
  have hagree (args args' : List Value) := (format_append hcomplete "" args).2 args'
  rw [htaken] at happend hagree
  exact ⟨hcomplete, htaken, happend _, hagree _ _ (by decide +kernel)⟩

example : format starred [⟨"4"⟩, ⟨"2"⟩, ⟨"7"⟩, ⟨"1"⟩, ⟨"é"⟩] = "07  |%%*qé" := by
  decide +kernel

end Awk.Printf
