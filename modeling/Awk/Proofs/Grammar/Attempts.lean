import Awk.Grammar.Program
import Awk.Proofs.Grammar.Patterns

/-! What the grammar tries first and gives up. Where an expression is read instead, it tells how the
part that is common to both was read. -/

namespace Awk.Parser

variable {n : Nat}

/-- Lexemes are left out only where there are some to leave out. -/
theorem skip_of_ne {P : Token → Bool} {c : Cursor} (h : P c.token = false) : c.skip P = c := by
  obtain ⟨l, redirects, ranges⟩ := c
  cases l with
  | nil => rfl
  | cons x l =>
    have hx : P x.token = false := h
    unfold Cursor.skip
    simp only [List.dropWhile_cons, hx, Bool.false_eq_true, if_false]

theorem withRedirects_ok {α : Type} {redirects : Bool} {p : Parser α} {c c' : Cursor} {a : α}
    (h : withRedirects redirects p c = some (.ok a, c')) :
    ∃ c₁, p { c with redirects } = some (.ok a, c₁) ∧ c' = { c₁ with redirects := c.redirects } := by
  unfold withRedirects at h
  split at h
  · cases h
  · rename_i c₁ hp
    cases h
    exact ⟨c₁, hp, rfl⟩

/-- A level of the grammar starts with the level below it. -/
theorem starts {α β : Type} (level : Nat → Parser α) (below : Nat → Parser β)
    {rest : Nat → β → Parser α} (hzero : level 0 = outOfFuel)
    (hsucc : ∀ k, level (k + 1) = below k >>= rest k) {c c' : Cursor} {a : α}
    (h : level n c = some (.ok a, c')) : ∃ k ≤ n, ∃ b c₁, below k c = some (.ok b, c₁) := by
  cases n with
  | zero =>
    rw [hzero] at h
    cases h
  | succ k =>
    rw [hsucc] at h
    obtain ⟨b, c₁, hb, -⟩ := bind_eq_ok h
    exact ⟨k, Nat.le_succ k, b, c₁, hb⟩

/-- An expression with no sign before it starts with an operand. -/
theorem operandInto_of_expr {c c' : Cursor} {e : Expr} (hsign : sign? c.token = none)
    (h : expr n c = some (.ok e, c')) : ∃ k ≤ n, ∃ r c₁, operandInto k [] c = some (.ok r, c₁) := by
  obtain ⟨k₁, h₁, _, _, h⟩ := starts expr (exprInto · []) rfl
    (fun _ => (bind_pure _).symm) h
  obtain ⟨k₂, h₂, _, _, h⟩ := starts (exprInto · []) (conditionalInto · []) rfl (fun _ => rfl) h
  obtain ⟨k₃, h₃, _, _, h⟩ := starts (conditionalInto · []) (orInto · []) rfl (fun _ => rfl) h
  obtain ⟨k₄, h₄, _, _, h⟩ := starts (orInto · []) (andInto · []) rfl (fun _ => rfl) h
  obtain ⟨k₅, h₅, _, _, h⟩ := starts (andInto · []) (memInto · []) rfl (fun _ => rfl) h
  obtain ⟨k₆, h₆, _, _, h⟩ := starts (memInto · []) (matchInto · []) rfl (fun _ => rfl) h
  obtain ⟨k₇, h₇, _, _, h⟩ := starts (matchInto · []) (comparisonInto · []) rfl (fun _ => rfl) h
  obtain ⟨k₈, h₈, _, _, h⟩ := starts (comparisonInto · []) (concatInto · []) rfl (fun _ => rfl) h
  obtain ⟨k₉, h₉, _, _, h⟩ := starts (concatInto · []) (additiveInto · []) rfl (fun _ => rfl) h
  obtain ⟨i₁, hi₁, _, _, h⟩ :=
    starts (additiveInto · []) (multiplicativeInto · []) rfl (fun _ => rfl) h
  obtain ⟨i₂, hi₂, _, _, h⟩ := starts (multiplicativeInto · []) (unaryInto · []) rfl (fun _ => rfl) h
  obtain ⟨i₂, rfl⟩ : ∃ k, i₂ = k + 1 := by
    cases i₂ with
    | zero => cases h
    | succ k => exact ⟨k, rfl⟩
  rw [show unaryInto (i₂ + 1) [] c = powerInto i₂ [] c from
    look_none (do return sign? (← token)) rfl hsign] at h
  obtain ⟨i₃, hi₃, _, _, h⟩ := starts (powerInto · []) (stepInto · []) rfl (fun _ => rfl) h
  obtain ⟨i₄, hi₄, r, c₁, h⟩ := starts (stepInto · []) (operandInto · []) rfl (fun _ => rfl) h
  exact ⟨i₄, by omega, r, c₁, h⟩

/-- A list that starts with a parenthesis starts with a list in parentheses. -/
theorem exprList_parenthesized {close : Symbol} (hclose : close ≠ .lparen) {c c' : Cursor}
    {list : List Expr} (hc : c.token = .symbol .lparen)
    (h : exprList n close c = some (.ok list, c')) :
    ∃ inner c₁, exprList n .rparen { c.advance with redirects := false } = some (.ok inner, c₁) := by
  obtain ⟨n, rfl⟩ : ∃ k, n = k + 1 := by
    cases n with
    | zero => cases h
    | succ k => exact ⟨k, rfl⟩
  have hread : (do if ← check (.symbol close) then return [] else exprListRest n : Parser _)
      (c.skip (· = .newline)) = some (.ok list, c') := h
  rw [skip_of_ne (by rw [hc]; rfl)] at hread
  rw [check_ite_apply, if_neg (by rw [hc]; rintro ⟨⟩; exact hclose rfl)] at hread
  obtain ⟨k, hk, e, _, hexpr⟩ := starts exprListRest expr rfl (fun _ => rfl) hread
  obtain ⟨j, hj, _, _, hoperand⟩ := operandInto_of_expr (by rw [hc]; rfl) hexpr
  obtain ⟨i, rfl⟩ : ∃ k, j = k + 1 := by
    cases j with
    | zero => cases hoperand
    | succ k => exact ⟨k, rfl⟩
  have htoken : token c = some (.ok (.symbol .lparen), c) := by
    rw [← hc]
    rfl
  obtain ⟨_, _, hadvance, hoperand⟩ := bind_eq_ok
    (((bind_ok (p := span) rfl).trans (bind_ok htoken)).symm.trans hoperand)
  cases hadvance
  obtain ⟨inner, c₂, hlist, -⟩ := bind_eq_ok hoperand
  obtain ⟨c₁, hinner, rfl⟩ := withRedirects_ok hlist
  exact ⟨inner, c₁, (grows (by omega)).exprList .rparen _ _ hinner⟩

/-! Compound patterns. -/

variable {c c' : Cursor} {m : Nat}

/-- Where an operand of `&&` is read, a part of a compound pattern is. -/
theorem patternLeaf_of_memInto {e : Expr} (h : memInto n [] c = some (.ok e, c')) (hm : n ≤ m) :
    ∃ p, patternLeaf m c = some (.ok p, c') := by
  have hfirst : token c = some (.ok c.token, c) := rfl
  have hsecond : peek 1 c = some (.ok (c.peek 1), c) := rfl
  have hthird : peek 2 c = some (.ok (c.peek 2), c) := rfl
  unfold patternLeaf
  rw [bind_ok hfirst, bind_ok hsecond, bind_ok hthird]
  generalize hfirst : c.token = first, hsecond : c.peek 1 = second,
    hthird : endsNegation (c.peek 2) = third
  split
  · have hnegated := (grows (Nat.le_add_right n 11)).memInto [] c _ h
    rw [memInto_negated n hfirst hsecond hthird] at hnegated
    cases hnegated
    exact ⟨_, rfl⟩
  · exact ⟨_, bind_ok ((grows hm).memInto [] c _ h)⟩

theorem patternAndRest_of_andRest {e e' : Expr} (h : andRest n e c = some (.ok e', c'))
    (l : Pattern) (hm : n ≤ m) : ∃ p, patternAndRest m l c = some (.ok p, c') := by
  induction n generalizing m e l c with
  | zero => cases h
  | succ n ih =>
    obtain ⟨m, rfl⟩ := Nat.exists_eq_add_of_lt hm
    obtain ⟨found, c₁, hfound, h⟩ := bind_eq_ok h
    cases found with
    | false =>
      cases h
      exact ⟨l, bind_ok hfound⟩
    | true =>
      obtain ⟨_, c₂, hskip, h⟩ := bind_eq_ok h
      obtain ⟨_, c₃, hmem, h⟩ := bind_eq_ok h
      obtain ⟨r, hleaf⟩ := patternLeaf_of_memInto hmem (Nat.le_add_right n m)
      obtain ⟨p, hrest⟩ := ih h (.and l r) (Nat.le_add_right n m)
      exact ⟨p, (bind_ok hfound).trans ((bind_ok hskip).trans ((bind_ok hleaf).trans hrest))⟩

/-- The operands of `||`. -/
theorem patternAnd_of_andInto {e : Expr} (h : andInto n [] c = some (.ok e, c')) (hm : n ≤ m) :
    ∃ l c₁ p, patternLeaf m c = some (.ok l, c₁) ∧ patternAndRest m l c₁ = some (.ok p, c') := by
  cases n with
  | zero => cases h
  | succ n =>
    obtain ⟨_, c₁, hmem, h⟩ := bind_eq_ok h
    obtain ⟨l, hleaf⟩ := patternLeaf_of_memInto hmem (Nat.le_of_succ_le hm)
    obtain ⟨p, hrest⟩ := patternAndRest_of_andRest h l (Nat.le_of_succ_le hm)
    exact ⟨l, c₁, p, hleaf, hrest⟩

theorem patternOrRest_of_orRest {e e' : Expr} (h : orRest n e c = some (.ok e', c'))
    (l : Pattern) (hm : n ≤ m) : ∃ p, patternOrRest m l c = some (.ok p, c') := by
  induction n generalizing m e l c with
  | zero => cases h
  | succ n ih =>
    obtain ⟨m, rfl⟩ := Nat.exists_eq_add_of_lt hm
    obtain ⟨found, c₁, hfound, h⟩ := bind_eq_ok h
    cases found with
    | false =>
      cases h
      exact ⟨l, bind_ok hfound⟩
    | true =>
      obtain ⟨_, c₂, hskip, h⟩ := bind_eq_ok h
      obtain ⟨_, c₃, hand, h⟩ := bind_eq_ok h
      obtain ⟨q, c₄, r, hleaf, hands⟩ := patternAnd_of_andInto hand (Nat.le_add_right n m)
      obtain ⟨p, hrest⟩ := ih h (.or l r) (Nat.le_add_right n m)
      exact ⟨p, (bind_ok hfound).trans ((bind_ok hskip).trans ((bind_ok hleaf).trans
        ((bind_ok hands).trans hrest)))⟩

/-- The parts of a compound pattern, whatever is behind them. -/
def patternParts (fuel : Nat) : Parser Pattern := do
  patternOrRest fuel (← patternAndRest fuel (← patternLeaf fuel))

theorem compoundPattern_eq (fuel : Nat) :
    compoundPattern fuel = (do
      let p ← patternParts fuel
      if endsPattern (← token) then return p else failUnexpected) := by
  unfold compoundPattern patternParts
  simp only [bind_assoc]

/-- Where an expression is read, so are the parts of a compound pattern, up to where the first
operand of the expression's conditionals and assignments ends. -/
theorem patternParts_of_expr {e : Expr} (h : expr n c = some (.ok e, c')) :
    ∃ p c₁, patternParts n c = some (.ok p, c₁) := by
  obtain ⟨k₁, h₁, _, _, h⟩ := starts expr (exprInto · []) rfl (fun _ => (bind_pure _).symm) h
  obtain ⟨k₂, h₂, _, _, h⟩ := starts (exprInto · []) (conditionalInto · []) rfl (fun _ => rfl) h
  obtain ⟨k₃, h₃, _, c₁, h⟩ := starts (conditionalInto · []) (orInto · []) rfl (fun _ => rfl) h
  cases k₃ with
  | zero => cases h
  | succ k =>
    obtain ⟨_, c₂, hand, hor⟩ := bind_eq_ok h
    obtain ⟨l, c₃, q, hleaf, hands⟩ := patternAnd_of_andInto hand (m := n) (by omega)
    obtain ⟨p, hors⟩ := patternOrRest_of_orRest hor q (m := n) (by omega)
    exact ⟨p, c₁, (bind_ok hleaf).trans ((bind_ok hands).trans hors)⟩

end Awk.Parser
