import Awk.Proofs.Grammar.Newlines
import Awk.Proofs.Source.Joined

/-! Programs that are joined by a newline. Where a program ends, a newline and more may follow: what
is read up to there is the same. What follows is read as it is by itself, with more ranges before its
own and at other places of the text. -/

namespace Awk

/-- The same function, but for its place in the text. -/
structure Function.Alike (f g : Function) : Prop where
  name : g.name = f.name
  parameters : g.parameters = f.parameters
  body : g.body = f.body

/-- What is read of two programs, the second behind the first. -/
structure Program.Joins (p q whole : Program) : Prop where
  items : whole.items = p.items ++ q.items.map (Item.renumber p.ranges)
  functions : List.Forall₂ Function.Alike (p.functions ++ q.functions) whole.functions
  ranges : whole.ranges = p.ranges + q.ranges

namespace Parser

/-! A first program, behind which more comes. -/

/-- Where the lexemes ended, a newline and the lexemes `more` come. -/
def GoesOn (newline : Lexeme) (more l l' : List Lexeme) : Prop :=
  ∃ before last, l = before ++ [last] ∧ last.token = .eof ∧ (∀ x ∈ before, x.token ≠ .eof) ∧
    l' = before ++ newline :: more

namespace GoesOn

variable {newline x y : Lexeme} {more l l' : List Lexeme}

/-- The lexemes have ended, and the newline comes. -/
theorem of_eof (h : GoesOn newline more (x :: l) l') (hx : x.token = .eof) :
    l = [] ∧ l' = newline :: more := by
  obtain ⟨before, last, hl, -, hbefore, rfl⟩ := h
  cases before with
  | nil =>
    cases hl
    exact ⟨rfl, rfl⟩
  | cons z before =>
    cases hl
    exact absurd hx (hbefore _ (List.mem_cons_self ..))

/-- The lexemes have not ended yet. -/
theorem of_ne_eof (h : GoesOn newline more (x :: l) (y :: l')) (hx : x.token ≠ .eof) :
    y = x ∧ GoesOn newline more l l' := by
  obtain ⟨before, last, hl, hlast, hbefore, hl'⟩ := h
  cases before with
  | nil =>
    cases hl
    exact absurd hlast hx
  | cons z before =>
    cases hl
    cases hl'
    exact ⟨rfl, before, last, rfl, hlast, (List.forall_mem_cons.mp hbefore).2, rfl⟩

end GoesOn

/-- What goes on does not do so with an `else`. -/
def goingOn (newline : Lexeme) (more : List Lexeme) (hnewline : newline.token = .newline)
    (helse : (more.dropWhile fun l => terminates l.token).head?.map Lexeme.token ≠
      some (.keyword .else_)) : Change where
  Lexemes := GoesOn newline more
  Place _ _ := True
  ranges := 0
  goesOn := True
  some_left := by
    rintro _ _ ⟨before, last, rfl, -⟩
    exact List.append_ne_nil_of_right_ne_nil _ (List.cons_ne_nil _ _)
  some_right := by
    rintro _ _ ⟨before, last, -, -, -, rfl⟩
    exact List.append_ne_nil_of_right_ne_nil _ (List.cons_ne_nil _ _)
  token := by
    intro x l y l' h
    by_cases hx : x.token = .eof
    · obtain ⟨-, hl'⟩ := h.of_eof hx
      cases hl'
      exact .inr ⟨trivial, hx, hnewline⟩
    · rw [(h.of_ne_eof hx).1]
      exact .inl rfl
  place _ := trivial
  merge _ _ := trivial
  next h hx := (h.of_ne_eof (ne_eof_of_plain hx)).2
  opens h hx := .inl (h.of_ne_eof (ne_eof_of_opens hx)).2
  last _ h hx := (h.of_eof hx).1
  noElse := by
    intro x l l' _ h hx
    rw [(h.of_eof hx).2, List.dropWhile_cons_of_pos (by rw [hnewline]; rfl)]
    exact helse

/-- At the end of the first program comes the newline. -/
theorem rest_of_ended {newline : Lexeme} {more : List Lexeme} {hnewline : newline.token = .newline}
    {helse : (more.dropWhile fun l => terminates l.token).head?.map Lexeme.token ≠
      some (.keyword .else_)} {c d : Cursor} (h : (goingOn newline more hnewline helse).Turns c d)
    (hend : c.token = .eof) : d.rest = newline :: more := by
  have hlexemes : GoesOn newline more c.rest d.rest := h.lexemes
  obtain ⟨x, l, hrest⟩ := List.exists_cons_of_length_pos h.length_pos
  unfold Cursor.token Cursor.peek at hend
  rw [hrest] at hlexemes hend
  exact (hlexemes.of_eof hend).2

/-- A newline before an item or function is left out. -/
theorem program_newline {newline : Lexeme} (h : newline.token = .newline) (n : Nat) (p : Program)
    (l : List Lexeme) (redirects : Bool) (ranges : Nat) :
    program n p ⟨newline :: l, redirects, ranges⟩ = program n p ⟨l, redirects, ranges⟩ := by
  cases n with
  | zero => rfl
  | succ n =>
    have hskip : Cursor.skip terminates ⟨newline :: l, redirects, ranges⟩ =
        Cursor.skip terminates ⟨l, redirects, ranges⟩ := by
      unfold Cursor.skip
      rw [List.dropWhile_cons_of_pos (by rw [h]; rfl)]
    rw [program_succ_apply, program_succ_apply, hskip]

/-- A program is read where more follows as it is read by itself, and then what follows. -/
theorem ReadsProgram.goes_on {M : Change} {n m : Nat} {p q p' : Program} {c c' d : Cursor}
    (h : ReadsProgram n p c q c') (hnm : n ≤ m) (hn : 32 * c.rest.length + 16 ≤ n)
    (hcd : M.Turns c d) (hp : M.TurnsProgram p p') :
    ∃ k q' d', m < k + c.rest.length ∧ M.TurnsProgram q q' ∧ M.Turns c' d' ∧
      Parser.program m p' d = Parser.program k q' d' := by
  induction h generalizing m p' d with
  | @ended n p c hend =>
    obtain ⟨m, rfl⟩ := Nat.exists_eq_add_of_lt hnm
    obtain ⟨d₁, turns, hskip, -⟩ := hcd.skip fun _ => Change.Carries.plain_of_terminates
    refine ⟨_, p', d₁, Nat.lt_add_of_pos_right hcd.length_pos, ⟨hp.items, hp.functions⟩, turns, ?_⟩
    rw [program_succ_apply, program_succ_apply, hskip]
  | @function n p q c c₁ c' f hc hf hnew _ ih =>
    obtain ⟨m, rfl⟩ := Nat.exists_eq_add_of_lt hnm
    obtain ⟨turns, htoken⟩ := hcd.skip_of_ne_eof (p := terminates)
      (fun _ => Change.Carries.plain_of_terminates) (by rw [hc]; nofun)
    have hle := length_skip_le terminates c
    obtain ⟨f', d₁, hf', hturns, turns₁, lt⟩ :=
      (function_carried (m := n + m) (by omega) (by omega)).of_ok turns hc hle hf
    have hlt := Nat.lt_of_lt_of_le (lt rfl) hle
    obtain ⟨k, q', d', hk, hq, turns', hrun⟩ :=
      ih (m := n + m) (by omega) (by omega) turns₁ (hp.addFunction hturns)
    refine ⟨k, q', d', by omega, hq, turns', ?_⟩
    have hnone : ¬ (p'.function? f'.name).isSome = true := by
      rw [Program.function?_isSome, hp.names, hturns.name]
      exact hnew
    rw [program_succ_apply, htoken, if_neg (by rw [hc]; nofun), if_pos hc, bind_ok hf',
      if_neg hnone]
    exact hrun
  | @item n p q c c₁ c' i hend hfunction hi _ ih =>
    obtain ⟨m, rfl⟩ := Nat.exists_eq_add_of_lt hnm
    obtain ⟨turns, htoken⟩ := hcd.skip_of_ne_eof (p := terminates)
      (fun _ => Change.Carries.plain_of_terminates) hend
    have hle := length_skip_le terminates c
    obtain ⟨_, d₁, hi', rfl, turns₁, lt⟩ :=
      (item_carried (m := n + m) (by omega) (by omega)).of_ok turns trivial hle hi
    have hlt := Nat.lt_of_lt_of_le (lt rfl) hle
    obtain ⟨k, q', d', hk, hq, turns', hrun⟩ :=
      ih (m := n + m) (by omega) (by omega) turns₁ (hp.addItem i)
    refine ⟨k, q', d', by omega, hq, turns', ?_⟩
    rw [program_succ_apply, htoken, if_neg hend, if_neg hfunction, bind_ok hi']
    exact hrun

/-! What comes behind a program. -/

/-- Where a pattern is read, an expression can be. -/
theorem expr_of_pattern {n : Nat} {c c' : Cursor} {p : Pattern}
    (h : pattern n c = some (.ok p, c')) : ∃ k e c₁, expr k c = some (.ok e, c₁) := by
  unfold pattern at h
  cases htried : compoundPattern n c with
  | none =>
    have hnone : attempt (compoundPattern n) c = none := by
      unfold attempt
      rw [htried]
    rw [bind_apply, hnone] at h
    cases h
  | some r =>
    obtain ⟨e | q, c₁⟩ := r
    · rw [bind_ok ((stays_compoundPattern n).attempt_error htried)] at h
      obtain ⟨e, c₂, hexpr, -⟩ := bind_eq_ok h
      exact ⟨n, e, c₂, hexpr⟩
    · obtain ⟨t, -, hexpr⟩ := compoundPattern_reads htried
      exact ⟨_, t.written, c₁, hexpr _ (Nat.le_refl _)⟩

/-- No item starts with an `else`. -/
theorem item_ne_else {n : Nat} {c c' : Cursor} {i : Item} (h : item n c = some (.ok i, c')) :
    c.token ≠ .keyword .else_ := by
  intro hc
  have htoken : token c = some (.ok (.keyword .else_), c) := by
    rw [← hc]
    rfl
  obtain ⟨p, c₁, hp, -⟩ := bind_eq_ok h
  obtain ⟨first, c₂, hfirst, -⟩ := bind_eq_ok ((bind_ok htoken).symm.trans hp)
  obtain ⟨k, e, c₃, hexpr⟩ := expr_of_pattern hfirst
  obtain ⟨j, -, r, c₄, hoperand⟩ := operandInto_of_expr (by rw [hc]; rfl) hexpr
  cases j with
  | zero => cases hoperand
  | succ j =>
    have hread : operandInto (j + 1) [] c = failUnexpected c :=
      (bind_ok (p := span) rfl).trans (bind_ok htoken)
    rw [hread] at hoperand
    cases hoperand

namespace ReadsProgram

variable {n : Nat} {p q : Program} {c c' : Cursor}

theorem ne_else (h : ReadsProgram n p c q c') :
    (c.skip terminates).token ≠ .keyword .else_ := by
  cases h with
  | ended hend =>
    rw [hend]
    nofun
  | function hc =>
    rw [hc]
    nofun
  | item _ _ hi => exact item_ne_else hi

/-- At the end of a program `>` is read as at its start. -/
theorem redirects (h : ReadsProgram n p c q c') : c'.redirects = c.redirects := by
  induction h with
  | ended => rfl
  | function _ hf _ _ ih =>
    obtain ⟨_, rfl⟩ := stays_function _ _ _ _ hf
    exact ih
  | item _ _ hi _ ih =>
    obtain ⟨_, _, rfl, -⟩ := item_numbers _ _ _ _ hi
    exact ih

end ReadsProgram

/-- The same lexemes `k` bytes farther on, where `ranges` range patterns have been met. -/
def moved (k ranges : Nat) : Change where
  Lexemes l l' := Ended l ∧ l' = l.map (·.shift k)
  Place s s' := s' = s.shift k
  ranges := ranges
  goesOn := False
  some_left h := h.1.ne_nil
  some_right := by
    rintro l _ ⟨h, rfl⟩
    exact mt List.map_eq_nil_iff.mp h.ne_nil
  token := by
    rintro x l y l' ⟨-, h⟩
    cases h
    exact .inl rfl
  place := by
    rintro x l y l' ⟨-, h⟩
    cases h
    rfl
  merge := by
    rintro a _ b _ rfl rfl
    exact (Span.shift_merge k a b).symm
  next := by
    rintro x l y l' ⟨h, hl'⟩ hx
    cases hl'
    exact ⟨h.tail (ne_eof_of_plain hx), rfl⟩
  opens := by
    rintro x l y l' ⟨h, hl'⟩ hx
    cases hl'
    exact .inl ⟨h.tail (ne_eof_of_opens hx), rfl⟩
  last h := h.elim
  noElse h := h.elim

/-- The rest of the text is read as it is by itself, behind what is read before it. -/
theorem ReadsProgram.behind {n m k : Nat} {p q : Program} {l : List Lexeme} {c d : Cursor}
    (h : ReadsProgram n .empty (.start l) q c) (hl : Ended l) (hnm : n ≤ m)
    (hn : 32 * l.length + 16 ≤ n) (hnames : ∀ name ∈ q.names, name ∉ p.names)
    (hrest : d.rest = l.map (·.shift k)) (hredirects : d.redirects = false) :
    ∃ q' d', (moved k d.ranges).TurnsProgram q q' ∧ q'.ranges = d.ranges + q.ranges ∧
      ReadsProgram m p d (p.append q') d' := by
  have hcd : (moved k d.ranges).Turns (.start l) d := ⟨⟨hl, hrest⟩, hredirects, rfl⟩
  have hstart : (moved k d.ranges).TurnsProgram .empty ⟨[], [], p.ranges⟩ := ⟨rfl, .nil⟩
  obtain ⟨q', d', hread, ⟨hturns, hranges⟩, -, -⟩ :=
    (program_carried (M := moved k d.ranges) id hnm hn hstart).of_ok hcd trivial (Nat.le_refl _) h.program
  refine ⟨q', d', hturns, hranges, ?_⟩
  have hbehind : ReadsProgram m (p.append ⟨[], [], p.ranges⟩) d (p.append q') d' :=
    (of_program hread).append (by rwa [hturns.names])
  have hsame : p.append ⟨[], [], p.ranges⟩ = p := by
    unfold Program.append
    simp only [List.append_nil]
  rwa [hsame] at hbehind

theorem Change.TurnsProgram.alike {M : Change} {p p' : Program} (h : M.TurnsProgram p p') :
    List.Forall₂ Function.Alike p.functions p'.functions :=
  h.functions.imp fun _ _ hf => ⟨hf.name, hf.parameters, hf.body⟩

theorem token_of_head? {c : Cursor} {t : Token}
    (h : c.rest.head?.map Lexeme.token = some t) : c.token = t := by
  unfold Cursor.token Cursor.peek
  rw [← List.head?_eq_getElem?, h]
  rfl

/-- A program, a newline and a program farther on are read as one. -/
theorem readsProgram_joined {tokens more : List Lexeme} {last newline : Lexeme} {k : Nat}
    {p q : Program} {c c' : Cursor} (hlast : last.token = .eof)
    (htokens : ∀ x ∈ tokens, x.token ≠ .eof) (hnewline : newline.token = .newline)
    (hmore : Ended more)
    (hp : ReadsProgram (fuelFor (tokens ++ [last]).length) .empty (.start (tokens ++ [last])) p c)
    (hq : ReadsProgram (fuelFor more.length) .empty (.start more) q c')
    (hnames : ∀ name ∈ q.names, name ∉ p.names) :
    ∃ whole d, p.Joins q whole ∧
      ReadsProgram (fuelFor (tokens ++ newline :: more.map (·.shift k)).length) .empty
        (.start (tokens ++ newline :: more.map (·.shift k))) whole d := by
  have helse : ((more.map (·.shift k)).dropWhile fun l => terminates l.token).head?.map
      Lexeme.token ≠ some (.keyword .else_) := by
    rw [List.dropWhile_map, List.head?_map, Option.map_map]
    exact fun h => hq.ne_else (token_of_head? h)
  have hcd : (goingOn newline (more.map (·.shift k)) hnewline helse).Turns
      (.start (tokens ++ [last])) (.start (tokens ++ newline :: more.map (·.shift k))) :=
    ⟨⟨tokens, last, rfl, hlast, htokens, rfl⟩, rfl, rfl⟩
  have hempty : (goingOn newline (more.map (·.shift k)) hnewline helse).TurnsProgram .empty .empty :=
    ⟨rfl, .nil⟩
  have hlength : (tokens ++ newline :: more.map (·.shift k)).length =
      (tokens ++ [last]).length + more.length := by
    simp only [List.length_append, List.length_cons, List.length_map, List.length_nil]
    omega
  have hfuel (n : Nat) : fuelFor n = 32 * (n + 2) := rfl
  have hstart (l : List Lexeme) : (Cursor.start l).rest = l := rfl
  -- up to the end of the first program
  obtain ⟨j, p', d, hj, hp', turns, hrun⟩ := hp.goes_on
    (m := fuelFor (tokens ++ newline :: more.map (·.shift k)).length)
    (by rw [hlength, hfuel, hfuel]; omega) (by rw [hfuel, hstart]; omega) hcd hempty
  rw [hlength, hstart] at hj
  have hrest := rest_of_ended turns hp.ends.1
  have hredirects : d.redirects = false := turns.redirects.trans hp.redirects
  have hranges : d.ranges = p.ranges := turns.ranges.trans ((Nat.zero_add _).trans hp.ends.2.symm)
  obtain ⟨rest, redirects, ranges⟩ := d
  subst hrest hredirects hranges
  -- past the newline, and from there on
  rw [program_newline hnewline] at hrun
  obtain ⟨q', d, hq', hq'ranges, hread⟩ := hq.behind (m := j) (k := k) (p := p')
    (d := ⟨more.map (·.shift k), false, p.ranges⟩) hmore (by rw [hfuel] at hj ⊢; omega)
    (by rw [hfuel]; omega) (by rwa [hp'.names]) rfl rfl
  refine ⟨p'.append q', d, ⟨?_, ?_, hq'ranges⟩, .of_program (hrun.trans hread.program)⟩
  · have hitems : p'.items = p.items.map (Item.renumber 0) := hp'.items
    show p'.items ++ q'.items = _
    rw [hitems, item_renumber_zero, List.map_id, hq'.items]
    rfl
  · exact List.rel_append hp'.alike hq'.alike

end Parser

/-- Program files are read as one program: its items are those of both, with the ranges of the second
numbered on from those of the first, and its functions are those of both. -/
theorem parse_joined {source source' : String} {p q : Program} (h : parse source = .ok p)
    (h' : parse source' = .ok q) (hnames : ∀ name ∈ q.names, name ∉ p.names) :
    ∃ whole, parse (source ++ "\n" ++ source') = .ok whole ∧ p.Joins q whole := by
  obtain ⟨ls, c, hlex, hp⟩ := parse_eq_ok.mp h
  obtain ⟨ls', c', hlex', hq⟩ := parse_eq_ok.mp h'
  obtain ⟨tokens, last, newline, k, rfl, hlast, hnone, hnewline, hjoined⟩ := lex_joined hlex hlex'
  obtain ⟨tokens', hended, -⟩ := (Tiles.of_lexed (Lexer.lex_eq_ok.mp hlex')).last
  obtain ⟨whole, d, hjoins, hread⟩ :=
    Parser.readsProgram_joined hlast hnone hnewline ⟨tokens', _, hended, rfl⟩ hp hq hnames
  exact ⟨whole, parse_eq_ok.mpr ⟨_, d, hjoined, hread⟩, hjoins⟩

/-- A function and a range, and a comment that is not ended. -/
def selectingFile : String := "function same(x) { return x }\n/a/, /b/ # to b"

def selecting : Program where
  items := [⟨.range 0 (.regex "a") (.regex "b"), .mk .program [.print [] none]⟩]
  functions := [⟨"same", ["x"], .mk .routine [.return_ (some [.var "x"])], ⟨0, 30⟩⟩]
  ranges := 1

/-- Another range and function. -/
def appendedFile : String := "/c/, $1 { print }\nfunction none() { return }"

def appended : Program where
  items := [⟨.range 0 (.regex "c") (.expr [.op .field, .value ⟨"1"⟩]),
    .mk .program [.print [] none]⟩]
  functions := [⟨"none", [], .mk .routine [.return_ none], ⟨18, 44⟩⟩]
  ranges := 1

theorem parse_joined_files :
    parse selectingFile = .ok selecting ∧ parse appendedFile = .ok appended ∧
      (∀ name ∈ appended.names, name ∉ selecting.names) ∧
      ∃ whole, parse (selectingFile ++ "\n" ++ appendedFile) = .ok whole ∧
        selecting.Joins appended whole := by
  have hselecting : parse selectingFile = .ok selecting := by cbv
  have happended : parse appendedFile = .ok appended := by cbv
  have hnames : ∀ name ∈ appended.names, name ∉ selecting.names := by decide
  exact ⟨hselecting, happended, hnames, parse_joined hselecting happended hnames⟩

end Awk
