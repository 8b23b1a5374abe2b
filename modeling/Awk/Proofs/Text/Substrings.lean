import Awk.Proofs.Control.Yields
import Awk.Proofs.Fields.Splitting
import Awk.Proofs.Text.Positions
import Awk.Proofs.Text.Replacing

/-! `substr`, and the functions that say where something stands. What they are given reads as texts
and numbers in the state in which the last of the arguments has been evaluated. -/

namespace Awk

open Machine

/-- The arguments of a call come to operands, in a state in which these can be read. -/
structure Supplied (es : List Expr) (m : Machine) (os : List Operand) (m' : Machine) : Prop where
  yields : Run.Yields (fun self => Run.collect self.operand es) m os m'
  wellFormed : m'.env.WellFormed
  faithful : m'.regexes.Faithful

/-! What the functions make of operands. -/

namespace Machine

/-- The text that an operand reads as where a pattern is wanted. -/
def patternReading (m : Machine) : Operand → String
  | .regex pattern => pattern
  | o => (m.reading o).text

/-- The first match of one operand, as a pattern, in the text of another. -/
def found (m : Machine) (text pattern : Operand) : Option Regex.Match :=
  (Regex.compile? (m.patternReading pattern)).bind (·.find? (m.reading text).text)

theorem Untouched.patternReading_eq {m m' : Machine} (h : m.Untouched m') (o : Operand) :
    m'.patternReading o = m.patternReading o := by
  cases o with
  | regex pattern => rfl
  | _ => exact congrArg Value.text (h.reading_eq _)

/-- Says where a match is. -/
def tellMatch (f : Option Regex.Match) : Act Value := do
  let (start, size) : Int × Int := match f with
    | some f => (f.start + 1, f.stop - f.start)
    | none => (0, -1)
  assign (.scalar "RSTART") (.ofInt start)
  assign (.scalar "RLENGTH") (.ofInt size)
  return .ofInt start

theorem tellMatch_eq (f : Option Regex.Match) (m : Machine) :
    tellMatch f m = (.ofInt (f.elim 0 fun f => f.start + 1), { m with
      env := (m.env.setValue "RSTART" (.ofInt (f.elim 0 fun f => f.start + 1))).setValue "RLENGTH"
        (.ofInt (f.elim (-1) fun f => f.stop - f.start)) }) := by
  cases f <;> rfl

variable {m : Machine} (hwf : m.env.WellFormed) (hm : m.regexes.Faithful)

include hwf hm

theorem valueOf_eq (o : Operand) :
    ∃ m', Inner.valueOf o m = (m.reading o, m') ∧ m.Untouched m' := by
  obtain ⟨hreads, hread⟩ := valueOf_spec hwf hm o
  exact ⟨_, Prod.ext hreads rfl, hread⟩

/-- Two operands that are evaluated one after the other. -/
theorem valueOf_pair (o p : Operand) : ∃ m₁ m₂, Inner.valueOf o m = (m.reading o, m₁) ∧
    Inner.valueOf p m₁ = (m.reading p, m₂) ∧ m.Untouched m₂ := by
  obtain ⟨m₁, ho, hread⟩ := valueOf_eq hwf hm o
  obtain ⟨m₂, hp, hread'⟩ := valueOf_eq (hread.env.wellFormed hwf) (hread.faithful hm) p
  rw [hread.reading_eq] at hp
  exact ⟨m₁, m₂, ho, hp, hread.trans hread'⟩

theorem index_spec (o p : Operand) : ∃ m', Builtin.index.apply [o, p] m =
    (.ofNat (Position.index (m.reading p).text.toList (m.reading o).text.toList), m') ∧
      m.Untouched m' := by
  obtain ⟨m₁, m₂, ho, hp, hread⟩ := valueOf_pair hwf hm o p
  refine ⟨m₂, ?_, hread⟩
  show (let (s, m₁) := Inner.valueOf o m
    let (t, m₂) := Inner.valueOf p m₁
    (Value.ofNat (Position.index t.text.toList s.text.toList), m₂)) = _
  simp only [ho, hp]

theorem substr_end_spec (o p : Operand) : ∃ m', Builtin.substr.apply [o, p] m =
    (⟨.ofList (Position.substring (m.reading o).text.toList (m.reading p).toReal none)⟩, m') ∧
      m.Untouched m' := by
  obtain ⟨m₁, m₂, ho, hp, hread⟩ := valueOf_pair hwf hm o p
  refine ⟨m₂, ?_, hread⟩
  show (let (s, m₁) := Inner.valueOf o m
    let (start, m₂) := Inner.valueOf p m₁
    (Value.mk (.ofList (Position.substring s.text.toList start.toReal none)), m₂)) = _
  simp only [ho, hp]

theorem substr_spec (o p q : Operand) : ∃ m', Builtin.substr.apply [o, p, q] m =
    (⟨.ofList (Position.substring (m.reading o).text.toList (m.reading p).toReal
      (some (m.reading q).toReal))⟩, m') ∧ m.Untouched m' := by
  obtain ⟨m₁, m₂, ho, hp, hread⟩ := valueOf_pair hwf hm o p
  obtain ⟨m₃, hq, hread'⟩ := valueOf_eq (hread.env.wellFormed hwf) (hread.faithful hm) q
  rw [hread.reading_eq] at hq
  refine ⟨m₃, ?_, hread.trans hread'⟩
  show (let (s, m₁) := Inner.valueOf o m
    let (start, m₂) := Inner.valueOf p m₁
    let (count, m₃) := Inner.valueOf q m₂
    (Value.mk (.ofList (Position.substring s.text.toList start.toReal
      (some count.toReal))), m₃)) = _
  simp only [ho, hp, hq]

/-- The number of elements is told in place of that of the characters where there are any. -/
theorem length_spec {o : Operand} (ho : ∀ x, o = .place (.scalar x) → m.env.count x = 0) :
    ∃ m', Builtin.length.apply [o] m = (.ofNat (m.reading o).text.length, m') ∧
      m.Untouched m' := by
  obtain ⟨m', hreads, hread⟩ := valueOf_eq hwf hm o
  have happly : Builtin.length.apply [o] m =
      (.ofNat (Inner.valueOf o m).1.text.length, (Inner.valueOf o m).2) := by
    cases o with
    | place p =>
      cases p with
      | scalar x =>
        show (if m.env.count x > 0 then _ else _ : Act Value) m = _
        rw [ho x rfl, if_neg (Nat.lt_irrefl 0)]
        rfl
      | _ => rfl
    | _ => rfl
  exact ⟨m', by rw [happly, hreads], hread⟩

theorem patternOf_eq (o : Operand) :
    ∃ m', Inner.patternOf o m = (m.patternReading o, m') ∧ m.Untouched m' := by
  obtain ⟨m', hreads, hread⟩ := valueOf_eq hwf hm o
  have happly (h : ∀ pattern, o ≠ .regex pattern) :
      Inner.patternOf o m = ((Inner.valueOf o m).1.text, (Inner.valueOf o m).2) := by
    cases o with
    | regex pattern => exact absurd rfl (h pattern)
    | _ => rfl
  cases o with
  | regex pattern => exact ⟨m, rfl, .refl m⟩
  | _ => exact ⟨m', by rw [happly nofun, hreads]; rfl, hread⟩

/-- `match` tells where the first match is, also in `RSTART` and `RLENGTH`. -/
theorem match_spec (o p : Operand) : ∃ m', Builtin.matches.apply [o, p] m =
      (.ofInt ((m.found o p).elim 0 fun f => f.start + 1), m') ∧
    m'.env.value "RSTART" = .ofInt ((m.found o p).elim 0 fun f => f.start + 1) ∧
    m'.env.value "RLENGTH" = .ofInt ((m.found o p).elim (-1) fun f => f.stop - f.start) ∧
    m'.env.WellFormed ∧ m'.regexes.Faithful := by
  obtain ⟨m₁, ho, hread⟩ := valueOf_eq hwf hm o
  have hm₁ := hread.faithful hm
  obtain ⟨m₂, hp, hread'⟩ := patternOf_eq (hread.env.wellFormed hwf) hm₁ p
  rw [hread.patternReading_eq] at hp
  have hfirst := regex?_fst (hread'.faithful hm₁) (m.patternReading p)
  have hlast := (hread.trans hread').trans (untouched_regex? (m.patternReading p) m₂)
  generalize hregex : regex? (m.patternReading p) m₂ = compiled at hfirst hlast
  obtain ⟨r, m₃⟩ := compiled
  obtain rfl : r = Regex.compile? (m.patternReading p) := hfirst
  have happly : Builtin.matches.apply [o, p] m = tellMatch (m.found o p) m₃ := by
    show (let (v, m₁) := Inner.valueOf o m
      let (pattern, m₂) := Inner.patternOf p m₁
      let (r, m₃) := regex? pattern m₂
      tellMatch (r.bind (·.find? v.text)) m₃) = _
    simp only [ho, hp, hregex]
    rfl
  rw [happly, tellMatch_eq]
  have hwf₃ := hlast.env.wellFormed hwf
  refine ⟨_, rfl, ?_, ?_, (hwf₃.setValue _ _).setValue _ _, hlast.faithful hm⟩
  · exact (Environment.value_setValue_ne _ _ (by decide)).trans
      (Environment.value_setValue_self _ _ _)
  · exact Environment.value_setValue_self _ _ _

end Machine

/-! Calls. -/

/-- A natural number of up to fifty-three bits, written as a value, is rounded to itself. -/
theorem Value.rounded_ofNat {n : Nat} (h : n ≤ 2 ^ 53) :
    Float.rounded (ofNat n).toReal = .int n := by
  have hrange : inRange n := by
    rw [inRange_iff, minInteger, maxInteger]
    omega
  exact rounded_toReal (readInteger_ofNat hrange) h

open Run

section

variable {text start count : Expr} {m m₁ : Machine} {o p q : Operand} {i n : Int}
  {before word after : List Char}

theorem Supplied.substr_window (h : Supplied [text, start, count] m [o, p, q] m₁)
    (hstart : Float.rounded (m₁.reading p).toReal = .int i)
    (hcount : Float.rounded (m₁.reading q).toReal = .int n) :
    ∃ m', Yields (·.operand [.call (.builtin .substr) [text, start, count]]) m
      (.value ⟨.ofList (Position.select (fun k => i ≤ k ∧ k < i + n)
        (m₁.reading o).text.toList)⟩) m' := by
  obtain ⟨m', happly, -⟩ := Machine.substr_spec h.wellFormed h.faithful o p q
  rw [Position.substring_eq_select hstart hcount] at happly
  exact ⟨m', Inner.yields_builtin rfl h.yields happly⟩

theorem Supplied.substr_end (h : Supplied [text, start] m [o, p] m₁)
    (hstart : Float.rounded (m₁.reading p).toReal = .int i) :
    ∃ m', Yields (·.operand [.call (.builtin .substr) [text, start]]) m
      (.value ⟨.ofList (Position.select (fun k => i ≤ k) (m₁.reading o).text.toList)⟩) m' := by
  obtain ⟨m', happly, -⟩ := Machine.substr_end_spec h.wellFormed h.faithful o p
  rw [Position.substring_eq_select_end hstart] at happly
  exact ⟨m', Inner.yields_builtin rfl h.yields happly⟩

/-- A stretch of a text is had by its position and its length. -/
theorem Supplied.substr_stretch (h : Supplied [text, start, count] m [o, p, q] m₁)
    (htext : (m₁.reading o).text.toList = before ++ word ++ after)
    (hlength : (m₁.reading o).text.length < 2 ^ 52)
    (hstart : m₁.reading p = .ofNat (before.length + 1))
    (hcount : m₁.reading q = .ofNat word.length) :
    ∃ m', Yields (·.operand [.call (.builtin .substr) [text, start, count]]) m
      (.value ⟨.ofList word⟩) m' := by
  rw [← String.length_toList, htext, List.length_append, List.length_append] at hlength
  obtain ⟨m', happly, -⟩ := Machine.substr_spec h.wellFormed h.faithful o p q
  rw [htext, hstart, hcount, Position.substring_stretch (Value.rounded_ofNat (by omega))
    (Value.rounded_ofNat (by omega))] at happly
  exact ⟨m', Inner.yields_builtin rfl h.yields happly⟩

end

/-- A match lies in its text, between what is before it and what is after. -/
theorem Regex.find?_split {r : Regex} {text : String} {f : Match} (h : r.find? text = some f) :
    f.start ≤ f.stop ∧ ∃ before after,
      text.toList = before ++ slice text.toList f.start f.stop ++ after ∧
        before.length = f.start ∧ (slice text.toList f.start f.stop).length = f.stop - f.start := by
  obtain ⟨-, hle, hstop⟩ := within_findFrom h
  rw [Nat.zero_add] at hstop
  refine ⟨hle, text.toList.take f.start, text.toList.drop f.stop, ?_, ?_, length_slice hstop⟩
  · rw [List.append_assoc, slice_append_drop hle, List.take_append_drop]
  · rw [List.length_take, Nat.min_eq_left (hle.trans hstop)]

/-- After a match `RSTART` and `RLENGTH` are where it is in the text, and how long. -/
theorem Supplied.match_substr {m m₁ : Machine} {o p : Operand} {f : Regex.Match}
    {e e' : Expr} (h : Supplied [e, e'] m [o, p] m₁) (hfound : m₁.found o p = some f)
    (hlength : (m₁.reading o).text.length < 2 ^ 52) :
    ∃ m₂, Yields (·.operand [.call (.builtin .matches) [e, e']]) m
        (.value (.ofNat (f.start + 1))) m₂ ∧
      ∀ text q m₃, Yields (·.operand text) m₂ q m₃ → m₂.Untouched m₃ →
        (m₂.reading q).text = (m₁.reading o).text →
        ∃ m', Yields (·.operand
            [.call (.builtin .substr) [text, [.var "RSTART"], [.var "RLENGTH"]]]) m₂
          (.value ⟨.ofList (Regex.slice (m₁.reading o).text.toList f.start f.stop)⟩) m' := by
  obtain ⟨m₂, happly, hstart, hsize, hwf, hm⟩ := Machine.match_spec h.wellFormed h.faithful o p
  obtain ⟨r, -, hfind⟩ := Option.bind_eq_some_iff.mp hfound
  obtain ⟨hle, before, after, hsplit, hbefore, hword⟩ := Regex.find?_split hfind
  rw [hfound] at happly hstart hsize
  refine ⟨m₂, Inner.yields_builtin rfl h.yields happly, fun text q m₃ hq hread htext => ?_⟩
  have hsupplied : Supplied [text, [.var "RSTART"], [.var "RLENGTH"]] m₂
      [q, .place (.scalar "RSTART"), .place (.scalar "RLENGTH")] m₃ :=
    ⟨Inner.yields_operands_cons hq (Inner.yields_operands_cons (Inner.yields_operand_var _ _)
      (Inner.yields_operands_cons (Inner.yields_operand_var _ _) (Inner.yields_operands_nil _))),
      hread.env.wellFormed hwf, hread.faithful hm⟩
  have hsame : (m₃.reading q).text = (m₁.reading o).text := by rw [hread.reading_eq, htext]
  refine hsupplied.substr_stretch (by rw [hsame]; exact hsplit) (by rwa [hsame]) ?_ ?_
  · rw [hread.reading_eq, hbefore]
    exact hstart
  · rw [hread.reading_eq, hword]
    exact hsize.trans (congrArg Value.ofInt (Int.ofNat_sub hle).symm)

/-- What `index` finds is had by what it says and by the length of what it looks for. -/
theorem Supplied.index_substr {text text' word word' : Expr} {m m₁ m₂ m₃ m₄ : Machine}
    {o o' p q : Operand} {v : Value} (htext : Yields (·.operand text) m o m₁)
    (hindex : Supplied [text', word] m₁ [o', p] m₂)
    (hv : Yields (·.operand [.call (.builtin .index) [text', word]]) m₁ (.value v) m₃)
    (hne : v ≠ .ofNat 0) (hlength : Supplied [word'] m₃ [q] m₄)
    (hscalar : ∀ x, q = .place (.scalar x) → m₄.env.count x = 0)
    (hsame : (m₄.reading o).text = (m₂.reading o').text)
    (hsame' : (m₄.reading q).text = (m₂.reading p).text)
    (hsmall : (m₄.reading o).text.length < 2 ^ 52) :
    ∃ m', Yields (·.operand [.call (.builtin .substr)
      [text, [.call (.builtin .index) [text', word]], [.call (.builtin .length) [word']]]]) m
      (.value (m₄.reading q)) m' := by
  obtain ⟨m₃', happly, -⟩ := Machine.index_spec hindex.wellFormed hindex.faithful o' p
  obtain ⟨heq, rfl⟩ := Yields.unique (Inner.steady_operand _) hv
    (Inner.yields_builtin rfl hindex.yields happly)
  obtain rfl := Operand.value.inj heq
  rw [← hsame', ← hsame] at hv hne
  obtain ⟨before, after, hsplit, hplace⟩ :=
    Position.exists_of_index fun hzero => hne (by rw [hzero])
  obtain ⟨m₅, happly', hread⟩ := Machine.length_spec hlength.wellFormed hlength.faithful hscalar
  have hcount := Inner.yields_builtin rfl hlength.yields happly'
  have hsupplied := Supplied.mk (Inner.yields_operands_cons htext (Inner.yields_operands_cons hv
    (Inner.yields_operands_cons hcount (Inner.yields_operands_nil _))))
    (hread.env.wellFormed hlength.wellFormed) (hread.faithful hlength.faithful)
  rw [← hread.reading_eq] at hsplit hsmall
  obtain ⟨m', hsubstr⟩ := hsupplied.substr_stretch hsplit hsmall (congrArg Value.ofNat hplace)
    (congrArg Value.ofNat String.length_toList.symm)
  rw [String.ofList_toList] at hsubstr
  exact ⟨m', hsubstr⟩

/-- `substr` cuts out exactly the characters at the positions from one integer on, as many as
another says, or up to the end. So with `RSTART` and `RLENGTH` it gives what `match` has found, and
with what `index` and `length` say, the text that `index` has found, unless it is a variable that is
an array with elements, which `length` counts. -/
theorem substr_selects :
    (∀ text start count m o p q m₁ i n, Supplied [text, start, count] m [o, p, q] m₁ →
      readInteger (m₁.reading p).text = some i → readInteger (m₁.reading q).text = some n →
      i.natAbs < 2 ^ 52 → n.natAbs < 2 ^ 52 →
      ∃ m', Yields (·.operand [.call (.builtin .substr) [text, start, count]]) m
        (.value ⟨.ofList (Position.select (fun k => i ≤ k ∧ k < i + n)
          (m₁.reading o).text.toList)⟩) m') ∧
    (∀ text start m o p m₁ i, Supplied [text, start] m [o, p] m₁ →
      readInteger (m₁.reading p).text = some i → i.natAbs < 2 ^ 52 →
      ∃ m', Yields (·.operand [.call (.builtin .substr) [text, start]]) m
        (.value ⟨.ofList (Position.select (fun k => i ≤ k) (m₁.reading o).text.toList)⟩) m') ∧
    (∀ text pattern m o p m₁ f, Supplied [text, pattern] m [o, p] m₁ → m₁.found o p = some f →
      (m₁.reading o).text.length < 2 ^ 52 →
      ∃ m₂, Yields (·.operand [.call (.builtin .matches) [text, pattern]]) m
          (.value (.ofNat (f.start + 1))) m₂ ∧
        ∀ text' q m₃, Yields (·.operand text') m₂ q m₃ → m₂.Untouched m₃ →
          (m₂.reading q).text = (m₁.reading o).text →
          ∃ m', Yields (·.operand
              [.call (.builtin .substr) [text', [.var "RSTART"], [.var "RLENGTH"]]]) m₂
            (.value ⟨.ofList (Regex.slice (m₁.reading o).text.toList f.start f.stop)⟩) m') ∧
    ∀ text text' word word' m m₁ m₂ m₃ m₄ o o' p q v, Yields (·.operand text) m o m₁ →
      Supplied [text', word] m₁ [o', p] m₂ →
      Yields (·.operand [.call (.builtin .index) [text', word]]) m₁ (.value v) m₃ →
      v ≠ .ofNat 0 → Supplied [word'] m₃ [q] m₄ →
      (∀ x, q = .place (.scalar x) → m₄.env.count x = 0) →
      (m₄.reading o).text = (m₂.reading o').text → (m₄.reading q).text = (m₂.reading p).text →
      (m₄.reading o).text.length < 2 ^ 52 →
      ∃ m', Yields (·.operand [.call (.builtin .substr)
        [text, [.call (.builtin .index) [text', word]], [.call (.builtin .length) [word']]]]) m
        (.value (m₄.reading q)) m' := by
  refine ⟨?_, ?_, ?_, ?_⟩
  · intro text start count m o p q m₁ i n h hi hn hsmall hsmall'
    exact h.substr_window (Value.rounded_toReal hi (by omega)) (Value.rounded_toReal hn (by omega))
  · intro text start m o p m₁ i h hi hsmall
    exact h.substr_end (Value.rounded_toReal hi (by omega))
  · intro text pattern m o p m₁ f h
    exact h.match_substr
  · intro text text' word word' m m₁ m₂ m₃ m₄ o o' p q v
    exact Supplied.index_substr

/-- `s` is `añb`, and `t` is `ñb`. -/
def inside : Machine :=
  { Machine.idle with env := (Machine.idle.env.setValue "s" ⟨"añb"⟩).setValue "t" ⟨"ñb"⟩ }

/-- `substr(s, -1, 4)`, `substr(s, 3)`, `match(s, /ñ.?/)` and
`substr(s, index(s, t), length(t))`. -/
theorem substr_selects_inside :
    (∃ m', Yields (·.operand [.call (.builtin .substr)
      [[.var "s"], [.value ⟨"-1"⟩], [.value ⟨"4"⟩]]]) inside (.value ⟨"añ"⟩) m') ∧
    (∃ m', Yields (·.operand [.call (.builtin .substr)
      [[.var "s"], [.value ⟨" +03"⟩]]]) inside (.value ⟨"b"⟩) m') ∧
    (∃ m₂ m', Yields (·.operand [.call (.builtin .matches) [[.var "s"], [.regex "ñ.?"]]]) inside
        (.value ⟨"2"⟩) m₂ ∧
      Yields (·.operand [.call (.builtin .substr)
        [[.value ⟨"añb"⟩], [.var "RSTART"], [.var "RLENGTH"]]]) m₂ (.value ⟨"ñb"⟩) m') ∧
    ∃ m', Yields (·.operand [.call (.builtin .substr) [[.var "s"],
      [.call (.builtin .index) [[.var "s"], [.var "t"]]], [.call (.builtin .length) [[.var "t"]]]]])
      inside (.value ⟨"ñb"⟩) m' := by
  have hwf : inside.env.WellFormed := by decide
  have hm : inside.regexes.Faithful := RegexCache.faithful_empty
  have hs : (inside.reading (.place (.scalar "s"))).text = "añb" := by decide +kernel
  have ht : inside.reading (.place (.scalar "t")) = ⟨"ñb"⟩ := by decide +kernel
  have hfound : inside.found (.place (.scalar "s")) (.regex "ñ.?") = some ⟨1, 3⟩ := by
    unfold Machine.found
    rw [hs]
    cbv
  have hindex : (Builtin.index.apply [.place (.scalar "s"), .place (.scalar "t")] inside).1 =
      .ofNat 2 := by decide +kernel
  have hscalar : ∀ x, Operand.place (.scalar "t") = .place (.scalar x) →
      inside.env.count x = 0 := by
    rintro x ⟨⟩
    decide +kernel
  have hsupplied : Supplied [[.var "s"], [.var "t"]] inside
      [.place (.scalar "s"), .place (.scalar "t")] inside := ⟨⟨3, rfl⟩, hwf, hm⟩
  obtain ⟨hwindow, hend, hmatch, hindexed⟩ := substr_selects
  refine ⟨?_, ?_, ?_, ?_⟩
  · have hsubstr := hwindow [.var "s"] [.value ⟨"-1"⟩] [.value ⟨"4"⟩] inside (.place (.scalar "s"))
      (.value ⟨"-1"⟩) (.value ⟨"4"⟩) inside (-1) 4 ⟨⟨3, rfl⟩, hwf, hm⟩ (by decide) (by decide)
      (by decide) (by decide)
    rw [hs] at hsubstr
    exact hsubstr
  · have hsubstr := hend [.var "s"] [.value ⟨" +03"⟩] inside (.place (.scalar "s"))
      (.value ⟨" +03"⟩) inside 3 ⟨⟨3, rfl⟩, hwf, hm⟩ (by decide) (by decide)
    rw [hs] at hsubstr
    exact hsubstr
  · obtain ⟨m₂, hcall, hsubstr⟩ := hmatch [.var "s"] [.regex "ñ.?"] inside (.place (.scalar "s"))
      (.regex "ñ.?") inside ⟨1, 3⟩ ⟨⟨3, rfl⟩, hwf, hm⟩ hfound (by rw [hs]; decide)
    rw [hs] at hsubstr
    obtain ⟨m', hword⟩ := hsubstr [.value ⟨"añb"⟩] (.value ⟨"añb"⟩) m₂ ⟨1, rfl⟩ (.refl m₂) rfl
    exact ⟨m₂, m', hcall, hword⟩
  · have hsubstr := hindexed [.var "s"] [.var "s"] [.var "t"] [.var "t"] inside inside inside inside
      inside (.place (.scalar "s")) (.place (.scalar "s")) (.place (.scalar "t"))
      (.place (.scalar "t")) (.ofNat 2) ⟨1, rfl⟩ hsupplied
      (Inner.yields_builtin rfl hsupplied.yields (Prod.ext hindex rfl)) (by decide)
      ⟨⟨3, rfl⟩, hwf, hm⟩ hscalar rfl rfl (by rw [hs]; decide)
    rw [ht] at hsubstr
    exact hsubstr

end Awk
