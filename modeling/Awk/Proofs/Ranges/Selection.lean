import Mathlib
import Awk.Proofs.Ranges.Steps
import Awk.Proofs.Ranges.Traced
import Awk.Shell.Run

/-! Which records ranges select. A range selects a record where one of those that it is tested on
opens it, that or an earlier one, and none from there on and before that closes it. What is tested
in between, and the other ranges with it, makes no difference. -/

namespace Awk

open Machine Run

namespace Pattern

/-- The number of a range. -/
def number? : Pattern → Option Nat
  | range id _ _ => some id
  | _ => none

/-- A pattern is without ranges, or a range whose ends are. -/
theorem Shallow.cases {p : Pattern} (h : p.Shallow) :
    p.number? = none ∧ p.ranges = [] ∨
      ∃ id first last, p = range id first last ∧ first.ranges = [] ∧ last.ranges = [] := by
  cases p with
  | range id first last => exact .inr ⟨id, first, last, rfl, h⟩
  | _ => exact .inl ⟨rfl, h⟩

end Pattern

/-- The ends of the ranges of a program. -/
def Program.ends (p : Program) : List Pattern := p.items.flatMap fun i =>
  match i.pattern with
  | .range _ first last => [first, last]
  | _ => []

namespace Program

variable {p : Program} {i : Item} {id : Nat} {first last : Pattern}

theorem mem_ends (hi : i ∈ p.items) (hp : i.pattern = .range id first last) :
    first ∈ p.ends ∧ last ∈ p.ends := by
  constructor
  · refine List.mem_flatMap.mpr ⟨i, hi, ?_⟩
    simp [hp]
  · refine List.mem_flatMap.mpr ⟨i, hi, ?_⟩
    simp [hp]

namespace Numbered

variable (h : p.Numbered)

include h

theorem range (hi : i ∈ p.items) (hp : i.pattern = .range id first last) :
    id < p.ranges ∧ first.ranges = [] ∧ last.ranges = [] := by
  have hid : id ∈ i.pattern.ranges := by
    rw [hp]
    exact .head _
  have hshallow := h.shallow i hi
  rw [hp] at hshallow
  exact ⟨h.lt hi hid, hshallow⟩

/-- A number belongs to one item. -/
theorem pattern_eq {j : Item} (hi : i ∈ p.items) (hj : j ∈ p.items)
    (hp : i.pattern = .range id first last) (hnumber : j.pattern.number? = some id) :
    j.pattern = .range id first last := by
  have hid : id ∈ i.pattern.ranges := by
    rw [hp]
    exact .head _
  have hjd : id ∈ j.pattern.ranges := by
    obtain ⟨hnone, -⟩ | ⟨other, f, l, hpattern, -⟩ := (h.shallow j hj).cases
    · rw [hnone] at hnumber
      cases hnumber
    · rw [hpattern] at hnumber ⊢
      cases hnumber
      exact .head _
  have hsame : i = j := by
    by_contra hne
    have hdisjoint := (List.nodup_flatMap.mp h.nodup).2
    have : Std.Symm (Function.onFun List.Disjoint fun i : Item => i.pattern.ranges) :=
      ⟨fun _ _ hd _ hj hi => hd hi hj⟩
    exact hdisjoint.forall hi hj hne hid hjd
  rw [← hsame, hp]

end Numbered

end Program

namespace Inner

/-- Record number `i` of those of the tests matches `p`. -/
def MatchesAt (self : Inner) (p : Pattern) (ts : List Test) (i : Nat) : Prop :=
  ∃ t, ts[i]? = some t ∧ self.answer p t.before = some true

/-- Record number `i` of those of the tests opens a range, and none from there on and before number
`k` closes it. -/
def Spans (self : Inner) (first last : Pattern) (ts : List Test) (k i : Nat) : Prop :=
  self.MatchesAt first ts i ∧ ∀ j, i ≤ j → j < k → ¬ self.MatchesAt last ts j

variable {self : Inner} {p first last : Pattern} {ts : List Test} {t : Test}

theorem matchesAt_append_lt {i : Nat} (hi : i < ts.length) :
    self.MatchesAt p (ts ++ [t]) i ↔ self.MatchesAt p ts i := by
  unfold MatchesAt
  rw [List.getElem?_append_left hi]

theorem matchesAt_append_length :
    self.MatchesAt p (ts ++ [t]) ts.length ↔ self.answer p t.before = some true := by
  simp [MatchesAt]

theorem spans_append {k i : Nat} (hk : k ≤ ts.length) (hi : i < ts.length) :
    self.Spans first last (ts ++ [t]) k i ↔ self.Spans first last ts k i := by
  unfold Spans
  rw [matchesAt_append_lt hi]
  refine and_congr_right fun _ => forall_congr' fun j => forall_congr' fun _ => ?_
  exact forall_congr' fun hj => not_congr (matchesAt_append_lt (by omega))

theorem spans_length_self :
    self.Spans first last (ts ++ [t]) ts.length ts.length ↔
      self.answer first t.before = some true := by
  unfold Spans
  rw [matchesAt_append_length]
  exact and_iff_left fun j hj hlt => absurd hlt (by omega)

theorem spans_succ {i : Nat} (hi : i ≤ ts.length) :
    self.Spans first last (ts ++ [t]) (ts.length + 1) i ↔
      self.Spans first last (ts ++ [t]) ts.length i ∧ self.answer last t.before ≠ some true := by
  have hnew : self.MatchesAt last (ts ++ [t]) ts.length ↔ self.answer last t.before = some true :=
    matchesAt_append_length
  constructor
  · rintro ⟨hopens, hgoes⟩
    refine ⟨⟨hopens, fun j hj hlt => hgoes j hj (by omega)⟩, ?_⟩
    rw [ne_eq, ← hnew]
    exact hgoes ts.length hi (by omega)
  · rintro ⟨⟨hopens, hgoes⟩, hlast⟩
    refine ⟨hopens, fun j hj hlt => ?_⟩
    obtain hlt | rfl := Nat.lt_or_eq_of_le (Nat.le_of_lt_succ hlt)
    · exact hgoes j hj hlt
    · rw [hnew]
      exact hlast

/-- The tests of a range, in order, select the records that its ends span, and its state says
whether they span the next one, too. -/
structure Selects (inner : Inner) (id : Nat) (first last : Pattern) (m : Machine)
    (ts : List Test) : Prop where
  selected : ∀ k t, ts[k]? = some t → (t.selected = true ↔ ∃ i ≤ k, inner.Spans first last ts k i)
  active : m.active id = true ↔ ∃ i < ts.length, inner.Spans first last ts ts.length i

theorem Selects.nil {id : Nat} {m : Machine} (h : m.active id = false) :
    self.Selects id first last m [] where
  selected _ _ ht := nomatch ht
  active := by simp [h]

/-- One more test. -/
theorem Selects.append {id : Nat} (h : self.Selects id first last t.before ts)
    (hselected : t.selected = true ↔
      t.before.active id = true ∨ self.answer first t.before = some true)
    (hactive : t.after.active id = true ↔
      t.selected = true ∧ self.answer last t.before ≠ some true) :
    self.Selects id first last t.after (ts ++ [t]) := by
  have hnew : t.selected = true ↔ ∃ i ≤ ts.length, self.Spans first last (ts ++ [t]) ts.length i := by
    have hopened : self.Spans first last (ts ++ [t]) ts.length ts.length ↔
      self.answer first t.before = some true := spans_length_self
    rw [hselected, h.active, ← hopened]
    constructor
    · rintro (⟨i, hi, hspans⟩ | hspans)
      · exact ⟨i, Nat.le_of_lt hi, (spans_append (Nat.le_refl _) hi).mpr hspans⟩
      · exact ⟨ts.length, Nat.le_refl _, hspans⟩
    · rintro ⟨i, hi, hspans⟩
      obtain hlt | rfl := Nat.lt_or_eq_of_le hi
      · exact .inl ⟨i, hlt, (spans_append (Nat.le_refl _) hlt).mp hspans⟩
      · exact .inr hspans
  constructor
  · intro k u hu
    obtain hk | hk | hk := Nat.lt_trichotomy k ts.length
    · rw [List.getElem?_append_left hk] at hu
      rw [h.selected k u hu]
      refine exists_congr fun i => and_congr_right fun hi => ?_
      exact (spans_append (Nat.le_of_lt hk) (by omega)).symm
    · subst hk
      rw [List.getElem?_concat_length] at hu
      cases hu
      exact hnew
    · have hnone : (ts ++ [t])[k]? = none := List.getElem?_eq_none (by simp; omega)
      rw [hnone] at hu
      cases hu
  · rw [hactive, hnew, List.length_append, List.length_singleton]
    constructor
    · rintro ⟨⟨i, hi, hspans⟩, hlast⟩
      exact ⟨i, by omega, (spans_succ hi).mpr ⟨hspans, hlast⟩⟩
    · rintro ⟨i, hi, hspans⟩
      obtain ⟨hspans, hlast⟩ := (spans_succ (by omega)).mp hspans
      exact ⟨⟨i, by omega, hspans⟩, hlast⟩

end Inner

/-- Where the test is one of a range, neither end has side effects there that change what the ends
of ranges answer. -/
def Test.Harmless (self : Inner) (p : Program) (t : Test) : Prop :=
  match t.pattern with
  | .range _ first last => ∀ q ∈ p.ends, self.Harmless first last q t.before
  | _ => True

instance (self : Inner) (p : Program) (t : Test) : Decidable (t.Harmless self p) := by
  unfold Test.Harmless
  split <;> infer_instance

theorem Test.Harmless.ends {self : Inner} {p : Program} {t : Test} (h : t.Harmless self p)
    {id : Nat} {first last q : Pattern} (ht : t.pattern = .range id first last) (hq : q ∈ p.ends) :
    self.Harmless first last q t.before := by
  unfold Test.Harmless at h
  rw [ht] at h
  exact h q hq

/-- The tests of a range. -/
def testsOf (id : Nat) (ts : List Test) : List Test :=
  ts.filter fun t => t.pattern.number? = some id

theorem testsOf_append_self {id : Nat} {ts : List Test} {t : Test}
    (ht : t.pattern.number? = some id) : testsOf id (ts ++ [t]) = testsOf id ts ++ [t] := by
  simp [testsOf, ht]

theorem testsOf_append_ne {id : Nat} {ts : List Test} {t : Test}
    (ht : t.pattern.number? ≠ some id) : testsOf id (ts ++ [t]) = testsOf id ts := by
  simp [testsOf, ht]

namespace Traced

variable {n : Nat} {p : Program}

/-- A test that a run of the program makes: there are states for its ranges, before and after. -/
structure Made (n : Nat) (p : Program) (t : Test) : Prop where
  item : ∃ i ∈ p.items, i.pattern = t.pattern
  selects : (Inner.withFuel n).selects t.pattern t.before = .ok t.selected t.after
  before : t.before.ranges.length = p.ranges
  after : t.after.ranges.length = p.ranges

/-- The invariant of a run: the tests so far, last first, select what the ends of their ranges
span. -/
structure Standing (n : Nat) (p : Program) (m : Machine) (log : List Test) : Prop where
  length : m.ranges.length = p.ranges
  made : ∀ t ∈ log, Made n p t
  selects : (∀ t ∈ log, t.Harmless (Inner.withFuel n) p) → ∀ {i id first last}, i ∈ p.items →
    i.pattern = .range id first last →
    (Inner.withFuel n).Selects id first last m (testsOf id log.reverse)

namespace Standing

variable {m m' : Machine} {log : List Test}

theorem congr (h : Standing n p m log) (hsame : m'.ranges = m.ranges) : Standing n p m' log where
  length := (congrArg List.length hsame).trans h.length
  made := h.made
  selects hquiet _ _ _ _ hi hp :=
    have hselects := h.selects hquiet hi hp
    ⟨hselects.selected, by rw [active_congr hsame]; exact hselects.active⟩

/-- One more test. -/
theorem test (hp : p.Numbered) (h : Standing n p m log) {i : Item} (hi : i ∈ p.items) {b : Bool}
    (hb : (Inner.withFuel n).selects i.pattern m = .ok b m') :
    Standing n p m' (⟨i.pattern, m, b, m'⟩ :: log) := by
  have hquiet {t : Test} (hlog : ∀ u ∈ t :: log, u.Harmless (Inner.withFuel n) p) :
      t.Harmless (Inner.withFuel n) p ∧ ∀ u ∈ log, u.Harmless (Inner.withFuel n) p :=
    List.forall_mem_cons.mp hlog
  have hmade (hlength : m'.ranges.length = m.ranges.length) :
      ∀ t ∈ (⟨i.pattern, m, b, m'⟩ :: log : List Test), Made n p t :=
    List.forall_mem_cons.mpr ⟨⟨⟨i, hi, rfl⟩, hb, h.length, hlength.trans h.length⟩, h.made⟩
  obtain ⟨hnone, hflat⟩ | ⟨id, first, last, hrange, hfirst, hlast⟩ := (hp.shallow i hi).cases
  · have hsame : m'.ranges = m.ranges := Inner.ranges_eq_of_selects hflat hb
    refine ⟨(h.congr hsame).length, hmade (congrArg List.length hsame), ?_⟩
    intro hlog j id first last hj hjp
    rw [List.reverse_cons, testsOf_append_ne (by rw [hnone]; nofun)]
    exact (h.congr hsame).selects (hquiet hlog).2 hj hjp
  · obtain ⟨hlt, -⟩ := hp.range hi hrange
    have hid : id < m.ranges.length := by rw [h.length]; exact hlt
    have hstep : Inner.RangeStep (Inner.withFuel n) id first last m b m' :=
      Inner.rangeStep (hrange ▸ hb)
    have hlength := hstep.length_eq hfirst hlast hid
    refine ⟨hlength.trans h.length, hmade hlength, ?_⟩
    intro hlog j other first' last' hj hjp
    have hbefore := h.selects (hquiet hlog).2 hj hjp
    rw [List.reverse_cons]
    by_cases hother : other = id
    · subst hother
      have hsame : i.pattern = .range other first' last' :=
        hp.pattern_eq hj hi hjp (by rw [hrange]; rfl)
      rw [hrange] at hsame
      cases hsame
      have hends := (hquiet hlog).1.ends hrange (Program.mem_ends hi hrange).2
      rw [testsOf_append_self (by rw [hrange]; rfl)]
      exact Inner.Selects.append (t := ⟨i.pattern, m, b, m'⟩) hbefore hstep.selected_iff
        (hstep.active_iff hfirst hlast hid hends.first)
    · rw [testsOf_append_ne (by rw [hrange]; exact fun hsome => hother (Option.some.inj hsome).symm)]
      refine ⟨hbefore.selected, ?_⟩
      rw [hstep.active_ne hfirst hlast hid hother]
      exact hbefore.active

end Standing

/-! Whole runs. -/

section

variable {α : Type}

theorem keeps_plain {x : Run α} {Q : α → Prop} (hx : Run.Rangeless x Q) :
    Keeps (Standing n p) (plain x) := .plain fun m _ h => h.congr (hx m).ranges_eq

theorem keeps_act {a : Act α} (ha : Machine.Rangeless a) :
    Keeps (Standing n p) (plain (liftM a)) := keeps_plain (.act ha)

end

theorem rangeless_runItems (n : Nat) (is : List Item) :
    Run.Rangeless ((Inner.withFuel n).runItems is) fun _ => True := by
  induction is with
  | nil => exact .pure trivial
  | cons i is ih =>
    refine ((Inner.rangeless_withFuel n).block i.action).andThen fun _ m => .getFlag_bind ?_
    split
    · exact .pure trivial
    · exact ih m

theorem rangeless_ending (n : Nat) (p : Program) :
    Run.Rangeless (ending (Inner.withFuel n) p) fun _ => True := by
  have hset (flag : Flag) : Machine.Rangeless (setFlag flag) := fun _ _ => rfl
  have hnote (e : Event) : Machine.Rangeless (note e) := fun _ _ => rfl
  refine (Run.Rangeless.act (hset _)).andThen fun _ => (Run.Rangeless.act (hnote _)).andThen fun _ => ?_
  refine (rangeless_runItems n _).andThen fun _ => (Run.Rangeless.act (hset _)).andThen fun _ => ?_
  refine (Run.Rangeless.act Machine.Rangeless.acts.closeStreams).andThen fun _ => ?_
  exact .get_bind (fun _ _ => rfl) fun _ => .pure trivial

variable (hp : p.Numbered)

include hp

theorem keeps_test {i : Item} (hi : i ∈ p.items) :
    Keeps (Standing n p) (test (Inner.withFuel n) i.pattern) := by
  intro m log h
  unfold Traced.test
  dsimp only
  cases hb : (Inner.withFuel n).selects i.pattern m with
  | ok b m' => exact h.test hp hi hb
  | error e m' => exact h.congr (Inner.ranges_eq_of_error (hp.shallow i hi) hb)

theorem keeps_tryItems {is : List Item} (his : ∀ i ∈ is, i ∈ p.items) :
    Keeps (Standing n p) (tryItems (Inner.withFuel n) is) := by
  have hflag : Keeps (Standing n p) (plain (liftM getFlag)) := keeps_act fun _ _ => rfl
  induction is with
  | nil => exact .pure _
  | cons i is ih =>
    obtain ⟨hi, his⟩ := List.forall_mem_cons.mp his
    refine (keeps_test hp hi).bind fun selected => hflag.bind fun flag => ?_
    split
    · exact .pure _
    · exact (keeps_act fun _ _ => rfl).bind fun _ => .pure _
    · refine .ite ?_ (ih his)
      refine (keeps_plain ((Inner.rangeless_withFuel n).block _)).bind fun absorbed => ?_
      exact hflag.bind fun flag => .ite (.pure _) (.ite (.pure _) (ih his))

theorem keeps_nextPass :
    Keeps (Standing n p) (nextPass (Inner.withFuel n) p.mainItems) := by
  have hrecord := Act.Calculus.nextRecord (L := .rangeless) (fun _ => trivial) (fun _ _ _ => rfl)
  refine (keeps_plain (hrecord n n)).bind fun r => ?_
  cases r with
  | none => exact .pure _
  | some record =>
    refine (keeps_act (Machine.Rangeless.acts.setRecord trivial record)).bind fun _ => ?_
    refine (keeps_act fun _ _ => rfl).bind fun _ => ?_
    exact keeps_tryItems hp fun i hi => List.mem_of_mem_filter hi

theorem keeps_runAll : Keeps (Standing n p) (runAll (Inner.withFuel n) p) := by
  have hending : Keeps (Standing n p) (plain (ending (Inner.withFuel n) p)) :=
    keeps_plain (rangeless_ending n p)
  refine (keeps_plain (rangeless_runItems n _)).bind fun _ => (keeps_act fun _ _ => rfl).bind fun flag => ?_
  split
  · exact ((keeps_nextPass hp).repeatWhile _).bind fun _ => hending
  · exact hending

omit hp in
/-- At the start no range is between its ends. -/
theorem standing_start {m : Machine} (hranges : m.ranges = List.replicate p.ranges false) :
    Standing n p m [] := by
  refine ⟨?_, List.forall_mem_nil _, fun _ i id first last _ _ => .nil ?_⟩
  · rw [hranges]
    exact List.length_replicate
  · show m.ranges.getD id false = false
    rw [hranges, List.getD_eq_getElem?_getD, List.getElem?_replicate]
    split <;> rfl

theorem standing_runProgram {m : Machine} (hprogram : m.program = p)
    (hranges : m.ranges = List.replicate p.ranges false) :
    Standing n p (ends (runProgram (Inner.withFuel n) (m, []))).1
      (ends (runProgram (Inner.withFuel n) (m, []))).2 := by
  have hrun : runProgram (Inner.withFuel n) (m, []) =
      runAll (Inner.withFuel n) m.program ({ m with history := [] }, []) := rfl
  rw [hrun, hprogram]
  exact keeps_runAll hp _ _ (standing_start hranges)

end Traced

/-- The test of a range leaves what another selects as it is, unless an end has side effects. -/
theorem Test.Harmless.selected_eq {p : Program} (hp : p.Numbered) {n : Nat} {t : Test}
    (ht : t.Harmless (Inner.withFuel n) p) (hmade : Traced.Made n p t) {other : Nat}
    (hnumber : t.pattern.number? = some other) {i : Item} {id : Nat} {first last : Pattern}
    (hi : i ∈ p.items) (hrange : i.pattern = .range id first last) (hne : other ≠ id)
    {b b' : Bool} {m m' : Machine}
    (hbefore : (Inner.withFuel n).selects i.pattern t.before = .ok b m)
    (hafter : (Inner.withFuel n).selects i.pattern t.after = .ok b' m') : b' = b := by
  obtain ⟨j, hj, hjt⟩ := hmade.item
  have hselects := hmade.selects
  obtain ⟨hnone, -⟩ | ⟨k, f, l, hpattern, hf, hl⟩ := (hp.shallow j hj).cases
  · rw [← hjt, hnone] at hnumber
    cases hnumber
  · have htpattern : t.pattern = .range k f l := hjt ▸ hpattern
    rw [htpattern] at hnumber hselects
    cases hnumber
    have hlt : other < t.before.ranges.length := by
      rw [hmade.before]
      exact (hp.range hj hpattern).1
    have hstep := Inner.rangeStep hselects
    obtain ⟨-, hfirst, -⟩ := hp.range hi hrange
    have hquiet := ht.ends htpattern (Program.mem_ends hi hrange).1
    rw [hrange] at hbefore hafter
    have hstate : t.after.active id = t.before.active id := hstep.active_ne hf hl hlt hne.symm
    have hanswer := hstep.answer_eq hf hl hlt hfirst hquiet
    rw [Bool.eq_iff_iff, (Inner.rangeStep hafter).selected_iff, hstate, hanswer,
      (Inner.rangeStep hbefore).selected_iff]

/-- Which records the ranges of a program select, told by the tests that a run makes. The ranges are
numbered from 0 on, and at every test there is a state for each of them. Where no test has side
effects on what the ends of ranges answer, a range selects a record where one that it is tested on,
that or an earlier one, matches its first end, and none from there on and before that matches its
last end; and the test of another range never changes what it selects. -/
theorem ranges_select {source : String} {p : Program} (h : parse source = .ok p) (s : Settings)
    (streams : Host.Streams) (n : Nat) :
    let inner := Inner.withFuel n
    let start := Machine.start p s streams
    let run := Traced.runProgram inner (start, [])
    let tests := (Traced.ends run).2.reverse
    Traced.forget run = inner.runProgram start ∧
      p.items.flatMap (·.pattern.ranges) = List.range p.ranges ∧
      (∀ t ∈ tests, inner.selects t.pattern t.before = .ok t.selected t.after ∧
        (∀ id ∈ t.pattern.ranges, id < p.ranges) ∧
        t.before.ranges.length = p.ranges ∧ t.after.ranges.length = p.ranges) ∧
      ((∀ t ∈ tests, t.Harmless inner p) →
        ∀ {item id first last}, item ∈ p.items → item.pattern = .range id first last →
          let own := testsOf id tests
          (∀ k t, own[k]? = some t → (t.selected = true ↔ ∃ i ≤ k, inner.MatchesAt first own i ∧
            ∀ j, i ≤ j → j < k → ¬ inner.MatchesAt last own j)) ∧
          ∀ t ∈ tests, ∀ other, t.pattern.number? = some other → other ≠ id →
            ∀ {b b' m m'}, inner.selects item.pattern t.before = .ok b m →
              inner.selects item.pattern t.after = .ok b' m' → b' = b) := by
  intro inner start run tests
  have hp : p.Numbered := parse_numbered h
  have hend : Traced.Standing n p (Traced.ends run).1 (Traced.ends run).2 :=
    Traced.standing_runProgram hp rfl rfl
  have hmade (t : Test) (ht : t ∈ tests) : Traced.Made n p t := hend.made t (List.mem_reverse.mp ht)
  refine ⟨Traced.Follows.runProgram inner start [], hp.ranges, fun t ht => ?_, ?_⟩
  · have ht := hmade t ht
    obtain ⟨i, hi, hpattern⟩ := ht.item
    exact ⟨ht.selects, fun id hid => hp.lt hi (hpattern ▸ hid), ht.before, ht.after⟩
  · intro hquiet item id first last hi hrange
    have hselects := hend.selects (fun t ht => hquiet t (List.mem_reverse.mpr ht)) hi hrange
    exact ⟨hselects.selected, fun t ht other hnumber hother _ _ _ _ hbefore hafter =>
      (hquiet t ht).selected_eq hp (hmade t ht) hnumber hi hrange hother hbefore hafter⟩

/-- `$0 == "a", $0 == "b" {} $0 == "b", $0 == "c" {}`. -/
def overlapping : Program :=
  let equals (text : String) : Pattern :=
    .expr [.op .field, .value ⟨"0"⟩, .op .equal, .value ⟨text⟩]
  { items := [⟨.range 0 (equals "a") (equals "b"), .mk .program []⟩,
      ⟨.range 1 (equals "b") (equals "c"), .mk .program []⟩]
    functions := []
    ranges := 2 }

theorem parse_overlapping :
    parse "$0 == \"a\", $0 == \"b\" \x7b\x7d $0 == \"b\", $0 == \"c\" \x7b\x7d" =
      .ok overlapping := by
  cbv

/-- The tests of both ranges on three records. -/
def overlappingTests : List Test :=
  let start := Machine.start overlapping { stdin := some "a\nb\nc\n" } (.start .empty [] .captured)
  (Traced.ends (Traced.runProgram (Inner.withFuel 6) (start, []))).2.reverse

/-- The record that closes one range opens the other. -/
theorem ranges_select_overlapping :
    (testsOf 0 overlappingTests).map (·.selected) = [true, true, false] ∧
      (testsOf 1 overlappingTests).map (·.selected) = [false, true, true] ∧
      ∀ item ∈ overlapping.items, ∀ id first last, item.pattern = .range id first last →
        ∀ k t, (testsOf id overlappingTests)[k]? = some t → (t.selected = true ↔
          ∃ i ≤ k, (Inner.withFuel 6).MatchesAt first (testsOf id overlappingTests) i ∧
            ∀ j, i ≤ j → j < k →
              ¬ (Inner.withFuel 6).MatchesAt last (testsOf id overlappingTests) j) := by
  have hquiet : ∀ t ∈ overlappingTests, t.Harmless (Inner.withFuel 6) overlapping := by
    decide +kernel
  obtain ⟨-, -, -, hselects⟩ := ranges_select parse_overlapping { stdin := some "a\nb\nc\n" }
    (.start .empty [] .captured) 6
  refine ⟨by decide +kernel, by decide +kernel, fun item hitem id first last hrange => ?_⟩
  exact (hselects hquiet hitem hrange).1

end Awk
