import Awk.Proofs.Evaluation.Acts
import Awk.Proofs.Scope.Lookup
import Awk.Shell.Run

/-! The record and its fields through any history of assignments. What was put in place last says
how the two belong together: either the fields are the record divided by the `FS` of then, or the
record is the fields joined by the `OFS` of then. -/

namespace Awk

open Machine

/-! Records. -/

namespace Record

variable {r : Record} {fields : List String} {n i : Nat}

theorem length_resize (n : Nat) (fields : List String) : (resize n fields).length = n := by
  simp only [resize, List.length_append, List.length_take, List.length_replicate]
  omega

theorem getD_resize (n : Nat) (fields : List String) (i : Nat) :
    (resize n fields).getD i "" = if i < n then fields.getD i "" else "" := by
  simp only [List.getD_eq_getElem?_getD, resize, List.getElem?_append, List.length_take,
    List.getElem?_take, List.getElem?_replicate]
  by_cases hn : i < n
  · by_cases hlength : i < fields.length
    · rw [if_pos (Nat.lt_min.mpr ⟨hn, hlength⟩), if_pos hn, if_pos hn]
    · have hnone : fields[i]? = none := List.getElem?_eq_none (Nat.le_of_not_lt hlength)
      rw [if_neg (by omega), if_pos (by omega), if_pos hn, hnone]
      rfl
  · rw [if_neg (by omega), if_neg (by omega), if_neg hn]
    rfl

theorem field_succ (r : Record) (i : Nat) : r.field (i + 1) = r.fields.getD i "" := rfl

/-- A field past the last is empty. -/
theorem field_of_lt (h : r.fieldCount < i) : r.field i = "" := by
  cases i with
  | zero => exact absurd h (Nat.not_lt_zero _)
  | succ i =>
    have hnone : r.fields[i]? = none := List.getElem?_eq_none (Nat.le_of_lt_succ h)
    rw [field_succ, List.getD_eq_getElem?_getD, hnone, Option.getD_none]

/-- The record is its fields with a separator between them. -/
def Joined (r : Record) (separator : String) : Prop := r.text = separator.intercalate r.fields

theorem joined_setField (r : Record) (index : Nat) (v separator : String) :
    (r.setField index v separator).Joined separator := rfl

theorem joined_setCount (r : Record) (n : Nat) (separator : String) :
    (r.setCount n separator).Joined separator := rfl

theorem fieldCount_setField (r : Record) (i : Nat) (v separator : String) :
    (r.setField (i + 1) v separator).fieldCount = max (i + 1) r.fieldCount := by
  simp [setField, ofFields, fieldCount, length_resize]

/-- Setting a field changes no other one. -/
theorem field_setField (r : Record) (i : Nat) (v separator : String) (j : Nat) :
    (r.setField (i + 1) v separator).field (j + 1) = if j = i then v else r.field (j + 1) := by
  have hset : (r.setField (i + 1) v separator).field (j + 1) =
      ((resize (max (i + 1) r.fields.length) r.fields).set i v).getD j "" := rfl
  rw [hset, List.getD_eq_getElem?_getD, List.getElem?_set, length_resize]
  by_cases hj : j = i
  · rw [if_pos hj.symm, if_pos (by omega), if_pos hj, Option.getD_some]
  · rw [if_neg (Ne.symm hj), if_neg hj, ← List.getD_eq_getElem?_getD, getD_resize]
    split
    · rfl
    · exact (field_of_lt (r := r) (by simp only [fieldCount]; omega)).symm

theorem fieldCount_setCount (r : Record) (n : Nat) (separator : String) :
    (r.setCount n separator).fieldCount = n := length_resize n r.fields

/-- Setting how many fields there are keeps those that stay, and the others are empty. -/
theorem field_setCount (r : Record) (n : Nat) (separator : String) (j : Nat) :
    (r.setCount n separator).field (j + 1) = if j < n then r.field (j + 1) else "" :=
  getD_resize n r.fields j

end Record

/-! Dividing text. -/

namespace RegexCache

variable {c : RegexCache} {pattern : String}

/-- What is kept for a pattern is what it is compiled to. -/
def Faithful (c : RegexCache) : Prop :=
  ∀ pattern r, c.entries.lookup pattern = some r → Regex.compile? pattern = some r

theorem faithful_empty : empty.Faithful := nofun

theorem Faithful.get_fst (h : c.Faithful) (pattern : String) :
    (c.get pattern).1 = Regex.compile? pattern := by
  unfold get
  split
  · rename_i r hr
    exact (h pattern r hr).symm
  · split
    · rename_i r hr
      exact hr.symm
    · rename_i hr
      exact hr.symm

theorem Faithful.get_snd (h : c.Faithful) (pattern : String) : (c.get pattern).2.Faithful := by
  unfold get
  split
  · exact h
  · split
    · rename_i r hr
      intro p r' hp
      rw [List.lookup_cons] at hp
      split at hp
      · rename_i heq
        cases hp
        rw [eq_of_beq heq]
        exact hr
      · exact h p r' hp
    · exact h

end RegexCache

/-- The fields of a text by a separator. Where that is an expression that is not valid, the whole
text is one field. -/
def Separator.divide (fs text : String) : List String :=
  match simple? fs with
  | some sep => sep.split text
  | none => match Regex.compile? fs with
    | some r => (regex r).split text
    | none => [text]

namespace Machine

variable {m : Machine}

theorem report_regexes (d : Diagnostic) (m : Machine) : (report d m).2.regexes = m.regexes := by
  show regexes (if m.echo then _ else _) = _
  split <;> rfl

theorem regex?_fst (h : m.regexes.Faithful) (pattern : String) :
    (regex? pattern m).1 = Regex.compile? pattern := by
  rw [← h.get_fst pattern]
  show ((if (m.regexes.get pattern).1.isNone then _ else _ : Act (Option Regex)) _).1 = _
  split <;> rfl

theorem faithful_regex? (h : m.regexes.Faithful) (pattern : String) :
    (regex? pattern m).2.regexes.Faithful := by
  show ((if (m.regexes.get pattern).1.isNone then _ else _ : Act (Option Regex)) _).2.regexes.Faithful
  split
  · show (report (.invalidRegex pattern)
      { m with regexes := (m.regexes.get pattern).2 }).2.regexes.Faithful
    rw [report_regexes]
    exact h.get_snd pattern
  · exact h.get_snd pattern

/-- Dividing a text in the state of a machine. -/
theorem splitText_fst (h : m.regexes.Faithful) (text fs : String) :
    (splitText text fs m).1 = Separator.divide fs text := by
  unfold splitText Separator.divide
  cases Separator.simple? fs with
  | some sep => rfl
  | none =>
    dsimp only
    rw [← regex?_fst h fs]
    show ((match (regex? fs m).1 with | some r => _ | none => _ : Act (List String)) _).1 = _
    cases (regex? fs m).1 <;> rfl

theorem faithful_splitText (h : m.regexes.Faithful) (text fs : String) :
    (splitText text fs m).2.regexes.Faithful := by
  unfold splitText
  cases Separator.simple? fs with
  | some sep => exact h
  | none =>
    show ((match (regex? fs m).1 with | some r => _ | none => _ : Act (List String))
      (regex? fs m).2).2.regexes.Faithful
    cases (regex? fs m).1 <;> exact faithful_regex? h fs

theorem setRecord_record (h : m.regexes.Faithful) (text : String) :
    (setRecord text m).2.record = ⟨text, Separator.divide (m.env.value "FS").text text⟩ := by
  rw [← splitText_fst h]
  rfl

theorem faithful_setRecord (h : m.regexes.Faithful) (text : String) :
    (setRecord text m).2.regexes.Faithful :=
  faithful_splitText h text (m.env.value "FS").text

theorem setField_of_le {index : Nat} (h : index + 1 ≤ maxFields) (v : Value) (m : Machine) :
    (setField (index + 1) v m).2 =
      (putRecord (m.record.setField (index + 1) v.text (m.env.value "OFS").text) m).2 := by
  have hset : setField (index + 1) v = (do
      let ofs ← scalar "OFS"
      modify fun m => { m with record := m.record.setField (index + 1) v.text ofs.text }
      syncFieldCount) := if_neg (Nat.not_lt.mpr h)
  rw [hset]
  rfl

theorem setField_of_lt {index : Nat} (h : maxFields < index) (v : Value) :
    setField index v = report (.fieldIndexTooLarge index) := by
  have hne : index ≠ 0 := Nat.ne_of_gt (Nat.lt_of_le_of_lt (Nat.zero_le _) h)
  simp only [setField, if_neg hne, if_pos h]

theorem assign_count_of_le {v : Value} (h : v.toInteger.toNat ≤ maxFields) (m : Machine) :
    (assign (.scalar "NF") v m).2 = (putRecord
      (m.record.setCount v.toInteger.toNat (m.env.value "OFS").text) (setScalar "NF" v m).2).2 := by
  have hresize : resizeRecord v.toInteger = (do
      let ofs ← scalar "OFS"
      modify fun m => { m with record := m.record.setCount v.toInteger.toNat ofs.text }
      syncFieldCount) := if_neg (Nat.not_lt.mpr h)
  -- the separator is looked up after `NF` has been set
  have hofs : (setScalar "NF" v m).2.env.value "OFS" = m.env.value "OFS" :=
    Environment.value_setValue_ne _ _ (by decide)
  show (resizeRecord v.toInteger (setScalar "NF" v m).2).2 = _
  rw [hresize, ← hofs]
  rfl

theorem assign_count_of_lt {v : Value} (h : maxFields < v.toInteger.toNat) (m : Machine) :
    (assign (.scalar "NF") v m).2 = (syncFieldCount
      (report (.fieldIndexTooLarge v.toInteger.toNat) (setScalar "NF" v m).2).2).2 := by
  have hresize : resizeRecord v.toInteger = (do
      report (.fieldIndexTooLarge v.toInteger.toNat)
      syncFieldCount) := if_pos h
  show (resizeRecord v.toInteger (setScalar "NF" v m).2).2 = _
  rw [hresize]
  rfl

theorem report_record (d : Diagnostic) (m : Machine) : (report d m).2.record = m.record :=
  congrArg Core.record (report_core d m)

theorem report_env (d : Diagnostic) (m : Machine) : (report d m).2.env = m.env :=
  congrArg Core.env (report_core d m)

end Machine

/-- A machine with no program. -/
def Machine.idle : Machine := .start ⟨[], [], 0⟩ {} (.start .empty [] .captured)

/-! Histories. -/

/-- A step in the history of a record: the variables become others, or there is an assignment to the
record, to a field or to `NF`. -/
inductive Step where
  | environment (env : Environment)
  | record (text : String)
  | field (index : Nat) (v : Value)
  | count (v : Value)

namespace Step

def act : Step → Act Unit
  | environment env => modifyEnv fun _ => env
  | record text => setRecord text
  | field index v => setField index v
  | count v => assign (.scalar "NF") v

/-- Whether the step puts a record in place. Too many fields are refused. -/
def changes : Step → Bool
  | environment _ => false
  | record _ => true
  | field index _ => index ≤ maxFields
  | count v => v.toInteger.toNat ≤ maxFields

/-- The machine after a history. -/
def after (steps : List Step) (m : Machine) : Machine :=
  steps.foldl (fun m s => (s.act m).2) m

/-- What the record and its fields are after a step that puts a record in place, given the
variables and the record before it. -/
def Leaves (env : Environment) (old new : Record) : Step → Prop
  | environment _ => new = old
  | record text | field 0 ⟨text⟩ =>
    new.text = text ∧ new.fields = Separator.divide (env.value "FS").text text
  | field (i + 1) v =>
    new.Joined (env.value "OFS").text ∧ new.fieldCount = max (i + 1) old.fieldCount ∧
      ∀ j, new.field (j + 1) = if j = i then v.text else old.field (j + 1)
  | count v =>
    new.Joined (env.value "OFS").text ∧ new.fieldCount = v.toInteger.toNat ∧
      ∀ j, new.field (j + 1) = if j < v.toInteger.toNat then old.field (j + 1) else ""

variable {m : Machine} {s : Step}

theorem after_append (before steps : List Step) (m : Machine) :
    after (before ++ steps) m = after steps (after before m) := List.foldl_append

theorem after_cons (s : Step) (steps : List Step) (m : Machine) :
    after (s :: steps) m = after steps (s.act m).2 := rfl

theorem faithful_act (h : m.regexes.Faithful) (s : Step) : (s.act m).2.regexes.Faithful := by
  cases s with
  | environment env => exact h
  | record text => exact faithful_setRecord h text
  | field index v =>
    cases index with
    | zero => exact faithful_setRecord h v.text
    | succ i =>
      by_cases hi : i + 1 ≤ maxFields
      · show (setField (i + 1) v m).2.regexes.Faithful
        rw [setField_of_le hi]
        exact h
      · show (setField (i + 1) v m).2.regexes.Faithful
        rw [setField_of_lt (Nat.lt_of_not_le hi), report_regexes]
        exact h
  | count v =>
    show (assign (.scalar "NF") v m).2.regexes.Faithful
    by_cases hv : v.toInteger.toNat ≤ maxFields
    · rw [assign_count_of_le hv]
      exact h
    · rw [assign_count_of_lt (Nat.lt_of_not_le hv)]
      show (report _ (setScalar "NF" v m).2).2.regexes.Faithful
      rw [report_regexes]
      exact h

theorem faithful_after (h : m.regexes.Faithful) (steps : List Step) :
    (after steps m).regexes.Faithful := by
  induction steps generalizing m with
  | nil => exact h
  | cons s steps ih => exact ih (faithful_act h s)

/-- What does not put a record in place leaves the one that is there. -/
theorem record_of_not_changes (h : s.changes = false) (m : Machine) :
    (s.act m).2.record = m.record := by
  cases s with
  | environment env => rfl
  | record text => cases h
  | field index v =>
    show (setField index v m).2.record = _
    rw [setField_of_lt (Nat.lt_of_not_le (of_decide_eq_false h)), report_record]
  | count v =>
    show (assign (.scalar "NF") v m).2.record = _
    rw [assign_count_of_lt (Nat.lt_of_not_le (of_decide_eq_false h))]
    show (report _ (setScalar "NF" v m).2).2.record = _
    rw [report_record]
    rfl

theorem record_after {steps : List Step} (h : ∀ s ∈ steps, s.changes = false) (m : Machine) :
    (after steps m).record = m.record := by
  induction steps generalizing m with
  | nil => rfl
  | cons s steps ih =>
    rw [after_cons, ih fun t ht => h t (.tail _ ht), record_of_not_changes (h s (.head _))]

theorem leaves_act (hm : m.regexes.Faithful) (h : s.changes) :
    s.Leaves m.env m.record (s.act m).2.record := by
  cases s with
  | environment env => cases h
  | record text =>
    have hset := setRecord_record hm text
    exact ⟨congrArg Record.text hset, congrArg Record.fields hset⟩
  | field index v =>
    cases index with
    | zero =>
      have hset := setRecord_record hm v.text
      exact ⟨congrArg Record.text hset, congrArg Record.fields hset⟩
    | succ i =>
      show (field (i + 1) v).Leaves m.env m.record (setField (i + 1) v m).2.record
      rw [setField_of_le (of_decide_eq_true h)]
      exact ⟨Record.joined_setField .., Record.fieldCount_setField .., Record.field_setField _ _ _ _⟩
  | count v =>
    show (count v).Leaves m.env m.record (assign (.scalar "NF") v m).2.record
    rw [assign_count_of_le (of_decide_eq_true h)]
    exact ⟨Record.joined_setCount .., Record.fieldCount_setCount .., Record.field_setCount _ _ _⟩

/-- After any history the step that was the last to put a record in place says what the record and
its fields are, with the variables as they were at that step. In every state a field past the last
is empty. -/
theorem record_coherent (hm : m.regexes.Faithful) (steps : List Step) :
    ((∀ s ∈ steps, s.changes = false) → (after steps m).record = m.record) ∧
    (∀ before s rest, steps = before ++ s :: rest → s.changes → (∀ t ∈ rest, t.changes = false) →
      s.Leaves (after before m).env (after before m).record (after steps m).record) ∧
    ∀ i, (after steps m).record.fieldCount < i → (after steps m).record.field i = "" := by
  refine ⟨fun h => record_after h m, ?_, fun i hi => Record.field_of_lt hi⟩
  rintro before s rest rfl hs hrest
  rw [after_append, after_cons, record_after hrest]
  exact leaves_act (faithful_after hm before) hs

/-- The record `a b c`, a fifth field, and then another `OFS`. -/
def dashing : List Step :=
  [.record "a b c", .field 5 ⟨"e"⟩, .environment (Machine.idle.env.setGlobal "OFS" ⟨"-"⟩)]

/-- Two of five fields are kept, and joined by the `OFS` of the last assignment. -/
theorem record_coherent_dashing :
    let before := after dashing .idle
    let now := after (dashing ++ [.count ⟨"2"⟩]) .idle
    (Machine.idle.regexes.Faithful ∧ (count ⟨"2"⟩).Leaves before.env before.record now.record) ∧
      before.record = ⟨"a b c  e", ["a", "b", "c", "", "e"]⟩ ∧ now.record = ⟨"a-b", ["a", "b"]⟩ := by
  have hleaves := (record_coherent RegexCache.faithful_empty (m := .idle)
    (dashing ++ [.count ⟨"2"⟩])).2.1 dashing (.count ⟨"2"⟩) [] rfl (by decide) nofun
  exact ⟨⟨RegexCache.faithful_empty, hleaves⟩, by decide +kernel, by decide +kernel⟩

end Step

end Awk
