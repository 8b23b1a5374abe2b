import Mathlib
import Awk.Grammar.Program
import Awk.Proofs.Conduct.Evaluation
import Awk.Proofs.Fields.Coherence
import Awk.Proofs.Fields.Runs

/-! Dividing and joining by a separator that needs no regular expression. The fields are exactly
what the separator leaves of the text, and joined by it they are divided into the same ones again;
so a record that has a field keeps its fields where one of them is assigned to itself. -/

namespace Awk

open Machine

namespace Separator

variable {fs : String} {sep : Separator}

/-- The characters that stand between fields, for a separator that needs no regular expression. -/
def leavesOut (fs : String) (c : Char) : Bool := if fs = " " then isBlank c else fs.toList.contains c

theorem leavesOut_singleton (c d : Char) (h : c ≠ ' ') :
    leavesOut (String.singleton c) d = decide (d = c) := by
  have hne : String.singleton c ≠ " " := fun heq => h (by simpa using congrArg String.toList heq)
  rw [leavesOut, if_neg hne, String.toList_singleton, List.contains_cons, List.contains_nil,
    Bool.or_false]
  rfl

/-- A separator that needs no regular expression is empty, or a character that divides into the
longest runs of others. -/
theorem simple?_cases (h : simple? fs = some sep) :
    (fs = "" ∧ sep = characters) ∨
      ∃ c, fs = String.singleton c ∧ leavesOut fs c ∧ ∀ s, sep.fields s = runs (leavesOut fs) s := by
  have hfs : fs = String.ofList fs.toList := String.ofList_toList.symm
  unfold simple? at h
  split at h
  · rename_i hnil
    cases h
    rw [hnil] at hfs
    exact .inl ⟨hfs, rfl⟩
  · rename_i c hc
    rw [hc, ← String.singleton_eq_ofList] at hfs
    right
    refine ⟨c, hfs, ?_⟩
    subst hfs
    split at h
    · rename_i hspace
      cases h
      subst hspace
      exact ⟨rfl, fun s => rfl⟩
    · rename_i hspace
      split at h
      · cases h
        refine ⟨by rw [leavesOut_singleton c c hspace, decide_eq_true rfl], fun s => ?_⟩
        have hsame : leavesOut (String.singleton c) = fun d => decide (d = c) :=
          funext fun d => leavesOut_singleton c d hspace
        rw [hsame]
        rfl
      · cases h
  · cases h

/-- Fields that are exactly what a separator leaves of a text: every character is a field by the
empty one, and the longest runs of other characters are the fields by any other. -/
structure Exact (fs text : String) (fields : List String) : Prop where
  characters : fs = "" → fields = text.toList.map String.singleton
  runs : fs ≠ "" → Divided (leavesOut fs) text.toList (fields.map String.toList)
  joined : String.join fields = String.ofList (text.toList.filter (!leavesOut fs ·))

theorem map_toList_split (sep : Separator) (text : String) :
    (sep.split text).map String.toList = sep.fields text.toList := by
  simp only [split, List.map_map]
  exact List.map_id'' (fun _ => String.toList_ofList) _

theorem toList_join (fields : List String) :
    (String.join fields).toList = (fields.map String.toList).flatten := by
  rw [String.toList_join, List.flatMap_def]

theorem intercalate_nothing (words : List (List Char)) :
    [].intercalate words = words.flatten := by
  induction words with
  | nil => rfl
  | cons w words ih =>
    cases words with
    | nil => rw [List.intercalate_singleton, List.flatten_singleton]
    | cons w' words => rw [List.intercalate_cons_cons, ih, List.append_nil, List.flatten_cons,
      List.flatten_cons, List.flatten_cons]

theorem flatten_characters (s : List Char) : (characters.fields s).flatten = s := by
  rw [fields, ← List.flatMap_def, List.flatMap_singleton']

theorem exact_split (h : simple? fs = some sep) (text : String) :
    Exact fs text (sep.split text) := by
  obtain ⟨rfl, rfl⟩ | ⟨c, rfl, hc, hfields⟩ := simple?_cases h
  · refine ⟨fun _ => ?_, fun hne => absurd rfl hne, String.ext ?_⟩
    · simp only [split, fields, List.map_map]
      exact List.map_congr_left fun c _ => String.singleton_eq_ofList.symm
    · rw [toList_join, map_toList_split, flatten_characters, String.toList_ofList]
      exact (List.filter_eq_self.mpr fun c _ => rfl).symm
  · have hdivided := divided_runs (leavesOut (String.singleton c)) text.toList
    refine ⟨fun heq => absurd (congrArg String.toList heq) (by simp), fun _ => ?_, String.ext ?_⟩
    · rw [map_toList_split, hfields]
      exact hdivided
    · rw [toList_join, map_toList_split, hfields, hdivided.flatten, String.toList_ofList]

/-- Fields that are joined by their separator are divided into the same ones again. -/
theorem split_intercalate (h : simple? fs = some sep) (text : String) :
    sep.split (fs.intercalate (sep.split text)) = sep.split text := by
  have hagain : sep.fields (fs.toList.intercalate (sep.fields text.toList)) =
      sep.fields text.toList := by
    obtain ⟨rfl, rfl⟩ | ⟨c, rfl, hc, hfields⟩ := simple?_cases h
    · rw [String.toList_empty, intercalate_nothing, flatten_characters]
    · rw [String.toList_singleton, hfields, hfields]
      exact runs_intercalate hc (divided_runs _ _).isWord
  have hjoin : (fs.intercalate (sep.split text)).toList =
      fs.toList.intercalate (sep.fields text.toList) := by
    rw [String.toList_intercalate, map_toList_split]
  rw [split, hjoin, hagain]
  rfl

end Separator

namespace Record

theorem field_eq_getElem {r : Record} {i : Nat} (h : i < r.fields.length) :
    r.field (i + 1) = r.fields[i] := by
  rw [field_succ, List.getD_eq_getElem?_getD, List.getElem?_eq_getElem h, Option.getD_some]

/-- A field that is assigned to itself leaves all fields as they are. -/
theorem fields_setField_self {r : Record} {i : Nat} (h : i < r.fieldCount) (separator : String) :
    (r.setField (i + 1) (r.field (i + 1)) separator).fields = r.fields := by
  have hcount := fieldCount_setField r i (r.field (i + 1)) separator
  rw [Nat.max_eq_right h] at hcount
  refine List.ext_getElem hcount fun j hj hj' => ?_
  rw [← field_eq_getElem hj, ← field_eq_getElem hj', field_setField]
  split
  · rename_i heq
    rw [heq]
  · rfl

end Record

/-! A field that is assigned to itself. -/

/-- `$1 = $1`. -/
def firstToItself : Tree :=
  let first : Tree := .before .field (.operand (.value ⟨"1"⟩))
  .between .assign first first

/-- The terms of the tree are those that the parser reads. -/
theorem parse_firstToItself : parse "{ $1 = $1 }" =
    .ok ⟨[⟨.all, .mk .program [.expr firstToItself.terms]⟩], [], 0⟩ := by
  cbv

theorem firstToItself_separated : firstToItself.Separated := by
  have hone : Tree.Separated (.operand (.value ⟨"1"⟩)) := .operand nofun
  have hfirst : Tree.Separated (.before .field (.operand (.value ⟨"1"⟩))) :=
    .before rfl hone (by decide)
  exact .between rfl hfirst hfirst (by decide) (by decide)

/-- Both sides are the first field, and the left one is assigned what it is. -/
theorem evalOperand_firstToItself (n : Nat) (m : Machine) :
    evalOperand (n + 1) firstToItself.terms m =
      .ok (.place (.field 1)) (setField 1 (.ofString (m.record.field 1)) m).2 := by
  have hterms : (Inner.withFuel n).terms firstToItself.terms =
      firstToItself.evaluate (Inner.withFuel n).algebra := by
    rw [Inner.terms_withFuel]
    exact Algebra.run_eq_evaluate _ (Tree.build_terms firstToItself_separated)
      firstToItself_separated.placed.explicit_terms
  show (do (Inner.withFuel n).settle (← (Inner.withFuel n).terms _) : Run Operand) m = _
  rw [hterms]
  rfl

/-- Text is divided into exactly what a separator that needs no regular expression leaves of it, and
the fields come back when they are joined by it and divided again. A record that has a field keeps
its fields and their number under `$1 = $1`, where `OFS` is `FS`; and where they were those of its
text they are those of its new text. -/
theorem split_exact_stable {fs : String} {sep : Separator} (h : Separator.simple? fs = some sep) :
    (∀ text, Separator.Exact fs text (sep.split text) ∧
      sep.split (fs.intercalate (sep.split text)) = sep.split text) ∧
    ∀ (n : Nat) (m : Machine), (m.env.value "FS").text = fs → (m.env.value "OFS").text = fs →
      0 < m.record.fieldCount →
      ∃ m', evalOperand (n + 1) firstToItself.terms m = .ok (.place (.field 1)) m' ∧
        m'.record.fields = m.record.fields ∧ m'.env.value "NF" = .ofNat m.record.fieldCount ∧
        (m.record.fields = sep.split m.record.text → m'.record.fields = sep.split m'.record.text) := by
  refine ⟨fun text => ⟨Separator.exact_split h text, Separator.split_intercalate h text⟩, ?_⟩
  intro n m _ hofs hcount
  have hset := setField_of_le (by decide : 0 + 1 ≤ maxFields) (.ofString (m.record.field 1)) m
  have hfields := Record.fields_setField_self hcount fs
  rw [hofs] at hset
  refine ⟨_, evalOperand_firstToItself n m, ?_, ?_, fun hsplit => ?_⟩
  · rw [hset]
    exact hfields
  · rw [hset]
    show Environment.value (Environment.setValue _ _ (.ofNat (Record.fieldCount _))) _ = _
    rw [Environment.value_setValue_self]
    exact congrArg (fun fields => Value.ofNat fields.length) hfields
  · rw [hset]
    have hjoined : (m.record.setField 1 (m.record.field 1) fs).text =
        fs.intercalate (sep.split m.record.text) := by
      rw [Record.joined_setField, hfields, hsplit]
    show (m.record.setField 1 (m.record.field 1) fs).fields =
      sep.split (m.record.setField 1 (m.record.field 1) fs).text
    rw [hjoined, Separator.split_intercalate h, hfields, hsplit]

/-- The record ` a  b`. -/
def spaced : Machine := (setRecord " a  b" .idle).2

theorem split_exact_stable_spaced :
    Separator.simple? " " = some .blanks ∧ 0 < spaced.record.fieldCount ∧
      Separator.blanks.split " a  b" = ["a", "b"] ∧
      ∃ m', evalOperand 1 firstToItself.terms spaced = .ok (.place (.field 1)) m' ∧
        m'.record.fields = ["a", "b"] ∧ m'.env.value "NF" = .ofNat 2 ∧
        m'.record.fields = Separator.blanks.split m'.record.text := by
  have hblanks : Separator.simple? " " = some .blanks := rfl
  have hfields : spaced.record.fields = Separator.blanks.split " a  b" := rfl
  have hsplit : Separator.blanks.split " a  b" = ["a", "b"] := by decide
  obtain ⟨m', hok, hsame, hcount, hagain⟩ :=
    (split_exact_stable hblanks).2 0 spaced (by decide +kernel) (by decide +kernel) (by decide +kernel)
  exact ⟨hblanks, by decide +kernel, hsplit, m', hok, by rw [hsame, hfields, hsplit], hcount,
    hagain hfields⟩

/-- A record that has no field gets one: its number of fields becomes 1. -/
theorem firstToItself_fills : ¬ ∀ m m', (m.env.value "FS").text = (m.env.value "OFS").text →
    m.env.value "NF" = .ofNat m.record.fieldCount →
    evalOperand 1 firstToItself.terms m = .ok (.place (.field 1)) m' →
    m'.env.value "NF" = m.env.value "NF" := by
  intro h
  have hsame := h .idle _ (by decide +kernel) (by decide +kernel)
    (evalOperand_firstToItself 0 .idle)
  exact absurd hsame (by decide +kernel)

end Awk
