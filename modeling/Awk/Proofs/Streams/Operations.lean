import Mathlib.Data.List.Nodup
import Mathlib.Data.Option.Basic
import Awk.Host.Streams

/-! What can be done with streams, one thing after the other, and books of what has been written under
each name since its stream was opened, and of the commands that have been started. -/

namespace Awk.Host

open Records (Bytes bytesOf)

/-! Tables by name. -/

section Tables

variable {α : Type} {name : String} {a : α} {table : List (String × α)}

theorem lookup_entry (n : String) (b : α) (r : List (String × α)) (x : String) :
    ((n, b) :: r).lookup x = if x = n then some b else r.lookup x := by
  rw [List.lookup_cons]
  by_cases h : x = n
  · simp [h]
  · rw [if_neg h, beq_eq_false_iff_ne.mpr h]

@[simp] theorem lookup_putEntry (name : String) (a : α) (table : List (String × α)) (x : String) :
    (putEntry name a table).lookup x = if x = name then some a else table.lookup x := by
  induction table with
  | nil => rw [putEntry, lookup_entry]
  | cons entry r ih =>
    obtain ⟨n, b⟩ := entry
    rw [putEntry]
    split
    · rename_i hn
      rw [lookup_entry, lookup_entry, hn]
      split <;> rfl
    · rename_i hn
      rw [lookup_entry, lookup_entry, ih]
      by_cases h : x = n
      · subst h
        simp [hn]
      · simp [h]

@[simp] theorem lookup_dropEntry (name : String) (table : List (String × α)) (x : String) :
    (dropEntry name table).lookup x = if x = name then none else table.lookup x := by
  induction table with
  | nil => simp [dropEntry]
  | cons entry r ih =>
    obtain ⟨n, b⟩ := entry
    by_cases hn : n = name
    · have hdrop : dropEntry name ((n, b) :: r) = dropEntry name r := by simp [dropEntry, hn]
      rw [hdrop, ih, lookup_entry, hn]
      split <;> rfl
    · have hdrop : dropEntry name ((n, b) :: r) = (n, b) :: dropEntry name r := by
        simp [dropEntry, hn]
      rw [hdrop, lookup_entry, lookup_entry, ih]
      by_cases h : x = n
      · subst h
        simp [hn]
      · simp [h]

theorem putEntry_putEntry (name : String) (a b : α) (table : List (String × α)) :
    putEntry name a (putEntry name b table) = putEntry name a table := by
  induction table with
  | nil => simp [putEntry]
  | cons entry r ih =>
    obtain ⟨n, c⟩ := entry
    by_cases hn : n = name <;> simp [putEntry, hn, ih]

theorem putEntry_of_lookup (h : table.lookup name = some a) : putEntry name a table = table := by
  induction table with
  | nil => cases h
  | cons entry r ih =>
    obtain ⟨n, b⟩ := entry
    rw [lookup_entry] at h
    rw [putEntry]
    split
    · rename_i hn
      rw [if_pos hn.symm] at h
      cases h
      rfl
    · rename_i hn
      rw [if_neg (Ne.symm hn)] at h
      rw [ih h]

theorem dropEntry_putEntry (name : String) (a : α) (table : List (String × α)) :
    dropEntry name (putEntry name a table) = dropEntry name table := by
  induction table with
  | nil => simp [putEntry, dropEntry]
  | cons entry r ih =>
    obtain ⟨n, b⟩ := entry
    unfold dropEntry at ih ⊢
    by_cases hn : n = name
    · simp [putEntry, hn]
    · simp only [putEntry, if_neg hn]
      rw [List.filter_cons, List.filter_cons, ih]

theorem dropEntry_of_lookup (h : table.lookup name = none) : dropEntry name table = table := by
  unfold dropEntry
  rw [List.filter_eq_self]
  intro p hp
  have hne : name ≠ p.1 := by simpa using List.lookup_eq_none_iff.mp h p hp
  simpa using hne.symm

theorem eq_nil_of_lookup (h : ∀ x, table.lookup x = none) : table = [] := by
  cases table with
  | nil => rfl
  | cons entry r =>
    have hfirst := h entry.1
    rw [lookup_entry, if_pos rfl] at hfirst
    cases hfirst

theorem names_putEntry (name : String) (a : α) (table : List (String × α)) :
    (putEntry name a table).map (·.1) =
      if name ∈ table.map (·.1) then table.map (·.1) else table.map (·.1) ++ [name] := by
  induction table with
  | nil => simp [putEntry]
  | cons entry r ih =>
    obtain ⟨n, b⟩ := entry
    rw [putEntry]
    split
    · rename_i hn
      simp [hn]
    · rename_i hn
      rw [List.map_cons, ih]
      have hne : name ≠ n := fun h => hn h.symm
      by_cases hmem : name ∈ r.map (·.1)
      · rw [if_pos hmem, if_pos (by simpa [hne] using hmem)]
        rfl
      · rw [if_neg hmem, if_neg (by simpa [hne] using hmem)]
        rfl

theorem nodup_putEntry (h : (table.map (·.1)).Nodup) (name : String) (a : α) :
    ((putEntry name a table).map (·.1)).Nodup := by
  rw [names_putEntry]
  split
  · exact h
  · rename_i hmem
    rw [List.nodup_append]
    refine ⟨h, List.nodup_singleton name, fun x hx y hy => ?_⟩
    obtain rfl := List.mem_singleton.mp hy
    rintro rfl
    exact hmem hx

theorem nodup_dropEntry (h : (table.map (·.1)).Nodup) (name : String) :
    ((dropEntry name table).map (·.1)).Nodup :=
  h.sublist (List.filter_sublist.map _)

theorem lookup_of_mem (h : (table.map (·.1)).Nodup) (hmem : (name, a) ∈ table) :
    table.lookup name = some a := by
  induction table with
  | nil => cases hmem
  | cons entry r ih =>
    obtain ⟨n, b⟩ := entry
    rw [List.map_cons, List.nodup_cons] at h
    rw [lookup_entry]
    obtain heq | hrest := List.mem_cons.mp hmem
    · cases heq
      rw [if_pos rfl]
    · have hne : name ≠ n := by
        rintro rfl
        exact h.1 (List.mem_map.mpr ⟨_, hrest, rfl⟩)
      rw [if_neg hne, ih h.2 hrest]

theorem lookup_of_notMem (h : name ∉ table.map (·.1)) : table.lookup name = none := by
  rw [List.lookup_eq_none_iff]
  intro p hp
  have hne : name ≠ p.1 := by
    rintro rfl
    exact h (List.mem_map_of_mem hp)
  simpa using hne

theorem lookup_dropEach (names : List String) (table : List (String × α)) (x : String) :
    (names.foldl (fun table name => dropEntry name table) table).lookup x =
      if x ∈ names then none else table.lookup x := by
  induction names generalizing table with
  | nil => simp
  | cons name names ih =>
    rw [List.foldl_cons, ih, lookup_dropEntry]
    by_cases hx : x = name <;> simp [hx]

theorem dropEach_eq_nil {names : List String} (h : ∀ x, x ∉ names → table.lookup x = none) :
    names.foldl (fun table name => dropEntry name table) table = [] := by
  apply eq_nil_of_lookup
  intro x
  rw [lookup_dropEach]
  split
  · rfl
  · exact h x ‹_›

/-- Two tables have the same names, and under each what is related. -/
def Matched {β : Type} (R : String → α → β → Prop) (table : List (String × α))
    (other : List (String × β)) : Prop :=
  ∀ name, Option.Rel (R name) (table.lookup name) (other.lookup name)

namespace Matched

variable {β : Type} {R R' : String → α → β → Prop} {other : List (String × β)} {b : β}

theorem rel (h : Matched R table other) (ha : table.lookup name = some a)
    (hb : other.lookup name = some b) : R name a b := by
  have hentry := h name
  rw [ha, hb] at hentry
  cases hentry
  assumption

theorem exists_right (h : Matched R table other) (ha : table.lookup name = some a) :
    ∃ b, other.lookup name = some b ∧ R name a b := by
  have hentry := h name
  rw [ha] at hentry
  cases hb : other.lookup name with
  | none =>
    rw [hb] at hentry
    cases hentry
  | some b => exact ⟨b, rfl, h.rel ha hb⟩

theorem exists_left (h : Matched R table other) (hb : other.lookup name = some b) :
    ∃ a, table.lookup name = some a ∧ R name a b := by
  have hentry := h name
  rw [hb] at hentry
  cases ha : table.lookup name with
  | none =>
    rw [ha] at hentry
    cases hentry
  | some a => exact ⟨a, rfl, h.rel ha hb⟩

theorem isSome_eq (h : Matched R table other) (name : String) :
    (table.lookup name).isSome = (other.lookup name).isSome := by
  cases ha : table.lookup name with
  | some a =>
    obtain ⟨b, hb, -⟩ := h.exists_right ha
    rw [hb]
    rfl
  | none =>
    cases hb : other.lookup name with
    | none => rfl
    | some b =>
      obtain ⟨a, ha', -⟩ := h.exists_left hb
      rw [ha] at ha'
      cases ha'

theorem mono (h : Matched R table other)
    (hmono : ∀ x a b, table.lookup x = some a → R x a b → R' x a b) : Matched R' table other := by
  intro x
  have hentry := h x
  cases ha : table.lookup x with
  | none =>
    rw [ha] at hentry
    revert hentry
    generalize other.lookup x = o
    rintro (_ | _)
    exact .none
  | some a =>
    obtain ⟨b, hb, hrel⟩ := h.exists_right ha
    rw [hb]
    exact .some (hmono x a b ha hrel)

/-- Related entries are put where the others stay related. -/
theorem put (h : Matched R table other) (name : String) (hrel : R' name a b)
    (hothers : ∀ x a b, x ≠ name → R x a b → R' x a b) :
    Matched R' (putEntry name a table) (putEntry name b other) := by
  intro x
  rw [lookup_putEntry, lookup_putEntry]
  by_cases hx : x = name
  · subst hx
    rw [if_pos rfl, if_pos rfl]
    exact .some hrel
  · rw [if_neg hx, if_neg hx]
    have hentry := h x
    revert hentry
    generalize table.lookup x = o
    generalize other.lookup x = o'
    rintro (hrel' | _)
    · exact .some (hothers x _ _ hx hrel')
    · exact .none

theorem drop (h : Matched R table other) (name : String) :
    Matched R (dropEntry name table) (dropEntry name other) := by
  intro x
  rw [lookup_dropEntry, lookup_dropEntry]
  split
  · exact .none
  · exact h x

end Matched

end Tables

/-- Something that is done with streams. -/
inductive Operation where
  | write (kind : OutputKind) (name text : String)
  | read (kind : InputKind) (name separator : String)
  | flush (name : Option String)
  | close (name : String)
  | closeAll
  | system (command : String)

namespace Operation

/-- Whether it writes to a command. -/
def isPipe : Operation → Bool
  | .write .pipe _ _ => true
  | _ => false

/-- What is open under a name is closed. -/
def Closes : Operation → String → Prop
  | .close name, x => x = name
  | .closeAll, _ => True
  | .write .., _ | .read .., _ | .flush _, _ | .system _, _ => False

/-- After it nothing that has been written under a name is held back. -/
def Completes : Operation → String → Prop
  | .flush (some name), x | .close name, x => x = name
  | .flush none, _ | .closeAll, _ | .system _, _ => True
  | .write .., _ | .read .., _ => False

end Operation

namespace Streams

variable {st st' : Streams}

/-- Does one thing, with all that fails. -/
def perform (st : Streams) : Operation → List Failure × Streams
  | .write kind name text =>
    let (failure, st) := st.write (some (kind, name)) text
    (failure.toList, st)
  | .read kind name separator => match st.read kind name separator with
    | (.ok _, st) => ([], st)
    | (.error failure, st) => ([failure], st)
  | .flush name =>
    let (failure, st) := st.flush name
    (failure.toList, st)
  | .close name => match st.close name with
    | (.ok _, st) => ([], st)
    | (.error failure, st) => ([failure], st)
  | .closeAll => st.closeAll
  | .system command => match st.system command with
    | (.ok _, st) => ([], st)
    | (.error failure, st) => ([failure], st)

/-- Does one thing after the other, unless something fails. -/
def performAll (st : Streams) : List Operation → Option Streams
  | [] => some st
  | op :: ops => match st.perform op with
    | ([], st) => st.performAll ops
    | (_ :: _, _) => none

theorem performAll_cons {op : Operation} {ops : List Operation}
    (h : st.performAll (op :: ops) = some st') :
    ∃ st₁, st.perform op = ([], st₁) ∧ st₁.performAll ops = some st' := by
  rw [performAll] at h
  split at h
  · rename_i st₁ hperform
    exact ⟨st₁, hperform, h⟩
  · cases h

end Streams

/-! The books. -/

/-- What is known of an output that is open: how it was opened, what was there before, what has been
written to it since, each text with the kind that it was written with, and the number of the command,
if it is one. -/
structure Opened where
  kind : OutputKind
  base : Bytes
  texts : List (OutputKind × String)
  number : Nat
  deriving Repr, DecidableEq

namespace Opened

/-- The bytes of all that has been written. -/
def written (o : Opened) : Bytes := o.texts.flatMap (bytesOf ·.2)

/-- What there is when all that has been written is there. -/
def content (o : Opened) : Bytes := o.base ++ o.written

def add (o : Opened) (kind : OutputKind) (text : String) : Opened :=
  { o with texts := o.texts ++ [(kind, text)] }

@[simp] theorem add_kind (o : Opened) (kind : OutputKind) (text : String) :
    (o.add kind text).kind = o.kind := rfl

@[simp] theorem add_number (o : Opened) (kind : OutputKind) (text : String) :
    (o.add kind text).number = o.number := rfl

@[simp] theorem written_add (o : Opened) (kind : OutputKind) (text : String) :
    (o.add kind text).written = o.written ++ bytesOf text := by
  simp [written, add]

@[simp] theorem content_add (o : Opened) (kind : OutputKind) (text : String) :
    (o.add kind text).content = o.content ++ bytesOf text := by
  rw [content, written_add, ← List.append_assoc]
  rfl

end Opened

/-- A name that stands for standard output where it is no command. -/
def OutputKind.isConsole (kind : OutputKind) (name : String) : Bool :=
  kind ≠ .pipe && (name = "-" || name = "/dev/stdout")

/-- The names that are written to as files. -/
def Operation.files : Operation → List String
  | .write kind name _ => if kind = .pipe || kind.isConsole name then [] else [name]
  | _ => []

/-- What is open for output, by name, and the commands that have been started, each with all that has
been written to it. -/
structure Books where
  opened : List (String × Opened)
  started : List (String × Bytes)

namespace Books

variable {b : Books} {st : Streams} {name : String} {e : Opened}

def empty : Books := ⟨[], []⟩

/-- A name that is opened now, with what its file holds where that is kept. -/
def fresh (b : Books) (d : Disk) (kind : OutputKind) (name : String) : Opened :=
  ⟨kind, if kind = .append then (d.read name).toOption.getD [] else [], [], b.started.length⟩

/-- A command has been started. -/
def start (b : Books) (command : String) : Books :=
  { b with started := b.started ++ [(command, [])] }

/-- A name has been opened. -/
def open_ (b : Books) (d : Disk) (kind : OutputKind) (name : String) : Books :=
  let opened := putEntry name (b.fresh d kind name) b.opened
  { if kind = .pipe then b.start name else b with opened }

/-- What is open under a name, or is opened under it, and the books with that. -/
def obtain_ (b : Books) (d : Disk) (kind : OutputKind) (name : String) : Opened × Books :=
  match b.opened.lookup name with
  | some e => (e, b)
  | none => (b.fresh d kind name, b.open_ d kind name)

/-- A text has been written to what is open under a name. -/
def add (b : Books) (name : String) (e : Opened) (kind : OutputKind) (text : String) : Books where
  opened := putEntry name (e.add kind text) b.opened
  started :=
    if e.kind = .pipe then b.started.modify e.number fun (n, s) => (n, s ++ bytesOf text)
    else b.started

/-- A name is no longer open. -/
def drop (b : Books) (name : String) : Books := { b with opened := dropEntry name b.opened }

/-- The books after something is done. -/
def follow (b : Books) (st : Streams) : Operation → Books
  | .write kind name text =>
    if kind.isConsole name then b
    else
      let (e, b) := b.obtain_ st.disk kind name
      b.add name e kind text
  | .read .command name _ => if (st.inputs.lookup name).isSome then b else b.start name
  | .close name => b.drop name
  | .closeAll => { b with opened := [] }
  | .read .file .. | .flush _ | .system _ => b

/-- The books after one thing has been done after the other. -/
def followAll (b : Books) (st : Streams) : List Operation → Books
  | [] => b
  | op :: ops => (b.follow st op).followAll (st.perform op).2 ops

@[simp] theorem opened_open (b : Books) (d : Disk) (kind : OutputKind) (name : String) :
    (b.open_ d kind name).opened = putEntry name (b.fresh d kind name) b.opened := rfl

theorem started_open (b : Books) (d : Disk) (kind : OutputKind) (name : String) :
    (b.open_ d kind name).started =
      if kind = .pipe then b.started ++ [(name, [])] else b.started := by
  rw [open_]
  split <;> rfl

theorem obtain_of_some (h : b.opened.lookup name = some e) (d : Disk) (kind : OutputKind) :
    b.obtain_ d kind name = (e, b) := by
  rw [obtain_, h]

theorem obtain_of_none (h : b.opened.lookup name = none) (d : Disk) (kind : OutputKind) :
    b.obtain_ d kind name = (b.fresh d kind name, b.open_ d kind name) := by
  rw [obtain_, h]

theorem lookup_obtain (b : Books) (d : Disk) (kind : OutputKind) (name : String) :
    (b.obtain_ d kind name).2.opened.lookup name = some (b.obtain_ d kind name).1 := by
  cases h : b.opened.lookup name with
  | some e =>
    rw [obtain_of_some h]
    exact h
  | none => rw [obtain_of_none h, opened_open, lookup_putEntry, if_pos rfl]

theorem isSome_add (he : b.opened.lookup name = some e) (kind : OutputKind) (text x : String) :
    ((b.add name e kind text).opened.lookup x).isSome = (b.opened.lookup x).isSome := by
  rw [add, lookup_putEntry]
  split
  · rename_i hx
    rw [hx, he]
    rfl
  · rfl

/-- What is open in the books for files only stays so while only files are written to. -/
theorem kind_follow {op : Operation} (h : ∀ name e, b.opened.lookup name = some e → e.kind ≠ .pipe)
    (hop : op.isPipe = false) :
    ∀ name e, (b.follow st op).opened.lookup name = some e → e.kind ≠ .pipe := by
  intro x e hlookup
  cases op with
  | write kind name text =>
    have hkind : kind ≠ .pipe := by
      rintro rfl
      cases hop
    have hadd {b : Books} {e' : Opened} (hb : ∀ name e, b.opened.lookup name = some e → e.kind ≠ .pipe)
        (he' : e'.kind ≠ .pipe) (hlookup : (b.add name e' kind text).opened.lookup x = some e) :
        e.kind ≠ .pipe := by
      rw [add, lookup_putEntry] at hlookup
      split at hlookup
      · cases hlookup
        exact he'
      · exact hb x e hlookup
    rw [follow] at hlookup
    split at hlookup
    · exact h x e hlookup
    cases hname : b.opened.lookup name with
    | some e' =>
      rw [obtain_of_some hname] at hlookup
      exact hadd h (h name e' hname) hlookup
    | none =>
      rw [obtain_of_none hname] at hlookup
      refine hadd (fun y e' hy => ?_) hkind hlookup
      rw [opened_open, lookup_putEntry] at hy
      split at hy
      · cases hy
        exact hkind
      · exact h y e' hy
  | close name =>
    rw [follow, drop, lookup_dropEntry] at hlookup
    split at hlookup
    · cases hlookup
    · exact h x e hlookup
  | closeAll => cases hlookup
  | read kind name separator =>
    refine h x e ?_
    cases kind with
    | file => exact hlookup
    | command =>
      rw [follow] at hlookup
      split at hlookup <;> exact hlookup
  | flush name => exact h x e hlookup
  | system command => exact h x e hlookup

theorem kind_followAll {ops : List Operation}
    (h : ∀ name e, b.opened.lookup name = some e → e.kind ≠ .pipe)
    (hops : ∀ op ∈ ops, op.isPipe = false) :
    ∀ name e, (b.followAll st ops).opened.lookup name = some e → e.kind ≠ .pipe := by
  induction ops generalizing b st with
  | nil => exact h
  | cons op ops ih =>
    obtain ⟨hfirst, hrest⟩ := List.forall_mem_cons.mp hops
    exact ih (kind_follow h hfirst) hrest

end Books

end Awk.Host
