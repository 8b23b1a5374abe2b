import Awk.Proofs.Streams.Operations

/-! What the operations on streams do to the tables of what is open: reading, writing and flushing
leave them, what is opened is put in, and what is closed is dropped, however that ends. -/

namespace Awk.Host

open Records (Bytes bytesOf)

namespace Streams

variable {st st' : Streams} {o o' : Output} {name text : String}

/-- What changes no table of streams, nor what runs the commands. -/
structure Tables (st st' : Streams) : Prop where
  outputs : st'.outputs = st.outputs
  inputs : st'.inputs = st.inputs
  commands : st'.commands = st.commands
  closing : st'.closing = st.closing

theorem Tables.refl (st : Streams) : Tables st st := ⟨rfl, rfl, rfl, rfl⟩

theorem Tables.trans {st'' : Streams} (h : Tables st st') (h' : Tables st' st'') : Tables st st'' :=
  ⟨h'.outputs.trans h.outputs, h'.inputs.trans h.inputs, h'.commands.trans h.commands,
    h'.closing.trans h.closing⟩

theorem Tables.writing (h : Tables st st') : st'.writing = st.writing := by
  rw [Streams.writing, h.outputs, h.closing]
  rfl

theorem call_tables (st : Streams) (c : Call) : Tables st (st.call c).2 := ⟨rfl, rfl, rfl, rfl⟩

/-- Reading takes from standard input at most. -/
structure Reads (st st' : Streams) : Prop extends Tables st st' where
  disk : st'.disk = st.disk
  children : st'.children = st.children

theorem Reads.trans {st'' : Streams} (h : Reads st st') (h' : Reads st' st'') : Reads st st'' :=
  ⟨h.toTables.trans h'.toTables, h'.disk.trans h.disk, h'.children.trans h.children⟩

theorem Reads.refl (st : Streams) : Reads st st := ⟨.refl st, rfl, rfl⟩

theorem seekInput_reads (st : Streams) : Reads st st.seekInput := by
  unfold seekInput
  split <;> exact ⟨⟨rfl, rfl, rfl, rfl⟩, rfl, rfl⟩

theorem seek_reads (st : Streams) (name : String) : Reads st (st.seek name) := by
  unfold seek
  split <;> exact ⟨⟨rfl, rfl, rfl, rfl⟩, rfl, rfl⟩

theorem fill_reads {r r' : Reader} (h : st.fill r = .ok (some (r', st'))) : Reads st st' := by
  unfold fill at h
  split at h
  · cases h
  · cases h
  · cases h
  · cases h
    exact .refl st
  · dsimp only at h
    split at h <;> cases h
    exact .refl st
  · dsimp only at h
    split at h <;> cases h
    exact ⟨⟨rfl, rfl, rfl, rfl⟩, rfl, rfl⟩

theorem readBlocks_reads (separator : Bytes) (n : Nat) (st : Streams) (r : Reader) :
    Reads st (readBlocks separator n st r).2.2 := by
  induction n generalizing st r with
  | zero => exact .refl st
  | succ n ih =>
    rw [readBlocks]
    split
    · exact .refl st
    · dsimp only
      split
      · exact st.seekInput_reads
      · exact .refl st
    · rename_i hfill
      split
      · exact fill_reads hfill
      · exact (fill_reads hfill).trans (ih _ _)

theorem readRecord_reads (st : Streams) (r : Reader) (separator : String) :
    Reads st (st.readRecord r separator).2.2 := by
  have hbytes (st : Streams) (r : Reader) (separator : Bytes) :
      Reads st (st.readBytes r separator).2.2 := by
    unfold readBytes
    split
    · exact .refl st
    · exact readBlocks_reads _ _ _ _
  unfold readRecord
  dsimp only
  split
  · obtain ⟨⟨houtputs, hinputs, hcommands, hclosing⟩, hdisk, hchildren⟩ :=
      hbytes st { r with buffer := st.inputBuffer } (bytesOf separator)
    exact ⟨⟨houtputs, hinputs, hcommands, hclosing⟩, hdisk, hchildren⟩
  · exact hbytes st r (bytesOf separator)

theorem openFile_reads (st : Streams) (name : String) : Reads st (st.openFile name).2 := by
  unfold openFile
  split
  · exact .refl st
  · exact .refl st
  · exact .refl st
  · exact .refl st
  · exact st.seek_reads name

/-! What is written to a sink. -/

/-- What a transfer of bytes to a sink can come to. -/
inductive Transfers (st : Streams) (s : Bytes) : Sink → Except (Cause × Nat) Sink × Streams → Prop
  | nothing {sink : Sink} : s = [] → Transfers st s sink (.ok sink, st)
  | stored {target : Disk.Writable} {position position' : Option Nat} {st' : Streams} :
    st.store target position s = .ok (position', st') →
    Transfers st s (.file target position) (.ok (.file target position'), st')
  | refused {target : Disk.Writable} {position : Option Nat} {cause : Cause} :
    st.store target position s = .error cause →
    Transfers st s (.file target position) (.error (cause, 0), st)
  | taken {child : Nat} : (st.call (.send child s)).1 = .ok () →
    Transfers st s (.command child) (.ok (.command child), (st.call (.send child s)).2.give child s)
  | broken {child n : Nat} {cause : Cause} : (st.call (.send child s)).1 = .error (cause, n) →
    Transfers st s (.command child)
      (.error (cause, n), (st.call (.send child s)).2.give child (s.take n))

theorem transfers (st : Streams) (sink : Sink) (s : Bytes) :
    Transfers st s sink (st.transfer sink s) := by
  unfold transfer
  split
  · rename_i hempty
    exact .nothing (List.isEmpty_iff.mp hempty)
  cases sink with
  | file target position =>
    dsimp only
    split
    · rename_i hstore
      exact .stored hstore
    · rename_i hstore
      exact .refused hstore
  | command child =>
    have hcall : st.call (.send child s) =
        ((st.call (.send child s)).1, (st.call (.send child s)).2) := rfl
    unfold send
    dsimp only
    cases hanswer : (st.call (.send child s)).1 with
    | ok u =>
      rw [hcall, hanswer]
      exact .taken hanswer
    | error e =>
      rw [hcall, hanswer]
      exact .broken hanswer

theorem store_tables {target : Disk.Writable} {position position' : Option Nat} {s : Bytes}
    (h : st.store target position s = .ok (position', st')) : Tables st st' := by
  unfold store at h
  split at h <;> cases h <;> exact ⟨rfl, rfl, rfl, rfl⟩

theorem store_children {target : Disk.Writable} {position position' : Option Nat} {s : Bytes}
    (h : st.store target position s = .ok (position', st')) : st'.children = st.children := by
  unfold store at h
  split at h <;> cases h <;> rfl

theorem transfer_tables (st : Streams) (sink : Sink) (s : Bytes) :
    Tables st (st.transfer sink s).2 := by
  have h := st.transfers sink s
  revert h
  generalize st.transfer sink s = result
  rintro (_ | hstore | _ | _ | _)
  · exact .refl st
  · exact store_tables hstore
  · exact .refl st
  · exact ⟨rfl, rfl, rfl, rfl⟩
  · exact ⟨rfl, rfl, rfl, rfl⟩

theorem flushWriter_tables (st : Streams) (w : Writer) : Tables st (st.flushWriter w).2.2 := by
  have h := st.transfer_tables w.sink w.pending.bytes
  unfold flushWriter
  split
  all_goals
    rename_i htransfer
    rw [htransfer] at h
    exact h

/-- A file stays a file. -/
theorem flushWriter_isFile (st : Streams) (w : Writer) :
    (st.flushWriter w).2.1.sink.isFile = w.sink.isFile := by
  obtain ⟨sink, pending⟩ := w
  have h := st.transfers sink pending.bytes
  unfold flushWriter
  dsimp only
  revert h
  generalize st.transfer sink pending.bytes = result
  rintro (_ | _ | _ | _ | _) <;> rfl

theorem flushOutput_tables (st : Streams) (o : Output) : Tables st (st.flushOutput o).2.2 := by
  cases o with
  | errors => exact .refl st
  | writer w => exact st.flushWriter_tables w

theorem collect_cases {w w' : Writer} {s : Bytes} (h : st.collect w s = (.ok (), w', st')) :
    w' = { w with pending := w.pending.push s } ∧ st' = st ∨
      blockSize ≤ s.length ∧ ∃ sink, st.transfer w.sink s = (.ok sink, st') ∧
        w' = { w with sink } := by
  unfold collect at h
  split at h
  · rename_i hlarge
    split at h <;> cases h
    rename_i htransfer
    exact .inr ⟨hlarge, _, htransfer, rfl⟩
  · cases h
    exact .inl ⟨rfl, rfl⟩

/-- What has been collected is written first, or there is room beside it. -/
theorem writeWriter_cases {w w' : Writer} {s : Bytes}
    (h : st.writeWriter w s = (.ok (), w', st')) :
    (∃ w₁ st₁, st.flushWriter w = (.ok (), w₁, st₁) ∧ st₁.collect w₁ s = (.ok (), w', st')) ∨
      w.pending.size + s.length ≤ blockSize ∧ st.collect w s = (.ok (), w', st') := by
  unfold writeWriter at h
  split at h
  · left
    split at h
    · rename_i hflush
      exact ⟨_, _, hflush, h⟩
    · rename_i hfailed
      cases hflush : st.flushWriter w with
      | mk flushed rest =>
        rw [hflush] at h
        cases h
        exact absurd hflush (hfailed _ _)
  · rename_i hfits
    exact .inr ⟨Nat.le_of_not_lt hfits, h⟩

theorem collect_tables (st : Streams) (w : Writer) (s : Bytes) :
    Tables st (st.collect w s).2.2 := by
  have htransfer := st.transfer_tables w.sink s
  unfold collect
  split
  · split
    all_goals
      rename_i hresult
      rw [hresult] at htransfer
      exact htransfer
  · exact .refl st

theorem writeWriter_tables (st : Streams) (w : Writer) (s : Bytes) :
    Tables st (st.writeWriter w s).2.2 := by
  unfold writeWriter
  split
  · have hflush := st.flushWriter_tables w
    split
    · rename_i hresult
      rw [hresult] at hflush
      exact hflush.trans (collect_tables _ _ _)
    · exact hflush
  · exact st.collect_tables w s

theorem writeOutput_tables (st : Streams) (o : Output) (text : String) :
    Tables st (st.writeOutput o text).2.2 := by
  cases o with
  | errors => exact ⟨rfl, rfl, rfl, rfl⟩
  | writer w => exact st.writeWriter_tables w (bytesOf text)

/-! What is opened. -/

theorem mem_writing (h : st.outputs.lookup name = some o) (hfile : o.isFile) :
    name ∈ st.writing := by
  obtain ⟨l₁, l₂, heq, -⟩ := List.lookup_eq_some_iff.mp h
  refine List.mem_append_left _ (List.mem_map.mpr ⟨(name, o), List.mem_filter.mpr ⟨?_, hfile⟩, rfl⟩)
  rw [heq]
  simp

theorem openOutput_cases {kind : OutputKind} (h : st.openOutput kind name = (.ok o, st')) :
    (kind = .pipe ∧ (st.flushAll.call (.feed name)).1 = .ok () ∧
        o = .writer ⟨.command st.flushAll.children.length, .empty⟩ ∧
        st' = ((st.flushAll.call (.feed name)).2.addChild name).2) ∨
      (kind ≠ .pipe ∧ name = "/dev/stderr" ∧ o = .errors ∧ st' = st) ∨
      (kind ≠ .pipe ∧ ∃ target d', st.disk.openForWriting name (kind = .append) = .ok (target, d') ∧
        o = .writer ⟨.file target (if kind = .append then none else some 0), .empty⟩ ∧
        st' = { st.seek name with disk := d' }) := by
  unfold openOutput at h
  split at h
  · dsimp only at h
    split at h
    · cases h
    split at h <;> cases h
    rename_i st₁ hcall
    obtain ⟨hanswer, hst₁⟩ := Prod.mk.inj hcall
    subst hst₁
    exact .inl ⟨rfl, hanswer, rfl, rfl⟩
  · rename_i hkind
    right
    split at h
    · rename_i hname
      cases h
      exact .inl ⟨hkind, hname, rfl, rfl⟩
    · right
      dsimp only at h
      rw [(st.seek_reads name).disk] at h
      split at h <;> cases h
      rename_i hfile
      exact ⟨hkind, _, _, hfile, rfl, rfl⟩

theorem openInput_cases {kind : InputKind} {i : Input} (h : st.openInput kind name = (.ok i, st')) :
    (kind = .file ∧ ∃ r, Reads st st' ∧ i = ⟨r, none⟩) ∨
      (kind = .command ∧ ∃ blocks, (st.flushAll.call (.listen name)).1 = .ok blocks ∧
        i = ⟨⟨[], .blocks blocks⟩, some st.flushAll.children.length⟩ ∧
        st' = ((st.flushAll.call (.listen name)).2.addChild name).2) := by
  unfold openInput at h
  split at h
  · left
    split at h
    · cases h
      exact ⟨rfl, _, .refl st, rfl⟩
    · have hreads := st.openFile_reads name
      split at h <;> cases h
      rename_i hfile
      rw [hfile] at hreads
      exact ⟨rfl, _, hreads, rfl⟩
  · right
    dsimp only at h
    split at h
    · cases h
    split at h <;> cases h
    rename_i st₁ hcall
    obtain ⟨hanswer, hst₁⟩ := Prod.mk.inj hcall
    subst hst₁
    exact ⟨rfl, _, hanswer, rfl, rfl⟩

/-- A read takes the next record of what is open under the name, or of what the name is opened as. -/
theorem read_cases {kind : InputKind} {separator : String} {answer : Option String}
    (h : st.read kind name separator = (.ok answer, st')) :
    ∃ i st₁, st.obtainInput kind name = (.ok i, st₁) ∧
      (st₁.readRecord i.reader separator).1 = .ok answer ∧
      st' = pause { (st₁.readRecord i.reader separator).2.2 with
        inputs := putEntry name { i with reader := (st₁.readRecord i.reader separator).2.1 }
          (st₁.readRecord i.reader separator).2.2.inputs } := by
  obtain ⟨hanswer, hst'⟩ := Prod.mk.inj h
  unfold readFrom at hanswer hst'
  split at hanswer
  · cases hanswer
  rename_i i st₁ hobtain
  rw [hobtain] at hst'
  refine ⟨i, st₁, hobtain, ?_, hst'.symm⟩
  dsimp only at hanswer
  cases hresult : (st₁.readRecord i.reader separator).1 with
  | ok record =>
    rw [hresult] at hanswer
    cases hanswer
    rfl
  | error cause =>
    rw [hresult] at hanswer
    cases hanswer

/-! Flushing everything. -/

/-- Flushing everything flushes one output after the other, each of which is still the one in the
table when its turn comes, as no name is there twice. -/
theorem flushAll_induction {Q : List (String × Output) → Streams → Prop}
    (hnodup : (st.outputs.map (·.1)).Nodup)
    (hstart : Q st.outputs { st with console := st.console.flush })
    (hstep : ∀ {entries name o} {st : Streams}, Q ((name, o) :: entries) st →
      st.outputs.lookup name = some o → Q entries (st.flushEntry (name, o))) :
    Q [] st.flushAll := by
  have hfold (entries : List (String × Output)) (hnodup : (entries.map (·.1)).Nodup)
      (st : Streams) (h : Q entries st) (hopen : ∀ p ∈ entries, st.outputs.lookup p.1 = some p.2) :
      Q [] (entries.foldl flushEntry st) := by
    induction entries generalizing st with
    | nil => exact h
    | cons entry entries ih =>
      obtain ⟨name, o⟩ := entry
      obtain ⟨hfirst, hrest⟩ := List.forall_mem_cons.mp hopen
      rw [List.map_cons, List.nodup_cons] at hnodup
      rw [List.foldl_cons]
      refine ih hnodup.2 _ (hstep h hfirst) fun p hp => ?_
      have hne : p.1 ≠ name := fun heq => hnodup.1 (List.mem_map.mpr ⟨p, hp, heq⟩)
      show (putEntry name _ (st.flushOutput o).2.2.outputs).lookup p.1 = _
      rw [lookup_putEntry, if_neg hne, (st.flushOutput_tables o).outputs]
      exact hrest p hp
  refine hfold _ hnodup _ hstart ?_
  rintro ⟨name, o⟩ hmem
  exact lookup_of_mem hnodup hmem

/-- Flushing everything leaves the inputs, and opens and closes nothing. -/
theorem flushAll_tables (st : Streams) : st.flushAll.inputs = st.inputs ∧
    st.flushAll.commands = st.commands ∧ st.flushAll.closing = st.closing := by
  have hfold (entries : List (String × Output)) (st : Streams) :
      (entries.foldl flushEntry st).inputs = st.inputs ∧
        (entries.foldl flushEntry st).commands = st.commands ∧
        (entries.foldl flushEntry st).closing = st.closing := by
    induction entries generalizing st with
    | nil => exact ⟨rfl, rfl, rfl⟩
    | cons entry entries ih =>
      obtain ⟨hinputs, hcommands, hclosing⟩ := ih (st.flushEntry entry)
      have htables := st.flushOutput_tables entry.2
      exact ⟨hinputs.trans htables.inputs, hcommands.trans htables.commands,
        hclosing.trans htables.closing⟩
  exact hfold _ _

end Streams

/-! Closing. -/

theorem await_tables (st : Streams) (child : Nat) : Streams.Tables st (st.await child).2 :=
  ⟨rfl, rfl, rfl, rfl⟩

/-- However an output ends, no table changes. -/
theorem finish_tables (st : Streams) (o : Output) : Streams.Tables st (st.finish o).2 := by
  have habandon (st : Streams) (w : Writer) : Streams.Tables st (st.abandon w) := by
    have htables := st.flushWriter_tables w
    unfold Streams.abandon
    dsimp only
    split
    · exact htables
    · exact htables.trans (Streams.call_tables _ _)
  cases o with
  | errors => exact .refl st
  | writer w =>
    have htables := st.flushWriter_tables w
    unfold Streams.finish
    dsimp only
    split
    · rename_i hflush
      rw [hflush] at htables
      exact htables.trans (habandon _ _)
    · rename_i hflush
      rw [hflush] at htables
      split
      · exact htables
      · exact htables.trans (await_tables _ _)

theorem endInput_tables (st : Streams) (i : Input) : Streams.Tables st (st.endInput i).2 := by
  unfold Streams.endInput
  split
  · exact .refl st
  · exact await_tables _ _

/-- However the output of a name ends, it is dropped, and nothing else is. -/
theorem closeOutput_tables (st : Streams) (name : String) : Streams.Tables
    { st with outputs := dropEntry name st.outputs } (st.closeOutput name).2 := by
  unfold Streams.closeOutput
  split
  · rename_i hnone
    rw [dropEntry_of_lookup hnone]
    exact .refl st
  · exact finish_tables _ _

/-- Where the output of a name can be closed, the input of that name is dropped too. -/
theorem closeName_tables {st : Streams} {name : String} {status : Int}
    (h : (st.closeOutput name).1 = .ok status) : Streams.Tables { st with
      outputs := dropEntry name st.outputs, inputs := dropEntry name st.inputs }
      (st.closeName name).2 := by
  obtain ⟨houtputs, hinputs, hcommands, hclosing⟩ := closeOutput_tables st name
  unfold Streams.closeName
  split
  · rename_i hfailed
    rw [hfailed] at h
    cases h
  · rename_i st₁ hok
    rw [hok] at houtputs hinputs hcommands hclosing
    dsimp only at houtputs hinputs hcommands hclosing
    split
    · rename_i hnone
      rw [hinputs] at hnone
      refine ⟨houtputs, ?_, hcommands, hclosing⟩
      rw [dropEntry_of_lookup hnone]
      exact hinputs
    · have htables := endInput_tables { st₁ with inputs := dropEntry name st₁.inputs } ‹Input›
      refine ⟨htables.outputs.trans houtputs, htables.inputs.trans ?_,
        htables.commands.trans hcommands, htables.closing.trans hclosing⟩
      exact congrArg (dropEntry name) hinputs

theorem closeEach_cons {st st' : Streams} {name : String} {names : List String}
    (h : st.closeEach (name :: names) = ([], st')) : ∃ status st₁,
      st.closeName name = (.ok status, st₁) ∧ st₁.pause.closeEach names = ([], st') := by
  rw [Streams.closeEach] at h
  split at h
  · rename_i status hclose
    exact ⟨status, _, Prod.ext hclose rfl, h⟩
  · cases h

/-- A close that succeeds ends the output, if there is one, and the input, if there is one. -/
theorem closeName_ok {st st' : Streams} {name : String} {status : Int}
    (h : st.closeName name = (.ok status, st')) :
    ∃ status' st₁, st.closeOutput name = (.ok status', st₁) ∧
      (st₁.inputs.lookup name = none ∧ st' = st₁ ∨ ∃ i, st₁.inputs.lookup name = some i ∧
        st' = (Streams.endInput { st₁ with inputs := dropEntry name st₁.inputs } i).2) := by
  unfold Streams.closeName at h
  split at h
  · cases h
  · rename_i hok
    refine ⟨_, _, hok, ?_⟩
    split at h
    · rename_i hnone
      cases h
      exact .inl ⟨hnone, rfl⟩
    · rename_i i hi
      exact .inr ⟨i, hi, (Prod.mk.inj h).2.symm⟩

/-- Closing one name after the other drops what is open under each. -/
theorem closeEach_tables {st st' : Streams} {names : List String}
    (h : st.closeEach names = ([], st')) :
    st'.outputs = names.foldl (fun table name => dropEntry name table) st.outputs ∧
      st'.inputs = names.foldl (fun table name => dropEntry name table) st.inputs := by
  induction names generalizing st with
  | nil =>
    cases h
    exact ⟨rfl, rfl⟩
  | cons name names ih =>
    obtain ⟨status, st₁, hname, hrest⟩ := closeEach_cons h
    obtain ⟨status', _, houtput, -⟩ := closeName_ok hname
    have htables := closeName_tables (congrArg Prod.fst houtput)
    rw [hname] at htables
    have houtputs : st₁.pause.outputs = dropEntry name st.outputs := htables.outputs
    have hinputs : st₁.pause.inputs = dropEntry name st.inputs := htables.inputs
    rw [List.foldl_cons, List.foldl_cons, ← houtputs, ← hinputs]
    exact ih hrest

end Awk.Host
