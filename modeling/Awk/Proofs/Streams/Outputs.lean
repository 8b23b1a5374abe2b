import Awk.Proofs.Streams.Tables

/-! What holds of the open outputs, the files, the commands and the books however the streams are
used. It is enough to look at the few things that are done to an output: it is opened, text is
collected for it, what is collected goes to its file or to its command, and it is dropped; and what
runs the commands is asked meanwhile. -/

namespace Awk.Host

open Records (Bytes bytesOf)

/-- Nothing is collected. -/
def Output.Settled : Output → Prop
  | .writer w => w.pending.bytes = []
  | .errors => True

/-- What is kept by all that is done to an output, where files are opened by `allowed` names. -/
structure OutputLaw (commands : Commands)
    (Inv : Disk → List Child → List (String × Output) → Books → Prop) (allowed : String → Prop) :
    Prop where
  call {now : Moment} {w : World} {children : List Child} {outputs : List (String × Output)}
    {b : Books} (c : Call) : Inv w.disk children outputs b →
    (∀ x o, outputs.lookup x = some o → o.isFile → x ∈ now.writing) →
    Inv (commands.answer now c w).2.disk children outputs b
  listener {d : Disk} {children : List Child} {outputs : List (String × Output)} {b : Books}
    (command : String) : Inv d children outputs b →
    Inv d (children ++ [⟨command, []⟩]) outputs (b.start command)
  command {d : Disk} {children : List Child} {outputs : List (String × Output)} {b : Books}
    {name : String} (d' : Disk) : Inv d children outputs b → b.opened.lookup name = none →
    Inv d (children ++ [⟨name, []⟩])
      (putEntry name (.writer ⟨.command children.length, .empty⟩) outputs) (b.open_ d' .pipe name)
  errors {d : Disk} {children : List Child} {outputs : List (String × Output)} {b : Books}
    {kind : OutputKind} : Inv d children outputs b → b.opened.lookup "/dev/stderr" = none →
    kind ≠ .pipe → allowed "/dev/stderr" →
    Inv d children (putEntry "/dev/stderr" .errors outputs) (b.open_ d kind "/dev/stderr")
  file {d d' : Disk} {children : List Child} {outputs : List (String × Output)} {b : Books}
    {name : String} {kind : OutputKind} {target : Disk.Writable} : Inv d children outputs b →
    b.opened.lookup name = none → kind ≠ .pipe → allowed name →
    d.openForWriting name (kind = .append) = .ok (target, d') →
    Inv d' children
      (putEntry name
        (.writer ⟨.file target (if kind = .append then none else some 0), .empty⟩) outputs)
      (b.open_ d kind name)
  complain {d : Disk} {children : List Child} {outputs : List (String × Output)} {b : Books}
    {name : String} {e : Opened} (kind : OutputKind) (text : String) : Inv d children outputs b →
    outputs.lookup name = some .errors → b.opened.lookup name = some e →
    Inv d children outputs (b.add name e kind text)
  collect {d : Disk} {children : List Child} {outputs : List (String × Output)} {b : Books}
    {name : String} {e : Opened} {w : Writer} (kind : OutputKind) (text : String) :
    Inv d children outputs b → outputs.lookup name = some (.writer w) →
    b.opened.lookup name = some e →
    Inv d children
      (putEntry name (.writer { w with pending := w.pending.push (bytesOf text) }) outputs)
      (b.add name e kind text)
  keep {d : Disk} {children : List Child} {outputs : List (String × Output)} {b : Books}
    {name : String} {sink : Sink} {pending rest : Pending} : Inv d children outputs b →
    outputs.lookup name = some (.writer ⟨sink, pending⟩) → pending.bytes = rest.bytes →
    Inv d children (putEntry name (.writer ⟨sink, rest⟩) outputs) b
  store {st st' : Streams} {children : List Child} {outputs : List (String × Output)} {b : Books}
    {name : String} {target : Disk.Writable} {position position' : Option Nat}
    {pending rest : Pending} {s : Bytes} : Inv st.disk children outputs b →
    outputs.lookup name = some (.writer ⟨.file target position, pending⟩) →
    pending.bytes = s ++ rest.bytes → st.store target position s = .ok (position', st') →
    Inv st'.disk children (putEntry name (.writer ⟨.file target position', rest⟩) outputs) b
  give {d : Disk} {children : List Child} {outputs : List (String × Output)} {b : Books}
    {name : String} {child : Nat} {pending rest : Pending} {s : Bytes} :
    Inv d children outputs b → outputs.lookup name = some (.writer ⟨.command child, pending⟩) →
    pending.bytes = s ++ rest.bytes →
    Inv d (children.modify child fun c => { c with given := c.given ++ s })
      (putEntry name (.writer ⟨.command child, rest⟩) outputs) b
  drop {d : Disk} {children : List Child} {outputs : List (String × Output)} {b : Books}
    {name : String} {o : Output} : Inv d children outputs b → outputs.lookup name = some o →
    o.Settled → Inv d children (dropEntry name outputs) (b.drop name)

/-- What a law keeps holds of a table of outputs that no two names share and that the books go with.
The files in it count as open. It is the table of the streams, but for a moment while something is
done. -/
structure Standing (commands : Commands)
    (Inv : Disk → List Child → List (String × Output) → Books → Prop) (st : Streams)
    (outputs : List (String × Output)) (b : Books) : Prop where
  commands : st.commands = commands
  nodup : (outputs.map (·.1)).Nodup
  same : ∀ x, (outputs.lookup x).isSome = (b.opened.lookup x).isSome
  writing : ∀ x o, outputs.lookup x = some o → o.isFile → x ∈ st.writing
  holds : Inv st.disk st.children outputs b

namespace Standing

variable {commands : Commands} {Inv : Disk → List Child → List (String × Output) → Books → Prop}
  {st st' : Streams} {outputs : List (String × Output)} {b : Books} {name : String} {o : Output}
  {e : Opened}

theorem exists_opened (h : Standing commands Inv st outputs b) (ho : outputs.lookup name = some o) :
    ∃ e, b.opened.lookup name = some e := by
  have hsame := h.same name
  rw [ho] at hsame
  exact Option.isSome_iff_exists.mp hsame.symm

theorem opened_eq_none (h : Standing commands Inv st outputs b) (ho : outputs.lookup name = none) :
    b.opened.lookup name = none := by
  have hsame := h.same name
  rw [ho] at hsame
  simpa using hsame.symm

/-- What changes neither the files nor the commands that have been started changes nothing here. -/
theorem congr (h : Standing commands Inv st outputs b) (htables : Streams.Tables st st')
    (hdisk : st'.disk = st.disk) (hchildren : st'.children = st.children) :
    Standing commands Inv st' outputs b where
  commands := htables.commands.trans h.commands
  nodup := h.nodup
  same := h.same
  writing := htables.writing ▸ h.writing
  holds := by
    rw [hdisk, hchildren]
    exact h.holds

/-- The table becomes that of the streams. -/
theorem settle (h : Standing commands Inv st outputs b) (houtputs : st'.outputs = outputs)
    (hcommands : st'.commands = st.commands) (hdisk : st'.disk = st.disk)
    (hchildren : st'.children = st.children) : Standing commands Inv st' st'.outputs b where
  commands := hcommands.trans h.commands
  nodup := houtputs ▸ h.nodup
  same := houtputs ▸ h.same
  writing _ _ hx hfile := Streams.mem_writing hx hfile
  holds := by
    rw [hdisk, hchildren, houtputs]
    exact h.holds

/-- The table stays while the streams drop entries, where its files count as open. -/
theorem ending (h : Standing commands Inv st outputs b)
    (hfiles : ∀ x o, outputs.lookup x = some o → o.isFile → x ∈ st'.closing)
    (hcommands : st'.commands = st.commands) (hdisk : st'.disk = st.disk)
    (hchildren : st'.children = st.children) : Standing commands Inv st' outputs b where
  commands := hcommands.trans h.commands
  nodup := h.nodup
  same := h.same
  writing x o hx hfile := List.mem_append_right _ (hfiles x o hx hfile)
  holds := by
    rw [hdisk, hchildren]
    exact h.holds

/-- An entry is put in the place of another of its sort. -/
theorem put {o' : Output} {b' : Books} (h : Standing commands Inv st outputs b)
    (ho : outputs.lookup name = some o) (hfile : o'.isFile = o.isFile)
    (hcommands : st'.commands = commands) (hwriting : st'.writing = st.writing)
    (hsame : ∀ x, (b'.opened.lookup x).isSome = (b.opened.lookup x).isSome)
    (holds : Inv st'.disk st'.children (putEntry name o' outputs) b') :
    Standing commands Inv st' (putEntry name o' outputs) b' where
  commands := hcommands
  nodup := nodup_putEntry h.nodup name o'
  same x := by
    rw [hsame, ← h.same, lookup_putEntry]
    split
    · rename_i hx
      rw [hx, ho]
      rfl
    · rfl
  writing x o'' hx hfile' := by
    rw [hwriting]
    rw [lookup_putEntry] at hx
    split at hx
    · rename_i heq
      cases hx
      exact h.writing x o (heq ▸ ho) (hfile ▸ hfile')
    · exact h.writing x o'' hx hfile'
  holds := holds

end Standing

namespace OutputLaw

variable {commands : Commands} {Inv : Disk → List Child → List (String × Output) → Books → Prop}
  {allowed : String → Prop} {st st' : Streams} {outputs : List (String × Output)} {b : Books}
  {name text : String} {o : Output} {e : Opened}

theorem stays (law : OutputLaw commands Inv allowed) (h : Standing commands Inv st outputs b)
    (c : Call) : Standing commands Inv (st.call c).2 outputs b where
  commands := h.commands
  nodup := h.nodup
  same := h.same
  writing := h.writing
  holds := by
    show Inv (st.commands.answer ⟨st.count, st.children, st.writing⟩ c st.toWorld).2.disk _ _ _
    rw [h.commands]
    exact law.call c h.holds h.writing

/-- What is taken of what is collected goes to the sink, and the rest stays. -/
theorem transfer (law : OutputLaw commands Inv allowed) (h : Standing commands Inv st outputs b)
    {w : Writer} (ho : outputs.lookup name = some (.writer w)) (s : Bytes) (rest : Pending) :
    match st.transfer w.sink s with
    | (.ok sink, st') => w.pending.bytes = s ++ rest.bytes →
      Standing commands Inv st' (putEntry name (.writer ⟨sink, rest⟩) outputs) b
    | (.error (_, n), st') => w.pending.bytes = s.take n ++ rest.bytes →
      Standing commands Inv st' (putEntry name (.writer ⟨w.sink, rest⟩) outputs) b := by
  obtain ⟨sink, pending⟩ := w
  have hwriting := (st.transfer_tables sink s).writing
  have hcommands := (st.transfer_tables sink s).commands
  have htransfers := st.transfers sink s
  dsimp only
  revert hwriting hcommands htransfers
  generalize st.transfer sink s = result
  rintro hwriting hcommands (hs | hstore | hstore | hanswer | hanswer) <;> intro hbytes <;>
    refine h.put ho rfl (hcommands.trans h.commands) hwriting (fun _ => rfl) ?_
  · rw [hs, List.nil_append] at hbytes
    exact law.keep h.holds ho hbytes
  · have hchildren : Streams.children _ = st.children := Streams.store_children hstore
    rw [hchildren]
    exact law.store h.holds ho hbytes hstore
  · exact law.keep h.holds ho hbytes
  · exact law.give (law.stays h _).holds ho hbytes
  · exact law.give (law.stays h _).holds ho hbytes

/-- Flushing leaves what is not taken, which is nothing unless it fails. -/
theorem flushWriter (law : OutputLaw commands Inv allowed) (h : Standing commands Inv st outputs b)
    {w : Writer} (ho : outputs.lookup name = some (.writer w)) :
    Standing commands Inv (st.flushWriter w).2.2
        (putEntry name (.writer (st.flushWriter w).2.1) outputs) b ∧
      ((st.flushWriter w).1 = .ok () → (st.flushWriter w).2.1.pending = .empty) := by
  have hok := law.transfer h ho w.pending.bytes .empty
  have herror (n : Nat) := law.transfer h ho w.pending.bytes (w.pending.drop n)
  unfold Streams.flushWriter
  cases htransfer : st.transfer w.sink w.pending.bytes with
  | mk result st' =>
    rw [htransfer] at hok herror
    cases result with
    | ok sink => exact ⟨hok (List.append_nil _).symm, fun _ => rfl⟩
    | error e =>
      refine ⟨herror e.2 ?_, nofun⟩
      rw [Pending.bytes_drop, List.take_append_drop]

theorem flushOutput (law : OutputLaw commands Inv allowed) (h : Standing commands Inv st outputs b)
    (ho : outputs.lookup name = some o) :
    Standing commands Inv (st.flushOutput o).2.2
        (putEntry name (st.flushOutput o).2.1 outputs) b ∧
      ((st.flushOutput o).1 = .ok () → (st.flushOutput o).2.1.Settled) := by
  cases o with
  | errors =>
    refine ⟨?_, fun _ => trivial⟩
    rw [show (st.flushOutput .errors).2.1 = .errors from rfl, putEntry_of_lookup ho]
    exact h
  | writer w =>
    obtain ⟨hstanding, hsettled⟩ := law.flushWriter h ho
    refine ⟨hstanding, fun hok => ?_⟩
    show (st.flushWriter w).2.1.pending.bytes = []
    rw [hsettled hok, Pending.bytes_empty]

/-- A text is collected, or, where nothing else is, goes to the sink at once. -/
theorem collects (law : OutputLaw commands Inv allowed) (h : Standing commands Inv st outputs b)
    {w w' : Writer} (ho : outputs.lookup name = some (.writer w))
    (he : b.opened.lookup name = some e) (kind : OutputKind)
    (hroom : blockSize ≤ (bytesOf text).length → w.pending.bytes = [])
    (hcollect : st.collect w (bytesOf text) = (.ok (), w', st')) :
    Standing commands Inv st' (putEntry name (.writer w') outputs) (b.add name e kind text) := by
  have hcollected : Standing commands Inv st
      (putEntry name (.writer { w with pending := w.pending.push (bytesOf text) }) outputs)
      (b.add name e kind text) :=
    h.put ho rfl h.commands rfl (Books.isSome_add he kind text)
      (law.collect kind text h.holds ho he)
  obtain ⟨rfl, rfl⟩ | ⟨hlarge, sink, htransfer, rfl⟩ := Streams.collect_cases hcollect
  · exact hcollected
  · have hlookup : (putEntry name (.writer { w with pending := w.pending.push (bytesOf text) })
        outputs).lookup name = some (.writer { w with pending := w.pending.push (bytesOf text) }) := by
      rw [lookup_putEntry, if_pos rfl]
    have hsent := law.transfer hcollected hlookup (bytesOf text) w.pending
    rw [htransfer] at hsent
    have hstored := hsent (by rw [Pending.bytes_push, hroom hlarge]; simp)
    rwa [putEntry_putEntry] at hstored

theorem writeWriter (law : OutputLaw commands Inv allowed) (h : Standing commands Inv st outputs b)
    {w w' : Writer} (ho : outputs.lookup name = some (.writer w))
    (he : b.opened.lookup name = some e) (kind : OutputKind)
    (hwrite : st.writeWriter w (bytesOf text) = (.ok (), w', st')) :
    Standing commands Inv st' (putEntry name (.writer w') outputs) (b.add name e kind text) := by
  obtain ⟨w₁, st₁, hflush, hrest⟩ | ⟨hfits, hrest⟩ := Streams.writeWriter_cases hwrite
  · obtain ⟨hflushed, hempty⟩ := law.flushWriter h ho
    rw [hflush] at hflushed hempty
    have hlookup : (putEntry name (.writer w₁) outputs).lookup name = some (.writer w₁) := by
      rw [lookup_putEntry, if_pos rfl]
    have hwritten := law.collects hflushed hlookup he kind
      (fun _ => by rw [hempty rfl, Pending.bytes_empty]) hrest
    rwa [putEntry_putEntry] at hwritten
  · exact law.collects h ho he kind (fun hlarge => Pending.bytes_eq_nil (by omega)) hrest

theorem writeOutput (law : OutputLaw commands Inv allowed) (h : Standing commands Inv st outputs b)
    (ho : outputs.lookup name = some o) (he : b.opened.lookup name = some e) (kind : OutputKind)
    (hwrite : (st.writeOutput o text).1 = .ok ()) :
    Standing commands Inv (st.writeOutput o text).2.2
      (putEntry name (st.writeOutput o text).2.1 outputs) (b.add name e kind text) := by
  cases o with
  | writer w => exact law.writeWriter h ho he kind (Prod.ext hwrite rfl)
  | errors =>
    rw [show (st.writeOutput .errors text).2.1 = .errors from rfl]
    have hadded : Standing commands Inv st (putEntry name .errors outputs)
        (b.add name e kind text) := by
      refine h.put ho rfl h.commands rfl (Books.isSome_add he kind text) ?_
      rw [putEntry_of_lookup ho]
      exact law.complain kind text h.holds ho he
    exact hadded.congr ⟨rfl, rfl, rfl, rfl⟩ rfl rfl

theorem pause (law : OutputLaw commands Inv allowed) (h : Standing commands Inv st st.outputs b) :
    Standing commands Inv st.pause st.pause.outputs b := law.stays h .pause

theorem flushEntry (law : OutputLaw commands Inv allowed)
    (h : Standing commands Inv st st.outputs b) (ho : st.outputs.lookup name = some o) :
    Standing commands Inv (st.flushEntry (name, o)) (st.flushEntry (name, o)).outputs b := by
  have houtputs := (st.flushOutput_tables o).outputs
  have hflushed := (law.flushOutput h ho).1
  rw [← houtputs] at hflushed
  exact law.pause (hflushed.settle rfl rfl rfl rfl)

theorem flushAll (law : OutputLaw commands Inv allowed)
    (h : Standing commands Inv st st.outputs b) :
    Standing commands Inv st.flushAll st.flushAll.outputs b := by
  apply Streams.flushAll_induction (Q := fun _ st => Standing commands Inv st st.outputs b) h.nodup
  · exact h.congr ⟨rfl, rfl, rfl, rfl⟩ rfl rfl
  · intro entries name o st h ho
    exact law.flushEntry h ho

/-- A command is started, with what has been written to it so far in the books. -/
theorem command_started (law : OutputLaw commands Inv allowed)
    (h : Standing commands Inv st st.outputs b) (d : Disk) (hnone : b.opened.lookup name = none) :
    Standing commands Inv
      ((st.addChild name).2.putOutput name (.writer ⟨.command st.children.length, .empty⟩))
      (putEntry name (.writer ⟨.command st.children.length, .empty⟩) st.outputs)
      (b.open_ d .pipe name) where
  commands := h.commands
  nodup := nodup_putEntry h.nodup name _
  same x := by
    rw [Books.opened_open, lookup_putEntry, lookup_putEntry]
    split
    · rfl
    · exact h.same x
  writing x o hx hfile := Streams.mem_writing hx hfile
  holds := law.command d h.holds hnone

theorem open_ (law : OutputLaw commands Inv allowed) (h : Standing commands Inv st st.outputs b)
    {kind : OutputKind} (hnone : st.outputs.lookup name = none)
    (hallowed : kind ≠ .pipe → allowed name) (hopen : st.openOutput kind name = (.ok o, st')) :
    Standing commands Inv (st'.putOutput name o) (st'.putOutput name o).outputs
      (b.open_ st.disk kind name) := by
  have hnone' := h.opened_eq_none hnone
  have hsame {o : Output} (x : String) : ((putEntry name o st.outputs).lookup x).isSome =
      ((b.open_ st.disk kind name).opened.lookup x).isSome := by
    rw [Books.opened_open, lookup_putEntry, lookup_putEntry]
    split
    · rfl
    · exact h.same x
  obtain ⟨rfl, -, rfl, rfl⟩ | ⟨hkind, rfl, rfl, rfl⟩ | ⟨hkind, target, d', hfile, rfl, rfl⟩ :=
    Streams.openOutput_cases hopen
  · exact law.command_started (law.stays (law.flushAll h) (.feed name)) st.disk hnone'
  · exact {
      commands := h.commands
      nodup := nodup_putEntry h.nodup _ _
      same := hsame
      writing := fun x o hx hfile => Streams.mem_writing hx hfile
      holds := law.errors h.holds hnone' hkind (hallowed hkind) }
  · obtain ⟨⟨houtputs, -, hcommands, -⟩, -, hchildren⟩ := st.seek_reads name
    have hholds := law.file h.holds hnone' hkind (hallowed hkind) hfile
    rw [← houtputs, ← hchildren] at hholds
    refine ⟨hcommands.trans h.commands, ?_, fun x => ?_,
      fun x o hx hfile => Streams.mem_writing hx hfile, hholds⟩
    · show ((putEntry name _ (st.seek name).outputs).map (·.1)).Nodup
      rw [houtputs]
      exact nodup_putEntry h.nodup _ _
    · show ((putEntry name _ (st.seek name).outputs).lookup x).isSome = _
      rw [houtputs]
      exact hsame x

/-- What is written to is what is open under the name, or what the name is opened as. -/
theorem obtain_ (law : OutputLaw commands Inv allowed) (h : Standing commands Inv st st.outputs b)
    {kind : OutputKind} (hallowed : kind ≠ .pipe → allowed name)
    (hobtain : st.obtainOutput kind name = (.ok o, st')) :
    st'.outputs.lookup name = some o ∧
      Standing commands Inv st' st'.outputs (b.obtain_ st.disk kind name).2 := by
  unfold Streams.obtainOutput at hobtain
  cases hlookup : st.outputs.lookup name with
  | some o' =>
    rw [hlookup] at hobtain
    cases hobtain
    obtain ⟨e, he⟩ := h.exists_opened hlookup
    rw [Books.obtain_of_some he]
    exact ⟨hlookup, h⟩
  | none =>
    rw [hlookup] at hobtain
    dsimp only at hobtain
    split at hobtain
    · rename_i hopen
      cases hobtain
      rw [Books.obtain_of_none (h.opened_eq_none hlookup)]
      refine ⟨?_, law.open_ h hlookup hallowed hopen⟩
      rw [Streams.putOutput, lookup_putEntry, if_pos rfl]
    · rename_i hfailed
      exact absurd hobtain (hfailed _ _)

theorem writeTo (law : OutputLaw commands Inv allowed) (h : Standing commands Inv st st.outputs b)
    {kind : OutputKind} (hallowed : kind ≠ .pipe → allowed name)
    (hwrite : st.writeTo kind name text = (none, st')) :
    Standing commands Inv st' st'.outputs
      ((b.obtain_ st.disk kind name).2.add name (b.obtain_ st.disk kind name).1 kind text) := by
  unfold Streams.writeTo at hwrite
  split at hwrite
  · cases hwrite
  rename_i o st₁ hobtain
  obtain ⟨hopen, hstanding⟩ := law.obtain_ h hallowed hobtain
  obtain ⟨hresult, hst'⟩ := Prod.mk.inj hwrite
  have hok : (st₁.writeOutput o text).1 = .ok () := by
    cases hanswer : (st₁.writeOutput o text).1 with
    | ok u => rfl
    | error cause =>
      rw [hanswer] at hresult
      cases hresult
  have hwritten :=
    law.writeOutput hstanding hopen (b.lookup_obtain st.disk kind name) kind hok
  rw [← (st₁.writeOutput_tables o text).outputs] at hwritten
  subst hst'
  exact hwritten.settle rfl rfl rfl rfl

theorem write (law : OutputLaw commands Inv allowed) (h : Standing commands Inv st st.outputs b)
    {kind : OutputKind} (hallowed : ∀ x ∈ (Operation.write kind name text).files, allowed x)
    (hwrite : st.write (some (kind, name)) text = (none, st')) :
    Standing commands Inv st' st'.outputs (b.follow st (.write kind name text)) := by
  unfold Streams.write at hwrite
  dsimp only at hwrite
  split at hwrite
  · rename_i hconsole
    change kind.isConsole name = true at hconsole
    cases hwrite
    rw [Books.follow, if_pos hconsole]
    exact law.pause (h.congr ⟨rfl, rfl, rfl, rfl⟩ rfl rfl)
  · rename_i hconsole
    change ¬ kind.isConsole name = true at hconsole
    obtain ⟨hresult, rfl⟩ := Prod.mk.inj hwrite
    rw [Books.follow, if_neg hconsole]
    refine law.pause (law.writeTo h (fun hkind => hallowed name ?_) (Prod.ext hresult rfl))
    rw [Operation.files, if_neg]
    · exact List.mem_singleton_self name
    · simpa [hkind] using hconsole

theorem openInput (law : OutputLaw commands Inv allowed)
    (h : Standing commands Inv st st.outputs b) {kind : InputKind} {i : Input}
    (hopen : st.openInput kind name = (.ok i, st')) :
    Standing commands Inv st' st'.outputs
      (match kind with | .file => b | .command => b.start name) := by
  obtain ⟨rfl, r, hr, -⟩ | ⟨rfl, blocks, -, rfl, rfl⟩ := Streams.openInput_cases hopen
  · rw [hr.outputs]
    exact h.congr hr.toTables hr.disk hr.children
  · have hcalled := law.stays (law.flushAll h) (.listen name)
    exact {
      commands := hcalled.commands
      nodup := hcalled.nodup
      same := hcalled.same
      writing := hcalled.writing
      holds := law.listener name hcalled.holds }

theorem read (law : OutputLaw commands Inv allowed) (h : Standing commands Inv st st.outputs b)
    {kind : InputKind} {separator : String} {answer : Option String}
    (hread : st.read kind name separator = (.ok answer, st')) :
    Standing commands Inv st' st'.outputs (b.follow st (.read kind name separator)) := by
  obtain ⟨i, st₁, hobtain, -, hst'⟩ := Streams.read_cases hread
  have hobtained : Standing commands Inv st₁ st₁.outputs
      (b.follow st (.read kind name separator)) := by
    unfold Streams.obtainInput at hobtain
    cases hlookup : st.inputs.lookup name with
    | some i' =>
      rw [hlookup] at hobtain
      cases hobtain
      cases kind with
      | file => exact h
      | command =>
        rw [Books.follow, hlookup]
        exact h
    | none =>
      rw [hlookup] at hobtain
      dsimp only at hobtain
      split at hobtain
      · rename_i hopen
        cases hobtain
        have hopened := law.openInput h hopen
        cases kind with
        | file => exact hopened.settle rfl rfl rfl rfl
        | command =>
          rw [Books.follow, hlookup]
          exact hopened.settle rfl rfl rfl rfl
      · rename_i hfailed
        exact absurd hobtain (hfailed _ _)
  have hreads := st₁.readRecord_reads i.reader separator
  subst hst'
  have hread' := hobtained.congr hreads.toTables hreads.disk hreads.children
  rw [← hreads.outputs] at hread'
  exact law.pause (hread'.settle rfl rfl rfl rfl)

end OutputLaw

/-! Closing. -/

/-- While names are closed, a table of what was open before: what is no longer among the outputs has
nothing collected, and its file still counts as open. -/
structure Ending (st : Streams) (outputs : List (String × Output)) : Prop where
  still : ∀ x o, st.outputs.lookup x = some o → outputs.lookup x = some o
  ended : ∀ x o, outputs.lookup x = some o → st.outputs.lookup x = none → o.Settled
  files : ∀ x o, outputs.lookup x = some o → o.isFile → x ∈ st.closing

theorem Ending.start {st : Streams} :
    Ending { st with closing := st.writing } st.outputs where
  still _ _ h := h
  ended _ _ h hnone := by cases h.symm.trans hnone
  files _ _ h hfile := Streams.mem_writing h hfile

theorem Ending.congr {st st' : Streams} {outputs : List (String × Output)} (h : Ending st outputs)
    (htables : Streams.Tables st st') : Ending st' outputs where
  still := htables.outputs ▸ h.still
  ended := htables.outputs ▸ h.ended
  files := htables.closing ▸ h.files

/-- What a law keeps holds of a table that still has what has been closed, with nothing collected. -/
def Closed (Inv : Disk → List Child → List (String × Output) → Books → Prop) (st : Streams)
    (b : Books) (closed : String → Prop) : Prop :=
  ∃ outputs : List (String × Output),
    (∀ x, (outputs.lookup x).isSome = (b.opened.lookup x).isSome) ∧
    Inv st.disk st.children outputs b ∧
    ∀ x o, closed x → outputs.lookup x = some o → o.Settled

namespace OutputLaw

variable {commands : Commands} {Inv : Disk → List Child → List (String × Output) → Books → Prop}
  {allowed : String → Prop} {st st' : Streams} {outputs : List (String × Output)} {b : Books}
  {name : String} {o : Output}

theorem await (law : OutputLaw commands Inv allowed) (h : Standing commands Inv st outputs b)
    (child : Nat) : Standing commands Inv (st.await child).2 outputs b :=
  law.stays (law.stays h (.hangUp child)) (.wait child)

/-- An output that ends has nothing collected. -/
theorem finish (law : OutputLaw commands Inv allowed) (h : Standing commands Inv st outputs b)
    (ho : outputs.lookup name = some o) {status : Int} (hfinish : st.finish o = (.ok status, st')) :
    ∃ o', Standing commands Inv st' (putEntry name o' outputs) b ∧ o'.Settled ∧
      o'.isFile = o.isFile := by
  cases o with
  | errors =>
    cases hfinish
    refine ⟨.errors, ?_, trivial, rfl⟩
    rw [putEntry_of_lookup ho]
    exact h
  | writer w =>
    obtain ⟨hflushed, hempty⟩ := law.flushWriter h ho
    have hsort := st.flushWriter_isFile w
    unfold Streams.finish at hfinish
    dsimp only at hfinish
    split at hfinish
    · cases hfinish
    · rename_i w' st₁ hflush
      rw [hflush] at hflushed hempty hsort
      have hsettled : (Output.writer w').Settled := by
        show w'.pending.bytes = []
        rw [hempty rfl, Pending.bytes_empty]
      refine ⟨.writer w', ?_, hsettled, hsort⟩
      split at hfinish
      · cases hfinish
        exact hflushed
      · obtain ⟨-, rfl⟩ := Prod.mk.inj hfinish
        exact law.await hflushed _

/-- What a name leaves that is closed. -/
theorem closeOutput (law : OutputLaw commands Inv allowed) (h : Standing commands Inv st outputs b)
    (hending : Ending st outputs) {status : Int} (hclose : st.closeOutput name = (.ok status, st')) :
    ∃ outputs', Standing commands Inv st' outputs' b ∧ Ending st' outputs' ∧
      dropEntry name outputs' = dropEntry name outputs := by
  have htables := closeOutput_tables st name
  unfold Streams.closeOutput at hclose
  cases ho : st.outputs.lookup name with
  | none =>
    rw [ho] at hclose
    cases hclose
    exact ⟨outputs, h, hending, rfl⟩
  | some o =>
    rw [ho] at hclose
    obtain ⟨hresult, hst'⟩ := Prod.mk.inj hclose
    have hdropped : Standing commands Inv { st with outputs := dropEntry name st.outputs } outputs b :=
      h.ending hending.files rfl rfl rfl
    have hfinish : ∃ status, (Streams.finish { st with outputs := dropEntry name st.outputs } o).1 =
        .ok status := by
      cases hanswer : (Streams.finish { st with outputs := dropEntry name st.outputs } o).1 with
      | ok status => exact ⟨status, rfl⟩
      | error cause =>
        rw [hanswer] at hresult
        cases hresult
    obtain ⟨status', hfinish⟩ := hfinish
    obtain ⟨o', hfinished, hsettled, hfile⟩ :=
      law.finish hdropped (hending.still name o ho) (Prod.ext hfinish rfl)
    have hkept := finish_tables { st with outputs := dropEntry name st.outputs } o
    subst hst'
    refine ⟨putEntry name o' outputs, hfinished, ⟨fun x o₁ hx => ?_, fun x o₁ hx hnone => ?_,
      fun x o₁ hx hfile' => ?_⟩, dropEntry_putEntry _ _ _⟩
    · rw [hkept.outputs, lookup_dropEntry] at hx
      split at hx
      · cases hx
      · rename_i hne
        rw [lookup_putEntry, if_neg hne]
        exact hending.still x o₁ hx
    · rw [lookup_putEntry] at hx
      split at hx
      · cases hx
        exact hsettled
      · rename_i hne
        rw [hkept.outputs, lookup_dropEntry, if_neg hne] at hnone
        exact hending.ended x o₁ hx hnone
    · rw [hkept.closing]
      rw [lookup_putEntry] at hx
      split at hx
      · rename_i heq
        cases hx
        exact hending.files x o (heq ▸ hending.still name o ho) (hfile ▸ hfile')
      · exact hending.files x o₁ hx hfile'

theorem closeName (law : OutputLaw commands Inv allowed) (h : Standing commands Inv st outputs b)
    (hending : Ending st outputs) {status : Int} (hclose : st.closeName name = (.ok status, st')) :
    ∃ outputs', Standing commands Inv st' outputs' b ∧ Ending st' outputs' ∧
      dropEntry name outputs' = dropEntry name outputs := by
  obtain ⟨status', st₁, houtput, hinput⟩ := closeName_ok hclose
  obtain ⟨outputs', hclosed, hending', hdrop⟩ := law.closeOutput h hending houtput
  refine ⟨outputs', ?_, ?_, hdrop⟩
  · obtain ⟨-, rfl⟩ | ⟨i, -, rfl⟩ := hinput
    · exact hclosed
    · have hdropped : Standing commands Inv { st₁ with inputs := dropEntry name st₁.inputs }
          outputs' b := hclosed.ending hending'.files rfl rfl rfl
      unfold Streams.endInput
      split
      · exact hdropped
      · exact law.await hdropped _
  · obtain ⟨-, rfl⟩ | ⟨i, -, rfl⟩ := hinput
    · exact hending'
    · have hdropped : Ending { st₁ with inputs := dropEntry name st₁.inputs } outputs' :=
        ⟨hending'.still, hending'.ended, hending'.files⟩
      exact hdropped.congr (endInput_tables _ i)

/-- An output with nothing collected is dropped. -/
theorem dropped (law : OutputLaw commands Inv allowed) (h : Standing commands Inv st outputs b)
    (hsettled : ∀ o, outputs.lookup name = some o → o.Settled) :
    Standing commands Inv st (dropEntry name outputs) (b.drop name) where
  commands := h.commands
  nodup := nodup_dropEntry h.nodup name
  same x := by
    rw [Books.drop, lookup_dropEntry, lookup_dropEntry]
    split
    · rfl
    · exact h.same x
  writing x o hx hfile := by
    rw [lookup_dropEntry] at hx
    split at hx
    · cases hx
    · exact h.writing x o hx hfile
  holds := by
    cases ho : outputs.lookup name with
    | some o => exact law.drop h.holds ho (hsettled o ho)
    | none =>
      rw [dropEntry_of_lookup ho, Books.drop, dropEntry_of_lookup (h.opened_eq_none ho)]
      exact h.holds

/-- All outputs are dropped, none of which has anything collected. -/
theorem dropped_all (law : OutputLaw commands Inv allowed) (h : Standing commands Inv st outputs b)
    (hsettled : ∀ x o, outputs.lookup x = some o → o.Settled) :
    Standing commands Inv st [] { b with opened := [] } := by
  have hdrop (names : List String) : ∀ {outputs b}, Standing commands Inv st outputs b →
      (∀ x o, outputs.lookup x = some o → o.Settled) →
      Standing commands Inv st (names.foldl (fun table name => dropEntry name table) outputs)
        { b with opened := names.foldl (fun table name => dropEntry name table) b.opened } := by
    induction names with
    | nil => exact fun h _ => h
    | cons name names ih =>
      refine fun h hsettled => ih (law.dropped h (hsettled name)) fun x o hx => ?_
      rw [lookup_dropEntry] at hx
      split at hx
      · cases hx
      · exact hsettled x o hx
  have hall := hdrop (outputs.map (·.1)) h hsettled
  have hnone (x : String) (hx : x ∉ outputs.map (·.1)) : outputs.lookup x = none :=
    lookup_of_notMem hx
  rwa [dropEach_eq_nil hnone, dropEach_eq_nil fun x hx => h.opened_eq_none (hnone x hx)] at hall

theorem closeEach (law : OutputLaw commands Inv allowed) {names : List String}
    (h : Standing commands Inv st outputs b) (hending : Ending st outputs)
    (hclose : st.closeEach names = ([], st')) :
    ∃ outputs', Standing commands Inv st' outputs' b ∧ Ending st' outputs' := by
  induction names generalizing st outputs with
  | nil =>
    cases hclose
    exact ⟨outputs, h, hending⟩
  | cons name names ih =>
    obtain ⟨status, st₁, hname, hnames⟩ := closeEach_cons hclose
    obtain ⟨outputs₁, hclosed, hending₁, -⟩ := law.closeName h hending hname
    exact ih (law.stays hclosed .pause) (hending₁.congr (Streams.call_tables st₁ .pause)) hnames

theorem close (law : OutputLaw commands Inv allowed) (h : Standing commands Inv st st.outputs b)
    {status : Int} (hclose : st.close name = (.ok status, st')) :
    Standing commands Inv st' st'.outputs (b.drop name) ∧ Closed Inv st' b (· = name) := by
  obtain ⟨hresult, rfl⟩ := Prod.mk.inj hclose
  have hstart : Standing commands Inv { st with closing := st.writing } st.outputs b :=
    h.ending Ending.start.files rfl rfl rfl
  obtain ⟨outputs, hclosed, hending, hdrop⟩ := law.closeName hstart .start (Prod.ext hresult rfl)
  obtain ⟨status', _, houtput, -⟩ := closeName_ok (Prod.ext hresult rfl)
  have htables := closeName_tables (congrArg Prod.fst houtput)
  have houtputs : (Streams.closeName { st with closing := st.writing } name).2.outputs =
      dropEntry name st.outputs := htables.outputs
  have hsettled (o : Output) (ho : outputs.lookup name = some o) : o.Settled := by
    refine hending.ended name o ho ?_
    rw [houtputs, lookup_dropEntry, if_pos rfl]
  have hpaused := law.stays hclosed .pause
  refine ⟨?_, outputs, hpaused.same, hpaused.holds, ?_⟩
  · have hdropped := law.dropped hpaused hsettled
    rw [hdrop, ← houtputs] at hdropped
    exact hdropped.settle rfl rfl rfl rfl
  · rintro x o rfl hx
    exact hsettled o hx

theorem closeAll (law : OutputLaw commands Inv allowed) (h : Standing commands Inv st st.outputs b)
    (hclose : st.closeAll = ([], st')) :
    Standing commands Inv st' st'.outputs { b with opened := [] } ∧
      Closed Inv st' b (fun _ => True) := by
  obtain ⟨hresult, rfl⟩ := Prod.mk.inj hclose
  have hstart : Standing commands Inv { st with closing := st.writing } st.outputs b :=
    h.ending Ending.start.files rfl rfl rfl
  obtain ⟨outputs, hclosed, hending⟩ := law.closeEach hstart .start (Prod.ext hresult rfl)
  have houtputs : (Streams.closeEach { st with closing := st.writing }
      (st.outputs.map (·.1) ++ st.inputs.map (·.1))).2.outputs = [] := by
    rw [(closeEach_tables (Prod.ext hresult rfl)).1]
    exact dropEach_eq_nil fun x hx => lookup_of_notMem fun hmem => hx (List.mem_append_left _ hmem)
  have hsettled (x : String) (o : Output) (hx : outputs.lookup x = some o) : o.Settled :=
    hending.ended x o hx (by rw [houtputs]; rfl)
  refine ⟨?_, outputs, hclosed.same, hclosed.holds, fun x o _ => hsettled x o⟩
  have hall := law.dropped_all hclosed hsettled
  rw [← houtputs] at hall
  exact hall.settle rfl rfl rfl rfl

theorem system (law : OutputLaw commands Inv allowed) (h : Standing commands Inv st st.outputs b)
    (command : String) : Standing commands Inv (st.system command).2
      (st.system command).2.outputs b := by
  unfold Streams.system
  dsimp only
  split
  · exact law.flushAll h
  · exact law.stays (law.flushAll h) (.run command)

theorem perform (law : OutputLaw commands Inv allowed) (h : Standing commands Inv st st.outputs b)
    {op : Operation} (hallowed : ∀ x ∈ op.files, allowed x) (hperform : st.perform op = ([], st')) :
    Standing commands Inv st' st'.outputs (b.follow st op) := by
  cases op with
  | write kind name text =>
    obtain ⟨hresult, rfl⟩ := Prod.mk.inj hperform
    refine law.write h hallowed (Prod.ext ?_ rfl)
    exact Option.toList_eq_nil_iff.mp hresult
  | read kind name separator =>
    rw [Streams.perform] at hperform
    split at hperform <;> cases hperform
    rename_i hread
    exact law.read h hread
  | flush name =>
    cases name with
    | none =>
      cases hperform
      exact law.flushAll h
    | some name =>
      obtain ⟨-, rfl⟩ := Prod.mk.inj hperform
      show Standing commands Inv (st.flush (some name)).2 (st.flush (some name)).2.outputs b
      unfold Streams.flush
      dsimp only
      split
      · exact h
      · rename_i o ho
        exact law.flushEntry h ho
  | close name =>
    rw [Streams.perform] at hperform
    split at hperform <;> cases hperform
    rename_i hclose
    exact (law.close h hclose).1
  | closeAll => exact (law.closeAll h hperform).1
  | system command =>
    rw [Streams.perform] at hperform
    have hsystem := law.system h command
    split at hperform <;> cases hperform
    rename_i hanswer
    rw [hanswer] at hsystem
    exact hsystem

/-- What has been closed has nothing collected. -/
theorem perform_closed (law : OutputLaw commands Inv allowed)
    (h : Standing commands Inv st st.outputs b) {op : Operation} (hcloses : op.Closes name)
    (hperform : st.perform op = ([], st')) : Closed Inv st' b op.Closes := by
  cases op with
  | close other =>
    rw [Streams.perform] at hperform
    split at hperform <;> cases hperform
    rename_i hclose
    exact (law.close h hclose).2
  | closeAll => exact (law.closeAll h hperform).2
  | write | read | flush | system => exact hcloses.elim

theorem performAll (law : OutputLaw commands Inv allowed) {ops : List Operation}
    (h : Standing commands Inv st st.outputs b)
    (hallowed : ∀ x ∈ ops.flatMap Operation.files, allowed x)
    (hperform : st.performAll ops = some st') :
    Standing commands Inv st' st'.outputs (b.followAll st ops) := by
  induction ops generalizing st b with
  | nil =>
    cases hperform
    exact h
  | cons op ops ih =>
    obtain ⟨st₁, hfirst, hrest⟩ := Streams.performAll_cons hperform
    rw [List.flatMap_cons] at hallowed
    obtain ⟨hallowed₁, hallowed₂⟩ := List.forall_mem_append.mp hallowed
    rw [Books.followAll, hfirst]
    exact ih (law.perform h hallowed₁ hfirst) hallowed₂ hrest

end OutputLaw

end Awk.Host
