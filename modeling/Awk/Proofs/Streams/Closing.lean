import Awk.Proofs.Input.Reading
import Awk.Proofs.Streams.Outputs

/-! What is left open when a name is closed. A close drops the output first, and then the input,
unless the output fails: an output that does not take what has been collected for it, or whose
command cannot be waited for, keeps the input of its name open, wherever that has been read up to. -/

namespace Awk.Host

open Records

/-- What is collected finds no taker: a device is full, or a command breaks off. -/
inductive Writer.Refused (st : Streams) : Writer → Prop
  | full {position : Option Nat} {pending : Pending} : pending.bytes ≠ [] →
    Refused st ⟨.file (.device .full) position, pending⟩
  | broken {child : Nat} {pending : Pending} {e : Cause × Nat} : pending.bytes ≠ [] →
    (st.call (.send child pending.bytes)).1 = .error e → Refused st ⟨.command child, pending⟩

/-- The output cannot be ended: what is collected is refused, or its command cannot be waited for. -/
inductive Output.Stuck (st : Streams) : Output → Prop
  | refused {w : Writer} : w.Refused st → Stuck st (.writer w)
  | lost {child : Nat} {pending : Pending} {cause : Cause} :
    ((st.flushWriter ⟨.command child, pending⟩).2.2.await child).1 = .error cause →
    Stuck st (.writer ⟨.command child, pending⟩)

/-- What an output is when it has just been opened: nothing is collected, and it stands at the start
or at the end of its file. -/
inductive Output.Fresh : OutputKind → Output → Prop
  | truncate (target : Disk.Writable) :
    Fresh .truncate (.writer ⟨.file target (some 0), .empty⟩)
  | append (target : Disk.Writable) : Fresh .append (.writer ⟨.file target none, .empty⟩)
  | pipe (child : Nat) : Fresh .pipe (.writer ⟨.command child, .empty⟩)
  | errors {kind : OutputKind} : kind ≠ .pipe → Fresh kind .errors

namespace Streams

variable {st st' : Streams} {name : String}

/-- The output that is open under the name cannot be ended. -/
def Stuck (st : Streams) (name : String) : Prop :=
  ∃ o, st.outputs.lookup name = some o ∧
    o.Stuck { st with outputs := dropEntry name st.outputs, closing := st.writing }

/-- The command that is read from under the name cannot be waited for once the output is ended. -/
def Lost (st : Streams) (name : String) : Prop :=
  ∃ i cause, st.inputs.lookup name = some i ∧
    ((closeOutput { st with closing := st.writing } name).2.endInput i).1 = .error cause

/-- No output is open under the name: what is written to it next goes to one that is opened then. -/
structure WritesAfresh (st : Streams) (name : String) : Prop where
  closed : st.outputs.lookup name = none
  opens : ∀ kind, (st.obtainOutput kind name).1 = (st.openOutput kind name).1
  fresh : ∀ kind o, (st.obtainOutput kind name).1 = .ok o → o.Fresh kind

/-- No input is open under the name: what is read from it next is the first record of all that its
file holds, or of all that the command prints that is started then. Standard input goes on where its
last reader left it. -/
structure ReadsAfresh (st : Streams) (name : String) : Prop where
  closed : st.inputs.lookup name = none
  file : ∀ n, st.disk.openForReading name = .ok (.file n) → name ≠ "-" → name ≠ "/dev/stdin" →
    ∀ separator, (st.read .file name separator).1 =
      .ok ((next (bytesOf separator) (st.disk.bytes n)).1.map textOf)
  input : name = "-" ∨ name = "/dev/stdin" → ∀ separator, (st.read .file name separator).1 =
    .ok ((next (bytesOf separator) (st.inputBuffer ++ st.input)).1.map textOf)
  command : name.toList.contains '\x00' = false → ∀ separator,
    (st.read .command name separator).1 = match (st.flushAll.call (.listen name)).1 with
      | .ok blocks => .ok ((next (bytesOf separator) blocks.flatten).1.map textOf)
      | .error cause => .error ⟨.spawn, name, cause⟩

theorem openOutput_fresh {kind : OutputKind} {o : Output}
    (h : st.openOutput kind name = (.ok o, st')) : o.Fresh kind := by
  obtain ⟨rfl, -, rfl, -⟩ | ⟨hkind, -, rfl, -⟩ | ⟨hkind, target, d', -, rfl, -⟩ :=
    openOutput_cases h
  · exact .pipe _
  · exact .errors hkind
  · cases kind with
    | truncate => exact .truncate target
    | append => exact .append target
    | pipe => exact absurd rfl hkind

theorem writesAfresh (h : st.outputs.lookup name = none) : st.WritesAfresh name := by
  have hopens (kind : OutputKind) :
      (st.obtainOutput kind name).1 = (st.openOutput kind name).1 := by
    unfold obtainOutput
    rw [h]
    dsimp only
    split
    · rename_i hopen
      rw [hopen]
    · rfl
  refine ⟨h, hopens, fun kind o hobtain => ?_⟩
  rw [hopens] at hobtain
  exact openOutput_fresh (Prod.ext hobtain rfl)

/-- The first read of a name gives the first record of what there is to read once it is open. -/
theorem read_opening (h : st.inputs.lookup name = none) {kind : InputKind} {i : Input}
    (hopen : st.openInput kind name = (.ok i, st')) (hsource : i.reader.source ≠ .directory)
    (separator : String) :
    (st.read kind name separator).1 =
      .ok ((next (bytesOf separator) (st'.toRead i.reader)).1.map textOf) := by
  have hobtain : st.obtainInput kind name =
      (.ok i, { st' with inputs := putEntry name i st'.inputs }) := by
    unfold obtainInput
    rw [h]
    dsimp only
    rw [hopen]
  obtain ⟨r', st₁, hread, -⟩ :=
    @readRecord_eq { st' with inputs := putEntry name i st'.inputs } i.reader hsource separator
  show (st.readFrom kind name separator).1 = _
  unfold readFrom
  rw [hobtain]
  dsimp only
  rw [hread]
  rfl

theorem readsAfresh (h : st.inputs.lookup name = none) : st.ReadsAfresh name where
  closed := h
  file n hfile hdash hinput separator := by
    have hopen : st.openInput .file name = (.ok ⟨⟨[], .file n 0⟩, none⟩, st) := by
      simp [openInput, openFile, hfile, hdash, hinput]
    exact read_opening h hopen (fun hdir => by cases hdir) separator
  input hname separator := by
    have hopen : st.openInput .file name = (.ok ⟨standardInput, none⟩, st) := by
      simp [openInput, hname]
    exact read_opening h hopen (fun hdir => by cases hdir) separator
  command hname separator := by
    have hcall : st.flushAll.call (.listen name) =
        ((st.flushAll.call (.listen name)).1, (st.flushAll.call (.listen name)).2) := rfl
    cases hanswer : (st.flushAll.call (.listen name)).1 with
    | ok blocks =>
      have hopen : st.openInput .command name =
          (.ok ⟨⟨[], .blocks blocks⟩, some st.flushAll.children.length⟩,
            ((st.flushAll.call (.listen name)).2.addChild name).2) := by
        unfold openInput
        dsimp only
        rw [hname, if_neg Bool.false_ne_true, hcall, hanswer]
        rfl
      exact read_opening h hopen (fun hdir => by cases hdir) separator
    | error cause =>
      have hopen : st.openInput .command name =
          (.error ⟨.spawn, name, cause⟩, (st.flushAll.call (.listen name)).2) := by
        unfold openInput
        dsimp only
        rw [hname, if_neg Bool.false_ne_true, hcall, hanswer]
      show (st.readFrom .command name separator).1 = _
      unfold readFrom obtainInput
      rw [h]
      dsimp only
      rw [hopen]

/-! Ending an output. -/

theorem store_error_iff (st : Streams) (target : Disk.Writable) (position : Option Nat) (s : Bytes) :
    (∃ cause, st.store target position s = .error cause) ↔ target = .device .full := by
  cases target with
  | file n => simp [store]
  | device d => cases d <;> simp [store]

theorem flushWriter_error_iff (st : Streams) (w : Writer) :
    (∃ cause, (st.flushWriter w).1 = .error cause) ↔ w.Refused st := by
  obtain ⟨sink, pending⟩ := w
  unfold flushWriter transfer
  by_cases hempty : pending.bytes = []
  · rw [hempty]
    refine iff_of_false (by simp) ?_
    rintro (hpending | ⟨hpending, -⟩) <;> exact hpending hempty
  · dsimp only
    rw [if_neg (mt List.isEmpty_iff.mp hempty)]
    cases sink with
    | file target position =>
      have hrefused : Writer.Refused st ⟨.file target position, pending⟩ ↔ target = .device .full :=
        ⟨fun h => by cases h; rfl, fun h => h ▸ .full hempty⟩
      rw [hrefused, ← store_error_iff st target position pending.bytes]
      dsimp only
      cases st.store target position pending.bytes <;> simp
    | command child =>
      have hcall : st.call (.send child pending.bytes) = ((st.call (.send child pending.bytes)).1,
        (st.call (.send child pending.bytes)).2) := rfl
      have hrefused : Writer.Refused st ⟨.command child, pending⟩ ↔
          ∃ e, (st.call (.send child pending.bytes)).1 = .error e := by
        constructor
        · rintro (_ | ⟨-, hanswer⟩)
          exact ⟨_, hanswer⟩
        · rintro ⟨e, hanswer⟩
          exact .broken hempty hanswer
      rw [hrefused]
      unfold send
      dsimp only
      rw [hcall]
      cases (st.call (.send child pending.bytes)).1 <;> simp

theorem flushWriter_command (st : Streams) (child : Nat) (pending : Pending) :
    (st.flushWriter ⟨.command child, pending⟩).2.1.sink = .command child := by
  have htransfers := st.transfers (.command child) pending.bytes
  unfold flushWriter
  dsimp only
  revert htransfers
  generalize st.transfer (.command child) pending.bytes = result
  rintro (_ | _ | _) <;> rfl

theorem finish_error_iff (st : Streams) (o : Output) :
    (∃ cause, (st.finish o).1 = .error cause) ↔ o.Stuck st := by
  cases o with
  | errors => exact iff_of_false (by simp [finish]) nofun
  | writer w =>
    obtain ⟨sink, pending⟩ := w
    have hrefused := st.flushWriter_error_iff ⟨sink, pending⟩
    have hfile := st.flushWriter_isFile ⟨sink, pending⟩
    unfold finish
    dsimp only
    cases hflush : st.flushWriter ⟨sink, pending⟩ with
    | mk result rest =>
      obtain ⟨w', st'⟩ := rest
      rw [hflush] at hrefused hfile
      cases result with
      | error cause => exact iff_of_true ⟨cause, rfl⟩ (.refused (hrefused.mp ⟨cause, rfl⟩))
      | ok _ =>
        have htaken : ¬ Writer.Refused st ⟨sink, pending⟩ := fun h => by
          obtain ⟨cause, hcause⟩ := hrefused.mpr h
          cases hcause
        cases sink with
        | file target position =>
          obtain ⟨sink', pending'⟩ := w'
          cases sink' with
          | command child => cases hfile
          | file target' position' =>
            refine iff_of_false (by simp) ?_
            rintro (h | _)
            exact htaken h
        | command child =>
          have hsink := st.flushWriter_command child pending
          rw [hflush] at hsink
          dsimp only at hsink ⊢
          rw [hsink]
          constructor
          · rintro ⟨cause, hcause⟩
            exact .lost (by rwa [hflush])
          · rintro (h | hcause)
            · exact absurd h htaken
            · rw [hflush] at hcause
              exact ⟨_, hcause⟩

theorem closeOutput_error_iff (st : Streams) (name : String) :
    (∃ failure, (st.closeOutput name).1 = .error failure) ↔
    ∃ o, st.outputs.lookup name = some o ∧
      o.Stuck { st with outputs := dropEntry name st.outputs } := by
  unfold closeOutput
  cases houtput : st.outputs.lookup name with
  | none => simp
  | some o =>
    simp only [Option.some.injEq, exists_eq_left', ← finish_error_iff]
    cases (finish { st with outputs := dropEntry name st.outputs } o).1 <;> simp [Except.mapError]

/-! Closing a name. -/

/-- Where the output can be ended, a close fails if the command that is read from cannot be waited
for. -/
theorem closeName_error_iff {status : Int} (h : (st.closeOutput name).1 = .ok status) :
    (∃ failure, (st.closeName name).1 = .error failure) ↔ ∃ i cause,
      st.inputs.lookup name = some i ∧ ((st.closeOutput name).2.endInput i).1 = .error cause := by
  have hinputs : (st.closeOutput name).2.inputs = st.inputs := (closeOutput_tables st name).inputs
  unfold closeName
  cases hclose : st.closeOutput name with
  | mk result st₁ =>
    rw [hclose] at h hinputs
    dsimp only at h hinputs ⊢
    subst h
    rw [← hinputs]
    dsimp only
    cases hinput : st₁.inputs.lookup name with
    | none => simp
    | some i =>
      have hended : (endInput { st₁ with inputs := dropEntry name st₁.inputs } i).1 =
          (st₁.endInput i).1 := by
        unfold endInput
        split <;> rfl
      dsimp only
      rw [hended]
      cases hresult : (st₁.endInput i).1 <;> simp [Except.mapError, hresult]

/-- A close that fails at the output drops that alone. -/
theorem close_of_stuck (h : st.Stuck name) : (∃ failure, (st.close name).1 = .error failure) ∧
    (st.close name).2.outputs = dropEntry name st.outputs ∧
    (st.close name).2.inputs = st.inputs := by
  obtain ⟨failure, hfailure⟩ :=
    (closeOutput_error_iff { st with closing := st.writing } name).mpr h
  have htables := closeOutput_tables { st with closing := st.writing } name
  have hclose : closeName { st with closing := st.writing } name =
      (.error failure, (closeOutput { st with closing := st.writing } name).2) := by
    unfold closeName
    split
    · rename_i houtput
      rw [houtput] at hfailure ⊢
      cases hfailure
      rfl
    · rename_i houtput
      rw [houtput] at hfailure
      cases hfailure
  unfold close whileClosing thenPause
  dsimp only
  rw [hclose]
  exact ⟨⟨failure, rfl⟩, htables.outputs, htables.inputs⟩

theorem close_of_not_stuck (h : ¬ st.Stuck name) :
    ((∃ failure, (st.close name).1 = .error failure) ↔ st.Lost name) ∧
    (st.close name).2.outputs = dropEntry name st.outputs ∧
    (st.close name).2.inputs = dropEntry name st.inputs := by
  cases houtput : (closeOutput { st with closing := st.writing } name).1 with
  | error failure =>
    exact absurd ((closeOutput_error_iff { st with closing := st.writing } name).mp
      ⟨failure, houtput⟩) h
  | ok status =>
    have htables := closeName_tables houtput
    exact ⟨closeName_error_iff houtput, htables.outputs, htables.inputs⟩

/-- Whatever becomes of a close, the output of the name is dropped. -/
theorem close_outputs (st : Streams) (name : String) :
    (st.close name).2.outputs = dropEntry name st.outputs := by
  by_cases h : st.Stuck name
  · exact (close_of_stuck h).2.1
  · exact (close_of_not_stuck h).2.1

theorem not_stuck_close (st : Streams) (name : String) : ¬ (st.close name).2.Stuck name := by
  rintro ⟨o, houtput, -⟩
  rw [close_outputs, lookup_dropEntry, if_pos rfl] at houtput
  cases houtput

/-- A close leaves nothing of the name open, so that it is written to and read from afresh, with one
exception: where the output cannot be ended, the close fails and an input of the name stays open as
it is. It takes another close to drop that. A close fails too where the command that is read from
cannot be waited for, but then its input is dropped. -/
theorem close_leaves (st : Streams) (name : String) :
    (st.close name).2.WritesAfresh name ∧
    ((st.close name).2.ReadsAfresh name ↔ ¬ (st.Stuck name ∧ (st.inputs.lookup name).isSome)) ∧
    (st.Stuck name → (st.close name).2.inputs = st.inputs) ∧
    ((∃ failure, (st.close name).1 = .error failure) ↔ st.Stuck name ∨ st.Lost name) ∧
    (∀ other, other ≠ name →
      (st.close name).2.outputs.lookup other = st.outputs.lookup other ∧
      (st.close name).2.inputs.lookup other = st.inputs.lookup other) ∧
    ((st.close name).2.close name).2.WritesAfresh name ∧
    ((st.close name).2.close name).2.ReadsAfresh name := by
  have houtput (st : Streams) : (st.close name).2.outputs.lookup name = none := by
    rw [close_outputs, lookup_dropEntry, if_pos rfl]
  have hinput {st : Streams} (h : ¬ st.Stuck name) :
      (st.close name).2.inputs.lookup name = none := by
    rw [(close_of_not_stuck h).2.2, lookup_dropEntry, if_pos rfl]
  have hother (other : String) (hne : other ≠ name) :
      (st.close name).2.outputs.lookup other = st.outputs.lookup other := by
    rw [close_outputs, lookup_dropEntry, if_neg hne]
  have hagain := not_stuck_close st name
  by_cases h : st.Stuck name
  · obtain ⟨hfails, -, hkept⟩ := close_of_stuck h
    refine ⟨writesAfresh (houtput st), ?_, fun _ => hkept, iff_of_true hfails (.inl h),
      fun other hne => ⟨hother other hne, by rw [hkept]⟩, writesAfresh (houtput _),
      readsAfresh (hinput hagain)⟩
    constructor
    · rintro ⟨hnone, -⟩ ⟨-, hopen⟩
      rw [← hkept, hnone] at hopen
      cases hopen
    · intro hnone
      refine readsAfresh ?_
      rw [hkept, ← Option.not_isSome_iff_eq_none]
      exact fun hopen => hnone ⟨h, hopen⟩
  · obtain ⟨hfails, -, hdropped⟩ := close_of_not_stuck h
    refine ⟨writesAfresh (houtput st), ?_, fun hstuck => absurd hstuck h, ?_,
      fun other hne => ⟨hother other hne, ?_⟩, writesAfresh (houtput _),
      readsAfresh (hinput hagain)⟩
    · exact ⟨fun _ hboth => h hboth.1, fun _ => readsAfresh (hinput h)⟩
    · rw [hfails, or_iff_right h]
    · rw [hdropped, lookup_dropEntry, if_neg hne]

/-- The output of a name turns out to be stuck, while the name is also read from: the close fails
and leaves the input, which the next close finds. -/
example (commands : Commands) :
    let output := Output.writer ⟨.file (.device .full) (some 0), .push .empty (bytesOf "x")⟩
    let st := { startWith commands .empty [] .silent with
      outputs := [("/dev/full", output)], inputs := [("/dev/full", ⟨.ofBytes [], none⟩)] }
    (st.close "/dev/full").1 = .error ⟨.write, "/dev/full", .noSpace⟩ ∧
      (st.close "/dev/full").2.inputs.lookup "/dev/full" = some ⟨.ofBytes [], none⟩ ∧
      ((st.close "/dev/full").2.close "/dev/full").1 = .ok 0 := by
  refine ⟨?_, ?_, ?_⟩ <;> rfl

end Streams

end Awk.Host
