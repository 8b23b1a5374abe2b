import Mathlib
import Awk.Proofs.Shell.Files
import Awk.Proofs.Streams.Outputs

/-! What is written to files is there, in order: what a file holds and what is still collected make
up what the books say, whatever the commands do as long as they leave the files alone that are open
for output. -/

namespace Awk.Host

open Records (Bytes bytesOf)

/-- The commands leave each file that is open for output, or being closed, where and as it is. -/
def Commands.Spare (commands : Commands) : Prop :=
  ∀ (now : Moment) (c : Call) (w : World), ∀ x ∈ now.writing,
    w.disk.SameAt (commands.answer now c w).2.disk x

/-- The commands give no file a second name. -/
def Commands.KeepSound (commands : Commands) : Prop :=
  ∀ (now : Moment) (c : Call) (w : World), w.disk.Sound → (commands.answer now c w).2.disk.Sound

variable {st st' : Streams} {n : Nat} {o o' : Output} {content : Bytes} {text : String}
  {commands : Commands}

/-- An output to a file that holds some content together with what is collected. -/
inductive Output.Holds (d : Disk) (n : Nat) (content : Bytes) : Output → Prop
  | file {position : Option Nat} {pending : Pending} : d.AtEnd n position →
    d.bytes n ++ pending.bytes = content →
    Output.Holds d n content (.writer ⟨.file (.file n) position, pending⟩)

theorem Output.Holds.isFile {d : Disk} (h : o.Holds d n content) : o.isFile := by
  cases h
  rfl

theorem store_file {position position' : Option Nat} {s : Bytes} (h : st.disk.AtEnd n position)
    (hstore : st.store (.file n) position s = .ok (position', st')) :
    st'.disk.AtEnd n position' ∧ st.disk.Adds st'.disk n s := by
  cases hstore
  have hadds := Disk.adds_write s h
  refine ⟨?_, hadds⟩
  obtain rfl | rfl := h
  · exact .inl rfl
  · right
    show _ = some ((st.disk.write n _ s).bytes n).length
    rw [hadds.bytes, List.length_append]
    rfl

/-- Names that lead to files and nothing else, each to its own. -/
structure DistinctFiles (names : List String) : Prop where
  regular : ∀ x ∈ names, Disk.device? (Path.ofString x).key = none
  apart : ∀ x ∈ names, ∀ y ∈ names, (Path.ofString x).key = (Path.ofString y).key → x = y

instance (names : List String) : Decidable (DistinctFiles names) :=
  decidable_of_iff ((∀ x ∈ names, Disk.device? (Path.ofString x).key = none) ∧
    ∀ x ∈ names, ∀ y ∈ names, (Path.ofString x).key = (Path.ofString y).key → x = y)
    ⟨fun h => ⟨h.1, h.2⟩, fun h => ⟨h.regular, h.apart⟩⟩

theorem DistinctFiles.mono {names names' : List String} (h : DistinctFiles names)
    (hsub : ∀ x ∈ names', x ∈ names) : DistinctFiles names' :=
  ⟨fun x hx => h.regular x (hsub x hx), fun x hx y hy => h.apart x (hsub x hx) y (hsub y hy)⟩

/-- An output is as the books say. -/
inductive Opened.Agrees (names : List String) (d : Disk) (name : String) : Output → Opened → Prop
  | file {n : Nat} {o : Output} {e : Opened} : e.kind ≠ .pipe → name ∈ names →
    d.locate name = .ok (.file n) → (Path.ofString name).directory = false →
    o.Holds d n e.content → Agrees names d name o e
  | pipe {child : Nat} {pending : Pending} {e : Opened} : e.kind = .pipe →
    Agrees names d name (.writer ⟨.command child, pending⟩) e

/-- All open outputs are as the books say. -/
structure Recorded (names : List String) (d : Disk) (_ : List Child)
    (outputs : List (String × Output)) (b : Books) : Prop where
  sound : d.Sound
  entries : Matched (Opened.Agrees names d) outputs b.opened

theorem Output.Holds.congr {d d' : Disk} (h : o.Holds d n content) (hbytes : d'.bytes n = d.bytes n) :
    o.Holds d' n content := by
  obtain ⟨hend, hcontent⟩ := h
  refine .file ?_ ?_
  · rw [Disk.AtEnd, hbytes]
    exact hend
  · rw [hbytes]
    exact hcontent

theorem Opened.Agrees.congr {names : List String} {d d' : Disk} {name : String} {e : Opened}
    (h : Opened.Agrees names d name o e)
    (hsame : o.isFile → name ∈ names → d.SameAt d' name) :
    Opened.Agrees names d' name o e := by
  cases h with
  | pipe hkind => exact .pipe hkind
  | file hkind hname hlocate hplain hholds =>
    obtain ⟨hlocate', hbytes⟩ := hsame hholds.isFile hname _ hlocate
    exact .file hkind hname hlocate' hplain (hholds.congr hbytes)

/-- A text that is collected is written. -/
theorem Opened.Agrees.collect {names : List String} {d : Disk} {name : String} {w : Writer}
    {e : Opened} (h : Opened.Agrees names d name (.writer w) e) (kind : OutputKind) (text : String) :
    Opened.Agrees names d name
      (.writer { w with pending := w.pending.push (bytesOf text) }) (e.add kind text) := by
  obtain ⟨sink, pending⟩ := w
  cases h with
  | pipe hkind => exact .pipe hkind
  | file hkind hname hlocate hplain hholds =>
    obtain ⟨hend, hcontent⟩ := hholds
    refine .file hkind hname hlocate hplain (.file hend ?_)
    rw [Opened.content_add, ← hcontent, Pending.bytes_push, List.append_assoc]

namespace Recorded

variable {names : List String} {d d' : Disk} {children children' : List Child}
  {outputs : List (String × Output)} {b : Books} {name : String} {e : Opened}

/-- An entry is put where the rest is left as it is. -/
theorem put (h : Recorded names d children outputs b) (hsound : d'.Sound)
    (hagrees : Opened.Agrees names d' name o e)
    (hsame : ∀ x ∈ names, x ≠ name → d.SameAt d' x) {b' : Books}
    (hopened : b'.opened = putEntry name e b.opened) :
    Recorded names d' children' (putEntry name o outputs) b' where
  sound := hsound
  entries := hopened ▸ h.entries.put name hagrees fun x _ _ hne hagrees' =>
    hagrees'.congr fun _ hmem => hsame x hmem hne

/-- An output is put in place of one that the books say the same of. -/
theorem replace (h : Recorded names d children outputs b) (hsound : d'.Sound)
    (he : b.opened.lookup name = some e) (hagrees : Opened.Agrees names d' name o e)
    (hsame : ∀ x ∈ names, x ≠ name → d.SameAt d' x) :
    Recorded names d' children' (putEntry name o outputs) b :=
  h.put hsound hagrees hsame (putEntry_of_lookup he).symm

/-- Adding to the file of one name leaves those of the others. -/
theorem sameAt_of_adds (h : Recorded names d children outputs b) (hnames : DistinctFiles names)
    (hname : name ∈ names) (hlocate : d.locate name = .ok (.file n)) {s : Bytes}
    (hadds : d.Adds d' n s) : ∀ x ∈ names, x ≠ name → d.SameAt d' x := by
  intro x hx hne
  apply hadds.sameAt
  intro hx'
  have hkey : (Path.ofString x).key ≠ (Path.ofString name).key :=
    fun hkey => hne (hnames.apart x hx name hname hkey)
  exact h.sound.ne_of_locate hx' hlocate hkey rfl

/-- A file that is opened holds what it held, where that is kept, and else nothing. -/
theorem opened (h : Recorded names d children outputs b) (hnames : DistinctFiles names)
    {kind : OutputKind} {target : Disk.Writable} (hkind : kind ≠ .pipe) (hname : name ∈ names)
    (hopen : d.openForWriting name (kind = .append) = .ok (target, d')) :
    Recorded names d' children
      (putEntry name
        (.writer ⟨.file target (if kind = .append then none else some 0), .empty⟩) outputs)
      (b.open_ d kind name) := by
  obtain ⟨hplain, ⟨dev, -, -, hdevice⟩ | ⟨n, rfl, hlocate, rfl⟩ | ⟨key, hvacant, rfl, rfl⟩⟩ :=
    Disk.openForWriting_cases hopen
  · have hdevice' := Disk.device_of_locate hdevice
    rw [hnames.regular _ hname] at hdevice'
    cases hdevice'
  · have hother (x : String) (hx : x ∈ names) (hne : x ≠ name) : d.locate x ≠ .ok (.file n) := by
      intro hx'
      have hkey : (Path.ofString x).key ≠ (Path.ofString name).key :=
        fun hkey => hne (hnames.apart x hx name hname hkey)
      exact h.sound.ne_of_locate hx' hlocate hkey rfl
    by_cases happend : kind = .append
    · subst happend
      simp only [decide_true, if_true]
      refine h.put h.sound (.file hkind hname hlocate hplain ?_) (fun x _ _ => .refl _ x)
        (b.opened_open d .append name)
      refine .file (.inl rfl) ?_
      rw [Books.fresh, if_pos rfl, Disk.read_of_locate hlocate hplain]
      rfl
    · simp only [happend, decide_false, if_false, Bool.false_eq_true]
      refine h.put (h.sound.setBytes n []) (.file hkind hname hlocate hplain ?_)
        (fun x hx hne => Disk.sameAt_setBytes [] (hother x hx hne)) (b.opened_open d kind name)
      refine .file (.inr ?_) ?_
      · rw [Disk.bytes_setBytes, if_pos rfl]
        rfl
      · rw [Disk.bytes_setBytes, if_pos rfl, Books.fresh, if_neg happend]
        rfl
  · obtain ⟨rfl, -⟩ := Disk.locate_vacant hvacant
    have hbytes : (d.create (Path.ofString name).key).2.bytes d.next = [] := by
      rw [Disk.bytes_create, if_pos rfl]
    refine h.put (h.sound.create _) (.file hkind hname (Disk.locate_create hvacant) hplain ?_)
      (fun x hx hne => Disk.sameAt_create h.sound fun hkey =>
        hne (hnames.apart x hx name hname hkey.symm)) (b.opened_open d kind name)
    refine .file ?_ ?_
    · split
      · exact .inl rfl
      · right
        rw [hbytes]
        rfl
    · rw [hbytes, Books.fresh, Disk.read_of_vacant hvacant]
      simp [Opened.content, Opened.written, Except.toOption]

theorem law (hsound : commands.KeepSound) (hspare : commands.Spare) (hnames : DistinctFiles names) :
    OutputLaw commands (Recorded names) (· ∈ names) where
  call c h hwriting := ⟨hsound _ c _ h.sound, h.entries.mono fun x o e ho hagrees =>
    hagrees.congr fun hfile _ => hspare _ c _ x (hwriting x o ho hfile)⟩
  listener _ h := ⟨h.sound, h.entries⟩
  command d' h _ := h.put h.sound (.pipe rfl) (fun x _ _ => .refl _ x) (Books.opened_open _ d' _ _)
  errors h _ _ hname := by
    have hdevice : Disk.device? (Path.ofString "/dev/stderr").key = some .errors := by cbv
    rw [hnames.regular _ hname] at hdevice
    cases hdevice
  file h _ hkind hname hopen := h.opened hnames hkind hname hopen
  complain kind text h ho he := by
    cases h.entries.rel ho he with
    | file _ _ _ _ hholds => cases hholds
  collect kind text h ho he :=
    h.put h.sound ((h.entries.rel ho he).collect kind text) (fun x _ _ => .refl _ x) rfl
  keep {_ _ _ _ _ sink pending rest} h ho hbytes := by
    obtain ⟨e, he, hagrees⟩ := h.entries.exists_right ho
    refine h.replace h.sound he ?_ fun x _ _ => .refl _ x
    cases hagrees with
    | pipe hkind => exact .pipe hkind
    | file hkind hname hlocate hplain hholds =>
      obtain ⟨hend, hcontent⟩ := hholds
      exact .file hkind hname hlocate hplain (.file hend (hbytes ▸ hcontent))
  store {st st' _ _ _ _ _ _ _ pending rest s} h ho hbytes hstore := by
    obtain ⟨e, he, hagrees⟩ := h.entries.exists_right ho
    cases hagrees with
    | file hkind hname hlocate hplain hholds =>
      obtain ⟨hend, hcontent⟩ := hholds
      obtain ⟨hend', hadds⟩ := store_file hend hstore
      refine h.replace (hadds.sound h.sound) he ?_ (h.sameAt_of_adds hnames hname hlocate hadds)
      refine .file hkind hname ((hadds.locate _).trans hlocate) hplain (.file hend' ?_)
      rw [hadds.bytes, List.append_assoc, ← hbytes, hcontent]
  give {_ _ _ _ _ _ pending rest s} h ho hbytes := by
    obtain ⟨e, he, hagrees⟩ := h.entries.exists_right ho
    cases hagrees with
    | pipe hkind => exact h.replace h.sound he (.pipe hkind) fun x _ _ => .refl _ x
    | file _ _ _ _ hholds => cases hholds
  drop {_ _ _ _ name _} h _ _ := ⟨h.sound, h.entries.drop name⟩

end Recorded

/-! When nothing is held back. -/

section Completed

variable {names : List String} {b : Books} {name : String} {e : Opened}

theorem Opened.Agrees.read_prefix {d : Disk} (h : Opened.Agrees names d name o e)
    (hkind : e.kind ≠ .pipe) : ∃ s, d.read name = .ok s ∧ s <+: e.content := by
  cases h with
  | pipe hpipe => exact absurd hpipe hkind
  | file _ _ hlocate hplain hholds =>
    obtain ⟨-, hcontent⟩ := hholds
    exact ⟨_, Disk.read_of_locate hlocate hplain, _, hcontent⟩

theorem Opened.Agrees.contains_settled {d : Disk} (h : Opened.Agrees names d name o e)
    (hkind : e.kind ≠ .pipe) (hsettled : o.Settled) : d.Contains name e.content := by
  cases h with
  | pipe hpipe => exact absurd hpipe hkind
  | file _ _ hlocate hplain hholds =>
    obtain ⟨-, hcontent⟩ := hholds
    rw [← hcontent, show Pending.bytes _ = [] from hsettled, List.append_nil]
    exact .file hlocate hplain

/-- A file takes what is collected. -/
theorem Opened.Agrees.flush_ok (h : Opened.Agrees names st.disk name o e) (hkind : e.kind ≠ .pipe) :
    (st.flushOutput o).1 = .ok () := by
  cases h with
  | pipe hpipe => exact absurd hpipe hkind
  | @file n o _ _ _ _ _ hholds =>
    obtain ⟨-, -⟩ := hholds
    rename_i position pending
    have htransfers := st.transfers (.file (.file n) position) pending.bytes
    show (st.flushWriter ⟨.file (.file n) position, pending⟩).1 = .ok ()
    unfold Streams.flushWriter
    dsimp only
    revert htransfers
    generalize st.transfer _ pending.bytes = result
    rintro (_ | _ | hstore)
    · rfl
    · rfl
    · cases hstore

section Law

variable (hsound : commands.KeepSound) (hspare : commands.Spare) (hnames : DistinctFiles names)
  (h : Standing commands (Recorded names) st st.outputs b)
include hsound hspare hnames h

theorem flushEntry_settled (ho : st.outputs.lookup name = some o)
    (he : b.opened.lookup name = some e) (hkind : e.kind ≠ .pipe)
    (ho' : (st.flushEntry (name, o)).outputs.lookup name = some o') : o'.Settled := by
  have hsettled := ((Recorded.law hsound hspare hnames).flushOutput h ho).2
    ((h.holds.entries.rel ho he).flush_ok hkind)
  have hlookup : (putEntry name (st.flushOutput o).2.1 (st.flushOutput o).2.2.outputs).lookup name =
      some o' := ho'
  rw [lookup_putEntry, if_pos rfl] at hlookup
  cases hlookup
  exact hsettled

theorem flushAll_settled (ho : st.flushAll.outputs.lookup name = some o)
    (he : b.opened.lookup name = some e) (hkind : e.kind ≠ .pipe) : o.Settled := by
  have hall : Standing commands (Recorded names) st.flushAll st.flushAll.outputs b ∧
      ∀ x o e, st.flushAll.outputs.lookup x = some o →
        x ∉ ([] : List (String × Output)).map (·.1) → b.opened.lookup x = some e →
        e.kind ≠ .pipe → o.Settled := by
    apply Streams.flushAll_induction h.nodup (Q := fun entries st =>
      Standing commands (Recorded names) st st.outputs b ∧
        ∀ x o e, st.outputs.lookup x = some o → x ∉ entries.map (·.1) →
          b.opened.lookup x = some e → e.kind ≠ .pipe → o.Settled)
    · refine ⟨h.congr ⟨rfl, rfl, rfl, rfl⟩ rfl rfl, fun x o _ hx hmem => ?_⟩
      obtain ⟨l₁, l₂, heq, -⟩ := List.lookup_eq_some_iff.mp hx
      exact absurd (List.mem_map.mpr ⟨(x, o), by rw [heq]; simp, rfl⟩) hmem
    · intro entries name o st ⟨hstanding, hsettled⟩ hopen
      refine ⟨(Recorded.law hsound hspare hnames).flushEntry hstanding hopen,
        fun x o' e hx hmem he hkind => ?_⟩
      by_cases hname : x = name
      · subst hname
        exact flushEntry_settled hsound hspare hnames hstanding hopen he hkind hx
      · have hothers : (putEntry name (st.flushOutput o).2.1
            (st.flushOutput o).2.2.outputs).lookup x = some o' := hx
        rw [lookup_putEntry, if_neg hname, (st.flushOutput_tables o).outputs] at hothers
        exact hsettled x o' e hothers (by simpa [hname] using hmem) he hkind
  exact hall.2 name o e ho (by simp) he hkind

/-- Where a name is completed, its file has all that has been written. -/
theorem complete_at {op : Operation} (hop : st.perform op = ([], st'))
    (he : b.opened.lookup name = some e) (hkind : e.kind ≠ .pipe) (hcompletes : op.Completes name) :
    st'.disk.Contains name e.content := by
  have hlaw := Recorded.law hsound hspare hnames
  have hflushed (hsettled : ∀ o, st'.outputs.lookup name = some o → o.Settled)
      (hstanding : Standing commands (Recorded names) st' st'.outputs b) :
      st'.disk.Contains name e.content := by
    obtain ⟨o, ho, hagrees⟩ := hstanding.holds.entries.exists_left he
    exact hagrees.contains_settled hkind (hsettled o ho)
  have hclosed (hcloses : op.Closes name) : st'.disk.Contains name e.content := by
    obtain ⟨outputs, -, hholds, hsettled⟩ := hlaw.perform_closed h hcloses hop
    obtain ⟨o, ho, hagrees⟩ := hholds.entries.exists_left he
    exact hagrees.contains_settled hkind (hsettled name o hcloses ho)
  cases op with
  | write kind x text => cases hcompletes
  | read kind x separator => cases hcompletes
  | close x => exact hclosed hcompletes
  | closeAll => exact hclosed hcompletes
  | flush x =>
    refine hflushed (fun o ho => ?_) (hlaw.perform h (List.forall_mem_nil _) hop)
    cases x with
    | none =>
      cases hop
      exact flushAll_settled hsound hspare hnames h ho he hkind
    | some x =>
      cases hcompletes
      obtain ⟨o', ho', -⟩ := h.holds.entries.exists_left he
      obtain ⟨-, rfl⟩ := Prod.mk.inj hop
      refine flushEntry_settled hsound hspare hnames h ho' he hkind ?_
      have hflush : (st.flush (some name)).2 = st.flushEntry (name, o') := by
        unfold Streams.flush
        dsimp only
        rw [ho']
        rfl
      rwa [← hflush]
  | system command =>
    refine hflushed (fun o ho => ?_) (hlaw.perform h (List.forall_mem_nil _) hop)
    have houtputs : (st.system command).2.outputs = st.flushAll.outputs := by
      unfold Streams.system
      dsimp only
      split <;> rfl
    have hst' : st' = (st.system command).2 := by
      rw [Streams.perform] at hop
      split at hop <;> cases hop
      rename_i hsystem
      rw [hsystem]
    rw [hst', houtputs] at ho
    exact flushAll_settled hsound hspare hnames h ho he hkind

end Law

theorem start_standing (commands : Commands)
    {Inv : Disk → List Child → List (String × Output) → Books → Prop} {disk : Disk} (input : Bytes) (console : ConsoleKind) (h : Inv disk [] [] .empty) :
    Standing commands Inv (.startWith commands disk input console) [] .empty :=
  ⟨rfl, List.nodup_nil, fun _ => rfl, nofun, h⟩

end Completed

/-- Whatever is done with streams of files, as long as nothing fails and the commands change no file
that is open for output, at whatever moment they run: what a file holds is the start of what it held
when it was opened, where that is kept, and all that has been written to it since, in order; and it
holds all of that after a flush, a close or a command. -/
theorem files_complete (hsound : commands.KeepSound) (hspare : commands.Spare) {disk : Disk}
    (hdisk : disk.Sound) (input : Bytes) (console : ConsoleKind) (ops : List Operation)
    (op : Operation) (hpipe : ∀ op' ∈ ops ++ [op], op'.isPipe = false)
    (hnames : DistinctFiles ((ops ++ [op]).flatMap Operation.files))
    (hops : (Streams.startWith commands disk input console).performAll ops = some st)
    (hop : st.perform op = ([], st')) :
    let books := Books.followAll .empty (.startWith commands disk input console) ops
    (∀ name e, (books.follow st op).opened.lookup name = some e →
      ∃ s, st'.disk.read name = .ok s ∧ s <+: e.content) ∧
    ∀ name e, books.opened.lookup name = some e → op.Completes name →
      st'.disk.read name = .ok e.content := by
  intro books
  obtain ⟨hpipe₁, hpipe₂⟩ := List.forall_mem_append.mp hpipe
  have hlaw := Recorded.law hsound hspare hnames
  have hstart : Standing commands (Recorded ((ops ++ [op]).flatMap Operation.files))
      (.startWith commands disk input console) [] .empty :=
    start_standing commands input console ⟨hdisk, fun _ => .none⟩
  rw [List.flatMap_append] at hlaw hstart
  have hst : Standing commands _ st st.outputs books :=
    hlaw.performAll hstart (fun x hx => List.mem_append_left _ hx) hops
  have hst' := hlaw.perform hst (fun x hx => List.mem_append_right _ (by simpa using hx)) hop
  have hfiles : ∀ x e, books.opened.lookup x = some e → e.kind ≠ .pipe :=
    Books.kind_followAll nofun hpipe₁
  refine ⟨fun name e he => ?_, fun name e he hcompletes => ?_⟩
  · obtain ⟨o, -, hagrees⟩ := hst'.holds.entries.exists_left he
    exact hagrees.read_prefix
      (Books.kind_follow hfiles (hpipe₂ op (List.mem_singleton_self op)) name e he)
  · rw [List.flatMap_append] at hnames
    exact (complete_at hsound hspare hnames hst hop he (hfiles name e he) hcompletes).read

/-- Commands that do as others do, but that nothing becomes of a change to a file that is open for
output. -/
def Commands.careful (commands : Commands) : Commands where
  answer now c w :=
    let result := commands.answer now c w
    if ∀ x ∈ now.writing, w.disk.SameAt result.2.disk x then result
    else (result.1, { result.2 with disk := w.disk })

theorem Commands.spare_careful (commands : Commands) : commands.careful.Spare := by
  intro now c w x hx
  unfold Commands.careful
  dsimp only
  split
  · rename_i hsame
    exact hsame x hx
  · exact .refl _ x

theorem Commands.KeepSound.careful (h : commands.KeepSound) : commands.careful.KeepSound := by
  intro now c w hw
  unfold Commands.careful
  dsimp only
  split
  · exact h now c w hw
  · exact hw

theorem performAll_getD (start : Streams) (ops : List Operation)
    (h : (start.performAll ops).isSome) :
    start.performAll ops = some ((start.performAll ops).getD start) := by
  obtain ⟨st, hst⟩ := Option.isSome_iff_exists.mp h
  rw [hst]
  rfl

/-- A file is opened behind what is in it and another one afresh, closed and opened again, with
reads and a command between. -/
theorem files_complete_reopened :
    let commands := Shell.commands.careful
    let start := Streams.startWith commands (Disk.empty.add "log" (bytesOf "old\n")) [] .silent
    let ops : List Operation := [.write .append "log" "b\n", .write .truncate "out" "a\n",
      .write .append "out" "c\n", .close "out", .write .append "out" "d\n",
      .read .file "log" "\n", .read .command "cat out" "\n", .write .truncate "out" "e\n"]
    let op := Operation.flush none
    commands.KeepSound ∧ commands.Spare ∧ ∃ st st',
      (Disk.empty.add "log" (bytesOf "old\n")).Sound ∧
      (∀ op' ∈ ops ++ [op], op'.isPipe = false) ∧
      DistinctFiles ((ops ++ [op]).flatMap Operation.files) ∧
      start.performAll ops = some st ∧ st.perform op = ([], st') ∧
      st'.disk.read "log" = .ok (bytesOf "old\nb\n") ∧
      st'.disk.read "out" = .ok (bytesOf "a\nc\nd\ne\n") := by
  intro commands start ops op
  have hsound : commands.KeepSound := .careful Shell.keepSound
  have hspare : commands.Spare := Shell.commands.spare_careful
  have hdisk : (Disk.empty.add "log" (bytesOf "old\n")).Sound := Disk.sound_empty.add _ _
  have hpipe : ∀ op' ∈ ops ++ [op], op'.isPipe = false := by decide
  have hnames : DistinctFiles ((ops ++ [op]).flatMap Operation.files) := by decide +kernel
  have hops := performAll_getD start ops (by decide +kernel)
  have hop : ((start.performAll ops).getD start).perform op =
      ([], (((start.performAll ops).getD start).perform op).2) := rfl
  obtain ⟨-, hwhole⟩ :=
    files_complete hsound hspare hdisk [] .silent ops op hpipe hnames hops hop
  have hlog : ((Books.followAll .empty start ops).opened.lookup "log").map (·.content) =
      some (bytesOf "old\nb\n") := by decide +kernel
  have hout : ((Books.followAll .empty start ops).opened.lookup "out").map (·.content) =
      some (bytesOf "a\nc\nd\ne\n") := by decide +kernel
  obtain ⟨e, he, hlog⟩ := Option.map_eq_some_iff.mp hlog
  obtain ⟨e', he', hout⟩ := Option.map_eq_some_iff.mp hout
  refine ⟨hsound, hspare, _, _, hdisk, hpipe, hnames, hops, hop, ?_, ?_⟩
  · rw [hwhole "log" e he trivial, hlog]
  · rw [hwhole "out" e' he' trivial, hout]

/-- A command that writes to an open file takes the place of what has been written. -/
theorem files_overwritten :
    let start := Streams.startWith Shell.commands .empty [] .silent
    let ops : List Operation := [.write .truncate "out" "a\n"]
    let op := Operation.system "echo b > out"
    ∃ st st', start.performAll ops = some st ∧ st.perform op = ([], st') ∧
      (∀ op' ∈ ops ++ [op], op'.isPipe = false) ∧
      DistinctFiles ((ops ++ [op]).flatMap Operation.files) ∧
      (Books.followAll .empty start ops).opened.lookup "out" =
        some ⟨.truncate, [], [(.truncate, "a\n")], 0⟩ ∧
      op.Completes "out" ∧ st'.disk.read "out" = .ok (bytesOf "b\n") ∧
      ¬ bytesOf "b\n" <+: (Opened.mk .truncate [] [(.truncate, "a\n")] 0).content := by
  intro start ops op
  have hops := performAll_getD start ops (by decide +kernel)
  have hop : ((start.performAll ops).getD start).perform op =
      ([], (((start.performAll ops).getD start).perform op).2) :=
    Prod.ext (List.isEmpty_iff.mp (by decide +kernel)) rfl
  exact ⟨_, _, hops, hop, by decide, by decide +kernel, by decide +kernel, trivial,
    by decide +kernel, by decide +kernel⟩

end Awk.Host
