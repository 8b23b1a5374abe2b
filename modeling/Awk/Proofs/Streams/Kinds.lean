import Awk.Proofs.Input.Reading
import Awk.Proofs.Streams.Contents

/-! Files and commands under one name. A stream is looked up by its name alone, so that the kind with
which the name was opened decides what all that is written or read under it reaches. -/

namespace Awk.Host

open Records (Bytes bytesOf textOf next)

variable {st st' : Streams} {b : Books} {name : String} {commands : Commands}

/-! Outputs. -/

namespace Books

variable {k : Nat} {e : Opened}

/-- An output is open that goes to the command. -/
def Feeds (b : Books) (k : Nat) : Prop :=
  ∃ name e, b.opened.lookup name = some e ∧ e.kind = .pipe ∧ e.number = k

/-- Each command that has been started has been given the start of what has been written to it, and
all of it where no output is open that goes to it. -/
structure Given (b : Books) (children : List Child) : Prop where
  length : children.length = b.started.length
  given : ∀ k c, children[k]? = some c → ∃ s, b.started[k]? = some (c.command, s) ∧
    c.given <+: s ∧ (¬ b.Feeds k → c.given = s)

theorem feeds_add (he : b.opened.lookup name = some e) (kind : OutputKind) (text : String)
    (h : b.Feeds k) : (b.add name e kind text).Feeds k := by
  obtain ⟨x, e', hx, hkind, hnumber⟩ := h
  by_cases hname : x = name
  · subst hname
    cases he.symm.trans hx
    exact ⟨x, e.add kind text, by rw [add, lookup_putEntry, if_pos rfl], hkind, hnumber⟩
  · exact ⟨x, e', by rw [add, lookup_putEntry, if_neg hname, hx], hkind, hnumber⟩

theorem feeds_open (hnone : b.opened.lookup name = none) (d : Disk) (kind : OutputKind)
    (h : b.Feeds k) : (b.open_ d kind name).Feeds k := by
  obtain ⟨x, e, hx, hkind, hnumber⟩ := h
  have hname : x ≠ name := by
    rintro rfl
    cases hnone.symm.trans hx
  exact ⟨x, e, by rw [opened_open, lookup_putEntry, if_neg hname, hx], hkind, hnumber⟩

theorem feeds_drop (h : b.Feeds k) : (b.drop name).Feeds k ∨
    ∃ e, b.opened.lookup name = some e ∧ e.kind = .pipe ∧ e.number = k := by
  obtain ⟨x, e, hx, hkind, hnumber⟩ := h
  by_cases hname : x = name
  · exact .inr ⟨e, hname ▸ hx, hkind, hnumber⟩
  · exact .inl ⟨x, e, by rw [drop, lookup_dropEntry, if_neg hname, hx], hkind, hnumber⟩

theorem started_add_file (hkind : e.kind ≠ .pipe) (name : String) (kind : OutputKind)
    (text : String) : (b.add name e kind text).started = b.started := if_neg hkind

theorem started_add_command (hkind : e.kind = .pipe) (name : String) (kind : OutputKind)
    (text : String) : (b.add name e kind text).started =
      b.started.modify e.number fun (n, s) => (n, s ++ bytesOf text) := if_pos hkind

end Books

/-- An output is a command if the name was opened as one. Then what has been written to it is what
it has been given and what is still collected. -/
inductive Opened.Serves (children : List Child) (started : List (String × Bytes)) (name : String) :
    Output → Opened → Prop
  | file {target : Disk.Writable} {position : Option Nat} {pending : Pending} {e : Opened} :
    e.kind ≠ .pipe → Serves children started name (.writer ⟨.file target position, pending⟩) e
  | errors {e : Opened} : e.kind ≠ .pipe → Serves children started name .errors e
  | command {pending : Pending} {given : Bytes} {e : Opened} : e.kind = .pipe →
    children[e.number]? = some ⟨name, given⟩ → given ++ pending.bytes = e.written →
    started[e.number]? = some (name, e.written) →
    Serves children started name (.writer ⟨.command e.number, pending⟩) e

/-- The open outputs are as the books say, and so are the commands that no output goes to. -/
structure Served (_ : Disk) (children : List Child) (outputs : List (String × Output)) (b : Books) :
    Prop where
  entries : Matched (Opened.Serves children b.started) outputs b.opened
  length : b.started.length = children.length
  rest : ∀ k c, children[k]? = some c → ¬ b.Feeds k → b.started[k]? = some (c.command, c.given)

namespace Opened.Serves

variable {children children' : List Child} {started started' : List (String × Bytes)} {o : Output}
  {e : Opened}

/-- Nothing but what has been written to the command matters. -/
theorem congr (h : Opened.Serves children started name o e)
    (hchildren : ∀ c, children[e.number]? = some c → children'[e.number]? = some c)
    (hstarted : ∀ p, started[e.number]? = some p → started'[e.number]? = some p) :
    Opened.Serves children' started' name o e := by
  cases h with
  | file hkind => exact .file hkind
  | errors hkind => exact .errors hkind
  | command hkind hchild hwritten hstart =>
    exact .command hkind (hchildren _ hchild) hwritten (hstarted _ hstart)

/-- The command of one name is not that of another. -/
theorem congr_of_ne {x : String} {given : Bytes} {k : Nat} (hx : x ≠ name)
    (hchild : children[k]? = some ⟨name, given⟩) (h : Opened.Serves children started x o e)
    (hchildren : ∀ i, i ≠ k → children'[i]? = children[i]?)
    (hstarted : ∀ i, i ≠ k → started'[i]? = started[i]?) :
    Opened.Serves children' started' x o e := by
  cases h with
  | file hkind => exact .file hkind
  | errors hkind => exact .errors hkind
  | command hkind hother hwritten hstart =>
    have hne : e.number ≠ k := by
      intro heq
      rw [heq, hchild] at hother
      cases hother
      exact hx rfl
    exact .command hkind (by rw [hchildren _ hne, hother]) hwritten (by rw [hstarted _ hne, hstart])

end Opened.Serves

namespace Served

variable {d : Disk} {children : List Child} {outputs : List (String × Output)} {o : Output}
  {e : Opened}

theorem getElem?_append {α : Type} {l : List α} {k : Nat} {a : α} (b : α) (h : l[k]? = some a) :
    (l ++ [b])[k]? = some a := by
  rw [List.getElem?_append_left (List.getElem?_eq_some_iff.mp h).1, h]

/-- A command is started to which nothing has been written. -/
theorem start (h : Served d children outputs b) (command : String) :
    Matched (Opened.Serves (children ++ [⟨command, []⟩]) (b.start command).started) outputs
      b.opened ∧ (b.start command).started.length =
      (children ++ [⟨command, []⟩] : List Child).length ∧
    ∀ k c, (children ++ [⟨command, []⟩])[k]? = some c → ¬ b.Feeds k →
      (b.start command).started[k]? = some (c.command, c.given) := by
  refine ⟨h.entries.mono fun _ _ _ _ hserves => hserves.congr (fun _ => getElem?_append _)
    fun _ => getElem?_append _, ?_, fun k c hc hfeeds => ?_⟩
  · rw [Books.start, List.length_append, List.length_append, h.length]
    rfl
  rcases Nat.lt_or_ge k children.length with hlt | hge
  · rw [List.getElem?_append_left hlt] at hc
    exact getElem?_append _ (h.rest k c hc hfeeds)
  · have hk : k = children.length := by
      have := (List.getElem?_eq_some_iff.mp hc).1
      simp at this
      omega
    subst hk
    rw [List.getElem?_concat_length] at hc
    cases hc
    rw [← h.length]
    exact List.getElem?_concat_length

/-- A name is opened that is no command. -/
theorem openFile (h : Served d children outputs b) {d' : Disk} {kind : OutputKind}
    (hnone : b.opened.lookup name = none) (hkind : kind ≠ .pipe)
    (hserves : ∀ e : Opened, e.kind ≠ .pipe → Opened.Serves children b.started name o e) :
    Served d' children (putEntry name o outputs) (b.open_ d kind name) := by
  have hstarted : (b.open_ d kind name).started = b.started := by
    rw [Books.started_open, if_neg hkind]
  exact {
    entries := by
      rw [hstarted]
      exact h.entries.put name (hserves _ hkind) fun _ _ _ _ => id
    length := by rw [hstarted, h.length]
    rest := fun k c hc hfeeds => by
      rw [hstarted]
      exact h.rest k c hc (mt (Books.feeds_open hnone d kind) hfeeds) }

/-- A text is written to what is no command. -/
theorem addFile (h : Served d children outputs b) (he : b.opened.lookup name = some e)
    (hkind : e.kind ≠ .pipe) (kind : OutputKind) (text : String)
    (hserves : ∀ e : Opened, e.kind ≠ .pipe → Opened.Serves children b.started name o e) :
    Served d children (putEntry name o outputs) (b.add name e kind text) := by
  have hstarted := Books.started_add_file (b := b) hkind name kind text
  exact {
    entries := by
      rw [hstarted]
      exact h.entries.put name (hserves (e.add kind text) hkind) fun _ _ _ _ => id
    length := by rw [hstarted, h.length]
    rest := fun k c hc hfeeds => by
      rw [hstarted]
      exact h.rest k c hc (mt (Books.feeds_add he kind text) hfeeds) }

/-- An output is put in place of one that the books say the same of. -/
theorem replace (h : Served d children outputs b) {d' : Disk} (he : b.opened.lookup name = some e)
    (hserves : Opened.Serves children b.started name o e) :
    Served d' children (putEntry name o outputs) b := by
  have hentries := h.entries.put name hserves fun _ _ _ _ => id
  rw [putEntry_of_lookup he] at hentries
  exact ⟨hentries, h.length, h.rest⟩

/-- A text is collected for a command. -/
theorem collect (h : Served d children outputs b) {w : Writer} (kind : OutputKind) (text : String)
    (ho : outputs.lookup name = some (.writer w)) (he : b.opened.lookup name = some e) :
    Served d children
      (putEntry name (.writer { w with pending := w.pending.push (bytesOf text) }) outputs)
      (b.add name e kind text) := by
  obtain ⟨sink, pending⟩ := w
  cases h.entries.rel ho he with
  | file hkind => exact h.addFile he hkind kind text fun _ => .file
  | command hkind hchild hwritten hstart =>
    have hstarted := Books.started_add_command (b := b) hkind name kind text
    have hsame (i : Nat) (hi : i ≠ e.number) :
        (b.add name e kind text).started[i]? = b.started[i]? := by
      rw [hstarted, List.getElem?_modify_ne _ _ (Ne.symm hi)]
    refine ⟨h.entries.put name ?_ fun x _ _ hx hserves =>
        hserves.congr_of_ne hx hchild (fun _ _ => rfl) hsame, ?_, fun k c hc hfeeds => ?_⟩
    · refine .command (e := e.add kind text) hkind hchild ?_ ?_
      · rw [Pending.bytes_push, ← List.append_assoc, hwritten, Opened.written_add]
      · rw [hstarted, Opened.add_number, List.getElem?_modify_eq, hstart, Opened.written_add]
        rfl
    · rw [hstarted, List.length_modify, h.length]
    · have hnone := mt (Books.feeds_add he kind text) hfeeds
      have hk : k ≠ e.number := fun hk => hnone ⟨name, e, he, hkind, hk.symm⟩
      rw [hsame k hk]
      exact h.rest k c hc hnone

/-- A command is given bytes that have been collected for it. -/
theorem give (h : Served d children outputs b) {child : Nat} {pending rest : Pending} {s : Bytes}
    (ho : outputs.lookup name = some (.writer ⟨.command child, pending⟩))
    (hbytes : pending.bytes = s ++ rest.bytes) :
    Served d (children.modify child fun c => { c with given := c.given ++ s })
      (putEntry name (.writer ⟨.command child, rest⟩) outputs) b := by
  obtain ⟨e, he, hserves⟩ := h.entries.exists_right ho
  cases hserves with
  | @command _ given _ hkind hchild hwritten hstart =>
    have hsame (i : Nat) (hi : i ≠ e.number) := List.getElem?_modify_ne
      (fun c : Child => { c with given := c.given ++ s }) children (Ne.symm hi)
    have hgiven : Opened.Serves (children.modify e.number fun c => { c with given := c.given ++ s })
        b.started name (.writer ⟨.command e.number, rest⟩) e := by
      have hchild' : (children.modify e.number fun c => { c with given := c.given ++ s })[e.number]? =
          some ⟨name, given ++ s⟩ := by
        rw [List.getElem?_modify_eq, hchild]
        rfl
      refine .command hkind hchild' ?_ hstart
      rw [List.append_assoc, ← hbytes, hwritten]
    have hentries := h.entries.put name hgiven fun x _ _ hx hserves =>
      hserves.congr_of_ne hx hchild hsame fun _ _ => rfl
    rw [putEntry_of_lookup he] at hentries
    refine ⟨hentries, by rw [List.length_modify, h.length], fun k c hc hfeeds => ?_⟩
    rw [hsame k fun hk => hfeeds ⟨name, e, he, hkind, hk.symm⟩] at hc
    exact h.rest k c hc hfeeds

theorem law : OutputLaw commands Served (fun _ => True) where
  call _ h _ := ⟨h.entries, h.length, h.rest⟩
  listener command h := ⟨(h.start command).1, (h.start command).2.1, (h.start command).2.2⟩
  command {_ children _ b name} d' h hnone := by
    obtain ⟨hentries, hlength, hrest⟩ := h.start name
    have hstarted : (b.open_ d' .pipe name).started = (b.start name).started := by
      rw [Books.started_open, if_pos rfl]
      rfl
    refine ⟨?_, by rw [hstarted, hlength], fun k c hc hfeeds => ?_⟩
    · rw [hstarted, ← h.length]
      have hchild : (children ++ [⟨name, []⟩])[(b.fresh d' .pipe name).number]? =
          some ⟨name, []⟩ := by
        show (children ++ [⟨name, []⟩])[b.started.length]? = _
        rw [h.length, List.getElem?_concat_length]
      exact hentries.put name (.command (e := b.fresh d' .pipe name) rfl hchild rfl
        List.getElem?_concat_length) fun _ _ _ _ => id
    · rw [hstarted]
      exact hrest k c hc (mt (Books.feeds_open hnone d' .pipe) hfeeds)
  errors h hnone hkind _ := h.openFile hnone hkind fun _ => .errors
  file h hnone hkind _ _ := h.openFile hnone hkind fun _ => .file
  complain {_ _ _ _ _ e} kind text h ho he := by
    have hkind : e.kind ≠ .pipe := by
      cases h.entries.rel ho he
      assumption
    have hadded := h.addFile he hkind kind text fun _ => .errors
    rwa [putEntry_of_lookup ho] at hadded
  collect kind text h ho he := h.collect kind text ho he
  keep {_ _ _ _ _ sink pending rest} h ho hbytes := by
    obtain ⟨e, he, hserves⟩ := h.entries.exists_right ho
    refine h.replace he ?_
    cases hserves with
    | file hkind => exact .file hkind
    | command hkind hchild hwritten hstart =>
      exact .command hkind hchild (hbytes ▸ hwritten) hstart
  store h ho _ _ := by
    obtain ⟨e, he, hserves⟩ := h.entries.exists_right ho
    cases hserves with
    | file hkind => exact h.replace he (.file hkind)
  give h ho hbytes := h.give ho hbytes
  drop {_ _ _ b name _} h ho hsettled := by
    refine ⟨h.entries.drop name, h.length, fun k c hc hfeeds => ?_⟩
    by_cases hfed : b.Feeds k
    · obtain ⟨e, he, hkind, rfl⟩ := (Books.feeds_drop hfed).resolve_left hfeeds
      cases h.entries.rel ho he with
      | file hfile => exact absurd hkind hfile
      | errors hfile => exact absurd hkind hfile
      | command _ hchild hwritten hstart =>
        rw [hchild] at hc
        cases hc
        rw [show Pending.bytes _ = [] from hsettled, List.append_nil] at hwritten
        rw [hwritten]
        exact hstart
    · exact h.rest k c hc hfed

theorem given (h : Served d children outputs b) : b.Given children where
  length := h.length.symm
  given k c hc := by
    by_cases hfeeds : b.Feeds k
    · obtain ⟨name, e, he, hkind, rfl⟩ := hfeeds
      obtain ⟨o, ho, hserves⟩ := h.entries.exists_left he
      cases hserves with
      | file hfile => exact absurd hkind hfile
      | errors hfile => exact absurd hkind hfile
      | command _ hchild hwritten hstart =>
        cases hc.symm.trans hchild
        exact ⟨e.written, hstart, ⟨_, hwritten⟩, fun hno => absurd ⟨name, e, he, hkind, rfl⟩ hno⟩
    · exact ⟨c.given, h.rest k c hc hfeeds, List.prefix_rfl, fun _ => rfl⟩

end Served

/-! Inputs. -/

/-- What is known of an input that is open: how it was opened, the file that its name led to, what
that held or what the command was going to print, with which separators it has been read since, and
whether the file was found to hold something else. -/
structure Consulted where
  kind : InputKind
  file : Option Nat
  output : Bytes
  separators : List String
  changed : Bool
  deriving Repr, DecidableEq

namespace Consulted

/-- A name that is opened now. -/
def fresh (st : Streams) (kind : InputKind) (name : String) : Consulted :=
  match kind with
  | .file => match st.disk.openForReading name with
    | .ok (.file n) => if name = "-" || name = "/dev/stdin" then ⟨.file, none, [], [], false⟩
      else ⟨.file, some n, st.disk.bytes n, [], false⟩
    | _ => ⟨.file, none, [], [], false⟩
  | .command => match (st.flushAll.call (.listen name)).1 with
    | .ok blocks => ⟨.command, none, blocks.flatten, [], false⟩
    | .error _ => ⟨.command, none, [], [], false⟩

/-- It has been read. -/
def add (c : Consulted) (d : Disk) (separator : String) : Consulted :=
  { c with
    separators := c.separators ++ [separator]
    changed := c.changed || c.file.any (d.bytes · ≠ c.output) }

/-- What is left of what there was to read. -/
def left (c : Consulted) : Bytes :=
  c.separators.foldl (fun s separator => (next (bytesOf separator) s).2) c.output

/-- All that there is to read was there from the start: a file holds what it held. -/
def Steady (c : Consulted) (d : Disk) : Prop :=
  match c.kind with
  | .file => ∃ n, c.file = some n ∧ c.changed = false ∧ d.bytes n = c.output
  | .command => True

/-- The inputs that are open after something is done. -/
def follow (table : List (String × Consulted)) (st : Streams) :
    Operation → List (String × Consulted)
  | .read kind name separator =>
    putEntry name (((table.lookup name).getD (fresh st kind name)).add st.disk separator) table
  | .close name => dropEntry name table
  | .closeAll => []
  | .write .. | .flush _ | .system _ => table

def followAll (table : List (String × Consulted)) (st : Streams) :
    List Operation → List (String × Consulted)
  | [] => table
  | op :: ops => followAll (follow table st op) (st.perform op).2 ops

@[simp] theorem left_add (c : Consulted) (d : Disk) (separator : String) :
    (c.add d separator).left = (next (bytesOf separator) c.left).2 := by
  simp [left, add]

@[simp] theorem fresh_kind (st : Streams) (kind : InputKind) (name : String) :
    (fresh st kind name).kind = kind := by
  unfold fresh
  cases kind with
  | file =>
    dsimp only
    split
    · split <;> rfl
    · rfl
  | command =>
    dsimp only
    split <;> rfl

/-- An input reads what its name was opened as. -/
inductive Hears : Input → Consulted → Prop
  | command {buffer : Bytes} {rest : List Bytes} {child : Option Nat} {c : Consulted} :
    c.kind = .command → c.file = none → buffer ++ rest.flatten = c.left →
    Hears ⟨⟨buffer, .blocks rest⟩, child⟩ c
  | file {buffer : Bytes} {n offset : Nat} {child : Option Nat} {c : Consulted} : c.kind = .file →
    c.file = some n → (c.changed = false → buffer ++ c.output.drop offset = c.left) →
    Hears ⟨⟨buffer, .file n offset⟩, child⟩ c
  | other {i : Input} {c : Consulted} : c.kind = .file → c.file = none → Hears i c

end Consulted

open Consulted (Hears)

theorem flush_inputs (st : Streams) (name : Option String) :
    (st.flush name).2.inputs = st.inputs := by
  unfold Streams.flush
  cases name with
  | none => exact st.flushAll_tables.1
  | some name =>
    dsimp only
    split
    · rfl
    · exact (st.flushOutput_tables _).inputs

theorem system_inputs (st : Streams) (command : String) :
    (st.system command).2.inputs = st.inputs := by
  unfold Streams.system
  dsimp only
  split <;> exact st.flushAll_tables.1

/-- A write leaves the inputs, also where it opens a command. -/
theorem write_inputs {target : Option (OutputKind × String)} {text : String}
    (hwrite : st.write target text = (none, st')) : st'.inputs = st.inputs := by
  have hobtain {kind : OutputKind} {name : String} {o : Output} {st₁ : Streams}
      (hobtain : st.obtainOutput kind name = (.ok o, st₁)) : st₁.inputs = st.inputs := by
    unfold Streams.obtainOutput at hobtain
    split at hobtain
    · cases hobtain
      rfl
    split at hobtain
    · rename_i hopen
      cases hobtain
      obtain ⟨-, -, -, rfl⟩ | ⟨-, -, -, rfl⟩ | ⟨-, target, d', -, -, rfl⟩ :=
        Streams.openOutput_cases hopen
      · exact st.flushAll_tables.1
      · rfl
      · exact (st.seek_reads _).inputs
    · rename_i hfailed
      exact absurd hobtain (hfailed _ _)
  have hwriteTo (kind : OutputKind) (name : String) (hwriting : (st.writeTo kind name text).1 = none) :
      (st.writeTo kind name text).2.inputs = st.inputs := by
    unfold Streams.writeTo at hwriting ⊢
    split at hwriting
    · cases hwriting
    · rename_i o st₂ hopen
      exact (st₂.writeOutput_tables o text).inputs.trans (hobtain hopen)
  unfold Streams.write at hwrite
  split at hwrite
  · cases hwrite
    rfl
  · split at hwrite
    · cases hwrite
      rfl
    · rename_i kind name _
      obtain ⟨hresult, rfl⟩ := Prod.mk.inj hwrite
      exact hwriteTo kind name hresult

theorem close_inputs {status : Int} (hclose : st.close name = (.ok status, st')) :
    st'.inputs = dropEntry name st.inputs := by
  obtain ⟨hresult, rfl⟩ := Prod.mk.inj hclose
  obtain ⟨status', _, houtput, -⟩ := closeName_ok (Prod.ext hresult rfl)
  exact (closeName_tables (congrArg Prod.fst houtput)).inputs

/-- What a command prints is read to its end. -/
theorem readRecord_blocks (st : Streams) (buffer : Bytes) (rest : List Bytes) (separator : String) :
    ∃ buffer' rest', st.readRecord ⟨buffer, .blocks rest⟩ separator =
        (.ok ((next (bytesOf separator) (buffer ++ rest.flatten)).1.map textOf),
          ⟨buffer', .blocks rest'⟩, (st.readRecord ⟨buffer, .blocks rest⟩ separator).2.2) ∧
      buffer' ++ rest'.flatten = (next (bytesOf separator) (buffer ++ rest.flatten)).2 := by
  obtain ⟨⟨buffer', source⟩, st', hread, hfollows, -, hrest, -⟩ :=
    st.readRecord_eq (r := ⟨buffer, .blocks rest⟩) nofun separator
  obtain ⟨rest', rfl⟩ : ∃ rest', source = .blocks rest' := by
    generalize hsource : Source.blocks rest = s at hfollows
    cases hfollows with
    | refl => exact ⟨rest, hsource.symm⟩
    | blocks _ rest' => exact ⟨rest', rfl⟩
    | file => cases hsource
  exact ⟨buffer', rest', by rw [hread]; rfl, hrest⟩

theorem readRecord_file (st : Streams) (buffer : Bytes) (n offset : Nat) (separator : String) :
    ∃ buffer' offset', st.readRecord ⟨buffer, .file n offset⟩ separator =
        (.ok ((next (bytesOf separator) (buffer ++ (st.disk.bytes n).drop offset)).1.map textOf),
          ⟨buffer', .file n offset'⟩, (st.readRecord ⟨buffer, .file n offset⟩ separator).2.2) ∧
      buffer' ++ (st.disk.bytes n).drop offset' =
        (next (bytesOf separator) (buffer ++ (st.disk.bytes n).drop offset)).2 := by
  obtain ⟨⟨buffer', source⟩, st', hread, hfollows, hdisk, hrest, -⟩ :=
    st.readRecord_eq (r := ⟨buffer, .file n offset⟩) nofun separator
  obtain ⟨offset', rfl⟩ : ∃ offset', source = .file n offset' := by
    generalize hsource : Source.file n offset = s at hfollows
    cases hfollows with
    | refl => exact ⟨offset, hsource.symm⟩
    | file _ _ offset' =>
      cases hsource
      exact ⟨offset', rfl⟩
    | blocks => cases hsource
  have hleft : buffer' ++ (st'.disk.bytes n).drop offset' =
      (next (bytesOf separator) (buffer ++ (st.disk.bytes n).drop offset)).2 := hrest
  rw [hdisk] at hleft
  exact ⟨buffer', offset', by rw [hread]; rfl, hleft⟩

variable {table : List (String × Consulted)}

/-- A name that is opened is read as what it is opened as. -/
theorem openInput_hears {kind : InputKind} {i : Input} (hopen : st.openInput kind name = (.ok i, st')) :
    Hears i (.fresh st kind name) ∧ st'.inputs = st.inputs ∧ (kind = .file → st'.disk = st.disk) := by
  obtain ⟨rfl, r, hreads, rfl⟩ | ⟨rfl, blocks, hanswer, rfl, rfl⟩ := Streams.openInput_cases hopen
  · refine ⟨?_, hreads.inputs, fun _ => hreads.disk⟩
    by_cases hstandard : name = "-" ∨ name = "/dev/stdin"
    · have hfile : (Consulted.fresh st .file name).file = none := by
        unfold Consulted.fresh
        dsimp only
        split
        · rw [if_pos (by simpa using hstandard)]
        · rfl
      exact .other (Consulted.fresh_kind st .file name) hfile
    · unfold Streams.openInput at hopen
      simp only [Bool.or_eq_true, decide_eq_true_eq, if_neg hstandard] at hopen
      unfold Streams.openFile at hopen
      unfold Consulted.fresh
      dsimp only
      split
      · rename_i hlocated
        rw [hlocated] at hopen
        rw [if_neg (by simpa using hstandard)]
        cases hopen
        exact .file rfl rfl fun _ => rfl
      · exact .other rfl rfl
  · refine ⟨?_, st.flushAll_tables.1, nofun⟩
    have hfresh : Consulted.fresh st .command name = ⟨.command, none, blocks.flatten, [], false⟩ := by
      rw [Consulted.fresh, hanswer]
    rw [hfresh]
    exact .command rfl rfl rfl

theorem obtainInput_hears (h : Matched (fun _ => Hears) st.inputs table) {kind : InputKind} {i : Input}
    (hobtain : st.obtainInput kind name = (.ok i, st')) :
    Hears i ((table.lookup name).getD (.fresh st kind name)) ∧
      Matched (fun _ => Hears) st'.inputs
        (putEntry name ((table.lookup name).getD (.fresh st kind name)) table) ∧
      (((table.lookup name).getD (.fresh st kind name)).kind = .file → st'.disk = st.disk) := by
  unfold Streams.obtainInput at hobtain
  cases hlookup : st.inputs.lookup name with
  | some i' =>
    rw [hlookup] at hobtain
    cases hobtain
    obtain ⟨c, hc, hears⟩ := h.exists_right hlookup
    rw [hc, Option.getD_some, putEntry_of_lookup hc]
    exact ⟨hears, h, fun _ => rfl⟩
  | none =>
    have hnone : table.lookup name = none := by
      have hsame := h.isSome_eq name
      rw [hlookup] at hsame
      simpa using hsame.symm
    rw [hlookup] at hobtain
    rw [hnone, Option.getD_none]
    dsimp only at hobtain
    split at hobtain
    · rename_i st₁ hopen
      cases hobtain
      obtain ⟨hears, hinputs, hdisk⟩ := openInput_hears hopen
      rw [Consulted.fresh_kind]
      refine ⟨hears, ?_, hdisk⟩
      show Matched _ (putEntry name _ st₁.inputs) _
      rw [hinputs]
      exact h.put name hears fun _ _ _ _ => id
    · rename_i hfailed
      exact absurd hobtain (hfailed _ _)

/-- What a read answers. What has been there from the start comes record by record; and a file that
has changed since is read where the reader stands in it. -/
structure Consulted.Answers (c : Consulted) (st : Streams) (kind : InputKind)
    (name separator : String) (answer : Option String) : Prop where
  steady : c.Steady st.disk → answer = (next (bytesOf separator) c.left).1.map textOf
  file : ∀ n, c.file = some n → ∃ i offset, (st.obtainInput kind name).1 = .ok i ∧
    i.reader.source = .file n offset ∧
    answer = (next (bytesOf separator) (i.reader.buffer ++ (st.disk.bytes n).drop offset)).1.map textOf

theorem read_hears (h : Matched (fun _ => Hears) st.inputs table) {kind : InputKind}
    {separator : String} {answer : Option String}
    (hread : st.read kind name separator = (.ok answer, st')) :
    Matched (fun _ => Hears) st'.inputs (Consulted.follow table st (.read kind name separator)) ∧
      ((table.lookup name).getD (.fresh st kind name)).Answers st kind name separator answer := by
  rw [Consulted.follow]
  obtain ⟨i, st₁, hobtain, hanswer, rfl⟩ := Streams.read_cases hread
  obtain ⟨hears, hmatched, hdisk⟩ := obtainInput_hears h hobtain
  generalize (table.lookup name).getD (.fresh st kind name) = c at hears hmatched hdisk
  have hinputs := (st₁.readRecord_reads i.reader separator).inputs
  have hput {reader : Reader} (hreader : (st₁.readRecord i.reader separator).2.1 = reader)
      (hears' : Hears { i with reader } (c.add st.disk separator)) :
      Matched (fun _ => Hears) (Streams.pause { (st₁.readRecord i.reader separator).2.2 with
        inputs := putEntry name { i with reader := (st₁.readRecord i.reader separator).2.1 }
          (st₁.readRecord i.reader separator).2.2.inputs }).inputs
        (putEntry name (c.add st.disk separator) table) := by
    show Matched _ (putEntry name _ (st₁.readRecord i.reader separator).2.2.inputs) _
    rw [hinputs, hreader]
    have hentries := hmatched.put name hears' fun _ _ _ _ => id
    rwa [putEntry_putEntry] at hentries
  cases hears with
  | command hkind hfile hleft =>
    obtain ⟨buffer', rest', hrecord, hrest⟩ := readRecord_blocks st₁ _ _ separator
    rw [hrecord] at hanswer
    cases hanswer
    refine ⟨hput (by rw [hrecord]) (.command hkind hfile ?_), fun _ => by rw [hleft], ?_⟩
    · rw [Consulted.left_add, hrest, hleft]
    · intro n hn
      cases hfile.symm.trans hn
  | @file _ n offset _ _ hkind hfile hleft =>
    obtain ⟨buffer', offset', hrecord, hrest⟩ := readRecord_file st₁ _ n offset separator
    rw [hrecord] at hanswer
    cases hanswer
    rw [hdisk hkind] at hrest ⊢
    refine ⟨hput (by rw [hrecord]) (.file hkind hfile fun hchanged => ?_), fun hsteady => ?_, ?_⟩
    · simp only [Consulted.add, hfile, Option.any_some, Bool.or_eq_false_iff, decide_eq_false_iff_not,
        not_not] at hchanged
      rw [Consulted.left_add, ← hleft hchanged.1]
      show _ ++ c.output.drop offset' = _
      rw [← hchanged.2]
      exact hrest
    · obtain ⟨n', hn', hchanged, hbytes⟩ : ∃ n', c.file = some n' ∧ c.changed = false ∧
          st.disk.bytes n' = c.output := by
        rw [Consulted.Steady, hkind] at hsteady
        exact hsteady
      cases hfile.symm.trans hn'
      rw [← hleft hchanged, ← hbytes]
    · intro n' hn'
      cases hfile.symm.trans hn'
      exact ⟨_, offset, by rw [hobtain], rfl, rfl⟩
  | other hkind hfile =>
    refine ⟨hput rfl (.other hkind hfile), fun hsteady => ?_, ?_⟩
    · rw [Consulted.Steady, hkind] at hsteady
      obtain ⟨n, hn, -⟩ := hsteady
      cases hfile.symm.trans hn
    · intro n hn
      cases hfile.symm.trans hn

theorem perform_hears (h : Matched (fun _ => Hears) st.inputs table) {op : Operation}
    (hop : st.perform op = ([], st')) :
    Matched (fun _ => Hears) st'.inputs (Consulted.follow table st op) := by
  cases op with
  | write kind name text =>
    have hresult : (st.write (some (kind, name)) text).1.toList = [] := (Prod.mk.inj hop).1
    have hst' : (st.write (some (kind, name)) text).2 = st' := (Prod.mk.inj hop).2
    rw [Consulted.follow, write_inputs (Prod.ext (Option.toList_eq_nil_iff.mp hresult) hst')]
    exact h
  | read kind name separator =>
    rw [Streams.perform] at hop
    split at hop <;> cases hop
    rename_i hread
    exact (read_hears h hread).1
  | flush name =>
    have hst' : (st.flush name).2 = st' := (Prod.mk.inj hop).2
    rw [Consulted.follow, ← hst', flush_inputs]
    exact h
  | close name =>
    rw [Streams.perform] at hop
    split at hop <;> cases hop
    rename_i hclose
    rw [Consulted.follow, close_inputs hclose]
    exact h.drop name
  | closeAll =>
    obtain ⟨hresult, hst'⟩ := Prod.mk.inj hop
    have hnil : st.closeAll.2.inputs = [] :=
      (closeEach_tables (Prod.ext hresult rfl)).2.trans (dropEach_eq_nil fun x hx =>
        lookup_of_notMem fun hmem => hx (List.mem_append_right _ hmem))
    have hnil' : st'.inputs = [] := hst' ▸ hnil
    rw [Consulted.follow, hnil']
    exact fun _ => .none
  | system command =>
    have hinputs := system_inputs st command
    rw [Streams.perform] at hop
    split at hop <;> cases hop
    rename_i hsystem
    rw [hsystem] at hinputs
    rw [Consulted.follow, hinputs]
    exact h

/-! What all that is done comes to. -/

theorem performAll_hears {ops : List Operation} (h : Matched (fun _ => Hears) st.inputs table)
    (hops : st.performAll ops = some st') :
    Matched (fun _ => Hears) st'.inputs (Consulted.followAll table st ops) := by
  induction ops generalizing st table with
  | nil =>
    cases hops
    exact h
  | cons op ops ih =>
    obtain ⟨st₁, hfirst, hrest⟩ := Streams.performAll_cons hops
    rw [Consulted.followAll, hfirst]
    exact ih (perform_hears h hfirst) hrest

/-- A stream of the other sort is open under the name. -/
def Books.Crosses (b : Books) (kind : OutputKind) (name : String) : Prop :=
  ∃ e, b.opened.lookup name = some e ∧ ¬ (e.kind = .pipe ↔ kind = .pipe)

theorem follow_write (b : Books) (st : Streams) {kind : OutputKind} (name text : String)
    (hname : kind.isConsole name = false) :
    ∃ e, (b.follow st (.write kind name text)).opened.lookup name = some e ∧
      e.texts.getLast? = some (kind, text) ∧
      ((e.kind = .pipe ↔ kind = .pipe) ↔ ¬ b.Crosses kind name) := by
  refine ⟨(b.obtain_ st.disk kind name).1.add kind text, ?_, ?_, ?_⟩
  · rw [Books.follow, if_neg (by simp [hname])]
    show (putEntry name _ _).lookup name = _
    rw [lookup_putEntry, if_pos rfl]
    rfl
  · simp [Opened.add]
  · rw [Opened.add_kind]
    unfold Books.Crosses
    cases hlookup : b.opened.lookup name with
    | none => simp [Books.obtain_of_none hlookup, Books.fresh]
    | some e => simp [Books.obtain_of_some hlookup]

/-- An input of the other kind is open under the name. -/
def Consulted.Crosses (table : List (String × Consulted)) (kind : InputKind) (name : String) : Prop :=
  ∃ c, table.lookup name = some c ∧ c.kind ≠ kind

theorem getD_kind (table : List (String × Consulted)) (st : Streams) (kind : InputKind)
    (name : String) : ((table.lookup name).getD (.fresh st kind name)).kind = kind ↔
      ¬ Consulted.Crosses table kind name := by
  unfold Consulted.Crosses
  cases table.lookup name with
  | none => simp
  | some c => simp

/-- What is closed is completed. -/
theorem Operation.Closes.completes {op : Operation} (h : op.Closes name) : op.Completes name := by
  cases op with
  | close => exact h
  | closeAll => trivial
  | write | read | flush | system => exact h.elim

/-- A command whose output is closed has been given all that was written to it. -/
theorem closed_command {closes : String → Prop} {e : Opened} (hclosed : Closed Served st' b closes)
    (hname : closes name) (he : b.opened.lookup name = some e) (hkind : e.kind = .pipe) :
    st'.children[e.number]? = some ⟨name, e.written⟩ := by
  obtain ⟨outputs, -, hserved, hsettled⟩ := hclosed
  obtain ⟨o, ho, hserves⟩ := hserved.entries.exists_left he
  have hempty := hsettled name o hname ho
  cases hserves with
  | file hfile => exact absurd hkind hfile
  | errors hfile => exact absurd hkind hfile
  | command _ hchild hwritten =>
    rw [show Pending.bytes _ = [] from hempty, List.append_nil] at hwritten
    rw [← hwritten]
    exact hchild

end Awk.Host
