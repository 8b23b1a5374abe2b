import Awk.Proofs.Input.Separators
import Awk.Shell.Run

/-! Reading records block by block. What is read is what there is to read from the bytes that are in
the buffer and those that are still to come, however these are divided into blocks. -/

namespace Awk

namespace Host

open Records

/-- Whether one source is another, or the same file or command further on. -/
inductive Source.Follows : Source → Source → Prop
  | refl (s : Source) : Follows s s
  | file (number offset offset' : Nat) : Follows (.file number offset) (.file number offset')
  | blocks (rest rest' : List Bytes) : Follows (.blocks rest) (.blocks rest')

namespace Source.Follows

theorem trans {s s' s'' : Source} (h : s.Follows s') (h' : s'.Follows s'') : s.Follows s'' := by
  cases h with
  | refl => exact h'
  | file number offset offset' =>
    cases h' with
    | refl => exact .file _ _ _
    | file => exact .file _ _ _
  | blocks rest rest' =>
    cases h' with
    | refl => exact .blocks _ _
    | blocks => exact .blocks _ _

theorem input_iff {s s' : Source} (h : s.Follows s') : s' = .input ↔ s = .input := by
  cases h with
  | refl => exact Iff.rfl
  | file => exact ⟨nofun, nofun⟩
  | blocks => exact ⟨nofun, nofun⟩

theorem directory_iff {s s' : Source} (h : s.Follows s') : s' = .directory ↔ s = .directory := by
  cases h with
  | refl => exact Iff.rfl
  | file => exact ⟨nofun, nofun⟩
  | blocks => exact ⟨nofun, nofun⟩

theorem exists_file {s : Source} {n offset' : Nat} (h : s.Follows (.file n offset')) :
    ∃ offset, s = .file n offset := by
  cases h with
  | refl => exact ⟨offset', rfl⟩
  | file _ offset => exact ⟨offset, rfl⟩

end Source.Follows

namespace Streams

variable {st st' : Streams} {r r' : Reader} {separator : Bytes}

/-- What a source still holds. -/
def unread (st : Streams) : Source → Bytes
  | .file number offset => (st.disk.bytes number).drop offset
  | .input => st.input
  | .blocks rest => rest.flatten
  | .ended | .directory => []

/-- What reading changes: it goes on in the source, and takes from standard input alone. -/
structure Advances (st : Streams) (r : Reader) (st' : Streams) (r' : Reader) : Prop where
  source : r.source.Follows r'.source
  disk : st'.disk = st.disk
  inputBuffer : st'.inputBuffer = st.inputBuffer
  input : r.source ≠ .input → st'.input = st.input

namespace Advances

theorem refl (st : Streams) (r : Reader) : Advances st r st r := ⟨.refl _, rfl, rfl, fun _ => rfl⟩

theorem trans {st'' : Streams} {r'' : Reader} (h : Advances st r st' r')
    (h' : Advances st' r' st'' r'') : Advances st r st'' r'' :=
  ⟨h.source.trans h'.source, h'.disk.trans h.disk, h'.inputBuffer.trans h.inputBuffer,
    fun hne => (h'.input (mt h.source.input_iff.mp hne)).trans (h.input hne)⟩

end Advances

theorem seekInput_eq (st : Streams) :
    st.seekInput.disk = st.disk ∧ st.seekInput.inputBuffer = st.inputBuffer ∧
      st.seekInput.input = st.input := by
  unfold seekInput
  split <;> exact ⟨rfl, rfl, rfl⟩

theorem drop_take_length {α : Type} (l : List α) (k : Nat) :
    l.drop (l.take k).length = l.drop k := by
  rw [List.length_take]
  obtain h | h := le_total k l.length
  · rw [min_eq_left h]
  · rw [min_eq_right h, List.drop_length, List.drop_of_length_le h]

theorem eq_nil_of_block {l : List UInt8} (h : (l.take blockSize).isEmpty) : l = [] := by
  obtain hzero | hnil := List.take_eq_nil_iff.mp (List.isEmpty_iff.mp h)
  · exact absurd hzero (by decide)
  · exact hnil

/-- So many blocks bring all that a source still holds. -/
def Within (st : Streams) (source : Source) (n : Nat) : Prop :=
  match source with
  | .blocks rest => rest.length ≤ n
  | source => (st.unread source).length ≤ blockSize * n

theorem Within.unread_eq_nil {source : Source} (h : st.Within source 0) :
    st.unread source = [] := by
  cases source with
  | blocks rest => rw [unread, List.length_eq_zero_iff.mp (Nat.le_zero.mp h), List.flatten_nil]
  | _ => exact List.length_eq_zero_iff.mp (Nat.le_zero.mp (h.trans_eq (Nat.mul_zero _)))

theorem length_drop_le {l : List UInt8} {n : Nat} (h : l.length ≤ blockSize * (n + 1)) :
    (l.drop blockSize).length ≤ blockSize * n := by
  rw [List.length_drop]
  rw [Nat.mul_succ] at h
  omega

/-- A block is the next of what a source holds, and one of those that bring all of it. -/
theorem fill_cases (st : Streams) (hsource : r.source ≠ .directory) :
    (st.fill r = .ok none ∧ st.unread r.source = []) ∨
      ∃ r' st' block, st.fill r = .ok (some (r', st')) ∧ Advances st r st' r' ∧
        r'.buffer = r.buffer ++ block ∧ st.unread r.source = block ++ st'.unread r'.source ∧
        ∀ n, st.Within r.source (n + 1) → st'.Within r'.source n := by
  obtain ⟨buffer, source⟩ := r
  cases source with
  | ended => exact .inl ⟨rfl, rfl⟩
  | directory => exact absurd rfl hsource
  | blocks rest =>
    cases rest with
    | nil => exact .inl ⟨rfl, rfl⟩
    | cons block rest =>
      exact .inr ⟨_, _, block, rfl, ⟨.blocks _ _, rfl, rfl, fun _ => rfl⟩, rfl, List.flatten_cons,
        fun _ h => Nat.le_of_succ_le_succ h⟩
  | file number offset =>
    by_cases hblock : (((st.disk.bytes number).drop offset).take blockSize).isEmpty
    · exact .inl ⟨if_pos hblock, eq_nil_of_block hblock⟩
    · have hleft : st.unread (.file number
          (offset + (((st.disk.bytes number).drop offset).take blockSize).length)) =
          ((st.disk.bytes number).drop offset).drop blockSize := by
        rw [unread, ← List.drop_drop]
        exact drop_take_length _ _
      refine .inr ⟨_, _, _, if_neg hblock, ⟨.file _ _ _, rfl, rfl, fun _ => rfl⟩, rfl, ?_, fun n h => ?_⟩
      · rw [hleft]
        exact (List.take_append_drop _ _).symm
      · show (st.unread _).length ≤ _
        rw [hleft]
        exact length_drop_le h
  | input =>
    by_cases hblock : (st.input.take blockSize).isEmpty
    · exact .inl ⟨if_pos hblock, eq_nil_of_block hblock⟩
    · exact .inr ⟨_, _, _, if_neg hblock, ⟨.refl _, rfl, rfl, fun h => absurd rfl h⟩, rfl,
        (List.take_append_drop _ _).symm, fun n h => length_drop_le h⟩

/-- What there is to read: what is in the buffer, and what the source still holds. -/
def pending (st : Streams) (r : Reader) : Bytes := r.buffer ++ st.unread r.source

/-- Enough blocks bring what is pending up to the end of a record. -/
theorem readBlocks_eq {n : Nat} (hsource : r.source ≠ .directory)
    (hbuffer : complete? separator r.buffer = none) (hn : st.Within r.source n) :
    ∃ r' st', readBlocks separator n st r = (.ok (next separator (st.pending r)).1, r', st') ∧
      Advances st r st' r' ∧ st'.pending r' = (next separator (st.pending r)).2 := by
  induction n generalizing st r with
  | zero =>
    have hpending : st.pending r = r.buffer := by rw [pending, hn.unread_eq_nil, List.append_nil]
    rw [hpending, next_of_none hbuffer]
    exact ⟨_, _, rfl, ⟨.refl _, rfl, rfl, fun _ => rfl⟩, hn.unread_eq_nil⟩
  | succ n ih =>
    obtain ⟨hfill, hnil⟩ | ⟨r', st', block, hfill, hadvances, hblock, hleft, hwithin⟩ :=
      st.fill_cases hsource
    · have hpending : st.pending r = r.buffer := by rw [pending, hnil, List.append_nil]
      rw [hpending, next_of_none hbuffer, readBlocks, hfill]
      refine ⟨{ r with buffer := [] }, if r.source = .input then st.seekInput else st, rfl, ?_⟩
      obtain ⟨hdisk, hinputBuffer, hinput⟩ := st.seekInput_eq
      split
      · rename_i hshared
        rw [hshared] at hnil
        refine ⟨⟨.refl _, hdisk, hinputBuffer, fun _ => hinput⟩, ?_⟩
        show st.seekInput.unread r.source = []
        rw [hshared]
        exact hinput.trans hnil
      · exact ⟨⟨.refl _, rfl, rfl, fun _ => rfl⟩, hnil⟩
    · have hpending : st.pending r = r'.buffer ++ st'.unread r'.source := by
        rw [pending, hblock, hleft, List.append_assoc]
      rw [readBlocks, hfill]
      dsimp only
      cases hcomplete : complete? separator r'.buffer with
      | some found =>
        obtain ⟨record, rest⟩ := found
        rw [hpending, next_of_complete? hcomplete]
        exact ⟨_, _, rfl, hadvances.trans ⟨.refl _, rfl, rfl, fun _ => rfl⟩, rfl⟩
      | none =>
        obtain ⟨r'', st'', hread, hadvances', hrest⟩ :=
          ih (mt hadvances.source.directory_iff.mp hsource) hcomplete (hwithin n hn)
        exact ⟨r'', st'', hpending ▸ hread, hadvances.trans hadvances', hpending ▸ hrest⟩

theorem within_blocksLeft (st : Streams) (r : Reader) :
    st.Within r.source (st.blocksLeft r) := by
  have hblocks (k : Nat) : k ≤ blockSize * (k / blockSize + 2) := by
    have := Nat.div_add_mod k blockSize
    have := Nat.mod_lt k (show 0 < blockSize by decide)
    rw [Nat.mul_add]
    omega
  obtain ⟨buffer, source⟩ := r
  cases source with
  | file number offset =>
    refine le_trans ?_ (hblocks (st.disk.bytes number).length)
    show ((st.disk.bytes number).drop offset).length ≤ _
    rw [List.length_drop]
    exact Nat.sub_le _ _
  | input => exact hblocks st.input.length
  | blocks rest => exact Nat.le_succ rest.length
  | ended => exact Nat.zero_le _
  | directory => exact Nat.zero_le _

theorem readBytes_eq (st : Streams) (separator : Bytes) (hsource : r.source ≠ .directory) :
    ∃ r' st', st.readBytes r separator = (.ok (next separator (st.pending r)).1, r', st') ∧
      Advances st r st' r' ∧ st'.pending r' = (next separator (st.pending r)).2 := by
  unfold readBytes
  cases hcomplete : complete? separator r.buffer with
  | some found =>
    obtain ⟨record, rest⟩ := found
    rw [pending, next_of_complete? hcomplete]
    exact ⟨_, _, rfl, ⟨.refl _, rfl, rfl, fun _ => rfl⟩, rfl⟩
  | none => exact readBlocks_eq hsource hcomplete (st.within_blocksLeft r)

/-- What there is to read from a source for all its readers together: standard input has one buffer
for them. -/
def toRead (st : Streams) (r : Reader) : Bytes :=
  if r.source = .input then st.inputBuffer ++ st.input else st.pending r

/-- A record that is read is the next of what there is to read. -/
theorem readRecord_eq (hsource : r.source ≠ .directory) (text : String) :
    ∃ r' st', st.readRecord r text =
        (.ok ((next (bytesOf text) (st.toRead r)).1.map textOf), r', st') ∧
      r.source.Follows r'.source ∧ st'.disk = st.disk ∧
      st'.toRead r' = (next (bytesOf text) (st.toRead r)).2 ∧
      (r.source ≠ .input → st'.inputBuffer ++ st'.input = st.inputBuffer ++ st.input) := by
  unfold readRecord
  dsimp only
  by_cases hshared : r.source = .input
  · have htoRead : st.toRead r = st.pending { r with buffer := st.inputBuffer } := by
      rw [toRead, if_pos hshared, pending, hshared]
      rfl
    obtain ⟨r', st', hread, hadvances, hrest⟩ :=
      st.readBytes_eq (r := { r with buffer := st.inputBuffer }) (bytesOf text) hsource
    rw [if_pos hshared, hread]
    have hsource' : r'.source = .input := hadvances.source.input_iff.mpr hshared
    refine ⟨{ r' with buffer := [] }, { st' with inputBuffer := r'.buffer }, ?_, hadvances.source,
      hadvances.disk, ?_, fun hne => absurd hshared hne⟩
    · rw [if_pos hshared, htoRead]
      rfl
    · rw [htoRead, ← hrest, pending, hsource']
      exact if_pos rfl
  · obtain ⟨r', st', hread, hadvances, hrest⟩ :=
      st.readBytes_eq (bytesOf text) hsource
    have hsource' : r'.source ≠ .input := mt hadvances.source.input_iff.mp hshared
    have htoRead : st.toRead r = st.pending r := if_neg hshared
    rw [if_neg hshared, hread]
    refine ⟨r', st', ?_, hadvances.source, hadvances.disk, ?_, fun _ => ?_⟩
    · rw [if_neg hshared, htoRead]
      rfl
    · rw [toRead, if_neg hsource', htoRead, hrest]
    · rw [hadvances.inputBuffer, hadvances.input hshared]

/-- The answers of successive reads, each with the separator that holds when it is made. -/
def readEach (st : Streams) (r : Reader) : List String → List (Except Cause (Option String))
  | [] => []
  | text :: texts =>
    let (answer, r', st') := st.readRecord r text
    answer :: st'.readEach r' texts

theorem readEach_eq (st : Streams) (hsource : r.source ≠ .directory) (texts : List String) :
    st.readEach r texts =
      (takeEach (st.toRead r) (texts.map bytesOf)).map (.ok <| ·.map textOf) := by
  induction texts generalizing st r with
  | nil => rfl
  | cons text texts ih =>
    obtain ⟨r', st', hread, hfollows, -, hrest, -⟩ := st.readRecord_eq hsource text
    have hsource' : r'.source ≠ .directory := mt hfollows.directory_iff.mp hsource
    rw [readEach, hread]
    simp [ih st' hsource', hrest, takeEach]

/-- Reading neither loses nor makes up bytes, whatever the separators and however the source comes
in blocks; and one separator splits what there is at its leftmost places that do not overlap. -/
theorem readEach_separated (st : Streams) (r : Reader) (hsource : r.source ≠ .directory) :
    (∀ texts : List String, (∀ text ∈ texts, text ≠ "") → ∃ answers,
      st.readEach r texts = answers.map (.ok <| ·.map textOf) ∧
        Takes (st.toRead r) (texts.map bytesOf) answers) ∧
    ∀ text : String, text ≠ "" → ∃ pieces last, Split (bytesOf text) (st.toRead r) pieces last ∧
      ∀ n, st.readEach r (List.replicate n text) =
        ((pieceRecords pieces last).map (.ok <| some <| textOf ·)).take n ++
          List.replicate (n - (pieceRecords pieces last).length) (.ok none) := by
  constructor
  · intro texts htexts
    refine ⟨takeEach (st.toRead r) (texts.map bytesOf), st.readEach_eq hsource texts, ?_⟩
    apply takes_takeEach
    intro b hb
    obtain ⟨text, hmem, rfl⟩ := List.mem_map.mp hb
    exact mt bytesOf_eq_nil_iff.mp (htexts text hmem)
  · intro text htext
    obtain ⟨pieces, last, hsplit, hreads⟩ :=
      exists_split (mt bytesOf_eq_nil_iff.mp htext) (st.toRead r)
    refine ⟨pieces, last, hsplit, fun n => ?_⟩
    rw [st.readEach_eq hsource, List.map_replicate, hreads]
    simp [List.map_take, Function.comp_def]

/-- Separators that repeat their own bytes or overlap where they stand, and one of which only a part
is there. -/
theorem readEach_overlapping :
    let st := start .empty (bytesOf "aaab|é|é||é|") .silent
    standardInput.source ≠ .directory ∧
      ((∀ text ∈ ["aab", "|é|", "||", "é||"], text ≠ "") ∧ ∃ answers,
        st.readEach standardInput ["aab", "|é|", "||", "é||"] = answers.map (.ok <| ·.map textOf) ∧
          Takes (bytesOf "aaab|é|é||é|") (["aab", "|é|", "||", "é||"].map bytesOf) answers) ∧
      "é|" ≠ "" ∧ ∃ pieces last, Split (bytesOf "é|") (bytesOf "aaab|é|é||é|") pieces last ∧
        ∀ n, st.readEach standardInput (List.replicate n "é|") =
          ((pieceRecords pieces last).map (.ok <| some <| textOf ·)).take n ++
            List.replicate (n - (pieceRecords pieces last).length) (.ok none) := by
  intro st
  have hsource : standardInput.source ≠ .directory := by decide
  obtain ⟨heach, hsplit⟩ := st.readEach_separated standardInput hsource
  have htexts : ∀ text ∈ ["aab", "|é|", "||", "é||"], text ≠ "" := by decide
  exact ⟨hsource, ⟨htexts, heach _ htexts⟩, by decide, hsplit "é|" (by decide)⟩

example :
    (start .empty (bytesOf "aaab|é|é||é|") .silent).readEach standardInput ["aab", "|é|", "||", "é||"] =
      [.ok (some "a"), .ok (some ""), .ok (some "é"), .ok (some "é|")] := by
  cbv

end Streams

end Host

end Awk
