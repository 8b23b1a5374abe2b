import Std.Data.TreeMap.Lemmas
import Mathlib.Data.List.Basic
import Awk.Host.Disk

/-! Where names lead, and what becomes of it when files are made, emptied, written and taken away. -/

namespace Awk.Host.Disk

open Records (Bytes)

variable {d d' : Disk} {name other key : String} {n : Nat} {w : Writable}

/-- Each file has one name, and the next one that is made is none of them. -/
structure Sound (d : Disk) : Prop where
  injective : ∀ {key key' : String} {n : Nat},
    d.names[key]? = some n → d.names[key']? = some n → key = key'
  bound : ∀ {key : String} {n : Nat}, d.names[key]? = some n → n < d.next

theorem sound_empty : empty.Sound where
  injective h := by simp [empty] at h
  bound h := by simp [empty] at h

@[simp] theorem setBytes_names (d : Disk) (n : Nat) (s : Bytes) : (d.setBytes n s).names = d.names :=
  rfl

@[simp] theorem bytes_setBytes (d : Disk) (n k : Nat) (s : Bytes) :
    (d.setBytes n s).bytes k = if n = k then s else d.bytes k := by
  simp [bytes, setBytes, Std.TreeMap.getD_insert]

@[simp] theorem bytes_create (d : Disk) (key : String) (k : Nat) :
    (d.create key).2.bytes k = if d.next = k then [] else d.bytes k := by
  simp [bytes, create, Std.TreeMap.getD_insert]

@[simp] theorem names_create (d : Disk) (key key' : String) :
    (d.create key).2.names[key']? = if key = key' then some d.next else d.names[key']? := by
  simp [create, Std.TreeMap.getElem?_insert]

@[simp] theorem names_remove (d : Disk) (key key' : String) :
    (d.remove key).names[key']? = if key = key' then none else d.names[key']? := by
  simp [remove, Std.TreeMap.getElem?_erase]

/-! Names. -/

/-- The name can be looked up, in directories that are there. -/
structure Passable (d : Disk) (name : String) : Prop where
  clean : name.toList.contains '\x00' = false
  nonempty : name.isEmpty = false
  short : (name.utf8ByteSize ≥ 4096 || (Path.ofString name).parts.any (·.utf8ByteSize > 255)) = false
  way : d.obstacle? (.ofString name) = none
  place : d.isDirectory (.ofString name) = false

theorem Passable.locate_eq (h : d.Passable name) : d.locate name =
    match d.names[(Path.ofString name).key]?, device? (Path.ofString name).key with
    | some n, _ => .ok (.file n)
    | none, some dev => .ok (.device dev)
    | none, none => .ok (.vacant (Path.ofString name).key) := by
  cases hn : d.names[(Path.ofString name).key]? <;>
    cases hd : device? (Path.ofString name).key <;>
    simp only [locate, h.clean, h.nonempty, h.short, h.way, h.place, hn, hd, Bool.false_eq_true,
      if_false]

theorem passable_of_locate {l : Location} (h : d.locate name = .ok l) (hplace : l ≠ .directory) :
    d.Passable name := by
  unfold locate at h
  simp only at h
  split at h
  · cases h
  split at h
  · cases h
  split at h
  · cases h
  rename_i hclean hnonempty hshort
  split at h
  · cases h
  rename_i hway
  split at h
  · cases h
    exact absurd rfl hplace
  rename_i hdirectory
  exact ⟨by simpa using hclean, by simpa using hnonempty, by simpa using hshort, hway,
    by simpa using hdirectory⟩

theorem Passable.congr (h : d.Passable name) (hdirectories : d'.directories = d.directories) :
    d'.Passable name := by
  have hsame (p : Path) : d'.isDirectory p = d.isDirectory p := by
    unfold isDirectory
    rw [hdirectories]
  refine ⟨h.clean, h.nonempty, h.short, ?_, (hsame _).trans h.place⟩
  have hway := h.way
  unfold obstacle? at hway ⊢
  simp only [Option.map_eq_none_iff, hsame] at hway ⊢
  exact hway

theorem names_of_locate (h : d.locate name = .ok (.file n)) :
    d.names[(Path.ofString name).key]? = some n := by
  have heq := (passable_of_locate h (by nofun)).locate_eq.symm.trans h
  split at heq
  · rename_i hname
    rw [hname]
    cases heq
    rfl
  · cases heq
  · cases heq

theorem locate_vacant (h : d.locate name = .ok (.vacant key)) :
    key = (Path.ofString name).key ∧ d.names[(Path.ofString name).key]? = none := by
  have heq := (passable_of_locate h (by nofun)).locate_eq.symm.trans h
  split at heq
  · cases heq
  · cases heq
  · rename_i hname _
    cases heq
    exact ⟨rfl, hname⟩

theorem device_of_locate {dev : Device} (h : d.locate name = .ok (.device dev)) :
    device? (Path.ofString name).key = some dev := by
  have heq := (passable_of_locate h (by nofun)).locate_eq.symm.trans h
  split at heq
  · cases heq
  · rename_i hdevice
    rw [hdevice]
    cases heq
    rfl
  · cases heq

theorem locate_create (h : d.locate name = .ok (.vacant key)) :
    (d.create key).2.locate name = .ok (.file d.next) := by
  have hpassable : (d.create key).2.Passable name :=
    (passable_of_locate h (by nofun)).congr rfl
  rw [hpassable.locate_eq, names_create, if_pos (locate_vacant h).1]

/-- Two names of different files. -/
theorem Sound.ne_of_locate {k : Nat} (h : d.Sound) (hname : d.locate name = .ok (.file n))
    (hother : d.locate other = .ok (.file k))
    (hkey : (Path.ofString name).key ≠ (Path.ofString other).key) : n ≠ k := by
  rintro rfl
  exact hkey (h.injective (names_of_locate hname) (names_of_locate hother))

/-! What leaves a file as it is. -/

/-- A name that leads to a file leads to the same file, which has the same bytes. -/
def SameAt (d d' : Disk) (name : String) : Prop :=
  ∀ n, d.locate name = .ok (.file n) → d'.locate name = .ok (.file n) ∧ d'.bytes n = d.bytes n

instance (d d' : Disk) (name : String) : Decidable (d.SameAt d' name) :=
  match h : d.locate name with
  | .ok (.file n) =>
    decidable_of_iff (d'.locate name = .ok (.file n) ∧ d'.bytes n = d.bytes n)
      ⟨fun hsame k hk => by cases h.symm.trans hk; exact hsame, fun hsame => hsame n h⟩
  | .ok (.device _) | .ok .directory | .ok (.vacant _) | .error _ =>
    isTrue fun k hk => by cases h.symm.trans hk

theorem SameAt.refl (d : Disk) (name : String) : d.SameAt d name := fun _ h => ⟨h, rfl⟩

theorem SameAt.trans {d'' : Disk} (h : d.SameAt d' name) (h' : d'.SameAt d'' name) :
    d.SameAt d'' name := fun n hn =>
  have ⟨hlocate, hbytes⟩ := h n hn
  ⟨(h' n hlocate).1, (h' n hlocate).2.trans hbytes⟩

theorem sameAt_setBytes (s : Bytes) (h : d.locate other ≠ .ok (.file n)) :
    d.SameAt (d.setBytes n s) other := by
  intro k hk
  refine ⟨hk, ?_⟩
  rw [bytes_setBytes, if_neg]
  rintro rfl
  exact h hk

theorem sameAt_create (hsound : d.Sound) (hkey : key ≠ (Path.ofString other).key) :
    d.SameAt (d.create key).2 other := by
  intro k hk
  have hname := names_of_locate hk
  have hpassable : (d.create key).2.Passable other := (passable_of_locate hk (by nofun)).congr rfl
  refine ⟨?_, ?_⟩
  · rw [hpassable.locate_eq, names_create, if_neg hkey, hname]
  · rw [bytes_create, if_neg (Nat.ne_of_gt (hsound.bound hname))]

/-! What can be done to files. -/

/-- What an opening for writing can come to. -/
theorem openForWriting_cases {keep : Bool} (h : d.openForWriting name keep = .ok (w, d')) :
    (Path.ofString name).directory = false ∧
      ((∃ dev, w = .device dev ∧ d' = d ∧ d.locate name = .ok (.device dev)) ∨
        (∃ n, w = .file n ∧ d.locate name = .ok (.file n) ∧
          d' = if keep then d else d.setBytes n []) ∨
        ∃ key, d.locate name = .ok (.vacant key) ∧ w = .file d.next ∧ d' = (d.create key).2) := by
  unfold openForWriting at h
  split at h
  · cases h
  · cases h
  · rename_i location _ hlocate
    split at h
    · cases h
    rename_i hdirectory
    refine ⟨by simpa using hdirectory, ?_⟩
    cases location with
    | device dev =>
      cases h
      exact .inl ⟨dev, rfl, rfl, hlocate⟩
    | file n =>
      cases h
      exact .inr (.inl ⟨n, rfl, hlocate, rfl⟩)
    | vacant key =>
      cases h
      exact .inr (.inr ⟨key, hlocate, rfl, rfl⟩)
    | directory => cases h

/-- What holds of files however they are opened, written and removed. -/
structure Stable (P : Disk → Prop) : Prop where
  opened : ∀ {d d' name keep w}, P d → d.openForWriting name keep = .ok (w, d') → P d'
  written : ∀ {d} n position s, P d → P (d.write n position s)
  removed : ∀ {d} key, P d → P (d.remove key)

theorem Sound.setBytes (h : d.Sound) (n : Nat) (s : Bytes) : (d.setBytes n s).Sound :=
  ⟨h.injective, h.bound⟩

theorem Sound.create (h : d.Sound) (key : String) : (d.create key).2.Sound where
  injective {_ _ _} h₁ h₂ := by
    rw [names_create] at h₁ h₂
    split at h₁ <;> split at h₂
    · rename_i hfirst hsecond
      exact hfirst.symm.trans hsecond
    · cases h₁
      exact absurd (h.bound h₂) (Nat.lt_irrefl _)
    · cases h₂
      exact absurd (h.bound h₁) (Nat.lt_irrefl _)
    · exact h.injective h₁ h₂
  bound {_ _} h' := by
    rw [names_create] at h'
    split at h'
    · cases h'
      exact Nat.lt_succ_self _
    · exact Nat.lt_succ_of_lt (h.bound h')

theorem Sound.remove (h : d.Sound) (key : String) : (d.remove key).Sound where
  injective {_ _ _} h₁ h₂ := by
    rw [names_remove] at h₁ h₂
    split at h₁
    · cases h₁
    split at h₂
    · cases h₂
    exact h.injective h₁ h₂
  bound {_ _} h' := by
    rw [names_remove] at h'
    split at h'
    · cases h'
    exact h.bound h'

theorem sound_stable : Stable Sound where
  opened {_ _ _ keep _} h hopen := by
    obtain ⟨-, ⟨dev, -, rfl, -⟩ | ⟨n, -, -, rfl⟩ | ⟨key, -, -, rfl⟩⟩ := openForWriting_cases hopen
    · exact h
    · cases keep
      · exact h.setBytes n []
      · exact h
    · exact h.create key
  written n position s h := h.setBytes n _
  removed key h := h.remove key

theorem Sound.add (h : d.Sound) (name : String) (s : Bytes) : (d.add name s).Sound := by
  have hway (ps : List Path) (d : Disk) (h : d.Sound) : (ps.foldl addDirectory d).Sound := by
    induction ps generalizing d with
    | nil => exact h
    | cons p ps ih =>
      refine ih _ ?_
      unfold addDirectory
      split
      · exact h
      · exact ⟨h.injective, h.bound⟩
  exact ((hway _ d h).create _).setBytes _ _

theorem read_of_locate (h : d.locate name = .ok (.file n))
    (hplain : (Path.ofString name).directory = false) : d.read name = .ok (d.bytes n) := by
  simp [read, openForReading, h, hplain]

theorem read_of_vacant (h : d.locate name = .ok (.vacant key)) :
    d.read name = .error .notFound := by
  simp [read, openForReading, h]

/-- The name leads to a file of these bytes. -/
inductive Contains (d : Disk) (name : String) : Bytes → Prop
  | file {n : Nat} : d.locate name = .ok (.file n) → (Path.ofString name).directory = false →
    Contains d name (d.bytes n)

theorem Contains.read {s : Bytes} (h : d.Contains name s) : d.read name = .ok s := by
  obtain ⟨hlocate, hplain⟩ := h
  exact read_of_locate hlocate hplain

theorem SameAt.contains {s : Bytes} (h : d.SameAt d' name) (hs : d.Contains name s) :
    d'.Contains name s := by
  obtain ⟨hlocate, hplain⟩ := hs
  obtain ⟨hlocate', hbytes⟩ := h _ hlocate
  rw [← hbytes]
  exact .file hlocate' hplain

/-! Adding to the end of a file. -/

/-- What is written at the position goes behind what is there. -/
def AtEnd (d : Disk) (n : Nat) (position : Option Nat) : Prop :=
  position = none ∨ position = some (d.bytes n).length

/-- Bytes come behind those of one file, and nothing else changes. -/
structure Adds (d d' : Disk) (n : Nat) (s : Bytes) : Prop where
  locate : ∀ name, d'.locate name = d.locate name
  bytes : d'.bytes n = d.bytes n ++ s
  others : ∀ k, k ≠ n → d'.bytes k = d.bytes k
  sound : d.Sound → d'.Sound

theorem Adds.nil (d : Disk) (n : Nat) : d.Adds d n [] :=
  ⟨fun _ => rfl, (List.append_nil _).symm, fun _ _ => rfl, id⟩

theorem Adds.trans {d'' : Disk} {s t : Bytes} (h : d.Adds d' n s) (h' : d'.Adds d'' n t) :
    d.Adds d'' n (s ++ t) where
  locate name := (h'.locate name).trans (h.locate name)
  bytes := by rw [h'.bytes, h.bytes, List.append_assoc]
  others k hk := (h'.others k hk).trans (h.others k hk)
  sound := h'.sound ∘ h.sound

theorem adds_write {position : Option Nat} (s : Bytes) (h : d.AtEnd n position) :
    d.Adds (d.write n position s) n s where
  locate _ := rfl
  bytes := by
    have hlength : position.getD (d.bytes n).length = (d.bytes n).length := by
      obtain rfl | rfl := h <;> rfl
    simp [write, hlength]
  others k hk := by
    rw [write, bytes_setBytes, if_neg hk.symm]
  sound hsound := hsound.setBytes _ _

theorem Adds.sameAt {s : Bytes} (h : d.Adds d' n s) (hother : d.locate other ≠ .ok (.file n)) :
    d.SameAt d' other := by
  intro k hk
  refine ⟨(h.locate other).trans hk, h.others k ?_⟩
  rintro rfl
  exact hother hk

end Awk.Host.Disk
