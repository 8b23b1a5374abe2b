import Awk.Regex

/-! Where matches lie. A search finds a match that starts at or after the place where the search
begins, and stops within the text; after the first match of a series every one takes the series
further on. -/

namespace Awk.Regex

variable {code : Code} {before after : Option Char} {front : Front} {found : Option Match}
  {threads : List Thread} {low high place start : Nat} {r : Regex} {last : Option Nat}
  {m : Match} {s : List Char}

/-- A thread that has started between two places. -/
def Thread.Within (low high : Nat) (t : Thread) : Prop := low ≤ t.start ∧ t.start ≤ high

/-- A match between two places. -/
structure Match.Within (low high : Nat) (m : Match) : Prop where
  low_le : low ≤ m.start
  start_le : m.start ≤ m.stop
  stop_le : m.stop ≤ high

theorem Match.Within.mono (h : m.Within low high) {high' : Nat} (hle : high ≤ high') :
    m.Within low high' :=
  ⟨h.low_le, h.start_le, Nat.le_trans h.stop_le hle⟩

namespace Front

/-- A front whose threads and match have started between two places. -/
structure Within (low high : Nat) (front : Front) : Prop where
  waiting : ∀ t ∈ front.waiting, t.Within low high
  matched : ∀ start ∈ front.matched, low ≤ start ∧ start ≤ high

theorem Within.follow (h : front.Within low high) (hstart : low ≤ start ∧ start ≤ high) (n : Nat)
    (todo : List Nat) : (Front.follow code before after start n todo front).Within low high := by
  induction n generalizing todo front with
  | zero => exact h
  | succ n ih =>
    cases todo with
    | nil => exact h
    | cons i todo =>
      rw [Front.follow]
      split
      · exact ih h todo
      · have hseen : Within low high { front with seen := front.seen.set! i true } :=
          ⟨h.waiting, h.matched⟩
        dsimp only
        split
        · exact ih hseen todo
        · refine ⟨h.waiting, fun other hother => ?_⟩
          cases hother
          exact hstart
        · exact ih hseen _
        · exact ih hseen _
        · exact ih hseen _
        · have hwaiting : Within low high
              { front with seen := front.seen.set! i true, waiting := ⟨i, start⟩ :: front.waiting } :=
            ⟨List.forall_mem_cons.mpr ⟨hstart, h.waiting⟩, h.matched⟩
          exact ih hwaiting todo

theorem Within.enter (h : front.Within low high) {t : Thread} (ht : t.Within low high) :
    (Front.enter code before after front t).Within low high := by
  unfold Front.enter
  split
  · exact h
  · exact h.follow ht _ _

theorem within_ofThreads (h : ∀ t ∈ threads, t.Within low high) :
    (ofThreads code before after threads).Within low high := by
  refine List.foldlRecOn threads _ ⟨fun t ht => ?_, fun start hstart => ?_⟩
    fun front hfront t ht => hfront.enter (h t ht)
  · cases ht
  · cases hstart

theorem Within.advance (h : front.Within low high) (c : Char) :
    ∀ t ∈ front.advance code c, t.Within low high := by
  refine List.foldlRecOn (motive := fun threads : List Thread => ∀ t ∈ threads, t.Within low high)
    front.waiting _ (fun t ht => ?_) fun threads hthreads t ht => ?_
  · cases ht
  · split
    · split
      · exact List.forall_mem_cons.mpr ⟨h.waiting t ht, hthreads⟩
      · exact hthreads
    · exact hthreads

end Front

theorem within_arrive (hlow : low ≤ place) (h : ∀ t ∈ threads, t.Within low place) :
    (arrive code before after place threads found).Within low place := by
  refine Front.within_ofThreads ?_
  split
  · exact List.forall_mem_append.mpr ⟨h, List.forall_mem_singleton.mpr ⟨hlow, Nat.le_refl _⟩⟩
  · exact h

theorem Front.Within.match? (h : front.Within low place)
    (hfound : ∀ m ∈ found, m.Within low place) :
    ∀ m ∈ front.match? place found, m.Within low place := by
  intro m hm
  unfold Front.match? at hm
  cases hmatched : front.matched with
  | none =>
    rw [hmatched] at hm
    exact hfound m hm
  | some start =>
    rw [hmatched] at hm
    cases hm
    obtain ⟨hlow, hhigh⟩ := h.matched start hmatched
    exact ⟨hlow, hhigh, Nat.le_refl _⟩

theorem within_search (hlow : low ≤ place) (hthreads : ∀ t ∈ threads, t.Within low place)
    (hfound : ∀ m ∈ found, m.Within low place) :
    ∀ m ∈ search code before place threads found s, m.Within low (place + s.length) := by
  induction s generalizing before place threads found with
  | nil => exact (within_arrive hlow hthreads).match? hfound
  | cons c s ih =>
    have hfront : (arrive code before (some c) place threads found).Within low place :=
      within_arrive hlow hthreads
    have hfound := hfront.match? hfound
    intro m hm
    rw [search] at hm
    split at hm
    · exact (hfound m hm).mono (Nat.le_add_right ..)
    · rw [List.length_cons, Nat.add_comm s.length, ← Nat.add_assoc]
      refine ih (by omega) (fun t ht => ?_) (fun m hm => (hfound m hm).mono (Nat.le_succ _)) m hm
      obtain ⟨hlow, hhigh⟩ := hfront.advance c t ht
      exact ⟨hlow, by omega⟩

/-! Searches and series. -/

theorem within_findFrom (h : r.findFrom before place s = some m) :
    m.Within place (place + s.length) :=
  within_search (Nat.le_refl _) (List.forall_mem_nil _) (fun m hm => by cases hm) m h

/-- The next match of a series lies in what is left of the text; after another match, which stopped
at this place, it stops further on. -/
theorem within_nextMatch (h : r.nextMatch before place last s = some m) :
    m.Within place (place + s.length) ∧ (last = some place → place < m.stop) := by
  unfold nextMatch at h
  split at h
  · cases h
  · rename_i m' hfind
    have hwithin := within_findFrom hfind
    have hle := hwithin.start_le
    have hlow := hwithin.low_le
    split at h
    · cases s with
      | nil => cases h
      | cons c s =>
        have hwithin := within_findFrom h
        have hle := hwithin.start_le
        have hlow := hwithin.low_le
        have hhigh := hwithin.stop_le
        rw [List.length_cons]
        exact ⟨⟨by omega, hle, by omega⟩, fun _ => by omega⟩
    · rename_i hempty
      cases h
      refine ⟨hwithin, fun hlast => ?_⟩
      rw [hlast, Bool.and_eq_true, decide_eq_true_eq, decide_eq_true_eq, Option.some_inj] at hempty
      omega

end Awk.Regex
