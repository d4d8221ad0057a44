import LaneCard.Caller.Sparse
import LaneCard.Proofs.Bytes

/-!
# Reading and writing a caller's memory

An access is decided by one stretch, the one with the greatest start not above its address. Reading
gives what that stretch holds there, and writing changes it in no other place and leaves every other
stretch alone. The search for the stretch is a fold, so that a stretch that is put into memory is
followed through it one step at a time.
-/

namespace LaneCard.CallerMemory

/-- The stretch of an address reaches so many bytes from there on. -/
def Reaches (m : CallerMemory) (addr length : Nat) : Prop :=
  ∃ start bytes, m.below? addr = some (start, bytes) ∧ addr - start + length ≤ bytes.size

/-- The stretch of an address holds the data from there on. -/
def Holds (m : CallerMemory) (addr : Nat) (data : Bytes) : Prop :=
  ∃ start bytes, m.below? addr = some (start, bytes) ∧ addr - start + data.size ≤ bytes.size ∧
    bytes.extract (addr - start) (addr - start + data.size) = data

/-- Memory after data was stored at an address: the stretch of the address has the data there and is as
before in every other place, and every other stretch is as before. -/
def Stored (m m' : CallerMemory) (addr : Nat) (data : Bytes) : Prop :=
  ∃ start bytes bytes', m.below? addr = some (start, bytes) ∧ bytes'.size = bytes.size ∧
    (∀ i, bytes'.byteAt i =
      if addr - start ≤ i ∧ i < addr - start + data.size then data.byteAt (i - (addr - start))
      else bytes.byteAt i) ∧
    ∀ a, m'.below? a = (m.below? a).map fun s => if s.1 = start then (start, bytes') else s

/-! ## The search for a stretch -/

/-- The better of what was found so far and the next stretch. -/
def nearer (addr : Nat) (best : Option (Nat × Bytes)) (s : Nat × Bytes) : Option (Nat × Bytes) :=
  if s.1 ≤ addr ∧ (best.map fun b : Nat × Bytes => b.1).getD 0 ≤ s.1 then some s else best

/-- What a search has found so far, if the stretch `new` is there in any case. -/
def orNew (new : Nat × Bytes) (best : Option (Nat × Bytes)) : Nat × Bytes :=
  match best with
  | none => new
  | some s => if s.1 ≤ new.1 then new else s

/-- The stretch that an address is in is the nearest that starts at or below it. -/
theorem below?_eq_foldl (m : CallerMemory) (addr : Nat) :
    m.below? addr = m.stretches.foldl (nearer addr) none := rfl

/-- A stretch with the start of the new one makes no difference. -/
theorem orNew_nearer_of_eq {new s : Nat × Bytes} {addr : Nat} (hnew : new.1 ≤ addr) (hs : s.1 = new.1)
    (best : Option (Nat × Bytes)) : orNew new (nearer addr best s) = orNew new best := by
  cases best with
  | none => simp [nearer, orNew, hs, hnew]
  | some b =>
    by_cases hb : b.1 ≤ new.1
    · simp [nearer, orNew, hs, hnew, hb]
    · simp [nearer, orNew, hs, hb]

/-- Any other stretch is found beside the new one just as without it. -/
theorem nearer_orNew_of_ne {new s : Nat × Bytes} (addr : Nat) (hs : s.1 ≠ new.1)
    (best : Option (Nat × Bytes)) :
    nearer addr (some (orNew new best)) s = some (orNew new (nearer addr best s)) := by
  have hle : new.1 ≤ s.1 ↔ ¬ s.1 ≤ new.1 := by omega
  cases best with
  | none =>
    by_cases haddr : s.1 ≤ addr
    · by_cases hnew : s.1 ≤ new.1 <;> simp [nearer, orNew, haddr, hle, hnew]
    · simp [nearer, orNew, haddr]
  | some b =>
    by_cases haddr : s.1 ≤ addr
    · by_cases hb : b.1 ≤ new.1
      · by_cases hnew : s.1 ≤ new.1
        · by_cases hbetter : b.1 ≤ s.1 <;> simp [nearer, orNew, haddr, hb, hle, hnew, hbetter]
        · have hbetter : b.1 ≤ s.1 := by omega
          simp [nearer, orNew, haddr, hb, hle, hnew, hbetter]
      · by_cases hbetter : b.1 ≤ s.1
        · have hnew : ¬ s.1 ≤ new.1 := by omega
          simp [nearer, orNew, haddr, hb, hnew, hbetter]
        · simp [nearer, orNew, hb, hbetter]
    · by_cases hb : b.1 ≤ new.1 <;> simp [nearer, orNew, haddr, hb]

/-- A search that starts from the new stretch finds that one, or what a search without it finds. -/
theorem foldl_nearer_new {new : Nat × Bytes} {addr : Nat} (hnew : new.1 ≤ addr) (l : List (Nat × Bytes))
    (best : Option (Nat × Bytes)) :
    (l.filter fun s => s.1 != new.1).foldl (nearer addr) (some (orNew new best)) =
      some (orNew new (l.foldl (nearer addr) best)) := by
  induction l generalizing best with
  | nil => rfl
  | cons s l ih =>
    rw [List.foldl_cons, ← ih]
    by_cases hs : s.1 = new.1
    · rw [List.filter_cons_of_neg (by simpa using hs), orNew_nearer_of_eq hnew hs]
    · rw [List.filter_cons_of_pos (by simpa using hs), List.foldl_cons, nearer_orNew_of_ne addr hs]

/-- Stretches that start above the address are not looked at. -/
theorem foldl_nearer_filter {start addr : Nat} (hstart : addr < start) (l : List (Nat × Bytes))
    (best : Option (Nat × Bytes)) :
    (l.filter fun s => s.1 != start).foldl (nearer addr) best = l.foldl (nearer addr) best := by
  induction l generalizing best with
  | nil => rfl
  | cons s l ih =>
    by_cases hs : s.1 = start
    · have hpassed : nearer addr best s = best := if_neg (by omega)
      rw [List.filter_cons_of_neg (by simpa using hs), List.foldl_cons, hpassed, ih]
    · rw [List.filter_cons_of_pos (by simpa using hs), List.foldl_cons, List.foldl_cons, ih]

/-- A search finds a stretch of the memory not above the address, or nothing better than before. -/
theorem foldl_nearer_cases (addr : Nat) (l : List (Nat × Bytes)) (best : Option (Nat × Bytes)) :
    l.foldl (nearer addr) best = best ∨ ∃ s ∈ l, l.foldl (nearer addr) best = some s ∧ s.1 ≤ addr := by
  induction l generalizing best with
  | nil => exact .inl rfl
  | cons t l ih =>
    rw [List.foldl_cons]
    rcases ih (nearer addr best t) with h | ⟨s, hs, hfound, hle⟩
    · rw [h]
      unfold nearer
      split
      · rename_i hnear
        exact .inr ⟨t, List.mem_cons_self, rfl, hnear.1⟩
      · exact .inl rfl
    · exact .inr ⟨s, List.mem_cons_of_mem _ hs, hfound, hle⟩

/-- A search finds something at least as near as what it has found already. -/
theorem le_of_foldl_nearer (addr : Nat) (l : List (Nat × Bytes)) (b : Nat × Bytes) :
    ∃ s, l.foldl (nearer addr) (some b) = some s ∧ b.1 ≤ s.1 := by
  induction l generalizing b with
  | nil => exact ⟨b, rfl, Nat.le_refl _⟩
  | cons t l ih =>
    rw [List.foldl_cons]
    by_cases hnear : t.1 ≤ addr ∧ b.1 ≤ t.1
    · obtain ⟨s, hfound, hle⟩ := ih t
      exact ⟨s, by rw [nearer, if_pos (by simpa using hnear), hfound], Nat.le_trans hnear.2 hle⟩
    · rw [nearer, if_neg (by simpa using hnear)]
      exact ih b

/-- No stretch that starts at or below the address is nearer than the one that is found. -/
theorem le_of_mem {addr : Nat} {l : List (Nat × Bytes)} {t : Nat × Bytes} (ht : t ∈ l) (haddr : t.1 ≤ addr)
    (best : Option (Nat × Bytes)) : ∃ s, l.foldl (nearer addr) best = some s ∧ t.1 ≤ s.1 := by
  induction l generalizing best with
  | nil => contradiction
  | cons u l ih =>
    rw [List.foldl_cons]
    rcases List.mem_cons.mp ht with rfl | htail
    · by_cases hnear : (best.map fun b : Nat × Bytes => b.1).getD 0 ≤ t.1
      · rw [nearer, if_pos ⟨haddr, hnear⟩]
        exact le_of_foldl_nearer addr l t
      · cases best with
        | none => simp at hnear
        | some b =>
          rw [nearer, if_neg fun h => hnear h.2]
          obtain ⟨s, hfound, hle⟩ := le_of_foldl_nearer addr l b
          simp only [Option.map_some, Option.getD_some] at hnear
          exact ⟨s, hfound, by omega⟩
    · exact ih htail _

/-- Replacing a stretch replaces what is found of it, and nothing else. -/
theorem below?_insert {m : CallerMemory} {addr start : Nat} {bytes : Bytes}
    (hfound : m.below? addr = some (start, bytes)) (new : Bytes) (a : Nat) :
    (m.insert start new).below? a = (m.below? a).map fun s => if s.1 = start then (start, new) else s := by
  have hmem : (start, bytes) ∈ m.stretches := by
    rw [below?_eq_foldl] at hfound
    rcases foldl_nearer_cases addr m.stretches none with h | ⟨s, hs, h, -⟩
    · rw [h] at hfound
      contradiction
    · rw [h] at hfound
      exact Option.some.inj hfound ▸ hs
  rw [below?_eq_foldl, below?_eq_foldl, insert, List.foldl_cons]
  by_cases ha : start ≤ a
  · have hfirst : nearer a none (start, new) = some (orNew (start, new) none) :=
      if_pos ⟨ha, Nat.zero_le _⟩
    obtain ⟨s, hs, hle⟩ := le_of_mem hmem ha none
    rw [hfirst, foldl_nearer_new ha, hs, Option.map_some, orNew]
    by_cases hsame : s.1 = start
    · rw [if_pos (Nat.le_of_eq hsame), if_pos hsame]
    · rw [if_neg fun h => hsame (Nat.le_antisymm h hle), if_neg hsame]
  · have hfirst : nearer a none (start, new) = none := if_neg fun h => ha h.1
    rw [hfirst, foldl_nearer_filter (by omega)]
    rcases foldl_nearer_cases a m.stretches none with h | ⟨s, -, hs, hle⟩
    · rw [h]
      rfl
    · have hother : s.1 ≠ start := by omega
      rw [hs, Option.map_some, if_neg hother]

/-! ## Accesses -/

/-- An access that stays within its stretch is located there. -/
theorem locate_of_le {m : CallerMemory} {addr length start : Nat} {bytes : Bytes}
    (hfound : m.below? addr = some (start, bytes)) (hfits : addr - start + length ≤ bytes.size) :
    m.locate addr length = .ok (start, bytes) := by
  simp [locate, hfound, hfits]

/-- What a stretch holds can be read. -/
theorem Holds.read {m : CallerMemory} {addr : Nat} {data : Bytes} (h : m.Holds addr data) :
    m.read addr data.size = .ok data := by
  obtain ⟨start, bytes, hfound, hfits, hdata⟩ := h
  rw [CallerMemory.read, locate_of_le hfound hfits]
  exact congrArg Except.ok hdata

/-- Data can be stored where a stretch reaches far enough. -/
theorem Reaches.write {m : CallerMemory} {addr length : Nat} (h : m.Reaches addr length) {data : Bytes}
    (hdata : data.size ≤ length) : ∃ m', m.write addr data = .ok m' ∧ m.Stored m' addr data := by
  obtain ⟨start, bytes, hfound, hfits⟩ := h
  have hwithin : addr - start + data.size ≤ bytes.size := by omega
  refine ⟨m.insert start (bytes.overwrite (addr - start) data), ?_,
    start, bytes, bytes.overwrite (addr - start) data, hfound, Bytes.size_overwrite _ _ _ hwithin,
    fun i => Bytes.byteAt_overwrite _ _ _ i (by omega), below?_insert hfound _⟩
  rw [CallerMemory.write, locate_of_le hfound hwithin]
  rfl

/-- What was stored at an address is read back from there. -/
theorem read_of_write {m m' : CallerMemory} {addr : Nat} {data : Bytes} (h : m.write addr data = .ok m') :
    m'.read addr data.size = .ok data := by
  unfold CallerMemory.write locate at h
  split at h
  · rename_i start bytes hfound
    split at h
    · rename_i hfits
      obtain rfl : m.insert start (bytes.overwrite (addr - start) data) = m' := Except.ok.inj h
      have hput := below?_insert hfound (bytes.overwrite (addr - start) data) addr
      rw [hfound, Option.map_some, if_pos rfl] at hput
      refine Holds.read ⟨start, _, hput, ?_, Bytes.extract_overwrite _ _ _ hfits⟩
      rw [Bytes.size_overwrite _ _ _ hfits]
      exact hfits
    · contradiction
  · contradiction

end LaneCard.CallerMemory
