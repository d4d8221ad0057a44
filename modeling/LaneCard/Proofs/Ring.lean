import LaneCard.Ring
import Mathlib.Data.List.Basic

/-!
# The ring as a list

What each operation of a ring does to the list of its entries. A ring that holds at most
`capacity` numbers has room for one more: the number is appended, and no collision is counted.
-/

namespace LaneCard.Ring

/-- A number below twice the depth, wrapped around once. -/
private theorem wrap (depth a : Nat) (ha : a < 2 * depth) :
    a % depth = if a < depth then a else a - depth := by
  split
  · exact Nat.mod_eq_of_lt ‹_›
  · rw [Nat.mod_eq_sub_mod (by omega), Nat.mod_eq_of_lt (by omega)]

/-- The number of entries, without a remainder. -/
theorem length_eq (r : Ring) :
    r.length = if r.read.val ≤ r.write.val then r.write.val - r.read.val
      else r.write.val + (r.capacity + 2) - r.read.val := by
  have hread := r.read.isLt
  have hwrite := r.write.isLt
  rw [length, depth, wrap _ _ (by omega)]
  split <;> split <;> omega

/-- One slot always stays free. -/
theorem length_lt (r : Ring) : r.length < r.capacity + 2 := Nat.mod_lt _ (Nat.succ_pos _)

/-- The slot that is `k` places behind the oldest. -/
private theorem slot_eq (r : Ring) (k : Nat) (hk : k < r.capacity + 2) :
    (r.read.val + k) % (r.capacity + 2) =
      if r.read.val + k < r.capacity + 2 then r.read.val + k else r.read.val + k - (r.capacity + 2) := by
  have hread := r.read.isLt
  exact wrap _ _ (by omega)

/-- The list of entries is as long as the ring says. -/
@[simp] theorem length_toList (r : Ring) : r.toList.length = r.length := by simp [toList]

/-- The entries of the list are those of the ring. -/
theorem getElem?_toList (r : Ring) (k : Nat) :
    r.toList[k]? = if k < r.length then some (r.entry k) else none := by
  rw [toList, List.getElem?_map]
  split
  · rw [List.getElem?_range ‹_›]
    rfl
  · rw [List.getElem?_eq_none (by rw [List.length_range]; omega)]
    rfl

/-- A ring is empty when its list is. -/
theorem isEmpty_iff (r : Ring) : r.isEmpty = true ↔ r.toList = [] := by
  have hread := r.read.isLt
  have hwrite := r.write.isLt
  rw [← List.length_eq_zero_iff, length_toList, length_eq, isEmpty, beq_iff_eq, Fin.ext_iff]
  split <;> omega

/-- A ring that is not empty has a first entry. -/
theorem isEmpty_eq_false_iff (r : Ring) : r.isEmpty = false ↔ r.toList ≠ [] := by
  rw [← Bool.not_eq_true, isEmpty_iff]

/-- The oldest number is the head of the list. -/
theorem peek?_eq_head? (r : Ring) : r.peek? = r.toList.head? := by
  rw [List.head?_eq_getElem?, getElem?_toList, peek?]
  by_cases hempty : r.isEmpty = true
  · have hlength : r.length = 0 := by rw [← length_toList, (r.isEmpty_iff).mp hempty, List.length_nil]
    simp [hempty, hlength]
  · have hlength : 0 < r.length := by
      rw [← length_toList]
      exact List.length_pos_iff.mpr fun hnil => hempty ((r.isEmpty_iff).mpr hnil)
    have hslot : (r.read.val + 0) % (r.capacity + 2) = r.read.val := Nat.mod_eq_of_lt r.read.isLt
    simp only [hempty, hlength, if_true, Bool.false_eq_true, if_false, entry, hslot]
    rfl

/-- The index after an index, without a remainder. -/
private theorem val_succ (r : Ring) (i : Fin (r.capacity + 2)) :
    (r.succ i).val = if i.val + 1 < r.capacity + 2 then i.val + 1 else i.val + 1 - (r.capacity + 2) :=
  wrap _ _ (by have := i.isLt; omega)

/-- Taking the oldest number leaves the tail of the list. -/
theorem toList_drop (r : Ring) : r.drop.toList = r.toList.tail := by
  unfold drop
  by_cases hempty : r.isEmpty = true
  · rw [if_pos hempty, (r.isEmpty_iff).mp hempty, List.tail_nil]
  · rw [if_neg hempty]
    have hread := r.read.isLt
    have hwrite := r.write.isLt
    have hne : r.read.val ≠ r.write.val := fun h => hempty (by
      rw [isEmpty, beq_iff_eq]
      exact Fin.ext h)
    set moved : Ring := { r with read := r.succ r.read } with hmoved
    have hsucc : moved.read.val = _ := r.val_succ r.read
    have hlength : moved.length + 1 = r.length := by
      rw [length_eq, length_eq]
      change (if moved.read.val ≤ r.write.val then r.write.val - moved.read.val
        else r.write.val + (r.capacity + 2) - moved.read.val) + 1 = _
      rw [hsucc]
      split <;> split <;> split <;> omega
    apply List.ext_getElem?
    intro k
    rw [List.getElem?_tail, getElem?_toList, getElem?_toList]
    by_cases hk : k < moved.length
    · rw [if_pos hk, if_pos (by omega)]
      have hbound := moved.length_lt
      have hsame : (moved.read.val + k) % (r.capacity + 2) = (r.read.val + (k + 1)) % (r.capacity + 2) := by
        rw [hsucc]
        change k < moved.length at hk
        have hcap : moved.capacity = r.capacity := rfl
        split
        · congr 1; omega
        · rw [slot_eq r (k + 1) (by omega), wrap _ _ (by omega)]
          split <;> split <;> omega
      simp only [entry]
      congr 2
      exact Fin.ext hsame
    · rw [if_neg hk, if_neg (by omega)]

/-- Taking the oldest number leaves no other one in the ring. -/
theorem mem_toList_drop {r : Ring} {i : Nat} (hi : i ∈ r.drop.toList) : i ∈ r.toList := by
  rw [r.toList_drop] at hi
  exact List.mem_of_mem_tail hi

/-- The oldest number is one of the ring. -/
theorem mem_of_peek? {r : Ring} {i : Nat} (hi : r.peek? = some i) : i ∈ r.toList := by
  rw [r.peek?_eq_head?] at hi
  exact List.mem_of_head? hi

/-- Taking a number moves nothing else. -/
theorem drop_capacity (r : Ring) : r.drop.capacity = r.capacity := by
  unfold drop
  split <;> rfl

/-- Taking an entry is no collision. -/
@[simp] theorem drop_collisions (r : Ring) : r.drop.collisions = r.collisions := by
  unfold drop
  split <;> rfl

/-- Adding an entry leaves the capacity as it is. -/
@[simp] theorem push_capacity (r : Ring) (entry : Nat) : (r.push entry).2.capacity = r.capacity := by
  unfold push
  split <;> rfl

/-- The write index catches up with the read index only when one slot is left. -/
private theorem succ_write_eq_iff (r : Ring) : r.succ r.write = r.read ↔ r.length = r.capacity + 1 := by
  have hread := r.read.isLt
  have hwrite := r.write.isLt
  rw [Fin.ext_iff, val_succ, length_eq]
  split <;> split <;> omega

/-- A ring with room takes a number without a collision. -/
theorem push_of_room (r : Ring) (entry : Nat) (hroom : r.length ≤ r.capacity) :
    r.push entry =
      (.stored, { r with slots := r.slots.set r.write entry r.write.isLt, write := r.succ r.write }) := by
  have hfree : r.succ r.write ≠ r.read := fun h => by
    have := (r.succ_write_eq_iff).mp h
    omega
  rw [push, if_neg hfree]

/-- A ring with room appends a number to its list. -/
theorem toList_push (r : Ring) (entry : Nat) (hroom : r.length ≤ r.capacity) :
    (r.push entry).2.toList = r.toList ++ [entry] := by
  rw [push_of_room r entry hroom]
  have hread := r.read.isLt
  have hwrite := r.write.isLt
  set moved : Ring := { r with slots := r.slots.set r.write entry r.write.isLt, write := r.succ r.write }
  have hsucc : moved.write.val = _ := r.val_succ r.write
  have hlength : moved.length = r.length + 1 := by
    have hold := r.length_eq
    rw [length_eq]
    change (if r.read.val ≤ moved.write.val then moved.write.val - r.read.val
      else moved.write.val + (r.capacity + 2) - r.read.val) = _
    rw [hsucc]
    split at hold <;> split <;> split <;> omega
  have hslot (k : Nat) (hk : k < r.capacity + 2) :
      moved.entry k = if k = r.length then entry else r.entry k := by
    have hold := r.length_eq
    have hpos := r.slot_eq k hk
    have hbound : (r.read.val + k) % (r.capacity + 2) < r.capacity + 2 := Nat.mod_lt _ (by omega)
    have hset : moved.entry k = (r.slots.set r.write entry r.write.isLt)[(r.read.val + k) % (r.capacity + 2)] := rfl
    rw [hset, Vector.getElem_set]
    by_cases hlast : k = r.length
    · have hwhere : r.write.val = (r.read.val + k) % (r.capacity + 2) := by
        rw [hpos]
        split at hold <;> split <;> omega
      rw [if_pos hwhere, if_pos hlast]
    · have hwhere : r.write.val ≠ (r.read.val + k) % (r.capacity + 2) := by
        rw [hpos]
        split at hold <;> split <;> omega
      rw [if_neg hwhere, if_neg hlast]
      rfl
  apply List.ext_getElem?
  intro k
  rw [getElem?_toList, hlength]
  by_cases hk : k < r.length
  · rw [List.getElem?_append_left (by simpa using hk), getElem?_toList, if_pos hk, if_pos (by omega),
      hslot k (by omega), if_neg (by omega)]
  · rw [List.getElem?_append_right (by simpa using hk)]
    by_cases hlast : k = r.length
    · rw [if_pos (by omega), hslot k (by omega), if_pos hlast]
      simp [hlast]
    · rw [if_neg (by omega), List.getElem?_eq_none (by simp; omega)]

/-- A ring with room counts no collision. -/
theorem collisions_push (r : Ring) (entry : Nat) (hroom : r.length ≤ r.capacity) :
    (r.push entry).2.collisions = r.collisions := by rw [push_of_room r entry hroom]

/-- A ring without room takes a number too, and counts a collision. -/
theorem push_of_full (r : Ring) (entry : Nat) (hfull : r.length = r.capacity + 1) :
    r.push entry =
      (.collision, { r with
        slots := r.slots.set r.write entry r.write.isLt
        write := r.succ r.write
        collisions := r.collisions + 1 }) := by
  rw [push, if_pos ((r.succ_write_eq_iff).mpr hfull)]

/-- A ring without room looks empty after a number was written to it. -/
theorem toList_push_of_full (r : Ring) (entry : Nat) (hfull : r.length = r.capacity + 1) :
    (r.push entry).2.toList = [] := by
  have hmet : r.succ r.write = r.read := (r.succ_write_eq_iff).mpr hfull
  rw [← isEmpty_iff, push_of_full r entry hfull, isEmpty, hmet]
  exact beq_self_eq_true r.read

/-- Writing a number to a ring adds that number at most, even where it comes to a collision. -/
theorem mem_toList_push {r : Ring} {entry i : Nat} (hi : i ∈ (r.push entry).2.toList) :
    i ∈ r.toList ∨ i = entry := by
  by_cases hroom : r.length ≤ r.capacity
  · rw [r.toList_push entry hroom] at hi
    simpa using hi
  · have hlength := r.length_lt
    rw [r.toList_push_of_full entry (by omega)] at hi
    contradiction

/-- A new ring is empty. -/
@[simp] theorem toList_new (capacity : Nat) : (new capacity).toList = [] := by
  rw [← isEmpty_iff]
  rfl

/-- A ring starts with the given numbers if it has room for them. -/
theorem toList_ofList (capacity : Nat) (entries : List Nat) (hroom : entries.length ≤ capacity) :
    (ofList capacity entries).toList = entries := by
  have htake : entries.take capacity = entries := List.take_of_length_le hroom
  have hwrite : (ofList capacity entries).write.val = entries.length := by
    change (entries.take capacity).length = _
    rw [htake]
  have hread : (ofList capacity entries).read.val = 0 := rfl
  have hcapacity : (ofList capacity entries).capacity = capacity := rfl
  have hlength : (ofList capacity entries).length = entries.length := by
    rw [length_eq, hread, hwrite]
    split <;> omega
  apply List.ext_getElem?
  intro k
  rw [getElem?_toList, hlength]
  by_cases hk : k < entries.length
  · rw [if_pos hk]
    have hbound : (0 + k) % (capacity + 2) < capacity + 2 := Nat.mod_lt _ (by omega)
    have hentry : (ofList capacity entries).entry k =
        (ofList capacity entries).slots[(0 + k) % (capacity + 2)] := rfl
    rw [hentry]
    simp only [ofList, Vector.getElem_ofFn, htake, Nat.zero_add]
    rw [Nat.mod_eq_of_lt (by omega)]
    simp [hk]
  · rw [if_neg hk, List.getElem?_eq_none (by omega)]

/-- Numbers that a ring has no room for are left out at the start. -/
theorem toList_ofList_eq_take (capacity : Nat) (entries : List Nat) :
    (ofList capacity entries).toList = entries.take capacity := by
  have hsame : ofList capacity entries = ofList capacity (entries.take capacity) := by
    simp only [ofList, List.take_take, Nat.min_self]
  rw [hsame, toList_ofList capacity _ (List.length_take_le capacity entries)]

end LaneCard.Ring
