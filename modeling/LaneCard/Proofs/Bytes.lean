import LaneCard.Dma.Memory
import Mathlib.Data.List.Basic

/-!
# Words in memory

A number that a word can hold is that of the word. A list of words is recovered from its bytes, a
whole number of words cut off the front is a shorter list, and what was written to the start of a
stretch of memory is read back from there.
-/

namespace LaneCard

/-- A number that a word can hold is the number of that word. -/
theorem Word.toNat_ofNat_of_lt {n : Nat} (hn : n < wordSpan) : (BitVec.ofNat 32 n).toNat = n :=
  (BitVec.toNat_ofNat n 32).trans (Nat.mod_eq_of_lt hn)

/-- Putting bytes together to a word loses nothing. -/
theorem Word.bytes_ofBytes (a b c d : UInt8) : (Word.ofBytes a b c d).bytes = [a, b, c, d] := by
  have ha := a.toNat_lt
  have hb := b.toNat_lt
  have hc := c.toNat_lt
  have hd := d.toNat_lt
  have hnumber : (Word.ofBytes a b c d).toNat =
      a.toNat + b.toNat * 0x100 + c.toNat * 0x10000 + d.toNat * 0x1000000 :=
    Word.toNat_ofNat_of_lt (by simp only [wordSpan]; omega)
  have hbyte (x : UInt8) (n : Nat) (hn : n % 256 = x.toNat) : UInt8.ofNat n = x := by
    apply UInt8.toNat_inj.mp
    rw [UInt8.toNat_ofNat', hn]
  rw [Word.bytes, hnumber, hbyte a _ (by omega), hbyte b _ (by omega), hbyte c _ (by omega),
    hbyte d _ (by omega)]

namespace Bytes

/-- The bytes of two lists of words, one after the other. -/
theorem ofWords_append (xs ys : List Word) : ofWords (xs ++ ys) = ofWords xs ++ ofWords ys := by
  rw [ofWords, List.flatMap_append, List.toByteArray_append]
  rfl

/-- A word takes four bytes. -/
@[simp] theorem size_ofWords (ws : List Word) : (ofWords ws).size = 4 * ws.length := by
  induction ws with
  | nil => rfl
  | cons w ws ih =>
    rw [← List.singleton_append, ofWords_append, ByteArray.size_append, ih]
    simp [ofWords, Word.bytes, List.size_toByteArray]
    omega

/-- The bytes of the first string come first. -/
theorem byteAt_append_left (a b : Bytes) (i : Nat) (hi : i < a.size) : (a ++ b).byteAt i = a.byteAt i := by
  have hsum : i < (a ++ b).size := by rw [ByteArray.size_append]; omega
  rw [byteAt, dif_pos hsum, byteAt, dif_pos hi, ByteArray.getElem_append_left hi]

/-- The bytes of the second string follow. -/
theorem byteAt_append_right (a b : Bytes) (i : Nat) : (a ++ b).byteAt (a.size + i) = b.byteAt i := by
  unfold byteAt
  by_cases hi : i < b.size
  · have hsum : a.size + i < (a ++ b).size := by rw [ByteArray.size_append]; omega
    rw [dif_pos hsum, dif_pos hi, ByteArray.getElem_append_right (by omega)]
    simp
  · have hsum : ¬ a.size + i < (a ++ b).size := by rw [ByteArray.size_append]; omega
    rw [dif_neg hsum, dif_neg hi]

/-- A byte outside a string is zero. -/
theorem byteAt_of_le (b : Bytes) (i : Nat) (hi : b.size ≤ i) : b.byteAt i = 0 := by
  rw [byteAt, dif_neg (by omega)]

/-- Strings of the same size with the same bytes are the same. -/
theorem eq_of_byteAt {a b : Bytes} (hsize : a.size = b.size) (h : ∀ i < a.size, a.byteAt i = b.byteAt i) :
    a = b := by
  apply ByteArray.ext_getElem hsize
  intro i hi hi'
  have hbyte := h i hi
  rwa [byteAt, dif_pos hi, byteAt, dif_pos hi'] at hbyte

/-- The bytes of a stretch of a string. -/
theorem byteAt_extract_add (b : Bytes) (j k i : Nat) (hi : i < k) :
    byteAt (b.extract j (j + k)) i = b.byteAt (j + i) := by
  by_cases hin : j + i < b.size
  · have hstretch : i < (b.extract j (j + k)).size := by rw [ByteArray.size_extract]; omega
    rw [byteAt, dif_pos hstretch, byteAt, dif_pos hin, ByteArray.getElem_extract]
  · rw [byteAt_of_le b _ (by omega),
      byteAt_of_le (b.extract j (j + k)) i (by rw [ByteArray.size_extract]; omega)]

/-- The bytes of the front of a string. -/
theorem byteAt_extract (b : Bytes) (k i : Nat) (hi : i < k) : byteAt (b.extract 0 k) i = b.byteAt i := by
  have hfront := byteAt_extract_add b 0 k i hi
  rwa [Nat.zero_add, Nat.zero_add] at hfront

/-- The bytes of the back of a string. -/
theorem byteAt_extract_from (b : Bytes) (k i : Nat) : byteAt (b.extract k b.size) i = b.byteAt (k + i) := by
  by_cases hin : k + i < b.size
  · have hback : i < (b.extract k b.size).size := by rw [ByteArray.size_extract]; omega
    rw [byteAt, dif_pos hback, byteAt, dif_pos hin, ByteArray.getElem_extract]
  · rw [byteAt_of_le b _ (by omega),
      byteAt_of_le (b.extract k b.size) i (by rw [ByteArray.size_extract]; omega)]

/-- Bytes that are replaced are those of the data, and the others are as before. -/
theorem byteAt_overwrite (b data : Bytes) (offset i : Nat) (h : offset ≤ b.size) :
    (b.overwrite offset data).byteAt i =
      if offset ≤ i ∧ i < offset + data.size then data.byteAt (i - offset) else b.byteAt i := by
  have hfront : (b.extract 0 offset).size = offset := by rw [ByteArray.size_extract]; omega
  have hwritten : (b.extract 0 offset ++ data).size = offset + data.size := by
    rw [ByteArray.size_append, hfront]
  rw [overwrite]
  by_cases hbefore : i < offset
  · rw [if_neg (by omega), byteAt_append_left _ _ _ (by omega), byteAt_append_left _ _ _ (by omega),
      byteAt_extract b offset i hbefore]
  · obtain ⟨k, rfl⟩ : ∃ k, i = offset + k := ⟨i - offset, by omega⟩
    by_cases hin : k < data.size
    · have hplace := byteAt_append_right (b.extract 0 offset) data k
      rw [hfront] at hplace
      rw [if_pos ⟨by omega, by omega⟩, byteAt_append_left _ _ _ (by omega), hplace, Nat.add_sub_cancel_left]
    · obtain ⟨j, rfl⟩ : ∃ j, k = data.size + j := ⟨k - data.size, by omega⟩
      have hplace := byteAt_append_right (b.extract 0 offset ++ data) (b.extract (offset + data.size) b.size) j
      rw [hwritten, byteAt_extract_from] at hplace
      rw [if_neg (by omega), ← Nat.add_assoc, hplace]

/-- What replaced some bytes is found in their place. -/
theorem extract_overwrite (b data : Bytes) (offset : Nat) (h : offset + data.size ≤ b.size) :
    (b.overwrite offset data).extract offset (offset + data.size) = data := by
  have hfront : (b.extract 0 offset).size = offset := by rw [ByteArray.size_extract]; omega
  have hplace := ByteArray.extract_append_size_add' (b := data ++ b.extract (offset + data.size) b.size)
    (i := 0) (j := data.size) hfront.symm
  rw [Nat.add_zero] at hplace
  rw [overwrite, ByteArray.append_assoc, hplace, ByteArray.extract_append_eq_left rfl]

/-- Zero bytes are zero. -/
theorem byteAt_zeros (n i : Nat) : (zeros n).byteAt i = 0 := by
  unfold byteAt
  split
  · exact Array.getElem_replicate _
  · rfl

/-- A string that was cut or padded has the same bytes. -/
theorem byteAt_fit (b : Bytes) (n i : Nat) (hi : i < n) : (b.fit n).byteAt i = b.byteAt i := by
  rw [fit]
  have hsize : (b.extract 0 n).size = min n b.size := by simp
  by_cases hin : i < b.size
  · rw [byteAt_append_left _ _ _ (by omega), byteAt_extract b n i hi]
  · obtain ⟨k, rfl⟩ : ∃ k, i = (b.extract 0 n).size + k := ⟨i - b.size, by omega⟩
    rw [byteAt_append_right, byteAt_zeros, byteAt_of_le b _ (by omega)]

/-- The words of the second string follow. -/
theorem wordAt_append_right (a b : Bytes) (i : Nat) : (a ++ b).wordAt (a.size + i) = b.wordAt i := by
  simp only [wordAt, Nat.add_assoc, byteAt_append_right]

/-- The first word of a string that starts with the bytes of a word. -/
theorem wordAt_ofWords_singleton_append (w : Word) (b : Bytes) : (ofWords [w] ++ b).wordAt 0 = w := by
  have hsize : (ofWords [w]).size = 4 := size_ofWords [w]
  have hbyte (i : Nat) (hi : i < 4) : (ofWords [w] ++ b).byteAt (0 + i) = (ofWords [w]).byteAt i := by
    rw [Nat.zero_add, byteAt_append_left _ _ _ (by omega)]
  have hfirst : (ofWords [w] ++ b).byteAt 0 = (ofWords [w]).byteAt 0 := hbyte 0 (by omega)
  rw [wordAt, hfirst, hbyte 1 (by omega), hbyte 2 (by omega), hbyte 3 (by omega)]
  exact Word.ofBytes_bytes w

/-- The word of a string of one word. -/
theorem wordAt_ofWords_singleton (w : Word) : (ofWords [w]).wordAt 0 = w := by
  have hempty : ofWords [w] = ofWords [w] ++ ofWords [] := by rw [← ofWords_append, List.append_nil]
  rw [hempty, wordAt_ofWords_singleton_append]

/-- Words are recovered from their bytes. -/
@[simp] theorem words_ofWords (ws : List Word) : (ofWords ws).words = ws := by
  induction ws with
  | nil => rfl
  | cons w ws ih =>
    have hsize : (ofWords (w :: ws)).size / 4 = (ofWords ws).size / 4 + 1 := by
      rw [size_ofWords, size_ofWords, List.length_cons]
      omega
    have hsplit : ofWords (w :: ws) = ofWords [w] ++ ofWords ws := ofWords_append [w] ws
    rw [words, hsize, List.range_succ_eq_map, List.map_cons, List.map_map, hsplit,
      wordAt_ofWords_singleton_append]
    apply congrArg (w :: ·)
    calc
      _ = (List.range ((ofWords ws).size / 4)).map fun i => (ofWords ws).wordAt (4 * i) := by
        apply List.map_congr_left
        intro i _
        have hplace : 4 * (i + 1) = (ofWords [w]).size + 4 * i := by rw [size_ofWords]; simp; omega
        change (ofWords [w] ++ ofWords ws).wordAt (4 * (i + 1)) = _
        rw [hplace, wordAt_append_right]
      _ = ws := ih

/-- Every four bytes are a word. -/
@[simp] theorem length_words (b : Bytes) : b.words.length = b.size / 4 := by
  rw [words, List.length_map, List.length_range]

/-- The words of a string whose length is known. -/
theorem words_of_size {b : Bytes} {k : Nat} (hsize : b.size = 4 * k) :
    b.words = (List.range k).map fun i => b.wordAt (4 * i) := by
  rw [words, hsize, Nat.mul_div_cancel_left k (by decide)]

/-- The words of a string, by number. -/
theorem getElem?_words (b : Bytes) {k : Nat} (hk : k < b.size / 4) : b.words[k]? = some (b.wordAt (4 * k)) := by
  rw [words, List.getElem?_map, List.getElem?_range hk]
  rfl

/-- A string of whole words is recovered from its words. -/
theorem ofWords_words (b : Bytes) (hwhole : 4 ∣ b.size) : ofWords b.words = b := by
  have hsize : (ofWords b.words).size = b.size := by
    rw [size_ofWords, length_words]
    omega
  apply eq_of_byteAt hsize
  intro i hi
  have hk : i / 4 < b.size / 4 := by omega
  have hword : (ofWords b.words).wordAt (4 * (i / 4)) = b.wordAt (4 * (i / 4)) := by
    have hboth := (ofWords b.words).getElem?_words (hsize.symm ▸ hk)
    rw [words_ofWords, b.getElem?_words hk] at hboth
    exact (Option.some.inj hboth).symm
  have hbytes := congrArg Word.bytes hword
  simp only [wordAt, Word.bytes_ofBytes, List.cons.injEq, and_true] at hbytes
  obtain ⟨h0, h1, h2, h3⟩ := hbytes
  obtain h | h | h | h : i = 4 * (i / 4) ∨ i = 4 * (i / 4) + 1 ∨ i = 4 * (i / 4) + 2 ∨ i = 4 * (i / 4) + 3 := by
    omega
  · rw [h, h0]
  · rw [h, h1]
  · rw [h, h2]
  · rw [h, h3]

/-- A word that is replaced is the new one, and the others are as before. -/
theorem wordAt_overwrite (b : Bytes) (w : Word) {k : Nat} (hk : k < b.size / 4) (i : Nat) :
    (b.overwrite (4 * k) (ofWords [w])).wordAt (4 * i) = if i = k then w else b.wordAt (4 * i) := by
  have hsize : (ofWords [w]).size = 4 := size_ofWords [w]
  have hbyte (j : Nat) := byteAt_overwrite b (ofWords [w]) (4 * k) (4 * i + j) (by omega)
  have hfirst := hbyte 0
  rw [Nat.add_zero] at hfirst
  by_cases hi : i = k
  · subst hi
    rw [if_pos rfl, wordAt, hfirst, hbyte 1, hbyte 2, hbyte 3]
    rw [if_pos (by omega), if_pos (by omega), if_pos (by omega), if_pos (by omega), Nat.sub_self,
      Nat.add_sub_cancel_left, Nat.add_sub_cancel_left, Nat.add_sub_cancel_left]
    exact wordAt_ofWords_singleton w
  · rw [if_neg hi, wordAt, hfirst, hbyte 1, hbyte 2, hbyte 3]
    rw [if_neg (by omega), if_neg (by omega), if_neg (by omega), if_neg (by omega)]
    rfl

/-- Replacing a word of a string replaces it in the list of its words. -/
theorem words_overwrite (b : Bytes) (w : Word) {k : Nat} (hk : k < b.size / 4) :
    (b.overwrite (4 * k) (ofWords [w])).words = b.words.set k w := by
  have hsize : (b.overwrite (4 * k) (ofWords [w])).size = b.size :=
    size_overwrite b _ _ (by rw [size_ofWords, List.length_singleton]; omega)
  apply List.ext_getElem?
  intro i
  by_cases hi : i < b.size / 4
  · rw [getElem?_words _ (hsize.symm ▸ hi), wordAt_overwrite b w hk, List.getElem?_set, length_words,
      getElem?_words b hi, if_pos hk]
    by_cases hik : i = k
    · rw [if_pos hik, if_pos hik.symm]
    · rw [if_neg hik, if_neg (Ne.symm hik)]
  · rw [List.getElem?_eq_none (by rw [length_words, hsize]; omega),
      List.getElem?_eq_none (by rw [List.length_set, length_words]; omega)]

/-- Four zero bytes are the word zero. -/
theorem zeros_four : zeros 4 = ofWords [0#32] := rfl

/-- The first words of a list are the first bytes. -/
theorem extract_ofWords (ws : List Word) (k : Nat) (hk : k ≤ ws.length) :
    (ofWords ws).extract 0 (4 * k) = ofWords (ws.take k) := by
  have hsplit : ofWords ws = ofWords (ws.take k) ++ ofWords (ws.drop k) := by
    rw [← ofWords_append, List.take_append_drop]
  rw [hsplit]
  apply ByteArray.extract_append_eq_left
  rw [size_ofWords, List.length_take]
  omega

/-- The front of a string, in whole words. -/
theorem extract_eq_ofWords (b : Bytes) {k : Nat} (hk : 4 * k ≤ b.size) :
    b.extract 0 (4 * k) = ofWords ((List.range k).map fun i => b.wordAt (4 * i)) := by
  have hsize : (b.extract 0 (4 * k)).size = 4 * k := by rw [ByteArray.size_extract]; omega
  rw [← ofWords_words (b.extract 0 (4 * k)) ⟨k, hsize⟩, words_of_size hsize]
  refine congrArg ofWords (List.map_congr_left fun i hi => ?_)
  rw [List.mem_range] at hi
  rw [wordAt, wordAt, byteAt_extract b _ _ (by omega), byteAt_extract b _ _ (by omega),
    byteAt_extract b _ _ (by omega), byteAt_extract b _ _ (by omega)]

/-- The front of a string and the word behind it. -/
theorem extract_succ_word (b : Bytes) {k : Nat} (hk : 4 * (k + 1) ≤ b.size) :
    b.extract 0 (4 * (k + 1)) = b.extract 0 (4 * k) ++ ofWords [b.wordAt (4 * k)] := by
  rw [extract_eq_ofWords b hk, extract_eq_ofWords b (by omega), ← ofWords_append, List.range_succ, List.map_append,
    List.map_singleton]

end Bytes

namespace Memory

/-- What was written to the start of memory is read back. -/
theorem read_write_zero (m : Memory) (data : Bytes) (n : Nat) (hn : n ≤ data.size) :
    (m.write 0 data).read 0 n = data.extract 0 n := by
  obtain ⟨rest, hrest⟩ : ∃ rest, (m.write 0 data).stored = data ++ rest :=
    ⟨_, by rw [write, Bytes.overwrite, ByteArray.extract_same, ByteArray.empty_append]⟩
  have hfront : (data ++ rest).extract 0 (0 + n) = data.extract 0 n := by
    rw [ByteArray.extract_append, Nat.zero_add]
    have hnone : n - data.size = 0 := by omega
    rw [hnone, Nat.zero_sub, ByteArray.extract_same, ByteArray.append_empty]
  have hsize : (data.extract 0 n).size = n := by rw [ByteArray.size_extract]; omega
  have hpad : Bytes.zeros 0 = ByteArray.empty := rfl
  rw [read, hrest, hfront, Bytes.fit, hsize, Nat.sub_self, hpad, ByteArray.append_empty,
    ByteArray.extract_extract]
  congr 1
  omega

/-- Memory that starts out zero is zero. -/
@[simp] theorem byteAt_zeroed (size i : Nat) : (zeroed size).byteAt i = 0 :=
  Bytes.byteAt_of_le ByteArray.empty i (Nat.zero_le i)

/-- What is read are the bytes from there on. -/
theorem byteAt_read (m : Memory) (offset length i : Nat) (hi : i < length) :
    (m.read offset length).byteAt i = m.byteAt (offset + i) := by
  rw [read, Bytes.byteAt_fit _ length i hi, Bytes.byteAt_extract_add _ offset length i hi, byteAt]

/-- Writing changes the bytes that are written and no other. -/
theorem byteAt_write (m : Memory) (offset i : Nat) (data : Bytes) :
    (m.write offset data).byteAt i =
      if offset ≤ i ∧ i < offset + data.size then data.byteAt (i - offset) else m.byteAt i := by
  have hpadded : offset ≤ (m.stored ++ Bytes.zeros (offset - m.stored.size)).size := by
    rw [ByteArray.size_append, Bytes.size_zeros]
    omega
  have hzero : (m.stored ++ Bytes.zeros (offset - m.stored.size)).byteAt i = m.stored.byteAt i := by
    by_cases hin : i < m.stored.size
    · exact Bytes.byteAt_append_left _ _ _ hin
    · obtain ⟨k, rfl⟩ : ∃ k, i = m.stored.size + k := ⟨i - m.stored.size, by omega⟩
      rw [Bytes.byteAt_append_right, Bytes.byteAt_zeros, Bytes.byteAt_of_le m.stored _ (by omega)]
  rw [byteAt, write, Bytes.byteAt_overwrite _ _ _ _ hpadded, hzero, byteAt]

/-- A shorter stretch from the start is the front of a longer one. -/
theorem extract_read (m : Memory) (k n : Nat) (hk : k ≤ n) : (m.read 0 n).extract 0 k = m.read 0 k := by
  have hsize : ((m.read 0 n).extract 0 k).size = k := by
    rw [ByteArray.size_extract, size_read]
    omega
  apply Bytes.eq_of_byteAt (hsize.trans (size_read m 0 k).symm)
  intro i hi
  rw [hsize] at hi
  rw [Bytes.byteAt_extract _ k i hi, read, read, Nat.zero_add, Nat.zero_add, Bytes.byteAt_fit _ n i (by omega),
    Bytes.byteAt_extract _ n i (by omega), Bytes.byteAt_fit _ k i hi, Bytes.byteAt_extract _ k i hi]

end Memory

end LaneCard
