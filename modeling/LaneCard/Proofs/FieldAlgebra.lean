import LaneCard.Register.Layout
import LaneCard.Proofs.Field

/-!
# The algebra of fields

A field is a place in a word that is read and written. These are the laws of such a place, for every field
that has a bit and lies inside the word: it reads as what was written to it, writing what is read changes
nothing, and nothing outside its mask changes. Fields that share no bit are independent of each other, and
equal fields side by side share none.

Words are accessed by ranges of bits. Of that access only what is documented is used, `BitRanges.Documented`:
any access of which it holds reads and writes fields as described here.
-/

namespace LaneCard

/-! ## Ranges of bits -/

/-- Access to the bits of a word from one bit up to, and not including, another; the lowest is bit zero.
Nothing comes of a range or a value that is refused. -/
structure BitRanges where
  /-- The bits of a range as a word. -/
  read (word : Word) (start stop : Nat) : Option Word
  /-- The word with a range replaced by the low bits of a value. -/
  write (word : Word) (start stop : Nat) (value : Word) : Option Word

/-- What is documented of the ranges that have a bit and do not leave the word. -/
structure BitRanges.Documented (ranges : BitRanges) : Prop where
  /-- The bits of a range are moved down to the bottom of a word. -/
  read_range (word : Word) {start stop : Nat} : start < stop → stop ≤ 32 →
    ∃ taken, ranges.read word start stop = some taken ∧
      ∀ i, taken.getLsbD i = (decide (i < stop - start) && word.getLsbD (start + i))
  /-- A value that has no bits beyond the length of a range replaces it, and changes no other bit. -/
  write_range (word value : Word) {start stop : Nat} : start < stop → stop ≤ 32 →
    (∀ i, stop - start ≤ i → value.getLsbD i = false) →
    ∃ written, ranges.write word start stop value = some written ∧
      ∀ i, written.getLsbD i = if start ≤ i ∧ i < stop then value.getLsbD (i - start) else word.getLsbD i

namespace BitRanges

/-- The bits of a range: of a word of ones, what lies above the range and what lies below it is shifted out. -/
def bits (start stop : Nat) : Word := BitVec.allOnes 32 <<< (32 - stop) >>> (32 - stop) >>> start <<< start

/-- Access by shifts. A value is refused if shifting it up to the top of the word loses a bit of it. -/
def shifting : BitRanges where
  read word start stop :=
    if start < 32 ∧ start ≤ stop ∧ stop ≤ 32 then some (word <<< (32 - stop) >>> (32 - stop) >>> start)
    else none
  write word start stop value :=
    if (start < 32 ∧ start ≤ stop ∧ stop ≤ 32) ∧
        value <<< (32 - (stop - start)) >>> (32 - (stop - start)) = value then
      some ((word &&& ~~~bits start stop) ||| value <<< start)
    else none

/-- A word that is shifted up and down again has lost its high bits. -/
theorem getLsbD_shiftOut (word : Word) {kept : Nat} (hkept : kept ≤ 32) (i : Nat) :
    (word <<< (32 - kept) >>> (32 - kept)).getLsbD i = (decide (i < kept) && word.getLsbD i) := by
  have hlow : ¬ 32 - kept + i < 32 - kept := by omega
  have hword : 32 - kept + i < 32 ↔ i < kept := by omega
  rw [BitVec.getLsbD_ushiftRight, BitVec.getLsbD_shiftLeft, Nat.add_sub_cancel_left, decide_eq_false hlow,
    decide_eq_decide.mpr hword, Bool.not_false, Bool.and_true]

/-- The bits of a range are those from its start to its stop. -/
theorem getLsbD_bits (start : Nat) {stop : Nat} (hstop : stop ≤ 32) (i : Nat) :
    (bits start stop).getLsbD i = decide (start ≤ i ∧ i < stop) := by
  rw [bits, BitVec.getLsbD_shiftLeft, BitVec.getLsbD_ushiftRight, getLsbD_shiftOut _ hstop,
    BitVec.getLsbD_allOnes, Bool.eq_iff_iff]
  simp only [Bool.and_eq_true, decide_eq_true_eq, Bool.not_eq_true', decide_eq_false_iff_not]
  omega

/-- Access by shifts is as documented. -/
theorem documented_shifting : shifting.Documented where
  read_range word start stop hrange hstop := by
    refine ⟨_, if_pos ⟨by omega, by omega, hstop⟩, fun i => ?_⟩
    have hbelow : start + i < stop ↔ i < stop - start := by omega
    rw [BitVec.getLsbD_ushiftRight, getLsbD_shiftOut word hstop, decide_eq_decide.mpr hbelow]
  write_range word value start stop hrange hstop hvalue := by
    have hfits : value <<< (32 - (stop - start)) >>> (32 - (stop - start)) = value := by
      apply BitVec.eq_of_getLsbD_eq
      intro i _
      rw [getLsbD_shiftOut value (by omega)]
      by_cases hi : i < stop - start
      · rw [decide_eq_true hi, Bool.true_and]
      · rw [decide_eq_false hi, Bool.false_and, hvalue i (by omega)]
    refine ⟨_, if_pos ⟨⟨by omega, by omega, hstop⟩, hfits⟩, fun i => ?_⟩
    rw [BitVec.getLsbD_or, BitVec.getLsbD_and, BitVec.getLsbD_not, getLsbD_bits start hstop,
      BitVec.getLsbD_shiftLeft]
    by_cases hin : start ≤ i ∧ i < stop
    · have hword : i < 32 := by omega
      have hlow : ¬ i < start := by omega
      simp [hin, hword, hlow]
    · by_cases hword : i < 32
      · -- Below the range nothing of the value arrives, and above it the value has no bits.
        have hout : i < start ∨ value.getLsbD (i - start) = false := by
          by_cases hlow : i < start
          · exact .inl hlow
          · exact .inr (hvalue (i - start) (by omega))
        rcases hout with hout | hout <;> simp [hin, hword, hout]
      · simp [hin, hword, BitVec.getLsbD_of_ge word i (by omega)]

end BitRanges

namespace Field

/-- The field has a bit, and no bit of it leaves the word. -/
def Proper (f : Field) : Prop := 1 ≤ f.width ∧ f.offset + f.width ≤ 32

instance (f : Field) : Decidable f.Proper := inferInstanceAs (Decidable (_ ∧ _))

/-- A field inside the word is not wider than the word. -/
theorem Proper.width_le {f : Field} (hf : f.Proper) : f.width ≤ 32 := Nat.le_trans (Nat.le_add_left _ _) hf.2

/-- A field that has a bit starts inside the word if it ends there. -/
theorem Proper.fits {f : Field} (hf : f.Proper) : f.Fits :=
  ⟨Nat.lt_of_lt_of_le (Nat.lt_add_of_pos_right hf.1) hf.2, hf.2⟩

/-! ## One field -/

/-- What is read from a word by its ranges of bits is the value of the field. -/
theorem read_eq_get {ranges : BitRanges} (hranges : ranges.Documented) {f : Field} (hf : f.Proper)
    (word : Word) : ranges.read word f.offset (f.offset + f.width) = some (f.get word) := by
  obtain ⟨taken, hread, hbits⟩ := hranges.read_range word (Nat.lt_add_of_pos_right hf.1) hf.2
  rw [hread, Option.some_inj]
  apply BitVec.eq_of_getLsbD_eq
  intro i _
  rw [hbits, Nat.add_sub_cancel_left, f.getLsbD_get hf.width_le]

/-- What is written to a word by its ranges of bits is the word with the field replaced: a value that was
cut to the width of the field is never refused. -/
theorem write_eq_set {ranges : BitRanges} (hranges : ranges.Documented) {f : Field} (hf : f.Proper)
    (word value : Word) :
    ranges.write word f.offset (f.offset + f.width) (value &&& f.maxValue) = some (f.set word value) := by
  have hcut (i : Nat) : (value &&& f.maxValue).getLsbD i = (value.getLsbD i && decide (i < f.width)) := by
    rw [BitVec.getLsbD_and, f.getLsbD_maxValue hf.width_le]
  obtain ⟨written, hwrite, hbits⟩ := hranges.write_range word (value &&& f.maxValue)
    (Nat.lt_add_of_pos_right hf.1) hf.2 (fun i hi => by
      rw [hcut, decide_eq_false (by omega), Bool.and_false])
  rw [hwrite, Option.some_inj]
  apply BitVec.eq_of_getLsbD_eq
  intro i _
  rw [hbits, f.getLsbD_set hf.2]
  by_cases hin : f.offset ≤ i ∧ i < f.offset + f.width
  · rw [if_pos hin, if_pos hin, hcut, decide_eq_true (by omega), Bool.and_true]
  · rw [if_neg hin, if_neg hin]

/-- The value of a field, put in its place, is what the mask leaves of the word. -/
theorem shiftLeft_get (f : Field) (hf : f.offset + f.width ≤ 32) (word : Word) :
    f.get word <<< f.offset = word &&& f.mask := by
  apply BitVec.eq_of_getLsbD_eq
  intro i hi
  rw [BitVec.getLsbD_shiftLeft, BitVec.getLsbD_and, f.getLsbD_get (by omega), f.getLsbD_mask hf,
    decide_eq_true hi, Bool.true_and]
  by_cases hlow : f.offset ≤ i
  · have hbelow : i - f.offset < f.width ↔ i < f.offset + f.width := by omega
    rw [Nat.add_sub_cancel' hlow, decide_eq_false (Nat.not_lt.mpr hlow), Bool.not_false, Bool.true_and,
      Bool.and_comm, decide_eq_decide.mpr (hbelow.trans (and_iff_right hlow).symm)]
  · rw [decide_eq_true (Nat.lt_of_not_le hlow), Bool.not_true, Bool.false_and,
      decide_eq_false (fun h => hlow h.1), Bool.and_false]

/-- The value of a field is what the mask leaves of the word, moved down. -/
theorem ushiftRight_and_mask (f : Field) (hf : f.offset + f.width ≤ 32) (word : Word) :
    (word &&& f.mask) >>> f.offset = f.get word := by
  apply BitVec.eq_of_getLsbD_eq
  intro i _
  have hin : f.offset ≤ f.offset + i ∧ f.offset + i < f.offset + f.width ↔ i < f.width := by omega
  rw [BitVec.getLsbD_ushiftRight, BitVec.getLsbD_and, f.getLsbD_get (by omega), f.getLsbD_mask hf, Bool.and_comm,
    decide_eq_decide.mpr hin]

/-- A field is set if the mask leaves anything of the word. -/
theorem isSet_iff_and_mask (f : Field) (hf : f.offset + f.width ≤ 32) (word : Word) :
    f.isSet word = true ↔ word &&& f.mask ≠ 0#32 := by
  rw [isSet, bne_iff_ne, ne_eq, ne_eq, not_iff_not]
  constructor
  · intro hget
    rw [← f.shiftLeft_get hf, hget, BitVec.zero_shiftLeft]
  · intro hmask
    rw [← f.ushiftRight_and_mask hf, hmask, BitVec.zero_ushiftRight]

/-- Writing to a field what it reads changes nothing. -/
theorem set_get (f : Field) (hf : f.offset + f.width ≤ 32) (word : Word) : f.set word (f.get word) = word := by
  apply BitVec.eq_of_getLsbD_eq
  intro i _
  rw [f.getLsbD_set hf]
  split
  · rename_i hin
    rw [f.getLsbD_get (by omega), decide_eq_true (by omega), Bool.true_and, Nat.add_sub_cancel' hin.1]
  · rfl

/-- The word that holds the largest value of a field is its mask. -/
theorem encode_maxValue (f : Field) : f.encode f.maxValue = f.mask := by
  rw [encode, set, BitVec.zero_and, BitVec.zero_or, BitVec.and_self, mask]

/-! ## Two fields -/

/-- Fields share no bit if their masks share none. -/
theorem apart_iff_and_mask {f g : Field} (hf : f.Proper) (hg : g.Proper) :
    f.Apart g ↔ f.mask &&& g.mask = 0#32 := by
  obtain ⟨hfbit, hfinside⟩ := hf
  obtain ⟨hgbit, hginside⟩ := hg
  constructor
  · intro hapart
    apply BitVec.eq_of_getLsbD_eq
    intro i _
    rw [BitVec.getLsbD_and, f.getLsbD_mask hfinside, g.getLsbD_mask hginside, BitVec.getLsbD_zero,
      ← Bool.decide_and, decide_eq_false_iff_not]
    unfold Apart at hapart
    omega
  · -- Of two fields that meet, the one that starts higher starts inside the other.
    intro hmask
    by_contra hmeet
    have hboth : (f.mask &&& g.mask).getLsbD (max f.offset g.offset) = true := by
      rw [BitVec.getLsbD_and, f.getLsbD_mask hfinside, g.getLsbD_mask hginside, ← Bool.decide_and,
        decide_eq_true_eq]
      unfold Apart at hmeet
      omega
    rw [hmask, BitVec.getLsbD_zero] at hboth
    contradiction

/-- Fields that share no bit can be written in either order. -/
theorem set_comm {f g : Field} (hf : f.offset + f.width ≤ 32) (hg : g.offset + g.width ≤ 32)
    (hapart : f.Apart g) (word value other : Word) :
    g.set (f.set word value) other = f.set (g.set word other) value := by
  apply BitVec.eq_of_getLsbD_eq
  intro i _
  rw [g.getLsbD_set hg, f.getLsbD_set hf, f.getLsbD_set hf, g.getLsbD_set hg]
  by_cases hin : f.offset ≤ i ∧ i < f.offset + f.width
  · have hout : ¬ (g.offset ≤ i ∧ i < g.offset + g.width) := by
      unfold Apart at hapart
      omega
    rw [if_pos hin, if_neg hout, if_pos hin]
  · rw [if_neg hin, if_neg hin]

/-! ## Fields side by side -/

/-- A field further up that still ends inside the word is found. -/
theorem shifted?_eq_some {f : Field} (hf : f.Proper) {i : Nat} (hi : f.offset + f.width * (i + 1) ≤ 32) :
    f.shifted? i = some (f.shifted i) := by
  rw [Nat.mul_succ] at hi
  have hindex : i ≤ f.width * i := Nat.le_mul_of_pos_left i hf.1
  have hlow : i % 256 = i := Nat.mod_eq_of_lt (by omega)
  rw [shifted?, hlow, if_pos (by omega)]

/-- A field further up that still ends inside the word is as good as the first. -/
theorem Proper.shifted {f : Field} (hf : f.Proper) {i : Nat} (hi : f.offset + f.width * (i + 1) ≤ 32) :
    (f.shifted i).Proper := by
  refine ⟨hf.1, ?_⟩
  rw [Nat.mul_succ, ← Nat.add_assoc] at hi
  exact hi

/-- Equal fields at different places share no bit. -/
theorem apart_shifted (f : Field) {i j : Nat} (hij : i ≠ j) : (f.shifted i).Apart (f.shifted j) := by
  -- The lower one ends where the next begins, at or below the upper one.
  have hends {low high : Nat} (hlt : low < high) :
      f.offset + f.width * low + f.width ≤ f.offset + f.width * high := by
    rw [Nat.add_assoc, ← Nat.mul_succ]
    exact Nat.add_le_add_left (Nat.mul_le_mul_left _ hlt) _
  rcases Nat.lt_or_gt_of_ne hij with hlt | hgt
  · exact .inl (hends hlt)
  · exact .inr (hends hgt)

/-! ## The laws -/

/-- The operations on the field give a result, and they read and write its range of bits. -/
structure Served (f : Field) (ranges : BitRanges) : Prop where
  mask? : f.mask? = some f.mask
  get? (word : Word) : f.get? word = some (f.get word)
  set? (word value : Word) : f.set? word value = some (f.set word value)
  read (word : Word) : ranges.read word f.offset (f.offset + f.width) = some (f.get word)
  write (word value : Word) :
    ranges.write word f.offset (f.offset + f.width) (value &&& f.maxValue) = some (f.set word value)

/-- The field is a place in a word. -/
structure Lawful (f : Field) : Prop where
  get_set (word value : Word) : (f.get (f.set word value)).toNat = value.toNat % 2 ^ f.width
  set_get (word : Word) : f.set word (f.get word) = word
  set_outside (word value : Word) (i : Nat) :
    f.mask.getLsbD i = false → (f.set word value).getLsbD i = word.getLsbD i
  encode_maxValue : f.encode f.maxValue = f.mask
  mask_bits (i : Nat) : f.mask.getLsbD i = true ↔ f.offset ≤ i ∧ i < f.offset + f.width
  isSet_iff (word : Word) : f.isSet word = true ↔ word &&& f.mask ≠ 0#32

/-- Writing one field is not seen in the other, nor which of them was written first. -/
structure Independent (f g : Field) : Prop where
  get_set (word value : Word) : g.get (f.set word value) = g.get word
  set_comm (word value other : Word) : g.set (f.set word value) other = f.set (g.set word other) value

/-- A field inside the word is accessed without fail. -/
theorem Proper.served {f : Field} (hf : f.Proper) {ranges : BitRanges} (hranges : ranges.Documented) :
    f.Served ranges where
  mask? := if_pos hf.fits.1
  get? _ := if_pos hf.fits
  set? _ _ := if_pos hf.fits
  read := read_eq_get hranges hf
  write := write_eq_set hranges hf

/-- A field inside the word is lawful. -/
theorem Proper.lawful {f : Field} (hf : f.Proper) : f.Lawful where
  get_set := f.toNat_get_set hf.2
  set_get := f.set_get hf.2
  set_outside word value i hout := by
    rw [f.getLsbD_mask hf.2, decide_eq_false_iff_not] at hout
    rw [f.getLsbD_set hf.2, if_neg hout]
  encode_maxValue := f.encode_maxValue
  mask_bits i := by rw [f.getLsbD_mask hf.2, decide_eq_true_eq]
  isSet_iff := f.isSet_iff_and_mask hf.2

/-- Fields are places in a word, whatever documented access the words are read and written by: each one is
lawful, two whose ranges share no bit are independent, and fields side by side share none. -/
theorem field_algebra {ranges : BitRanges} (hranges : ranges.Documented) (f g : Field) (hf : f.Proper)
    (hg : g.Proper) :
    f.Served ranges ∧ f.Lawful ∧
    (f.Apart g ↔ f.mask &&& g.mask = 0#32) ∧ (f.Apart g → f.Independent g) ∧
    (∀ i, f.offset + f.width * (i + 1) ≤ 32 → f.shifted? i = some (f.shifted i) ∧ (f.shifted i).Proper) ∧
    ∀ i j, i ≠ j → f.offset + f.width * (i + 1) ≤ 32 → f.offset + f.width * (j + 1) ≤ 32 →
      (f.shifted i).Apart (f.shifted j) := by
  refine ⟨hf.served hranges, hf.lawful, apart_iff_and_mask hf hg, fun hapart => ?_,
    fun i hi => ⟨shifted?_eq_some hf hi, hf.shifted hi⟩, fun i j hij _ _ => f.apart_shifted hij⟩
  exact ⟨f.get_set_of_apart g hf.2 hg.width_le hapart, set_comm hf.2 hg.2 hapart⟩

/-- The length and the channel of a transmit word are independent, and there is room for a second channel above
the first. A length that is one bit too wide would be refused, so it is cut. A field may also be a whole word. -/
theorem field_algebra_transmit_word :
    BitRanges.shifting.Documented ∧ TxWord.length.Proper ∧ TxWord.vc.Proper ∧
    (TxWord.length.Apart TxWord.vc ∧ TxWord.length.Independent TxWord.vc) ∧
    (BitRanges.shifting.write 0xffffffff#32 0 24 0x1000001#32 = none ∧
      BitRanges.shifting.write 0xffffffff#32 0 24 (0x1000001#32 &&& TxWord.length.maxValue) = some 0xff000001#32) ∧
    ((0 ≠ 1 ∧ TxWord.vc.offset + TxWord.vc.width * (0 + 1) ≤ 32 ∧
        TxWord.vc.offset + TxWord.vc.width * (1 + 1) ≤ 32) ∧
      (TxWord.vc.shifted 0).Apart (TxWord.vc.shifted 1)) ∧
    ((⟨"Word", 0, 32⟩ : Field).Proper ∧ (⟨"Word", 0, 32⟩ : Field).Lawful) := by
  have hranges := BitRanges.documented_shifting
  have hproper : TxWord.length.Proper ∧ TxWord.vc.Proper ∧ (⟨"Word", 0, 32⟩ : Field).Proper := by decide
  obtain ⟨hlength, hvc, hword⟩ := hproper
  obtain ⟨hserved, -, -, hindependent, -⟩ := field_algebra hranges TxWord.length TxWord.vc hlength hvc
  obtain ⟨-, -, -, -, -, hbeside⟩ := field_algebra hranges TxWord.vc TxWord.length hvc hlength
  obtain ⟨-, hwhole, -⟩ := field_algebra hranges ⟨"Word", 0, 32⟩ TxWord.vc hword hvc
  have hapart : TxWord.length.Apart TxWord.vc := by decide
  have hcut : TxWord.length.set 0xffffffff#32 0x1000001#32 = 0xff000001#32 := by decide
  have hrefused : BitRanges.shifting.write 0xffffffff#32 0 24 0x1000001#32 = none := by decide
  refine ⟨hranges, hlength, hvc, ⟨hapart, hindependent hapart⟩,
    ⟨hrefused, (hserved.write _ _).trans (congrArg some hcut)⟩,
    ⟨by decide, hbeside 0 1 ?_ ?_ ?_⟩, hword, hwhole⟩
  all_goals decide

end Field

end LaneCard
