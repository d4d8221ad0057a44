import LaneCard.Field
import Mathlib.Algebra.Group.Nat.Defs
import Mathlib.Data.List.Basic

/-!
# Fields as stretches of bits

Each operation on a field is described bit by bit; the laws of reading what was written, in the
same field or in one that shares no bit with it, follow from that description. A field that
leaves the word is not covered.
-/

namespace LaneCard.Field

/-- Two fields share no bit. -/
def Apart (f g : Field) : Prop := f.offset + f.width ≤ g.offset ∨ g.offset + g.width ≤ f.offset

instance (f g : Field) : Decidable (f.Apart g) := inferInstanceAs (Decidable (_ ∨ _))

/-- The largest value of a field has a one for each of its bits. -/
theorem toNat_maxValue (f : Field) (hf : f.width ≤ 32) : f.maxValue.toNat = 2 ^ f.width - 1 := by
  unfold maxValue
  split
  · have hwidth : f.width = 32 := by omega
    rw [BitVec.toNat_allOnes, hwidth]
  · have hpow : 2 ^ f.width < 2 ^ 32 := Nat.pow_lt_pow_right (by omega) (by omega)
    have hpos : 0 < 2 ^ f.width := Nat.two_pow_pos _
    rw [BitVec.toNat_sub, BitVec.toNat_shiftLeft, BitVec.toNat_ofNat, Nat.shiftLeft_eq]
    omega

/-- The largest value of a field has as many bits as the field is wide. -/
theorem getLsbD_maxValue (f : Field) (hf : f.width ≤ 32) (i : Nat) :
    f.maxValue.getLsbD i = decide (i < f.width) := by
  rw [BitVec.getLsbD, f.toNat_maxValue hf, Nat.testBit_two_pow_sub_one]

/-- The bits of a mask are those of the field. -/
theorem getLsbD_mask (f : Field) (hf : f.offset + f.width ≤ 32) (i : Nat) :
    f.mask.getLsbD i = decide (f.offset ≤ i ∧ i < f.offset + f.width) := by
  rw [mask, BitVec.getLsbD_shiftLeft, getLsbD_maxValue f (by omega), Bool.eq_iff_iff]
  simp only [Bool.and_eq_true, decide_eq_true_eq, Bool.not_eq_true', decide_eq_false_iff_not]
  omega

/-- Reading a field moves its bits down. -/
theorem getLsbD_get (f : Field) (hf : f.width ≤ 32) (word : Word) (i : Nat) :
    (f.get word).getLsbD i = (decide (i < f.width) && word.getLsbD (f.offset + i)) := by
  rw [get, BitVec.getLsbD_and, BitVec.getLsbD_ushiftRight, getLsbD_maxValue f hf, Bool.and_comm]

/-- Reading a field moves its bits down to the bottom of a word. -/
theorem get_eq_extract (f : Field) (word : Word) :
    f.get word = (word.extractLsb' f.offset f.width).setWidth 32 := by
  apply BitVec.eq_of_getLsbD_eq
  intro i hi
  rw [BitVec.getLsbD_setWidth, BitVec.getLsbD_extractLsb', decide_eq_true hi, Bool.true_and]
  by_cases hwidth : f.width ≤ 32
  · rw [f.getLsbD_get hwidth]
  · rw [get, maxValue, if_pos (by omega), BitVec.and_allOnes, BitVec.getLsbD_ushiftRight,
      decide_eq_true (by omega), Bool.true_and]

/-- Writing a field replaces its bits and no others. -/
theorem getLsbD_set (f : Field) (hf : f.offset + f.width ≤ 32) (word value : Word) (i : Nat) :
    (f.set word value).getLsbD i =
      if f.offset ≤ i ∧ i < f.offset + f.width then value.getLsbD (i - f.offset)
      else word.getLsbD i := by
  rw [set, BitVec.getLsbD_or, BitVec.getLsbD_and, BitVec.getLsbD_not, getLsbD_mask f hf,
    BitVec.getLsbD_shiftLeft, BitVec.getLsbD_and, getLsbD_maxValue f (by omega)]
  by_cases hi : f.offset ≤ i ∧ i < f.offset + f.width
  · have hword : i < 32 := by omega
    have hbelow : i - f.offset < f.width := by omega
    have hnot : ¬ i < f.offset := by omega
    simp [hi, hword, hbelow, hnot]
  · by_cases hword : i < 32
    · have hout : i < f.offset ∨ ¬ i - f.offset < f.width := by omega
      rcases hout with hout | hout <;> simp [hi, hword, hout]
    · simp [hi, hword, BitVec.getLsbD_of_ge word i (by omega)]

/-- A field reads as what was written to it, without the bits that do not fit. -/
theorem get_set_self (f : Field) (hf : f.offset + f.width ≤ 32) (word value : Word) :
    f.get (f.set word value) = value &&& f.maxValue := by
  apply BitVec.eq_of_getLsbD_eq
  intro i _
  rw [getLsbD_get f (by omega), getLsbD_set f hf, BitVec.getLsbD_and, getLsbD_maxValue f (by omega)]
  by_cases hi : i < f.width
  · simp [hi]
  · simp [hi]

/-- The bits of a value that fit a field are its remainder. -/
theorem toNat_and_maxValue (f : Field) (hf : f.width ≤ 32) (value : Word) :
    (value &&& f.maxValue).toNat = value.toNat % 2 ^ f.width := by
  rw [BitVec.toNat_and, f.toNat_maxValue hf, Nat.and_two_pow_sub_one_eq_mod]

/-- The bits of a value that fit a field are its remainder, as a word. -/
theorem and_maxValue_eq_mod (f : Field) (value : Word) : value &&& f.maxValue = value % (1#32 <<< f.width) := by
  by_cases hwidth : 32 ≤ f.width
  · -- The divisor has left the word, and the remainder by zero is the value.
    rw [maxValue, if_pos hwidth, BitVec.shiftLeft_eq_zero hwidth, BitVec.umod_zero, BitVec.and_allOnes]
  · have hpow : 2 ^ f.width < 2 ^ 32 := Nat.pow_lt_pow_right (by omega) (by omega)
    have hdivisor : (1#32 <<< f.width).toNat = 2 ^ f.width := by
      rw [BitVec.toNat_shiftLeft, Nat.shiftLeft_eq, BitVec.toNat_ofNat]
      omega
    apply BitVec.eq_of_toNat_eq
    rw [f.toNat_and_maxValue (by omega), BitVec.toNat_umod, hdivisor]

/-- A value that is not above the largest one has no bits that do not fit. -/
theorem and_maxValue_of_le (f : Field) (hf : f.width ≤ 32) (value : Word)
    (hvalue : value.toNat ≤ f.maxValue.toNat) : value &&& f.maxValue = value := by
  have hpos : 0 < 2 ^ f.width := Nat.two_pow_pos _
  rw [f.toNat_maxValue hf] at hvalue
  apply BitVec.eq_of_toNat_eq
  rw [f.toNat_and_maxValue hf, Nat.mod_eq_of_lt (by omega)]

/-- A field reads as the remainder of what was written to it. -/
theorem toNat_get_set (f : Field) (hf : f.offset + f.width ≤ 32) (word value : Word) :
    (f.get (f.set word value)).toNat = value.toNat % 2 ^ f.width := by
  rw [get_set_self f hf, toNat_and_maxValue f (by omega)]

/-- A value that fits a field is read back unchanged. -/
theorem get_set_of_le (f : Field) (hf : f.offset + f.width ≤ 32) (word value : Word)
    (hvalue : value.toNat ≤ f.maxValue.toNat) : f.get (f.set word value) = value := by
  rw [get_set_self f hf, and_maxValue_of_le f (by omega) value hvalue]

/-- Writing a field does not change a field that shares no bit with it. -/
theorem get_set_of_apart (f g : Field) (hf : f.offset + f.width ≤ 32) (hg : g.width ≤ 32)
    (hapart : f.Apart g) (word value : Word) : g.get (f.set word value) = g.get word := by
  apply BitVec.eq_of_getLsbD_eq
  intro i _
  rw [getLsbD_get g hg, getLsbD_get g hg, getLsbD_set f hf]
  by_cases hi : i < g.width
  · have hout : ¬ (f.offset ≤ g.offset + i ∧ g.offset + i < f.offset + f.width) := by
      unfold Apart at hapart
      omega
    simp [hout]
  · simp [hi]

/-- A field is never larger than its largest value. -/
theorem toNat_get_le (f : Field) (word : Word) : (f.get word).toNat ≤ f.maxValue.toNat := by
  rw [get, BitVec.toNat_and]
  exact Nat.and_le_right

/-- A field of zero bits reads zero. -/
@[simp] theorem get_zero (f : Field) : f.get 0#32 = 0#32 := by simp [get]

/-- Writing another field does not change whether a field is set. -/
theorem isSet_set_of_apart (f g : Field) (hf : f.offset + f.width ≤ 32) (hg : g.width ≤ 32)
    (hapart : f.Apart g) (word value : Word) : g.isSet (f.set word value) = g.isSet word := by
  rw [isSet, isSet, get_set_of_apart f g hf hg hapart]

/-- A single bit is set if the word has it. -/
theorem isSet_eq_getLsbD (f : Field) (hf : f.width = 1) (word : Word) :
    f.isSet word = word.getLsbD f.offset := by
  have hget : f.get word = BitVec.ofNat 32 (word.getLsbD f.offset).toNat := by
    apply BitVec.eq_of_getLsbD_eq
    intro i _
    rw [getLsbD_get f (by omega), BitVec.getLsbD_ofNat, hf]
    cases i with
    | zero => cases word.getLsbD f.offset <;> simp
    | succ i => cases word.getLsbD f.offset <;> simp [Nat.testBit_succ]
  rw [isSet, hget]
  cases word.getLsbD f.offset <;> decide

/-! ## Copying fields -/

/-- The bit belongs to the field. -/
def covers (f : Field) (i : Nat) : Bool := decide (f.offset ≤ i ∧ i < f.offset + f.width)

/-- The word with fields copied into it from another one. -/
def overlay (fields : List Field) (source word : Word) : Word :=
  fields.foldl (fun word f => f.set word (f.get source)) word

/-- Copied fields have the bits of the word they come from, and no other bit changes. -/
theorem getLsbD_overlay (fields : List Field) (hfields : ∀ f ∈ fields, f.offset + f.width ≤ 32)
    (source word : Word) (i : Nat) :
    (overlay fields source word).getLsbD i =
      if fields.any (·.covers i) then source.getLsbD i else word.getLsbD i := by
  induction fields generalizing word with
  | nil => rfl
  | cons f fields ih =>
    have hf : f.offset + f.width ≤ 32 := hfields f List.mem_cons_self
    have hrest := ih (fun g hg => hfields g (List.mem_cons_of_mem _ hg)) (f.set word (f.get source))
    rw [overlay, List.foldl_cons]
    rw [overlay] at hrest
    rw [hrest, List.any_cons]
    by_cases hlater : fields.any (·.covers i) = true
    · rw [if_pos hlater, hlater, Bool.or_true, if_pos rfl]
    · rw [if_neg hlater, eq_false_of_ne_true hlater, Bool.or_false, getLsbD_set f hf, covers]
      by_cases hin : f.offset ≤ i ∧ i < f.offset + f.width
      · have hbelow : i - f.offset < f.width := by omega
        rw [if_pos hin, getLsbD_get f (by omega), decide_eq_true hbelow, Bool.true_and,
          Nat.add_sub_cancel' hin.1, decide_eq_true hin, if_pos rfl]
      · rw [if_neg hin, decide_eq_false hin]
        rfl

/-! ## Bits side by side -/

/-- The mask of one of several bits side by side. -/
theorem getLsbD_mask_shifted (f : Field) (hf : f.width = 1) (i k : Nat) (hi : f.offset + i < 32) :
    (f.shifted i).mask.getLsbD k = decide (k = f.offset + i) := by
  have hplace : (f.shifted i).offset = f.offset + i := by rw [shifted, hf, Nat.one_mul]
  have hwidth : (f.shifted i).width = 1 := hf
  rw [getLsbD_mask _ (by omega), hplace, hwidth, decide_eq_decide]
  omega

/-- One of several bits side by side is set if the word has it. -/
theorem isSet_shifted (f : Field) (hf : f.width = 1) (word : Word) (i : Nat) :
    (f.shifted i).isSet word = word.getLsbD (f.offset + i) := by
  rw [isSet_eq_getLsbD (f.shifted i) hf, shifted, hf, Nat.one_mul]

/-- Setting one of several bits side by side sets that bit and no other. -/
theorem isSet_or_mask (f : Field) (hf : f.width = 1) (word : Word) (i k : Nat) (hi : f.offset + i < 32) :
    (f.shifted k).isSet (word ||| (f.shifted i).mask) = (decide (k = i) || (f.shifted k).isSet word) := by
  rw [isSet_shifted f hf, isSet_shifted f hf, BitVec.getLsbD_or, getLsbD_mask_shifted f hf i _ hi, Bool.or_comm]
  congr 1
  rw [decide_eq_decide]
  omega

/-- Clearing one of several bits side by side clears that bit and no other. -/
theorem isSet_and_not_mask (f : Field) (hf : f.width = 1) (word : Word) (i k : Nat) (hi : f.offset + i < 32)
    (hk : f.offset + k < 32) :
    (f.shifted k).isSet (word &&& ~~~(f.shifted i).mask) = (!decide (k = i) && (f.shifted k).isSet word) := by
  rw [isSet_shifted f hf, isSet_shifted f hf, BitVec.getLsbD_and, BitVec.getLsbD_not,
    getLsbD_mask_shifted f hf i _ hi, decide_eq_true hk, Bool.true_and, Bool.and_comm]
  congr 2
  rw [decide_eq_decide]
  omega

end LaneCard.Field
