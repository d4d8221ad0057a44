import LaneCard.Descriptor
import LaneCard.Proofs.Field

/-!
# What is left of a descriptor

A descriptor that was packed into words and unpacked again has lost the bits that its fields
cannot hold, and nothing else. The address of a buffer survives if it is a multiple of four;
such an address and the word that returns it determine each other. Words that were unpacked and
packed again are the same, but for one unused bit of a received frame.
-/

namespace LaneCard

/-- The address has no bits outside the address field of a descriptor. -/
def Word.Aligned (addr : Word) : Prop := addr &&& TxReturnWord.addr.mask = addr

/-- The address field has all bits but the lowest two. -/
theorem getLsbD_addrMask (i : Nat) : TxReturnWord.addr.mask.getLsbD i = decide (2 ≤ i ∧ i < 32) :=
  TxReturnWord.addr.getLsbD_mask (by decide) i

/-- Multiples of four are aligned. -/
theorem Word.aligned_of_mod (addr : Word) (haddr : addr.toNat % 4 = 0) : addr.Aligned := by
  apply BitVec.eq_of_getLsbD_eq
  intro i hi
  rw [BitVec.getLsbD_and, getLsbD_addrMask]
  by_cases hlow : 2 ≤ i
  · simp [hlow, hi]
  · have hbit : addr.getLsbD i = false := by
      rw [BitVec.getLsbD, Nat.testBit_eq_decide_div_mod_eq]
      obtain rfl | rfl : i = 0 ∨ i = 1 := by omega
      · simp; omega
      · simp; omega
    simp [hbit]

/-- Aligned addresses are multiples of four. -/
theorem Word.mod_of_aligned {addr : Word} (haddr : addr.Aligned) : addr.toNat % 4 = 0 := by
  have hbit (i : Nat) (hi : i < 2) : addr.getLsbD i = false := by
    rw [← haddr, BitVec.getLsbD_and, getLsbD_addrMask, decide_eq_false (by omega), Bool.and_false]
  have hfirst := hbit 0 (by decide)
  have hsecond := hbit 1 (by decide)
  rw [BitVec.getLsbD, Nat.testBit_eq_decide_div_mod_eq, decide_eq_false_iff_not] at hfirst hsecond
  omega

namespace TxDescriptor

/-- The length of a descriptor survives if it fits its field. -/
theorem length_decode_encode (d : TxDescriptor) (hlength : d.length.toNat ≤ TxWord.length.maxValue.toNat) :
    (decode d.encode).length = d.length :=
  TxWord.length.get_set_of_le (by decide) _ _ hlength

/-- The virtual channel of a descriptor keeps its three low bits. -/
theorem vc_decode_encode (d : TxDescriptor) : (decode d.encode).vc = d.vc &&& TxWord.vc.maxValue := by
  change TxWord.vc.get (TxWord.length.set _ _) = _
  rw [Field.get_set_of_apart _ _ (by decide) (by decide) (by decide), Field.get_set_self _ (by decide)]

/-- Packing and unpacking reduces each number to its field. -/
theorem decode_encode (d : TxDescriptor) :
    decode d.encode = ⟨d.lane % 32#32, d.vc % 8#32, d.length % 0x1000000#32⟩ := by
  have hlane : TxWord.lane.get d.encode = d.lane % 32#32 := by
    change TxWord.lane.get (TxWord.length.set (TxWord.vc.set _ _) _) = _
    rw [Field.get_set_of_apart _ _ (by decide) (by decide) (by decide),
      Field.get_set_of_apart _ _ (by decide) (by decide) (by decide), Field.get_set_self _ (by decide),
      Field.and_maxValue_eq_mod]
    rfl
  have hvc : TxWord.vc.get d.encode = d.vc % 8#32 :=
    d.vc_decode_encode.trans (Field.and_maxValue_eq_mod _ _)
  have hlength : TxWord.length.get d.encode = d.length % 0x1000000#32 :=
    (TxWord.length.get_set_self (by decide) _ _).trans (Field.and_maxValue_eq_mod _ _)
  rw [decode, hlane, hvc, hlength]

/-- The fields of a descriptor word leave no bit of it out, so unpacking loses nothing. -/
theorem encode_decode (word : Word) : (decode word).encode = word := by
  have htile : ∀ i < 32, TxWord.fields.any (·.covers i) = true := by decide
  apply BitVec.eq_of_getLsbD_eq
  intro i hi
  change (Field.overlay TxWord.fields word 0#32).getLsbD i = word.getLsbD i
  rw [Field.getLsbD_overlay _ (by decide), if_pos (htile i hi)]

end TxDescriptor

namespace TxReturn

/-- A word returns the address in it if its valid bit is set. -/
theorem decode?_eq_some_iff (word addr : Word) :
    decode? word = some addr ↔ word.getLsbD 0 = true ∧ word &&& TxReturnWord.addr.mask = addr := by
  rw [decode?, TxReturnWord.valid.isSet_eq_getLsbD rfl]
  change (if word.getLsbD 0 = true then _ else _) = _ ↔ _
  split <;> simp_all

/-- A returned address keeps all but its two low bits. -/
@[simp] theorem decode?_encode (addr : Word) :
    decode? (encode addr) = some (addr &&& TxReturnWord.addr.mask) := by
  have hvalid : (TxReturnWord.valid.encode 1#32) = 1#32 := by decide
  rw [decode?_eq_some_iff, encode, hvalid]
  constructor
  · simp
  · apply BitVec.eq_of_getLsbD_eq
    intro i _
    simp only [BitVec.getLsbD_and, BitVec.getLsbD_or, getLsbD_addrMask, BitVec.getLsbD_one]
    by_cases hlow : i = 0
    · simp [hlow]
    · simp [hlow]

/-- The word that returns an aligned address names that address. -/
theorem decode?_encode_of_aligned (addr : Word) (haddr : addr.Aligned) :
    decode? (encode addr) = some addr := by rw [decode?_encode, haddr]

/-- Aligned addresses are returned by different words. -/
theorem encode_inj (a b : Word) (ha : a.Aligned) (hb : b.Aligned) (h : encode a = encode b) : a = b := by
  have hdecode := decode?_encode_of_aligned a ha
  rw [h, decode?_encode_of_aligned b hb] at hdecode
  exact (Option.some.inj hdecode).symm

/-- A word returns nothing exactly when its valid bit is clear. -/
theorem decode?_eq_none_iff (word : Word) : decode? word = none ↔ word.getLsbD 0 = false := by
  rw [decode?, TxReturnWord.valid.isSet_eq_getLsbD rfl]
  change (if word.getLsbD 0 = true then _ else _) = _ ↔ _
  split <;> simp_all

/-- A word whose valid bit is set returns the address in it. -/
theorem decode?_of_valid (word : Word) (hvalid : word.getLsbD 0 = true) : decode? word = some (word &&& ~~~3#32) :=
  (decode?_eq_some_iff word _).mpr ⟨hvalid, rfl⟩

end TxReturn

namespace RxDescriptor

/-- The address that a packed descriptor names. -/
def target (d : RxDescriptor) : Word := d.addr &&& RxWordB.addr.mask

/-- What is left of a descriptor that was packed into words. -/
def packed (d : RxDescriptor) : RxDescriptor :=
  { lane := d.lane &&& RxWordA.lane.maxValue
    vc := d.vc &&& RxWordA.vc.maxValue
    length := d.length &&& RxWordA.length.maxValue
    flags := d.flags
    addr := d.target }

/-- The address in the second word of a received frame. -/
def wordAddr (pair : Word × Word) : Word := pair.2 &&& RxWordB.addr.mask

/-- A bit that was set to a truth value shows it. -/
private theorem isSet_set_bitWord (f : Field) (hwidth : f.width = 1) (hf : f.offset < 32) (word : Word)
    (b : Bool) : f.isSet (f.set word (bitWord b)) = b := by
  rw [f.isSet_eq_getLsbD hwidth, f.getLsbD_set (by omega)]
  have hin : f.offset ≤ f.offset ∧ f.offset < f.offset + f.width := by omega
  rw [if_pos hin]
  cases b <;> simp [bitWord]

/-- The second word of a packed descriptor is valid. -/
theorem valid_encode (d : RxDescriptor) : RxWordB.valid.isSet d.encode.2 = true :=
  isSet_set_bitWord RxWordB.valid rfl (by decide) _ true

/-- The second word of a packed descriptor names its address. -/
theorem wordAddr_encode (d : RxDescriptor) : wordAddr d.encode = d.target := by
  apply BitVec.eq_of_getLsbD_eq
  intro i _
  change (RxWordB.valid.set (RxWordB.lengthErr.set (d.addr &&& TxReturnWord.addr.mask) _) _ &&&
    TxReturnWord.addr.mask).getLsbD i = (d.addr &&& TxReturnWord.addr.mask).getLsbD i
  rw [BitVec.getLsbD_and, BitVec.getLsbD_and, getLsbD_addrMask,
    RxWordB.valid.getLsbD_set (by decide), RxWordB.lengthErr.getLsbD_set (by decide),
    BitVec.getLsbD_and, getLsbD_addrMask]
  by_cases hlow : 2 ≤ i
  · have hvalid : ¬ (RxWordB.valid.offset ≤ i ∧ i < RxWordB.valid.offset + RxWordB.valid.width) := by
      simp only [RxWordB.valid, Field.bit]; omega
    have herr : ¬ (RxWordB.lengthErr.offset ≤ i ∧
        i < RxWordB.lengthErr.offset + RxWordB.lengthErr.width) := by
      simp only [RxWordB.lengthErr, Field.bit]; omega
    simp [hvalid, herr]
  · simp [hlow]

/-- Unpacking a packed descriptor gives what is left of it. -/
theorem decode?_encode (d : RxDescriptor) : decode? d.encode.1 d.encode.2 = some d.packed := by
  rw [decode?, if_pos d.valid_encode]
  have hlength : RxWordA.length.get d.encode.1 = d.length &&& RxWordA.length.maxValue :=
    RxWordA.length.get_set_self (by decide) _ _
  have hvc : RxWordA.vc.get d.encode.1 = d.vc &&& RxWordA.vc.maxValue := by
    change RxWordA.vc.get (RxWordA.length.set _ _) = _
    rw [Field.get_set_of_apart _ _ (by decide) (by decide) (by decide), Field.get_set_self _ (by decide)]
  have hlane : RxWordA.lane.get d.encode.1 = d.lane &&& RxWordA.lane.maxValue := by
    change RxWordA.lane.get (RxWordA.length.set (RxWordA.vc.set _ _) _) = _
    rw [Field.get_set_of_apart _ _ (by decide) (by decide) (by decide),
      Field.get_set_of_apart _ _ (by decide) (by decide) (by decide), Field.get_set_self _ (by decide)]
  have heofe : RxWordA.eofe.isSet d.encode.1 = d.flags.eofe := by
    change RxWordA.eofe.isSet (RxWordA.length.set (RxWordA.vc.set (RxWordA.lane.set _ _) _) _) = _
    rw [Field.isSet_set_of_apart _ _ (by decide) (by decide) (by decide),
      Field.isSet_set_of_apart _ _ (by decide) (by decide) (by decide),
      Field.isSet_set_of_apart _ _ (by decide) (by decide) (by decide),
      isSet_set_bitWord _ rfl (by decide)]
  have hfifo : RxWordA.fifoErr.isSet d.encode.1 = d.flags.fifoErr := by
    change RxWordA.fifoErr.isSet
      (RxWordA.length.set (RxWordA.vc.set (RxWordA.lane.set (RxWordA.eofe.set _ _) _) _) _) = _
    rw [Field.isSet_set_of_apart _ _ (by decide) (by decide) (by decide),
      Field.isSet_set_of_apart _ _ (by decide) (by decide) (by decide),
      Field.isSet_set_of_apart _ _ (by decide) (by decide) (by decide),
      Field.isSet_set_of_apart _ _ (by decide) (by decide) (by decide),
      isSet_set_bitWord _ rfl (by decide)]
  have herr : RxWordB.lengthErr.isSet d.encode.2 = d.flags.lengthErr := by
    change RxWordB.lengthErr.isSet (RxWordB.valid.set (RxWordB.lengthErr.set _ _) _) = _
    rw [Field.isSet_set_of_apart _ _ (by decide) (by decide) (by decide),
      isSet_set_bitWord _ rfl (by decide)]
  have haddr : d.encode.2 &&& RxWordB.addr.mask = d.target := d.wordAddr_encode
  rw [hlength, hvc, hlane, heofe, hfifo, herr, haddr]
  rfl

/-- What is left of a packed descriptor: each number reduced to its field, and the address without its
two low bits. -/
theorem packed_eq (d : RxDescriptor) :
    d.packed = { lane := d.lane % 8#32, vc := d.vc % 4#32, length := d.length % 0x1000000#32,
                 flags := d.flags, addr := d.addr &&& ~~~3#32 } := by
  rw [packed, Field.and_maxValue_eq_mod, Field.and_maxValue_eq_mod, Field.and_maxValue_eq_mod]
  rfl

/-- A pair of words holds no descriptor exactly when the valid bit of the second is clear. -/
theorem decode?_eq_none_iff (a b : Word) : decode? a b = none ↔ b.getLsbD 0 = false := by
  rw [decode?, RxWordB.valid.isSet_eq_getLsbD rfl]
  change (if b.getLsbD 0 = true then _ else _) = _ ↔ _
  split <;> simp_all

/-- The truth value of a bit, as a word, is the bit. -/
private theorem bitWord_isSet (f : Field) (hwidth : f.width = 1) (word : Word) :
    bitWord (f.isSet word) = f.get word := by
  apply BitVec.eq_of_getLsbD_eq
  intro i _
  rw [f.isSet_eq_getLsbD hwidth, f.getLsbD_get (by omega), hwidth]
  cases i with
  | zero => cases word.getLsbD f.offset <;> simp [bitWord]
  | succ i => cases word.getLsbD f.offset <;> simp [bitWord, BitVec.getLsbD_one]

/-- The fields of the first word of a received frame leave out only bit 29. -/
theorem overlay_firstWord (a : Word) : Field.overlay RxWordA.fields a 0#32 = a &&& ~~~0x20000000#32 := by
  have htile : ∀ i < 32, RxWordA.fields.any (·.covers i) = (~~~0x20000000#32).getLsbD i := by decide
  apply BitVec.eq_of_getLsbD_eq
  intro i hi
  rw [Field.getLsbD_overlay _ (by decide), htile i hi, BitVec.getLsbD_and]
  cases (~~~0x20000000#32).getLsbD i <;> simp

/-- The two flags of the second word take up the bits that its address leaves out. -/
theorem overlay_secondWord (b : Word) :
    Field.overlay [RxWordB.lengthErr, RxWordB.valid] b (b &&& RxWordB.addr.mask) = b := by
  have htile : ∀ i < 32, ¬ [RxWordB.lengthErr, RxWordB.valid].any (·.covers i) = true →
      RxWordB.addr.mask.getLsbD i = true := by decide
  apply BitVec.eq_of_getLsbD_eq
  intro i hi
  rw [Field.getLsbD_overlay _ (by decide)]
  split
  · rfl
  · rename_i hout
    rw [BitVec.getLsbD_and, htile i hi hout, Bool.and_true]

/-- Packing the descriptor of valid words again gives the words back, without bit 29 of the first. -/
theorem encode_of_decode? (a b : Word) (d : RxDescriptor) (h : decode? a b = some d) :
    d.encode = (a &&& ~~~0x20000000#32, b) := by
  have hvalid : RxWordB.valid.isSet b = true := by
    by_contra hclear
    rw [decode?, if_neg hclear] at h
    contradiction
  have hone : RxWordB.valid.get b = 1#32 := by
    rw [← bitWord_isSet _ rfl, hvalid]
    rfl
  rw [decode?, if_pos hvalid] at h
  obtain rfl := Option.some.inj h
  refine Prod.ext ?_ ?_
  · rw [← overlay_firstWord]
    change RxWordA.length.set (RxWordA.vc.set (RxWordA.lane.set (RxWordA.eofe.set
      (RxWordA.fifoErr.set 0#32 (bitWord (RxWordA.fifoErr.isSet a))) (bitWord (RxWordA.eofe.isSet a)))
      _) _) _ = _
    rw [bitWord_isSet _ rfl, bitWord_isSet _ rfl]
    rfl
  · change RxWordB.valid.set (RxWordB.lengthErr.set ((b &&& RxWordB.addr.mask) &&& RxWordB.addr.mask)
      (bitWord (RxWordB.lengthErr.isSet b))) 1#32 = b
    rw [BitVec.and_assoc, BitVec.and_self, bitWord_isSet _ rfl, ← hone]
    exact overlay_secondWord b

/-- Only valid words hold a descriptor, which then names the address in them. -/
theorem wordAddr_of_decode? (a b : Word) (d : RxDescriptor) (h : decode? a b = some d) :
    d.addr = wordAddr (a, b) := by
  unfold decode? at h
  split at h
  · exact congrArg RxDescriptor.addr (Option.some.inj h).symm
  · contradiction

/-- Words that were packed and whose descriptor names an aligned address name that address. -/
theorem target_of_aligned (d : RxDescriptor) (haddr : d.addr.Aligned) : d.target = d.addr := haddr

end RxDescriptor

/-! ## Both directions

A transmit word has a field for every bit; the pair of a received frame has one unused bit. In the
other direction each number is reduced to its field, and an address loses its two low bits. -/

/-- Words and descriptors determine each other, up to the bits that have no place in the other. A
transmit word is recovered from its descriptor. A pair of words holds a received frame, and a word a
returned buffer, exactly when its valid bit is set; then the words are recovered up to the unused bit,
and the buffer up to the low bits of its address. -/
theorem descriptor_words_round_trip :
    (∀ word : Word, (TxDescriptor.decode word).encode = word) ∧
    (∀ d : TxDescriptor,
      TxDescriptor.decode d.encode =
        { lane := d.lane % 32#32, vc := d.vc % 8#32, length := d.length % 0x1000000#32 }) ∧
    (∀ a b : Word,
      (RxDescriptor.decode? a b = none ↔ b.getLsbD 0 = false) ∧
      (RxDescriptor.decode? a b).map RxDescriptor.encode =
        if b.getLsbD 0 then some (a &&& ~~~0x20000000#32, b) else none) ∧
    (∀ d : RxDescriptor,
      RxDescriptor.decode? d.encode.1 d.encode.2 =
        some { lane := d.lane % 8#32, vc := d.vc % 4#32, length := d.length % 0x1000000#32,
               flags := d.flags, addr := d.addr &&& ~~~3#32 }) ∧
    (∀ word : Word,
      (TxReturn.decode? word = none ↔ word.getLsbD 0 = false) ∧
      TxReturn.decode? word = if word.getLsbD 0 then some (word &&& ~~~3#32) else none) ∧
    ∀ addr : Word, TxReturn.decode? (TxReturn.encode addr) = some (addr &&& ~~~3#32) := by
  refine ⟨TxDescriptor.encode_decode, TxDescriptor.decode_encode, ?_, ?_, ?_, TxReturn.decode?_encode⟩
  · intro a b
    refine ⟨RxDescriptor.decode?_eq_none_iff a b, ?_⟩
    cases hdecode : RxDescriptor.decode? a b with
    | none =>
      rw [(RxDescriptor.decode?_eq_none_iff a b).mp hdecode]
      rfl
    | some d =>
      have hvalid : b.getLsbD 0 = true := by
        by_contra hclear
        rw [(RxDescriptor.decode?_eq_none_iff a b).mpr (eq_false_of_ne_true hclear)] at hdecode
        contradiction
      rw [Option.map_some, RxDescriptor.encode_of_decode? a b d hdecode, if_pos hvalid]
  · intro d
    rw [RxDescriptor.decode?_encode, RxDescriptor.packed_eq]
  · intro word
    refine ⟨TxReturn.decode?_eq_none_iff word, ?_⟩
    cases hvalid : word.getLsbD 0 with
    | false => exact (TxReturn.decode?_eq_none_iff word).mpr hvalid
    | true => exact TxReturn.decode?_of_valid word hvalid

end LaneCard
