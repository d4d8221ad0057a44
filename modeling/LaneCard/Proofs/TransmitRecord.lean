import LaneCard.Proofs.Request

/-!
# The transmit record as a code

A byte string is a transmit record for its length alone: that of the layout its tag selects, which is
the wide one for tag 8 and the narrow one for every other tag. Writing a request fails for a pointer
that the narrow layout has no room for, and for nothing else. Reading undoes writing. Writing what was
read gives the record again but for the two places no request remembers: the tag, of which the layout
is kept, and the reserved word that ends the wide layout.
-/

namespace LaneCard

/-- Cutting a pointer made of one word gives the word. -/
theorem Pointer.setWidth_ofWord (w : Word) : (Pointer.ofWord w).setWidth 32 = w := by
  apply BitVec.eq_of_toNat_eq
  have hw := w.isLt
  simp only [Pointer.ofWord, BitVec.toNat_setWidth]
  omega

/-- A pointer made of two words as a number. -/
theorem Pointer.toNat_ofWords (low high : Word) :
    (Pointer.ofWords low high).toNat = high.toNat * wordSpan + low.toNat := by
  rw [Pointer.ofWords, BitVec.toNat_append, ← Nat.shiftLeft_add_eq_or_of_lt low.isLt, Nat.shiftLeft_eq, wordSpan]

/-- Cutting a pointer made of two words gives the low one. -/
theorem Pointer.setWidth_ofWords (low high : Word) : (Pointer.ofWords low high).setWidth 32 = low := by
  have hlow := low.isLt
  apply BitVec.eq_of_toNat_eq
  rw [BitVec.toNat_setWidth, toNat_ofWords, wordSpan]
  omega

/-- The halves of a pointer made of two words are the words. -/
theorem Pointer.words_ofWords (low high : Word) : (Pointer.ofWords low high).words = [low, high] := by
  have hlow := low.isLt
  have hhigh := high.isLt
  have hshifted : (Pointer.ofWords low high >>> 32).setWidth 32 = high := by
    apply BitVec.eq_of_toNat_eq
    rw [BitVec.toNat_setWidth, BitVec.toNat_ushiftRight, toNat_ofWords, Nat.shiftRight_eq_div_pow, wordSpan]
    omega
  rw [Pointer.words, setWidth_ofWords, hshifted]

namespace TxRequest

/-- The record with the tag of its layout, and nothing in the reserved word of the wide layout. -/
def canonical : Model → Bytes → Bytes
  | .narrow, record => record.overwrite 0 (Bytes.ofWords [Model.narrow.tag])
  | .wide, record => (record.overwrite 0 (Bytes.ofWords [Model.wide.tag])).overwrite 28 (Bytes.zeros 4)

/-- A record is read when it has the length of its layout. -/
theorem decode_eq_ok_iff (record : Bytes) (r : TxRequest) :
    decode record = .ok r ↔
      record.size = (Model.ofTag (record.wordAt 0)).txSize ∧
        ofRecord (Model.ofTag (record.wordAt 0)) record = r := by
  have hlong : 4 ≤ (Model.ofTag (record.wordAt 0)).txSize := by
    cases Model.ofTag (record.wordAt 0) <;> decide
  rw [decode_eq]
  split
  · exact ⟨nofun, fun h => by omega⟩
  · split
    · exact ⟨nofun, fun h => by omega⟩
    · split
      · exact ⟨nofun, fun h => by omega⟩
      · rw [Except.ok.injEq]
        exact ⟨fun h => ⟨by omega, h⟩, fun h => h.2⟩

/-- A request is written when its layout holds its pointer. -/
theorem encode_eq_error_iff (r : TxRequest) (e : RecordError) :
    r.encode = .error e ↔ r.model = .narrow ∧ wordSpan ≤ r.data.toNat ∧ e = pointerFault r.data := by
  obtain ⟨model, cmd, data, lane, vc, size⟩ := r
  cases model with
  | narrow =>
    by_cases hfits : data.toNat < wordSpan
    · simp only [encode, words, if_pos hfits, Except.map, reduceCtorEq, false_iff]
      omega
    · simp only [encode, words, if_neg hfits, Except.map, Except.error.injEq]
      exact ⟨fun h => ⟨trivial, by omega, h.symm⟩, fun h => h.2.2.symm⟩
  | wide => simp only [encode, words, Except.map, reduceCtorEq, false_and]

/-- A written request is as long as its layout. -/
theorem size_of_encode {r : TxRequest} {record : Bytes} (h : r.encode = .ok record) :
    record.size = r.model.txSize := by
  have hdata (hnarrow : r.model = .narrow) : r.data.toNat < wordSpan := by
    by_contra hwide
    rw [(encode_eq_error_iff r _).mpr ⟨hnarrow, by omega, rfl⟩] at h
    contradiction
  obtain ⟨ws, hws, hlength, -, -⟩ := ofWords?_words hdata
  rw [encode, hws] at h
  obtain rfl : Bytes.ofWords ws = record := Except.ok.inj h
  rw [Bytes.size_ofWords, hlength]

/-- The canonical record is as long as the record. -/
theorem size_canonical {model : Model} {record : Bytes} (hsize : record.size = model.txSize) :
    (canonical model record).size = model.txSize := by
  have hword (w : Word) : (Bytes.ofWords [w]).size = 4 := Bytes.size_ofWords [w]
  have htagged (w : Word) : (record.overwrite 0 (Bytes.ofWords [w])).size = record.size :=
    Bytes.size_overwrite record 0 _ (by rw [hword, hsize]; cases model <;> decide)
  cases model with
  | narrow => rw [canonical, htagged, hsize]
  | wide =>
    have hlong : (record.overwrite 0 (Bytes.ofWords [Model.wide.tag])).size = 32 := (htagged _).trans hsize
    have hzeros : (Bytes.zeros 4).size = 4 := Bytes.size_zeros 4
    rw [canonical, Bytes.size_overwrite _ _ _ (by omega), hlong]
    rfl

/-- The words of the canonical record are those of the request. -/
theorem words_ofRecord {model : Model} {record : Bytes} (hsize : record.size = model.txSize) :
    (ofRecord model record).words = .ok (canonical model record).words := by
  cases model with
  | narrow =>
    have hlong : record.size = 24 := hsize
    have htagged := Bytes.words_overwrite record Model.narrow.tag (k := 0) (by omega)
    rw [Bytes.words_of_size (k := 6) hsize] at htagged
    rw [canonical, htagged, ofRecord, words]
    simp only [if_pos (RxRequest.toNat_ofWord_lt _), Pointer.setWidth_ofWord]
    rfl
  | wide =>
    have hlong : record.size = 32 := hsize
    have htaggedSize : (record.overwrite 0 (Bytes.ofWords [Model.wide.tag])).size = 32 := by
      rw [Bytes.size_overwrite record 0 _ (by rw [Bytes.size_ofWords]; simp; omega), hlong]
    have htagged := Bytes.words_overwrite record Model.wide.tag (k := 0) (by omega)
    rw [Bytes.words_of_size (k := 8) hsize] at htagged
    have hreserved :=
      Bytes.words_overwrite (record.overwrite 0 (Bytes.ofWords [Model.wide.tag])) 0#32 (k := 7) (by omega)
    rw [htagged] at hreserved
    rw [canonical, Bytes.zeros_four, hreserved, ofRecord, words]
    simp only [Pointer.words_ofWords]
    rfl

/-- What was read is written as the canonical record. -/
theorem encode_of_decode {record : Bytes} {r : TxRequest} (h : decode record = .ok r) :
    r.encode = .ok (canonical (Model.ofTag (record.wordAt 0)) record) := by
  obtain ⟨hsize, rfl⟩ := (decode_eq_ok_iff record r).mp h
  have hwhole : 4 ∣ (canonical (Model.ofTag (record.wordAt 0)) record).size := by
    rw [size_canonical hsize]
    cases Model.ofTag (record.wordAt 0) <;> decide
  rw [encode, words_ofRecord hsize, Except.map, Bytes.ofWords_words _ hwhole]

/-- The length of the transmit records with a tag. -/
def sizeFor (tag : Word) : Nat := if tag = 8#32 then 32 else 24

/-- The layout of a tag has its length. -/
theorem txSize_ofTag (tag : Word) : (Model.ofTag tag).txSize = sizeFor tag := by
  unfold Model.ofTag sizeFor
  split <;> rfl

/-- A byte string is read exactly if it is as long as the layout of its tag, and is refused as too short
or as too long otherwise. A request is written exactly if its layout holds its pointer, as a record of
the length of the layout that is read as the request again. A record that was read is written with the
tag of its layout and without a reserved word, and otherwise as it was. -/
theorem transmit_record_codec (record : Bytes) (r : TxRequest) :
    ((∃ read, decode record = .ok read) ↔
        4 ≤ record.size ∧ record.size = sizeFor (record.wordAt 0)) ∧
      (record.size < 4 → decode record = .error (.truncated 4 record.size)) ∧
      (4 ≤ record.size → record.size < sizeFor (record.wordAt 0) →
        decode record = .error (.truncated (sizeFor (record.wordAt 0)) record.size)) ∧
      (sizeFor (record.wordAt 0) < record.size →
        decode record = .error (.sizeMismatch (sizeFor (record.wordAt 0)) record.size)) ∧
      ((∃ e, r.encode = .error e) ↔ r.model = .narrow ∧ wordSpan ≤ r.data.toNat) ∧
      (¬ (r.model = .narrow ∧ wordSpan ≤ r.data.toNat) →
        ∃ written, r.encode = .ok written ∧ written.size = r.model.txSize ∧ decode written = .ok r) ∧
      ∀ read, decode record = .ok read →
        read.encode = .ok (canonical (Model.ofTag (record.wordAt 0)) record) := by
  have hlong : 4 ≤ sizeFor (record.wordAt 0) := by unfold sizeFor; split <;> decide
  have hdecode := decode_eq record
  rw [txSize_ofTag] at hdecode
  refine ⟨?_, fun hshort => ?_, fun htag hshort => ?_, fun hlarge => ?_, ?_, fun hfits => ?_,
    fun read => encode_of_decode⟩
  · simp only [decode_eq_ok_iff, txSize_ofTag]
    constructor
    · rintro ⟨_, hsize, -⟩
      exact ⟨hsize ▸ hlong, hsize⟩
    · rintro ⟨-, hsize⟩
      exact ⟨_, hsize, rfl⟩
  · rw [hdecode, if_pos hshort]
  · rw [hdecode, if_neg (by omega), if_pos hshort]
  · rw [hdecode, if_neg (by omega), if_neg (by omega), if_pos hlarge]
  · simp only [encode_eq_error_iff]
    constructor
    · rintro ⟨_, hmodel, hlarge, -⟩
      exact ⟨hmodel, hlarge⟩
    · rintro ⟨hmodel, hlarge⟩
      exact ⟨_, hmodel, hlarge, rfl⟩
  · have hdata (hmodel : r.model = .narrow) : r.data.toNat < wordSpan := by
      by_contra hlarge
      exact hfits ⟨hmodel, Nat.le_of_not_lt hlarge⟩
    obtain ⟨written, hwritten, hread⟩ := decode_encode hdata
    exact ⟨written, hwritten, size_of_encode hwritten, hread⟩

/-- A narrow record with another tag than its layout's. -/
def oddRecord : Bytes := Bytes.ofWords [5#32, 0#32, 0x1000#32, 2#32, 1#32, 3#32]

/-- A wide record with something in its reserved word. -/
def fullRecord : Bytes := Bytes.ofWords [8#32, 0#32, 0x1000#32, 7#32, 2#32, 1#32, 3#32, 0x55#32]

/-- Both are read, and are written with the tag of their layout and without a reserved word. -/
theorem transmit_record_codec_lossy :
    (decode oddRecord = .ok (write .narrow 2#32 1#32 0x1000#64 3#32) ∧
      (write .narrow 2#32 1#32 0x1000#64 3#32).encode =
        .ok (Bytes.ofWords [4#32, 0#32, 0x1000#32, 2#32, 1#32, 3#32])) ∧
      decode fullRecord = .ok (write .wide 2#32 1#32 0x700001000#64 3#32) ∧
      (write .wide 2#32 1#32 0x700001000#64 3#32).encode =
        .ok (Bytes.ofWords [8#32, 0#32, 0x1000#32, 7#32, 2#32, 1#32, 3#32, 0#32]) := by
  have hodd : decode oddRecord = .ok (write .narrow 2#32 1#32 0x1000#64 3#32) := by decide
  have hfull : decode fullRecord = .ok (write .wide 2#32 1#32 0x700001000#64 3#32) := by decide
  obtain ⟨-, -, -, -, -, -, hagain⟩ := transmit_record_codec oddRecord (write .narrow 0#32 0#32 0#64 0#32)
  obtain ⟨-, -, -, -, -, -, hreserved⟩ := transmit_record_codec fullRecord (write .wide 0#32 0#32 0#64 0#32)
  exact ⟨⟨hodd, (hagain _ hodd).trans (by decide)⟩, hfull, (hreserved _ hfull).trans (by decide)⟩

end TxRequest

end LaneCard
