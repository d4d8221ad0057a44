import LaneCard.Proofs.TransmitRecord

/-!
# The receive record as a code

A receive record holds a request in front and a reply behind it. It is read for its length alone, which
is that of the layout its tag selects. An answer has the front of the record it answers, whatever the
tag there, and the reply in its last six words; only the flags, of which any word but zero sets one, come
back as zeros and ones.
-/

namespace LaneCard

/-- The bytes of a receive record that hold the request: the tag, the size limit and the pointer. -/
def Model.requestSize : Model → Nat
  | .narrow => 12
  | .wide => 16

namespace RxRequest

/-- The request in the words of a record, at their places. -/
def ofRecord (model : Model) (record : Bytes) : RxRequest :=
  match model with
  | .narrow => ⟨.narrow, record.wordAt 0, record.wordAt 4, Pointer.ofWord (record.wordAt 8)⟩
  | .wide =>
    ⟨.wide, record.wordAt 0, record.wordAt 4, Pointer.ofWords (record.wordAt 8) (record.wordAt 12)⟩

/-- The reply in the six words of a record from a place on. -/
def replyAt (record : Bytes) (start : Nat) : RxReply :=
  ⟨record.wordAt start, record.wordAt (start + 4), record.wordAt (start + 8),
    ⟨record.wordAt (start + 12) != 0#32, record.wordAt (start + 16) != 0#32,
      record.wordAt (start + 20) != 0#32⟩⟩

/-- A record of the length of its layout holds a request and a reply. -/
theorem ofWords?_of_size {model : Model} {record : Bytes} (hsize : record.size = model.rxSize) :
    ofWords? model record.words = some (ofRecord model record, replyAt record model.requestSize) := by
  cases model with
  | narrow =>
    rw [Bytes.words_of_size (k := 9) hsize]
    rfl
  | wide =>
    rw [Bytes.words_of_size (k := 10) hsize]
    rfl

/-- A record is read, or refused, by its length and its tag. -/
theorem decodeReply_eq (record : Bytes) :
    decodeReply record =
      if record.size < 4 then .error (.truncated 4 record.size)
      else if record.size = (Model.ofTag (record.wordAt 0)).rxSize then
        .ok (ofRecord (Model.ofTag (record.wordAt 0)) record,
          replyAt record (Model.ofTag (record.wordAt 0)).requestSize)
      else .error (.sizeMismatch (Model.ofTag (record.wordAt 0)).rxSize record.size) := by
  unfold decodeReply Model.detect
  by_cases htag : record.size < 4
  · simp only [if_pos htag, bind, Except.bind]
  · simp only [if_neg htag, bind, Except.bind]
    split
    · rename_i hsize
      rw [ofWords?_of_size hsize]
    · rfl

/-- A record that was read is as long as its layout. -/
theorem size_of_decode {record : Bytes} {r : RxRequest} (h : decode record = .ok r) :
    4 ≤ record.size ∧ record.size = (Model.ofTag (record.wordAt 0)).rxSize ∧
      r = ofRecord (Model.ofTag (record.wordAt 0)) record := by
  rw [decode, decodeReply_eq] at h
  split at h
  · contradiction
  · split at h
    · rename_i hlong hsize
      exact ⟨Nat.le_of_not_lt hlong, hsize, (Except.ok.inj h).symm⟩
    · contradiction

/-- An answer to the request of a record is the front of the record and the reply. -/
theorem encodeReply_ofRecord {model : Model} {record : Bytes} (hsize : record.size = model.rxSize)
    (c : RxReply) :
    (ofRecord model record).encodeReply c =
      .ok (record.extract 0 model.requestSize ++ Bytes.ofWords (replyWords c)) := by
  cases model with
  | narrow =>
    have hlong : record.size = 36 := hsize
    have hfront : record.extract 0 12 = Bytes.ofWords [record.wordAt 0, record.wordAt 4, record.wordAt 8] := by
      rw [record.extract_eq_ofWords (k := 3) (by omega)]
      rfl
    rw [encodeReply, ofRecord, words, Model.requestSize, hfront, ← Bytes.ofWords_append]
    simp only [if_pos (toNat_ofWord_lt _), Pointer.setWidth_ofWord]
    rfl
  | wide =>
    have hlong : record.size = 40 := hsize
    have hfront : record.extract 0 16 =
        Bytes.ofWords [record.wordAt 0, record.wordAt 4, record.wordAt 8, record.wordAt 12] := by
      rw [record.extract_eq_ofWords (k := 4) (by omega)]
      rfl
    rw [encodeReply, ofRecord, words, Model.requestSize, hfront, ← Bytes.ofWords_append]
    simp only [Pointer.words_ofWords]
    rfl

/-- The answer to a record: its front, and the reply. -/
def answer (record : Bytes) (c : RxReply) : Bytes :=
  record.extract 0 (Model.ofTag (record.wordAt 0)).requestSize ++ Bytes.ofWords (replyWords c)

/-- A request that was read is answered with the front of its record. -/
theorem encodeReply_eq_answer {record : Bytes} {r : RxRequest} (h : decode record = .ok r) (c : RxReply) :
    r.encodeReply c = .ok (answer record c) := by
  obtain ⟨-, hsize, rfl⟩ := size_of_decode h
  exact encodeReply_ofRecord hsize c

/-- The answer is as long as the record, and is read as the request and the reply. -/
theorem decodeReply_answer {record : Bytes} {r : RxRequest} (h : decode record = .ok r) (c : RxReply) :
    (answer record c).size = record.size ∧ decodeReply (answer record c) = .ok (r, c) := by
  obtain ⟨written, hwritten, hsize, hread⟩ := encodeReply_of_decode h c
  rw [encodeReply_eq_answer h c, Except.ok.injEq] at hwritten
  subst hwritten
  exact ⟨hsize, hread⟩

/-- The answer has the front of the record. -/
theorem extract_answer {record : Bytes} {r : RxRequest} (h : decode record = .ok r) (c : RxReply) :
    (answer record c).extract 0 (Model.ofTag (record.wordAt 0)).requestSize =
      record.extract 0 (Model.ofTag (record.wordAt 0)).requestSize := by
  obtain ⟨-, hsize, -⟩ := size_of_decode h
  have hfront : (Model.ofTag (record.wordAt 0)).requestSize ≤ (Model.ofTag (record.wordAt 0)).rxSize := by
    cases Model.ofTag (record.wordAt 0) <;> decide
  apply ByteArray.extract_append_eq_left
  rw [ByteArray.size_extract]
  omega

/-- The record with one for each of its last three words that is not zero. -/
def flagsSettled (record : Bytes) : Bytes :=
  record.extract 0 (record.size - 12) ++
    Bytes.ofWords [flagWord (record.wordAt (record.size - 12) != 0#32),
      flagWord (record.wordAt (record.size - 8) != 0#32),
      flagWord (record.wordAt (record.size - 4) != 0#32)]

/-- The record with settled flags is its front and the reply in it. -/
theorem flagsSettled_eq {model : Model} {record : Bytes} (hsize : record.size = model.rxSize) :
    flagsSettled record = record.extract 0 model.requestSize ++
      Bytes.ofWords (replyWords (replyAt record model.requestSize)) := by
  obtain ⟨k, hrequest, hlong⟩ : ∃ k, model.requestSize = 4 * k ∧ model.rxSize = 4 * k + 24 := by
    cases model
    · exact ⟨3, rfl, rfl⟩
    · exact ⟨4, rfl, rfl⟩
  have heofe : record.size - 12 = 4 * k + 12 := by omega
  have hfifo : record.size - 8 = 4 * k + 16 := by omega
  have hcut : record.size - 4 = 4 * k + 20 := by omega
  have hkept : record.extract 0 (4 * k + 12) = record.extract 0 (4 * k) ++
      Bytes.ofWords [record.wordAt (4 * k), record.wordAt (4 * k + 4), record.wordAt (4 * k + 8)] := by
    have hlane := record.extract_succ_word (k := k) (by omega)
    have hvc := record.extract_succ_word (k := k + 1) (by omega)
    have hcount := record.extract_succ_word (k := k + 2) (by omega)
    rw [hvc, hlane, ByteArray.append_assoc, ByteArray.append_assoc, ← Bytes.ofWords_append,
      ← Bytes.ofWords_append] at hcount
    exact hcount
  rw [flagsSettled, heofe, hfifo, hcut, hrequest, hkept, ByteArray.append_assoc, ← Bytes.ofWords_append]
  rfl

/-- What was read is written as the record with settled flags. -/
theorem encodeReply_of_decodeReply {record : Bytes} {q : RxRequest} {reply : RxReply}
    (h : decodeReply record = .ok (q, reply)) : q.encodeReply reply = .ok (flagsSettled record) := by
  obtain ⟨-, hsize, hwords⟩ := (decodeReply_eq_ok_iff record q reply).mp h
  rw [ofWords?_of_size hsize, Option.some.injEq, Prod.mk.injEq] at hwords
  obtain ⟨rfl, rfl⟩ := hwords
  rw [flagsSettled_eq hsize, encodeReply_ofRecord hsize]

/-- The length of the receive records with a tag. -/
def sizeFor (tag : Word) : Nat := if tag = 8#32 then 40 else 36

/-- The layout of a tag has its length. -/
theorem rxSize_ofTag (tag : Word) : (Model.ofTag tag).rxSize = sizeFor tag := by
  unfold Model.ofTag sizeFor
  split <;> rfl

/-- The records that are read, with or without the reply, are those of the length of their layout. -/
theorem exists_decodeReply_iff (record : Bytes) :
    (∃ answered, decodeReply record = .ok answered) ↔
      4 ≤ record.size ∧ record.size = sizeFor (record.wordAt 0) := by
  rw [decodeReply_eq, rxSize_ofTag]
  constructor
  · rintro ⟨_, hread⟩
    split at hread
    · contradiction
    · split at hread
      · rename_i hlong hsize
        exact ⟨Nat.le_of_not_lt hlong, hsize⟩
      · contradiction
  · rintro ⟨hlong, hsize⟩
    exact ⟨_, by rw [if_neg (Nat.not_lt_of_le hlong), if_pos hsize]⟩

/-- A request is read from the same records as a request with a reply. -/
theorem exists_decode_iff (record : Bytes) :
    (∃ r, decode record = .ok r) ↔ ∃ answered, decodeReply record = .ok answered := by
  unfold decode
  cases decodeReply record with
  | ok answered => exact ⟨fun _ => ⟨answered, rfl⟩, fun _ => ⟨answered.1, rfl⟩⟩
  | error e => exact ⟨nofun, nofun⟩

/-- A byte string is read exactly if it is as long as the layout of its tag, by the reader of requests
and by the reader of answers. An answer to a request of its tag's layout that can hold its pointer is
read as the same request, under the same tag, and the same reply. Writing what was read changes a record
in no place but its flags, where one stands for anything but zero. -/
theorem receive_record_codec (record : Bytes) (r : RxRequest) (c : RxReply) :
    ((∃ q, decode record = .ok q) ↔ 4 ≤ record.size ∧ record.size = sizeFor (record.wordAt 0)) ∧
      ((∃ answered, decodeReply record = .ok answered) ↔
        4 ≤ record.size ∧ record.size = sizeFor (record.wordAt 0)) ∧
      (r.model = Model.ofTag r.tag → (r.model = .narrow → r.data.toNat < wordSpan) →
        ∃ written, r.encodeReply c = .ok written ∧ decodeReply written = .ok (r, c) ∧
          written.wordAt 0 = r.tag) ∧
      ∀ q reply, decodeReply record = .ok (q, reply) →
        decode record = .ok q ∧ q.encodeReply reply = .ok (flagsSettled record) := by
  refine ⟨(exists_decode_iff record).trans (exists_decodeReply_iff record), exists_decodeReply_iff record,
    fun hmodel hdata => decodeReply_encodeReply hmodel hdata c, fun q reply hread => ?_⟩
  exact ⟨by rw [decode, hread]; rfl, encodeReply_of_decodeReply hread⟩

/-- A narrow record under another tag than its layout's, with other flag words than zero and one. -/
def looseRecord : Bytes :=
  Bytes.ofWords [5#32, 16#32, 0x1000#32, 2#32, 1#32, 3#32, 2#32, 0#32, 7#32]

/-- The tag is kept, and flag words other than zero are written as one. -/
theorem receive_record_codec_loose :
    ((Model.narrow = Model.ofTag 5#32 ∧ (0x1000#64).toNat < wordSpan) ∧
      ∃ written,
        RxRequest.encodeReply ⟨.narrow, 5#32, 16#32, 0x1000#64⟩ ⟨2#32, 1#32, 3#32, ⟨true, false, true⟩⟩ =
            .ok written ∧
          decodeReply written =
              .ok (⟨.narrow, 5#32, 16#32, 0x1000#64⟩, ⟨2#32, 1#32, 3#32, ⟨true, false, true⟩⟩) ∧
            written.wordAt 0 = 5#32) ∧
      decodeReply looseRecord =
          .ok (⟨.narrow, 5#32, 16#32, 0x1000#64⟩, ⟨2#32, 1#32, 3#32, ⟨true, false, true⟩⟩) ∧
        RxRequest.encodeReply ⟨.narrow, 5#32, 16#32, 0x1000#64⟩ ⟨2#32, 1#32, 3#32, ⟨true, false, true⟩⟩ =
          .ok (Bytes.ofWords [5#32, 16#32, 0x1000#32, 2#32, 1#32, 3#32, 1#32, 0#32, 1#32]) := by
  have hread : decodeReply looseRecord =
      .ok (⟨.narrow, 5#32, 16#32, 0x1000#64⟩, ⟨2#32, 1#32, 3#32, ⟨true, false, true⟩⟩) := by decide
  have hnarrow : (0x1000#64).toNat < wordSpan := by decide
  obtain ⟨-, -, hback, hagain⟩ := receive_record_codec looseRecord ⟨.narrow, 5#32, 16#32, 0x1000#64⟩
    ⟨2#32, 1#32, 3#32, ⟨true, false, true⟩⟩
  exact ⟨⟨⟨by decide, hnarrow⟩, hback (by decide) (fun _ => hnarrow)⟩, hread,
    (hagain _ _ hread).2.trans (by decide)⟩

end RxRequest

end LaneCard
