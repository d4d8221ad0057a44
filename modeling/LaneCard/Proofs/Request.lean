import LaneCard.Proofs.Record
import LaneCard.Record.Transmit

/-!
# Requests in records

A request that is written as a record is read from it again, in either layout; the layout is told by
the tag. A transmit record is refused for its length alone: where the length is that of its layout,
every word has its place in the request.
-/

namespace LaneCard

/-- The tag of a layout selects it. -/
@[simp] theorem Model.ofTag_tag (model : Model) : Model.ofTag model.tag = model := by
  cases model <;> rfl

namespace TxRequest

/-- The request in the words of a record, at their places. -/
def ofRecord (model : Model) (record : Bytes) : TxRequest :=
  match model with
  | .narrow =>
    ⟨.narrow, record.wordAt 4, Pointer.ofWord (record.wordAt 8), record.wordAt 12, record.wordAt 16,
      record.wordAt 20⟩
  | .wide =>
    ⟨.wide, record.wordAt 4, Pointer.ofWords (record.wordAt 8) (record.wordAt 12), record.wordAt 16,
      record.wordAt 20, record.wordAt 24⟩

/-- A record of the length of its layout holds a request. -/
theorem ofWords?_of_size {model : Model} {record : Bytes} (hsize : record.size = model.txSize) :
    ofWords? model record.words = some (ofRecord model record) := by
  cases model with
  | narrow =>
    rw [Bytes.words_of_size (k := 6) hsize]
    rfl
  | wide =>
    rw [Bytes.words_of_size (k := 8) hsize]
    rfl

/-- A record is read, or refused, by its length and its tag. -/
theorem decode_eq (record : Bytes) :
    decode record =
      if record.size < 4 then .error (.truncated 4 record.size)
      else if record.size < (Model.ofTag (record.wordAt 0)).txSize then
        .error (.truncated (Model.ofTag (record.wordAt 0)).txSize record.size)
      else if (Model.ofTag (record.wordAt 0)).txSize < record.size then
        .error (.sizeMismatch (Model.ofTag (record.wordAt 0)).txSize record.size)
      else .ok (ofRecord (Model.ofTag (record.wordAt 0)) record) := by
  unfold decode Model.detect
  by_cases htag : record.size < 4
  · simp only [if_pos htag, bind, Except.bind]
  · simp only [if_neg htag, bind, Except.bind]
    split
    · rfl
    · split
      · rfl
      · rw [ofWords?_of_size (by omega)]

/-- The words of a request that the layout can hold, and the request in them. -/
theorem ofWords?_words {r : TxRequest} (hdata : r.model = .narrow → r.data.toNat < wordSpan) :
    ∃ ws, r.words = .ok ws ∧ 4 * ws.length = r.model.txSize ∧ (∃ rest, ws = r.model.tag :: rest) ∧
      ofWords? r.model ws = some r := by
  obtain ⟨model, cmd, data, lane, vc, size⟩ := r
  cases model with
  | narrow =>
    have hfits : data.toNat < wordSpan := hdata rfl
    refine ⟨[Model.narrow.tag, cmd, data.setWidth 32, lane, vc, size], ?_, rfl, ⟨_, rfl⟩, ?_⟩
    · simp only [words, if_pos hfits]
    · simp only [ofWords?, RxRequest.ofWord_setWidth data hfits]
  | wide =>
    refine ⟨[Model.wide.tag, cmd] ++ data.words ++ [lane, vc, size, 0#32], rfl, rfl, ⟨_, rfl⟩, ?_⟩
    simp only [Pointer.words, List.cons_append, List.nil_append, ofWords?, RxRequest.ofWords_halves]

/-- A request that the layout can hold is read from its record. -/
theorem decode_encode {r : TxRequest} (hdata : r.model = .narrow → r.data.toNat < wordSpan) :
    ∃ record, r.encode = .ok record ∧ decode record = .ok r := by
  obtain ⟨ws, hws, hlength, ⟨rest, hrest⟩, hback⟩ := ofWords?_words hdata
  have htag : (Bytes.ofWords ws).wordAt 0 = r.model.tag :=
    RxRequest.wordAt_zero_of_words (by rw [Bytes.words_ofWords, hrest])
  have hsize : (Bytes.ofWords ws).size = (Model.ofTag ((Bytes.ofWords ws).wordAt 0)).txSize := by
    rw [htag, Model.ofTag_tag, Bytes.size_ofWords, hlength]
  refine ⟨Bytes.ofWords ws, by rw [encode, hws]; rfl, ?_⟩
  have hsame := ofWords?_of_size hsize
  rw [htag, Model.ofTag_tag, Bytes.words_ofWords, hback] at hsame
  have hlong : 4 ≤ r.model.txSize := by cases r.model <;> decide
  rw [htag, Model.ofTag_tag] at hsize
  rw [decode_eq, htag, Model.ofTag_tag, hsize, if_neg (by omega), if_neg (Nat.lt_irrefl _),
    if_neg (Nat.lt_irrefl _), ← Option.some.inj hsame]

end TxRequest

namespace RxRequest

/-- A request for a frame that the layout can hold is read from its record. -/
theorem decode_encode_new (model : Model) {data : Pointer} (hdata : model = .narrow → data.toNat < wordSpan)
    (maxSize : Word) :
    ∃ record, (new model maxSize data).encode = .ok record ∧ decode record = .ok (new model maxSize data) := by
  have hselected : (new model maxSize data).model = Model.ofTag (new model maxSize data).tag :=
    (Model.ofTag_tag model).symm
  obtain ⟨record, hwritten, hread, -⟩ := decodeReply_encodeReply hselected hdata RxReply.blank
  exact ⟨record, hwritten, by rw [decode, hread]; rfl⟩

end RxRequest

end LaneCard
