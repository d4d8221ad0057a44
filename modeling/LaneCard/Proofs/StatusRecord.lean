import LaneCard.Card.Session
import LaneCard.Proofs.Attach
import LaneCard.Proofs.CallerMemory

/-!
# The status record as a code

A status record is as many words as a status has numbers, each in a place of its own, and the places
leave no gap. So a status and its words are two views of the same thing: the words are those that the
status was read from, and two statuses with the same words are the same. What a caller is given of a
snapshot is then the snapshot.
-/

namespace LaneCard

namespace CardStatus

/-! ## The words of a status that was read -/

/-- So many of a sequence of words, from a place on. -/
def stretch (w : Nat → Word) (start count : Nat) : List Word := (List.range' start count).map w

/-- Stretches that follow each other are one stretch. -/
theorem stretch_append (w : Nat → Word) {start next count : Nat} (hnext : next = start + count) (more : Nat) :
    stretch w start count ++ stretch w next more = stretch w start (count + more) := by
  rw [stretch, stretch, stretch, hnext, ← List.map_append, List.range'_append_1]

/-- The words of a row are a stretch. -/
theorem toList_ofFn (w : Nat → Word) (start n : Nat) :
    (Vector.ofFn fun i : Fin n => w (start + i.val)).toList = stretch w start n := by
  apply List.ext_getElem
  · rw [Vector.length_toList, stretch, List.length_map, List.length_range']
  · intro i hi hi'
    simp [stretch]

/-- The words of a table are a stretch. -/
theorem grid_ofFn (w : Nat → Word) (start : Nat) :
    grid (Vector.ofFn fun lane => Vector.ofFn fun vc => w (start + 4 * lane.val + vc.val)) =
      stretch w start 32 := by
  have hrow (lane : Fin 8) : (Vector.ofFn fun vc : Fin 4 => w (start + 4 * lane.val + vc.val)).toList =
      stretch w (start + 4 * lane.val) 4 := toList_ofFn w _ 4
  rw [grid, Vector.toList_ofFn, List.flatMap_def, List.map_ofFn]
  simp only [Function.comp_def, hrow]
  rfl

/-- A status has the words that it was read from, each of them once and in order. -/
theorem words_ofWords (w : Nat → Word) : (ofWords w).words = stretch w 0 recordWords := by
  have hversion : [w 0] = stretch w 0 1 := rfl
  have hscratch : [w 3] = stretch w 3 1 := rfl
  have hcommon : [w 68, w 69, w 70, w 71, w 72, w 73, w 74, w 75, w 76, w 77, w 78, w 79, w 80, w 81, w 82] =
      stretch w 68 15 := rfl
  have htiming : [w 259, w 260, w 261, w 262, w 263] = stretch w 259 5 := rfl
  have hreceive : [w 288, w 289, w 290, w 291, w 292] = stretch w 288 5 := rfl
  have htransmit : [w 301, w 302, w 303, w 304, w 305] = stretch w 301 5 := rfl
  unfold words
  simp only [ofWords, toList_ofFn w, grid_ofFn w, hversion, hscratch, hcommon, htiming, hreceive, htransmit,
    stretch_append, Nat.reduceAdd, recordWords]

/-! ## The status with given words -/

/-- A table has one word per lane and channel. -/
theorem length_grid (table : Vector (Vector Word 4) 8) : (grid table).length = 32 := by
  have hrow (row : Vector Word 4) : row.toList.length = 4 := by simp
  simp [grid, List.length_flatMap, hrow]

/-- Lists that end in equally many words are the same if they are up to there and from there on. -/
theorem append_inj_of_length {xs ys us vs : List Word} (hlength : us.length = vs.length) :
    xs ++ us = ys ++ vs ↔ xs = ys ∧ us = vs :=
  ⟨fun h => List.append_inj' h hlength, fun ⟨hxs, hus⟩ => by rw [hxs, hus]⟩

/-- Equally many rows with the same words are the same rows. -/
theorem rows_inj {xs ys : List (Vector Word 4)} (hlength : xs.length = ys.length)
    (h : xs.flatMap Vector.toList = ys.flatMap Vector.toList) : xs = ys := by
  induction xs generalizing ys with
  | nil => exact (List.length_eq_zero_iff.mp hlength.symm).symm
  | cons x xs ih =>
    cases ys with
    | nil => contradiction
    | cons y ys =>
      rw [List.flatMap_cons, List.flatMap_cons] at h
      obtain ⟨hrow, hrest⟩ := List.append_inj h (by rw [Vector.length_toList, Vector.length_toList])
      rw [Vector.toList_inj.mp hrow, ih (Nat.succ.inj hlength) hrest]

/-- Tables with the same words are the same. -/
theorem grid_inj {s t : Vector (Vector Word 4) 8} : grid s = grid t ↔ s = t := by
  refine ⟨fun h => Vector.toList_inj.mp (rows_inj ?_ h), fun h => by rw [h]⟩
  rw [Vector.length_toList, Vector.length_toList]

/-- Statuses with the same words are the same. -/
theorem words_injective : Function.Injective words := by
  intro s t h
  cases s
  cases t
  unfold words at h
  simp (disch := simp only [length_grid, Vector.length_toList, List.length_cons]) only
    [append_inj_of_length, Vector.toList_inj, grid_inj, List.cons.injEq, and_true, and_assoc] at h
  simpa only [CardStatus.mk.injEq] using h

/-! ## Records -/

/-- The record of every status has the same length. -/
theorem size_toRecord (s : CardStatus) : s.toRecord.size = recordSize := by
  have hlength : s.words.length = recordWords := by
    unfold words
    repeat rw [List.length_append]
    simp only [length_grid, Vector.length_toList]
    rfl
  rw [toRecord, Bytes.size_ofWords, hlength, recordSize, Nat.mul_comm]

/-- Statuses with the same record are the same. -/
theorem toRecord_injective : Function.Injective toRecord := by
  intro s t h
  have hwords : (Bytes.ofWords s.words).words = (Bytes.ofWords t.words).words := congrArg Bytes.words h
  rw [Bytes.words_ofWords, Bytes.words_ofWords] at hwords
  exact words_injective hwords

/-- A status that was read is written as what it was read from. -/
theorem toRecord_ofRecord {b : Bytes} (hlong : recordSize ≤ b.size) :
    ∃ s, ofRecord b = .ok s ∧ s.toRecord = b.extract 0 recordSize := by
  have hsize : recordSize = 4 * recordWords := Nat.mul_comm recordWords 4
  refine ⟨ofWords fun i => b.wordAt (4 * i), by rw [ofRecord, if_neg (Nat.not_lt_of_le hlong)], ?_⟩
  rw [hsize, b.extract_eq_ofWords (hsize ▸ hlong), toRecord, words_ofWords, stretch, List.range_eq_range']

/-- A status is read from its record. -/
theorem ofRecord_toRecord (s : CardStatus) : ofRecord s.toRecord = .ok s := by
  obtain ⟨t, hread, hsame⟩ := toRecord_ofRecord (Nat.le_of_eq s.size_toRecord.symm)
  rw [← s.size_toRecord, ByteArray.extract_zero_size] at hsame
  rw [hread, toRecord_injective hsame]

/-- The record of a status, as a string of the length of records. -/
def fixedRecord (s : CardStatus) : { b : Bytes // b.size = recordSize } := ⟨s.toRecord, s.size_toRecord⟩

/-- Every string of the length of records is the record of one status. -/
theorem fixedRecord_bijective : Function.Bijective fixedRecord := by
  constructor
  · intro s t h
    rw [fixedRecord, fixedRecord, Subtype.mk.injEq] at h
    exact toRecord_injective h
  · rintro ⟨b, hb⟩
    obtain ⟨s, -, hsame⟩ := toRecord_ofRecord (Nat.le_of_eq hb.symm)
    rw [← hb, ByteArray.extract_zero_size] at hsame
    exact ⟨s, by rw [fixedRecord, Subtype.mk.injEq, hsame]⟩

end CardStatus

namespace Card

variable {β : Type} [RegisterBus β]

/-- A status record that a transmit record asks for is stored where the memory reaches far enough. -/
theorem writeRecord_stores (c : Card β) (patience : Patience) {record : Bytes} {request : TxRequest}
    (hrecord : TxRequest.decode record = .ok request)
    (hcommand : Command.ofCode? request.cmd.toNat = some .readStatus) {memory : CallerMemory}
    (hreaches : memory.Reaches request.data.toNat CardStatus.recordSize) :
    ∃ memory', c.writeRecord patience record memory =
        (.returned (.ok 0), (c.trace 0 "ReadStatus").snapshot.2, memory') ∧
      memory.write request.data.toNat (c.trace 0 "ReadStatus").snapshot.1.toRecord = .ok memory' ∧
      memory.Stored memory' request.data.toNat (c.trace 0 "ReadStatus").snapshot.1.toRecord := by
  have htaken : c.control .readStatus request.data =
      (.ok (.status (c.trace 0 "ReadStatus").snapshot.1), (c.trace 0 "ReadStatus").snapshot.2) := by
    rw [control]
  generalize (c.trace 0 "ReadStatus").snapshot = taken at htaken ⊢
  obtain ⟨status, c'⟩ := taken
  obtain ⟨memory', hwritten, hstored⟩ := hreaches.write (Nat.le_of_eq status.size_toRecord)
  refine ⟨memory', ?_, hwritten, hstored⟩
  rw [writeRecord, hrecord]
  dsimp only
  rw [hcommand]
  dsimp only
  rw [htaken]
  dsimp only
  rw [hwritten]

end Card

/-- Statuses and byte strings of 314 words are the same thing in two forms. The record of a status has
that length and is read as the status. Of a longer string the front is read, and it is what the status
that was read is written as; a shorter one is refused. Where the memory of a caller reaches far enough,
the status that a transmit record asks for is stored there, and what is read from there is read as the
snapshot that was taken. -/
theorem CardStatus.status_record_codec {β : Type} [RegisterBus β] (s : CardStatus) (b : Bytes) (c : Card β)
    (patience : Patience) (record : Bytes) (memory : CallerMemory) :
    (s.toRecord.size = 1256 ∧ ofRecord s.toRecord = .ok s) ∧
      (1256 ≤ b.size → ∃ t, ofRecord b = .ok t ∧ t.toRecord = b.extract 0 1256) ∧
      (b.size < 1256 → ofRecord b = .error (.truncated 1256 b.size)) ∧
      Function.Bijective fixedRecord ∧
      ∀ request, TxRequest.decode record = .ok request →
        Command.ofCode? request.cmd.toNat = some .readStatus →
        memory.Reaches request.data.toNat 1256 →
        ∃ memory' stored, c.writeRecord patience record memory =
            (.returned (.ok 0), (c.trace 0 "ReadStatus").snapshot.2, memory') ∧
          memory.Stored memory' request.data.toNat (c.trace 0 "ReadStatus").snapshot.1.toRecord ∧
          memory'.read request.data.toNat 1256 = .ok stored ∧
          ofRecord stored = .ok (c.trace 0 "ReadStatus").snapshot.1 := by
  refine ⟨⟨s.size_toRecord, ofRecord_toRecord s⟩, toRecord_ofRecord, fun hshort => ?_, fixedRecord_bijective,
    fun request hrecord hcommand hreaches => ?_⟩
  · exact if_pos hshort
  · obtain ⟨memory', hdone, hwritten, hstored⟩ := c.writeRecord_stores patience hrecord hcommand hreaches
    refine ⟨memory', _, hdone, hstored, ?_, ofRecord_toRecord _⟩
    have hsize : (c.trace 0 "ReadStatus").snapshot.1.toRecord.size = 1256 := size_toRecord _
    rw [← hsize]
    exact CallerMemory.read_of_write hwritten

/-- A transmit record that asks for a status at address 0x1000. -/
def askRecord : Bytes := Bytes.ofWords [4#32, 1#32, 0x1000#32, 0#32, 0#32, 0#32]

/-- Memory with room for a status and more at that address. -/
def roomyMemory : CallerMemory := CallerMemory.empty.insert 0x1000 (Bytes.zeros 0x1000)

/-- A longer record is cut, a shorter one refused, and a status that was asked for is in the caller's memory
afterwards. -/
theorem CardStatus.status_record_codec_small :
    ((∃ t, ofRecord (Bytes.zeros 1300) = .ok t ∧ t.toRecord = (Bytes.zeros 1300).extract 0 1256) ∧
        ofRecord (Bytes.zeros 16) = .error (.truncated 1256 16)) ∧
      (TxRequest.decode askRecord = .ok ⟨.narrow, 1#32, 0x1000#64, 0#32, 0#32, 0#32⟩ ∧
        Command.ofCode? 1 = some .readStatus ∧ roomyMemory.Reaches 0x1000 1256) ∧
      ∃ memory' stored, Card.small.writeRecord .refuses askRecord roomyMemory =
          (.returned (.ok 0), (Card.small.trace 0 "ReadStatus").snapshot.2, memory') ∧
        roomyMemory.Stored memory' 0x1000 (Card.small.trace 0 "ReadStatus").snapshot.1.toRecord ∧
        memory'.read 0x1000 1256 = .ok stored ∧
        ofRecord stored = .ok (Card.small.trace 0 "ReadStatus").snapshot.1 := by
  have hrecord : TxRequest.decode askRecord = .ok ⟨.narrow, 1#32, 0x1000#64, 0#32, 0#32, 0#32⟩ := by decide
  have hreaches : roomyMemory.Reaches 0x1000 1256 :=
    ⟨0x1000, Bytes.zeros 0x1000, rfl, by rw [Bytes.size_zeros]; decide⟩
  have hshort : (Bytes.zeros 16).size < 1256 := by rw [Bytes.size_zeros]; decide
  obtain ⟨-, hlong, -, -, hstored⟩ := status_record_codec (Card.small.trace 0 "ReadStatus").snapshot.1
    (Bytes.zeros 1300) Card.small .refuses askRecord roomyMemory
  obtain ⟨-, -, htruncated, -⟩ := status_record_codec (Card.small.trace 0 "ReadStatus").snapshot.1
    (Bytes.zeros 16) Card.small .refuses askRecord roomyMemory
  exact ⟨⟨hlong (by rw [Bytes.size_zeros]; decide), htruncated hshort⟩, ⟨hrecord, rfl, hreaches⟩,
    hstored _ hrecord rfl hreaches⟩

end LaneCard
