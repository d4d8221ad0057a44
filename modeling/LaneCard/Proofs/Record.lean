import LaneCard.Proofs.Bytes
import LaneCard.Record.Receive

/-!
# Answered receive records

A receive record that was read can always be answered: the answer is as long as the record, and
reading it gives the request and everything that was reported.
-/

namespace LaneCard.RxRequest

/-- The flags of a reply survive being written as words. -/
theorem replyOfWords?_replyWords (c : RxReply) : replyOfWords? (replyWords c) = some c := by
  obtain ⟨lane, vc, size, ⟨eofe, fifoErr, lengthErr⟩⟩ := c
  cases eofe <;> cases fifoErr <;> cases lengthErr <;> rfl

/-- The first word of a record is the first of its words. -/
theorem wordAt_zero_of_words {record : Bytes} {tag : Word} {rest : List Word}
    (h : record.words = tag :: rest) : record.wordAt 0 = tag := by
  have hpos : 0 < record.size / 4 := by
    rw [← record.length_words, h, List.length_cons]
    exact Nat.succ_pos _
  have hfirst := record.getElem?_words hpos
  rw [h] at hfirst
  exact (Option.some.inj hfirst).symm

/-- A pointer made of one word is below 4 GiB. -/
theorem toNat_ofWord_lt (w : Word) : (Pointer.ofWord w).toNat < wordSpan := by
  have hw := w.isLt
  simp only [Pointer.ofWord, BitVec.toNat_setWidth, wordSpan]
  omega

/-- A pointer below 4 GiB survives being cut to a word. -/
theorem ofWord_setWidth (p : Pointer) (hp : p.toNat < wordSpan) : Pointer.ofWord (p.setWidth 32) = p := by
  apply BitVec.eq_of_toNat_eq
  simp only [wordSpan] at hp
  simp only [Pointer.ofWord, BitVec.toNat_setWidth]
  omega

/-- A pointer survives being cut in two words. -/
theorem ofWords_halves (p : Pointer) : Pointer.ofWords (p.setWidth 32) ((p >>> 32).setWidth 32) = p := by
  apply BitVec.eq_of_getLsbD_eq
  intro i hi
  simp only [Pointer.ofWords, BitVec.getLsbD_append, BitVec.getLsbD_setWidth, BitVec.getLsbD_ushiftRight]
  by_cases hlow : i < 32
  · simp [hlow]
  · have hhigh : 32 + (i - 32) = i := by omega
    have hfits : i - 32 < 32 := by omega
    simp [hlow, hhigh, hfits]

/-- The request in the words of a record: its layout, its tag, and a pointer that the layout holds. -/
theorem ofWords?_eq_some {model : Model} {words : List Word} {r : RxRequest} {c : RxReply}
    (h : ofWords? model words = some (r, c)) :
    r.model = model ∧ (∃ rest, words = r.tag :: rest) ∧ (model = .narrow → r.data.toNat < wordSpan) := by
  unfold ofWords? at h
  split at h
  · obtain ⟨_, -, hr⟩ := Option.map_eq_some_iff.mp h
    obtain ⟨rfl, -⟩ := Prod.mk.inj hr
    exact ⟨rfl, ⟨_, rfl⟩, fun _ => toNat_ofWord_lt _⟩
  · obtain ⟨_, -, hr⟩ := Option.map_eq_some_iff.mp h
    obtain ⟨rfl, -⟩ := Prod.mk.inj hr
    exact ⟨rfl, ⟨_, rfl⟩, fun hnarrow => by contradiction⟩
  · contradiction

/-- The words of an answer hold the request and the reply. -/
theorem ofWords?_words {r : RxRequest} (hdata : r.model = .narrow → r.data.toNat < wordSpan) (c : RxReply) :
    ∃ ws, r.words c = .ok ws ∧ 4 * ws.length = r.model.rxSize ∧ (∃ rest, ws = r.tag :: rest) ∧
      ofWords? r.model ws = some (r, c) := by
  obtain ⟨model, tag, maxSize, data⟩ := r
  cases model with
  | narrow =>
    have hfits : data.toNat < wordSpan := hdata rfl
    refine ⟨[tag, maxSize, data.setWidth 32] ++ replyWords c, ?_, rfl, ⟨_, rfl⟩, ?_⟩
    · simp only [words, if_pos hfits]
    · simp only [List.cons_append, List.nil_append, ofWords?, replyOfWords?_replyWords, Option.map_some,
        ofWord_setWidth data hfits]
  | wide =>
    refine ⟨[tag, maxSize] ++ data.words ++ replyWords c, rfl, rfl, ⟨_, rfl⟩, ?_⟩
    simp only [Pointer.words, List.cons_append, List.nil_append, ofWords?, replyOfWords?_replyWords,
      Option.map_some, ofWords_halves]

/-- What reading an answered record checks and finds. -/
theorem decodeReply_eq_ok_iff (record : Bytes) (r : RxRequest) (c : RxReply) :
    decodeReply record = .ok (r, c) ↔
      4 ≤ record.size ∧ record.size = (Model.ofTag (record.wordAt 0)).rxSize ∧
        ofWords? (Model.ofTag (record.wordAt 0)) record.words = some (r, c) := by
  unfold decodeReply Model.detect
  by_cases hshort : record.size < 4
  · have hno : ¬ 4 ≤ record.size := by omega
    simp only [hshort, if_true, hno, false_and, iff_false]
    exact nofun
  · have hyes : 4 ≤ record.size := by omega
    simp only [hshort, if_false, hyes, true_and, bind, Except.bind]
    split
    · rename_i hsize
      rw [and_iff_right hsize]
      split
      · rename_i answered hwords
        rw [hwords, Except.ok.injEq, Option.some.injEq]
      · rename_i hwords
        rw [hwords]
        simp
    · rename_i hsize
      simp [hsize]

/-- An answer to a request that its tag's layout holds is read as the request and the reply. -/
theorem decodeReply_encodeReply {r : RxRequest} (hmodel : r.model = Model.ofTag r.tag)
    (hdata : r.model = .narrow → r.data.toNat < wordSpan) (c : RxReply) :
    ∃ written, r.encodeReply c = .ok written ∧ decodeReply written = .ok (r, c) ∧
      written.wordAt 0 = r.tag := by
  obtain ⟨ws, hws, hlength, ⟨rest, hrest⟩, hback⟩ := ofWords?_words hdata c
  have htag : (Bytes.ofWords ws).wordAt 0 = r.tag :=
    wordAt_zero_of_words (by rw [Bytes.words_ofWords, hrest])
  refine ⟨Bytes.ofWords ws, by rw [encodeReply, hws]; rfl, ?_, htag⟩
  rw [decodeReply_eq_ok_iff, htag, ← hmodel, Bytes.size_ofWords, hlength, Bytes.words_ofWords]
  refine ⟨?_, rfl, hback⟩
  cases r.model <;> decide

/-- A record that was read can be answered in its own length, and its answer can be read. -/
theorem encodeReply_of_decode {record : Bytes} {r : RxRequest} (h : decode record = .ok r) (c : RxReply) :
    ∃ answer, r.encodeReply c = .ok answer ∧ answer.size = record.size ∧ decodeReply answer = .ok (r, c) := by
  obtain ⟨old, hold⟩ : ∃ old, decodeReply record = .ok (r, old) := by
    unfold decode at h
    cases hread : decodeReply record with
    | error e => rw [hread] at h; contradiction
    | ok answered =>
      rw [hread] at h
      obtain rfl : answered.1 = r := Except.ok.inj h
      exact ⟨answered.2, rfl⟩
  obtain ⟨-, hsize, hwords⟩ := (decodeReply_eq_ok_iff record r old).mp hold
  obtain ⟨hmodel, ⟨rest, hrest⟩, hdata⟩ := ofWords?_eq_some hwords
  have htag : record.wordAt 0 = r.tag := wordAt_zero_of_words hrest
  have hselected : r.model = Model.ofTag r.tag := by rw [hmodel, htag]
  obtain ⟨answer, hwritten, hread, hanswer⟩ :=
    decodeReply_encodeReply hselected (fun hr => hdata (hmodel ▸ hr)) c
  obtain ⟨-, hanswerSize, -⟩ := (decodeReply_eq_ok_iff answer r c).mp hread
  exact ⟨answer, hwritten, by rw [hanswerSize, hsize, hanswer, htag], hread⟩

end LaneCard.RxRequest
