import LaneCard.Proofs.Agreement
import LaneCard.Proofs.Robustness
import LaneCard.Proofs.StatusRecord
import LaneCard.Proofs.Steps

/-!
# Refused transmit records

Whether a transmit record is refused, and why, is decided before anything is done: by its length, its
command, the length of the frame, the buffers that are free, and at last by the memory that it points
to. A card that has refused a record is as it was before, but for two things that it says itself: a call
that was cancelled has used the signal up, and a status that could not be stored has been taken.
-/

namespace LaneCard

namespace CallerMemory

instance (m : CallerMemory) (addr length : Nat) : Decidable (m.Reaches addr length) :=
  match h : m.below? addr with
  | none => isFalse fun ⟨_, _, hfound, _⟩ => nomatch h.symm.trans hfound
  | some (start, bytes) =>
    if hfits : addr - start + length ≤ bytes.size then isTrue ⟨start, bytes, h, hfits⟩
    else isFalse fun ⟨_, _, hfound, hfits'⟩ => by
      obtain ⟨rfl, rfl⟩ := Prod.mk.inj (Option.some.inj (h.symm.trans hfound))
      exact hfits hfits'

/-- An access that leaves its stretch is a fault. -/
theorem locate_of_not_reaches {m : CallerMemory} {addr length : Nat} (h : ¬ m.Reaches addr length) :
    m.locate addr length = .error (.fault addr) := by
  unfold locate
  split
  · rename_i start bytes hfound
    exact if_neg fun hfits => h ⟨start, bytes, hfound, hfits⟩
  · rfl

/-- Reading faults there. -/
theorem read_of_not_reaches {m : CallerMemory} {addr length : Nat} (h : ¬ m.Reaches addr length) :
    m.read addr length = .error (.fault addr) := by
  rw [CallerMemory.read, locate_of_not_reaches h]
  rfl

/-- So does writing. -/
theorem write_of_not_reaches {m : CallerMemory} {addr : Nat} {data : Bytes} (h : ¬ m.Reaches addr data.size) :
    m.write addr data = .error (.fault addr) := by
  rw [CallerMemory.write, locate_of_not_reaches h]
  rfl

/-- What a stretch reaches can be read. -/
theorem Reaches.read {m : CallerMemory} {addr length : Nat} (h : m.Reaches addr length) :
    ∃ data, m.read addr length = .ok data := by
  obtain ⟨start, bytes, hfound, hfits⟩ := h
  exact ⟨_, by rw [CallerMemory.read, locate_of_le hfound hfits]; rfl⟩

end CallerMemory

namespace Card

variable {c : Card Board}

/-! ## Commands that are carried out -/

/-- A command that names a register that there is, and asks neither for a frame nor for a status, is
carried out. -/
theorem perform_ok (c : Card Board) {command : Command} (hframe : command ≠ .normalWrite)
    (hstatus : command ≠ .readStatus) (hrange : command.InRange) (arg : Word) :
    ∃ c', c.perform command arg = .ok c' := by
  have hindexed (offset : Nat) (i : UInt8) (hi : command.index? = some i) :
      ∃ c', c.writeIndexed command offset i arg = .ok c' := ⟨_, if_pos (hrange i hi)⟩
  cases command with
  | normalWrite => contradiction
  | readStatus => contradiction
  | evrRunCode i => exact hindexed Offset.runCode i rfl
  | evrAcceptCode i => exact hindexed Offset.acceptCode i rfl
  | evrRunDelay i => exact hindexed Offset.runDelay i rfl
  | evrAcceptDelay i => exact hindexed Offset.acceptDelay i rfl
  | _ => exact ⟨_, rfl⟩

/-- Such a command is done. -/
theorem control_done (c : Card Board) {command : Command} (hframe : command ≠ .normalWrite)
    (hstatus : command ≠ .readStatus) (hrange : command.InRange) (arg : Pointer) :
    ∃ c', c.control command arg = (.ok .done, c') := by
  obtain ⟨c', hperformed⟩ := c.perform_ok hframe hstatus hrange (arg.setWidth 32)
  unfold control
  split
  · contradiction
  · dsimp only
    rw [hperformed]
    exact ⟨_, rfl⟩

/-! ## Frames that are taken up -/

/-- What becomes of a frame of so many bytes before the caller's memory is looked at: it has to fit a
buffer, and a buffer has to be free. -/
def admission (c : Card Board) (patience : Patience) (bytes : Nat) : Reply Unit :=
  if c.device.txPool.bufferSize < bytes then .returned (.error (.oversize bytes c.device.txPool.bufferSize))
  else c.waitAnswer patience c.device.txFree

/-- A frame that is not taken up fails for that reason, and leaves the card. -/
theorem submit_of_admission_error {patience : Patience} (lane vc : Word) {size : Word}
    (source : Nat → Except CardError Bytes) {e : CardError}
    (h : c.admission patience (size.toNat * wordSize) = .returned (.error e)) :
    ∃ journal, c.submit patience lane vc size source =
      (.returned (.error e), c.waited journal (decide (e = .restart))) := by
  unfold admission at h
  unfold submit
  dsimp only
  split at h
  · rename_i hlong
    rw [if_pos hlong]
    obtain rfl := Except.error.inj (Reply.returned.inj h)
    obtain ⟨journal, hnote⟩ := c.note_eq_waited .warn
      s!"Write: passed size is too large for TX buffer ({size.toNat * wordSize} > {c.device.txPool.bufferSize})"
    rw [hnote]
    exact ⟨journal, rfl⟩
  · rename_i hfits
    obtain ⟨journal, hwait⟩ := c.waitFor_eq patience c.device.txFree
    have hcancelled : (Reply.returned (.error e) : Reply Unit).isCancelled = decide (e = .restart) := by
      cases e <;> rfl
    rw [if_neg hfits, hwait, h]
    exact ⟨journal, Prod.ext rfl (by rw [hcancelled])⟩

/-- A frame that has to wait has not failed. -/
theorem submit_of_admission_asleep {patience : Patience} (lane vc : Word) {size : Word}
    (source : Nat → Except CardError Bytes) (h : c.admission patience (size.toNat * wordSize) = .asleep) :
    (c.submit patience lane vc size source).1 = .asleep := by
  unfold admission at h
  unfold submit
  dsimp only
  split at h
  · contradiction
  · rename_i hfits
    obtain ⟨journal, hwait⟩ := c.waitFor_eq patience c.device.txFree
    rw [if_neg hfits, hwait, h]

/-- A frame is taken up if it fits and a buffer is free. -/
theorem admission_eq_ok_iff {patience : Patience} {bytes : Nat} :
    c.admission patience bytes = .returned (.ok ()) ↔
      bytes ≤ c.device.txPool.bufferSize ∧ c.poll.writable = true := by
  unfold admission waitAnswer poll
  by_cases hlong : c.device.txPool.bufferSize < bytes
  · have hlarge : ¬ bytes ≤ c.device.txPool.bufferSize := by omega
    simp [hlong, hlarge]
  · have hfits : bytes ≤ c.device.txPool.bufferSize := by omega
    cases hempty : c.device.txFree.isEmpty with
    | false => simp [if_neg hlong, hfits]
    | true =>
      simp only [if_neg hlong, Bool.not_true, Bool.false_eq_true, if_false, and_false, iff_false]
      repeat' split
      all_goals exact nofun

/-- A frame that was taken up and could not be read leaves the card. -/
theorem submit_of_unreadable (hnumbered : c.device.Numbered) {patience : Patience} (lane vc : Word) {size : Word}
    {source : Nat → Except CardError Bytes}
    (h : c.admission patience (size.toNat * wordSize) = .returned (.ok ())) {e : CardError}
    (hsource : source (size.toNat * wordSize) = .error e) :
    ∃ journal, c.submit patience lane vc size source = (.returned (.error e), c.waited journal false) := by
  obtain ⟨hfits, hwritable⟩ := admission_eq_ok_iff.mp h
  have hfree : c.device.txFree.isEmpty = false := by simpa [poll] using hwritable
  obtain ⟨i, b, hi, hb⟩ := c.device.txPool.exists_head (c.device.txFree.isEmpty_eq_false_iff.mp hfree)
    (by simpa using hnumbered.txFree)
  have hanswer : c.waitAnswer patience c.device.txFree = .returned (.ok ()) := by
    rw [waitAnswer, hfree]
    rfl
  obtain ⟨journal, hwait⟩ := c.waitFor_eq patience c.device.txFree
  have hhead : ((c.waited journal false).device.txFree.peek?.bind fun i =>
      ((c.waited journal false).device.txPool.buffers[i]?).map (i, ·)) = some (i, b) := by
    simp [waited, hi, hb]
  unfold submit
  dsimp only
  rw [hwait, hanswer, if_neg (by omega)]
  dsimp only [Reply.isCancelled]
  rw [hhead, hsource]
  exact ⟨journal, rfl⟩

/-! ## Records -/

/-- Why a request is refused, if it is. -/
def objection? (c : Card Board) (patience : Patience) (request : TxRequest) (memory : CallerMemory) :
    Option CardError :=
  match Command.ofCode? request.cmd.toNat with
  | none => some (.unknownCommand request.cmd.toNat)
  | some .normalWrite =>
    match c.admission patience (request.size.toNat * wordSize) with
    | .asleep => none
    | .returned (.error e) => some e
    | .returned (.ok ()) =>
      if memory.Reaches request.data.toNat (request.size.toNat * wordSize) then none
      else some (.fault request.data.toNat)
  | some .readStatus =>
    if memory.Reaches request.data.toNat CardStatus.recordSize then none
    else some (.fault request.data.toNat)
  | some _ => none

/-- Why a transmit record is refused, if it is: for its length, or as a request. -/
def refusal? (c : Card Board) (patience : Patience) (record : Bytes) (memory : CallerMemory) :
    Option CardError :=
  let model := Model.ofTag (record.wordAt 0)
  if record.size < 4 then some (.recordSize 4 record.size)
  else if record.size ≠ model.txSize then some (.recordSize model.txSize record.size)
  else c.objection? patience (TxRequest.ofRecord model record) memory

/-- Whether a request was for a status that was taken and could not be stored. -/
def losesStatus (request : TxRequest) (e : CardError) : Bool :=
  Command.ofCode? request.cmd.toNat = some .readStatus ∧ e = .fault request.data.toNat

/-- The card after it has refused a request: a cancellation has used the signal up, and if a status was
lost, the test value is in the scratch register. -/
def refused (c : Card Board) (request : TxRequest) (e : CardError) (journal : Journal) : Card Board :=
  { host :=
      { c.host with
        bus :=
          if losesStatus request e then
            { c.host.bus with
              regs := c.host.bus.regs.set Offset.scratch scratchValue
              writes := c.host.bus.writes.push (Offset.scratch, scratchValue) }
          else c.host.bus
        journal := journal }
    device := { c.device with signal := c.device.signal && !decide (e = .restart) } }

/-- Unless a status was lost, the card is as it is after a wait. -/
theorem refused_eq_waited {request : TxRequest} {e : CardError} (h : losesStatus request e = false)
    (journal : Journal) : c.refused request e journal = c.waited journal (decide (e = .restart)) := by
  simp [refused, waited, h]

/-- Only a fault loses a status. -/
theorem losesStatus_eq_false_of_ne {request : TxRequest} {e : CardError} (he : ∀ addr, e ≠ .fault addr) :
    losesStatus request e = false := by
  simp [losesStatus, he]

/-- Only a request for a status loses one. -/
theorem losesStatus_eq_false {request : TxRequest}
    (hrequest : Command.ofCode? request.cmd.toNat ≠ some .readStatus) (e : CardError) :
    losesStatus request e = false := by
  simp [losesStatus, hrequest]

/-- A record that cannot be read is refused. -/
theorem writeRecord_of_unread (c : Card Board) (patience : Patience) {record : Bytes} {e : RecordError}
    (hrecord : TxRequest.decode record = .error e) (memory : CallerMemory) :
    ∃ journal, c.writeRecord patience record memory =
      (.returned (.error (.ofRecord e)), c.waited journal false, memory) := by
  obtain ⟨journal, hnote⟩ := c.note_eq_waited .warn ("Write: " ++ e.message)
  rw [writeRecord, hrecord]
  dsimp only
  rw [hnote]
  exact ⟨journal, rfl⟩

/-- So is one whose command is not known. -/
theorem writeRecord_of_unknown (c : Card Board) (patience : Patience) {record : Bytes} {request : TxRequest}
    (hrecord : TxRequest.decode record = .ok request) (hcommand : Command.ofCode? request.cmd.toNat = none)
    (memory : CallerMemory) :
    ∃ journal, c.writeRecord patience record memory =
      (.returned (.error (.unknownCommand request.cmd.toNat)), c.waited journal false, memory) := by
  obtain ⟨journal, hnote⟩ := c.note_eq_waited .warn
    ("Write: unknown command " ++ Text.hexMarked request.cmd.toNat)
  rw [writeRecord, hrecord]
  dsimp only
  rw [hcommand]
  dsimp only
  rw [hnote]
  exact ⟨journal, rfl⟩

/-- A status is taken, and stored if the memory reaches far enough. -/
theorem writeRecord_of_status (c : Card Board) (patience : Patience) {record : Bytes} {request : TxRequest}
    (hrecord : TxRequest.decode record = .ok request)
    (hcommand : Command.ofCode? request.cmd.toNat = some .readStatus) (memory : CallerMemory) :
    if memory.Reaches request.data.toNat CardStatus.recordSize then
      (c.writeRecord patience record memory).1 = .returned (.ok 0)
    else
      ∃ journal, c.writeRecord patience record memory =
        (.returned (.error (.fault request.data.toNat)),
          { host :=
              { c.host with
                bus :=
                  { c.host.bus with
                    regs := c.host.bus.regs.set Offset.scratch scratchValue
                    writes := c.host.bus.writes.push (Offset.scratch, scratchValue) }
                journal := journal }
            device := c.device }, memory) := by
  split
  · rename_i hreaches
    obtain ⟨memory', hdone, -⟩ := c.writeRecord_stores patience hrecord hcommand hreaches
    rw [hdone]
  · rename_i hreaches
    obtain ⟨traced, htrace⟩ := c.trace_eq_waited 0 "ReadStatus"
    have htaken : (c.control .readStatus request.data) =
        (.ok (.status ((c.waited traced false).snapshot).1), ((c.waited traced false).snapshot).2) := by
      rw [control, htrace]
    have hstored : ((c.waited traced false).snapshot).2.host =
        Board.store (c.waited traced false).host Offset.scratch scratchValue := rfl
    rw [Board.store_of_isPlain_of_ne _ _ (by decide) (by decide)] at hstored
    rw [← CardStatus.size_toRecord ((c.waited traced false).snapshot).1] at hreaches
    obtain ⟨journal, hnote⟩ := ((c.waited traced false).snapshot).2.note_eq_waited .warn
      "Read Status: failed to copy to caller"
    rw [writeRecord, hrecord]
    dsimp only
    rw [hcommand]
    dsimp only
    rw [htaken]
    dsimp only
    rw [CallerMemory.write_of_not_reaches hreaches]
    dsimp only
    rw [hnote, waited, hstored]
    refine ⟨journal, ?_⟩
    simp [waited, snapshot, Card.write, Board.logged]

/-- Every other command is carried out. -/
theorem writeRecord_of_command (c : Card Board) (patience : Patience) {record : Bytes} {request : TxRequest}
    (hrecord : TxRequest.decode record = .ok request) {command : Command}
    (hcommand : Command.ofCode? request.cmd.toNat = some command) (hframe : command ≠ .normalWrite)
    (hstatus : command ≠ .readStatus) (memory : CallerMemory) :
    (c.writeRecord patience record memory).1 = .returned (.ok 0) := by
  obtain ⟨c', hdone⟩ := c.control_done hframe hstatus (Command.of_ofCode? hcommand).1 request.data
  rw [writeRecord, hrecord]
  dsimp only
  rw [hcommand]
  split
  · contradiction
  · rename_i hsome
    exact absurd (Option.some.inj hsome) hframe
  · rename_i hsome
    obtain rfl := Option.some.inj hsome
    rw [hdone]

/-- A frame is sent, or it is refused for the first reason that there is. -/
theorem Backed.writeRecord_of_frame (hc : c.Backed) (hnumbered : c.device.Numbered) (patience : Patience)
    {record : Bytes} {request : TxRequest} (hrecord : TxRequest.decode record = .ok request)
    (hcommand : Command.ofCode? request.cmd.toNat = some .normalWrite) (memory : CallerMemory) :
    match c.objection? patience request memory with
    | some e =>
      ∃ journal, c.writeRecord patience record memory =
        (.returned (.error e), c.waited journal (decide (e = .restart)), memory)
    | none => ∀ e, (c.writeRecord patience record memory).1 ≠ .returned (.error e) := by
  rw [c.writeRecord_of_frame patience hrecord hcommand memory, objection?, hcommand]
  dsimp only
  cases hadmission : c.admission patience (request.size.toNat * wordSize) with
  | asleep =>
    rw [submit_of_admission_asleep _ _ _ hadmission]
    exact fun _ => nofun
  | returned result =>
    cases result with
    | error e =>
      obtain ⟨journal, hsubmit⟩ := submit_of_admission_error request.lane request.vc
        (memory.read request.data.toNat) hadmission
      exact ⟨journal, by rw [hsubmit]⟩
    | ok admitted =>
      dsimp only
      by_cases hreaches : memory.Reaches request.data.toNat (request.size.toNat * wordSize)
      · obtain ⟨data, hdata⟩ := hreaches.read
        obtain ⟨hfits, hwritable⟩ := admission_eq_ok_iff.mp hadmission
        have hsized (bytes : Bytes)
            (hbytes : memory.read request.data.toNat (request.size.toNat * wordSize) = .ok bytes) :
            bytes.size = request.size.toNat * wordSize := CallerMemory.size_read hbytes
        rw [if_pos hreaches, hc.submit_eq hnumbered hwritable patience _ _ hfits hsized, hdata]
        exact fun _ => nofun
      · obtain ⟨journal, hsubmit⟩ := submit_of_unreadable hnumbered request.lane request.vc hadmission
          (CallerMemory.read_of_not_reaches hreaches)
        rw [if_neg hreaches]
        exact ⟨journal, by rw [hsubmit]; rfl⟩

/-- A request is refused for the first reason that there is, and leaves the card and the memory. -/
theorem Backed.writeRecord_objection (hc : c.Backed) (hnumbered : c.device.Numbered) (patience : Patience)
    {record : Bytes} {request : TxRequest} (hrecord : TxRequest.decode record = .ok request)
    (memory : CallerMemory) :
    match c.objection? patience request memory with
    | some e =>
      ∃ journal, c.writeRecord patience record memory =
        (.returned (.error e), c.refused request e journal, memory)
    | none => ∀ e, (c.writeRecord patience record memory).1 ≠ .returned (.error e) := by
  cases hcommand : Command.ofCode? request.cmd.toNat with
  | none =>
    obtain ⟨journal, hrefused⟩ := c.writeRecord_of_unknown patience hrecord hcommand memory
    rw [objection?, hcommand]
    have hkept : losesStatus request (.unknownCommand request.cmd.toNat) = false :=
      losesStatus_eq_false_of_ne fun _ => nofun
    exact ⟨journal, by rw [hrefused, refused_eq_waited hkept]; rfl⟩
  | some command =>
    by_cases hframe : command = .normalWrite
    · subst hframe
      have hsent := hc.writeRecord_of_frame hnumbered patience hrecord hcommand memory
      have hkept : Command.ofCode? request.cmd.toNat ≠ some .readStatus := by rw [hcommand]; nofun
      cases hobjection : c.objection? patience request memory with
      | none =>
        rw [hobjection] at hsent
        exact hsent
      | some e =>
        rw [hobjection] at hsent
        obtain ⟨journal, hrefused⟩ := hsent
        exact ⟨journal, by rw [hrefused, refused_eq_waited (losesStatus_eq_false hkept e)]⟩
    by_cases hstatus : command = .readStatus
    · subst hstatus
      have htaken := c.writeRecord_of_status patience hrecord hcommand memory
      rw [objection?, hcommand]
      dsimp only
      split at htaken
      · rename_i hreaches
        rw [if_pos hreaches, htaken]
        exact fun _ => nofun
      · rename_i hreaches
        obtain ⟨journal, hlost⟩ := htaken
        rw [if_neg hreaches]
        refine ⟨journal, ?_⟩
        rw [hlost]
        simp [refused, losesStatus, hcommand]
    · have hdone := c.writeRecord_of_command patience hrecord hcommand hframe hstatus memory
      have hnone : c.objection? patience request memory = none := by
        rw [objection?, hcommand]
        cases command <;> first | rfl | contradiction
      rw [hnone, hdone]
      exact fun _ => nofun

/-- A record is refused for its length, or as a request. -/
theorem Backed.writeRecord_refusal (hc : c.Backed) (hnumbered : c.device.Numbered) (patience : Patience)
    (record : Bytes) (memory : CallerMemory) :
    match c.refusal? patience record memory with
    | some e =>
      ∃ journal, c.writeRecord patience record memory =
        (.returned (.error e), c.refused (.ofRecord (Model.ofTag (record.wordAt 0)) record) e journal, memory)
    | none => ∀ e, (c.writeRecord patience record memory).1 ≠ .returned (.error e) := by
  have hread := TxRequest.decode_eq record
  -- A record of the wrong length is refused before it is read.
  have hunread {e : RecordError} (hrecord : TxRequest.decode record = .error e) {expected actual : Nat}
      (he : CardError.ofRecord e = .recordSize expected actual) :
      ∃ journal, c.writeRecord patience record memory =
        (.returned (.error (.recordSize expected actual)),
          c.refused (.ofRecord (Model.ofTag (record.wordAt 0)) record) (.recordSize expected actual) journal,
          memory) := by
    obtain ⟨journal, hrefused⟩ := c.writeRecord_of_unread patience hrecord memory
    have hkept : losesStatus (.ofRecord (Model.ofTag (record.wordAt 0)) record)
        (.recordSize expected actual) = false := losesStatus_eq_false_of_ne fun _ => nofun
    exact ⟨journal, by rw [hrefused, he, refused_eq_waited hkept]; rfl⟩
  unfold refusal?
  dsimp only
  by_cases hshort : record.size < 4
  · rw [if_pos hshort]
    rw [if_pos hshort] at hread
    exact hunread hread rfl
  rw [if_neg hshort]
  rw [if_neg hshort] at hread
  by_cases hless : record.size < (Model.ofTag (record.wordAt 0)).txSize
  · rw [if_pos (Nat.ne_of_lt hless)]
    rw [if_pos hless] at hread
    exact hunread hread rfl
  rw [if_neg hless] at hread
  by_cases hmore : (Model.ofTag (record.wordAt 0)).txSize < record.size
  · rw [if_pos (Nat.ne_of_gt hmore)]
    rw [if_pos hmore] at hread
    exact hunread hread rfl
  · have hsize : record.size = (Model.ofTag (record.wordAt 0)).txSize := by omega
    rw [if_neg (not_not.mpr hsize)]
    rw [if_neg hmore] at hread
    exact hc.writeRecord_objection hnumbered patience hread memory

/-- Only a pending cancellation stops a frame from waiting. -/
theorem signal_of_admission {patience : Patience} {bytes : Nat}
    (h : c.admission patience bytes = .returned (.error .restart)) : c.device.signal = true := by
  unfold admission waitAnswer at h
  repeat' split at h
  all_goals first | assumption | cases h

/-- Only a pending cancellation is answered by asking for the call to be made again. -/
theorem signal_of_objection {patience : Patience} {request : TxRequest} {memory : CallerMemory}
    (h : c.objection? patience request memory = some .restart) : c.device.signal = true := by
  unfold objection? at h
  split at h
  · cases h
  · split at h
    · cases h
    · rename_i hadmission
      obtain rfl := Option.some.inj h
      exact signal_of_admission hadmission
    · split at h <;> cases h
  · split at h <;> cases h
  · cases h

/-- The length of a record is no such reason. -/
theorem signal_of_refusal {patience : Patience} {record : Bytes} {memory : CallerMemory}
    (h : c.refusal? patience record memory = some .restart) : c.device.signal = true := by
  unfold refusal? at h
  dsimp only at h
  split at h
  · cases h
  · split at h
    · cases h
    · exact signal_of_objection h

end Card

/-- Whatever has happened to a card since it was attached, a transmit record is refused for the first
reason that there is, and for no other. What it leaves is the card and the memory as they were, but for
the journal, a cancellation that was pending and is used up, and a status that was lost. -/
theorem Device.refusal_leaves {h h' : Host Board} {name : String} {address : PciAddress} {baseHdwr baseLen : Nat}
    {config : Config} {d : Device} (hattach : attach h name address baseHdwr baseLen config = (.ok d, h'))
    (deeds : List Deed) (patience : Patience) (record : Bytes) (memory : CallerMemory) :
    match (Card.undergoAll ⟨h', d⟩ deeds).refusal? patience record memory with
    | some e =>
      (∃ journal, (Card.undergoAll ⟨h', d⟩ deeds).writeRecord patience record memory =
        (.returned (.error e),
          (Card.undergoAll ⟨h', d⟩ deeds).refused (.ofRecord (Model.ofTag (record.wordAt 0)) record) e journal,
          memory)) ∧
      (e = .restart → (Card.undergoAll ⟨h', d⟩ deeds).device.signal = true)
    | none =>
      ∀ e, ((Card.undergoAll ⟨h', d⟩ deeds).writeRecord patience record memory).1 ≠ .returned (.error e) := by
  obtain ⟨hbacked, hnumbered, -⟩ := attach_backed hattach
  have hkept := hbacked.kept_undergoAll deeds
  have hwritten := (hkept.backed hbacked).writeRecord_refusal (hkept.device.numbered hnumbered) patience record
    memory
  split
  · rename_i e hrefusal
    rw [hrefusal] at hwritten
    exact ⟨hwritten, fun he => Card.signal_of_refusal (he ▸ hrefusal)⟩
  · rename_i hrefusal
    rw [hrefusal] at hwritten
    exact hwritten

/-- A status that cannot be stored anywhere has been taken: the test value is in the scratch register. -/
theorem Device.refusal_leaves_small :
    ∃ (c : Card Board) (record : Bytes) (journal : Journal),
      c = Card.small.undergoAll [.move (.openSession false)] ∧
      record = Bytes.ofWords [4#32, 1#32, 0x1000#32, 0#32, 0#32, 0#32] ∧
      c.refusal? .sleeps record .empty = some (.fault 0x1000) ∧
      c.writeRecord .sleeps record .empty =
        (.returned (.error (.fault 0x1000)), c.refused (.ofRecord .narrow record) (.fault 0x1000) journal,
          .empty) ∧
      (c.writeRecord .sleeps record .empty).2.1.host.bus.regs.get Offset.scratch = Card.scratchValue := by
  obtain ⟨c, hc⟩ : ∃ c, c = Card.small.undergoAll [.move (.openSession false)] := ⟨_, rfl⟩
  obtain ⟨record, hrecord⟩ : ∃ r, r = Bytes.ofWords [4#32, 1#32, 0x1000#32, 0#32, 0#32, 0#32] := ⟨_, rfl⟩
  have hrefusal : c.refusal? .sleeps record .empty = some (.fault 0x1000) := by
    rw [hc, hrecord]
    decide +kernel
  have htag : Model.ofTag (record.wordAt 0) = .narrow := by
    rw [hrecord]
    decide +kernel
  have hscratch : (c.writeRecord .sleeps record .empty).2.1.host.bus.regs.get Offset.scratch =
      Card.scratchValue := by
    rw [hc, hrecord]
    decide +kernel
  have hall := refusal_leaves attachSmall_eq [.move (.openSession false)] .sleeps record .empty
  rw [← hc, hrefusal, htag] at hall
  obtain ⟨⟨journal, hleft⟩, -⟩ := hall
  exact ⟨c, record, journal, hc, hrecord, hrefusal, hleft, hscratch⟩

end LaneCard
