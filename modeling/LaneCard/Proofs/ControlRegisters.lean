import LaneCard.Proofs.Moves
import LaneCard.Proofs.SameSession
import LaneCard.Proofs.TransmitRecord
import Mathlib.Data.List.Induction

/-!
# What control commands leave in the registers

Control commands work on three packed registers, which many bits share, and on registers of their own. Here
each command is an order: it switches one bit, stores one word, resets the counters, or takes the status. Each
code of a transmit record is one too. After any sequence of orders every bit is as the last one for it said, and
as it was at first if there was none. Everything that they do not name is untouched: the other bits, the buffers
and all queues.
-/

namespace LaneCard

/-! ## Orders -/

/-- A bit that commands switch on and off. -/
inductive Switch where
  | loopBack (lane : Fin 8)
  | rxReset (lane : Fin 8)
  | txReset (lane : Fin 8)
  | evrEnable
  | evrReset
  | evrPllReset
  deriving DecidableEq

/-- The register of a switch, and its bit in that register. -/
def Switch.place : Switch → Nat × Nat
  | loopBack lane => (0x080, lane.val)
  | rxReset lane => (0x080, 8 + lane.val)
  | txReset lane => (0x080, 16 + lane.val)
  | evrEnable => (0x044, 0)
  | evrReset => (0x044, 1)
  | evrPllReset => (0x044, 2)

/-- A register that commands store a word in. -/
inductive Setting where
  | opCode
  | evrMask
  | runCode (index : Fin 8)
  | acceptCode (index : Fin 8)
  | runDelay (index : Fin 8)
  | acceptDelay (index : Fin 8)
  deriving DecidableEq

/-- The register of a setting. -/
def Setting.place : Setting → Nat
  | opCode => 0x020
  | evrMask => 0x048
  | runCode index => 0x180 + 4 * index.val
  | acceptCode index => 0x1A0 + 4 * index.val
  | runDelay index => 0x1C0 + 4 * index.val
  | acceptDelay index => 0x1E0 + 4 * index.val

/-- What a command asks of the registers. -/
inductive Order where
  | switch (s : Switch) (on : Bool)
  | store (s : Setting) (value : Word)
  | resetCounters
  | takeStatus
  /-- Nothing is asked of the registers, or the command is refused. -/
  | nothing
  deriving DecidableEq

namespace Order

/-- Switch a bit of the lane that an argument names, by its low three bits. -/
def switchLane (s : Fin 8 → Switch) (arg : Word) (on : Bool) : Order :=
  switch (s ⟨arg.toNat % 8, Nat.mod_lt _ (by decide)⟩) on

/-- Store a word in one of eight registers. -/
def storeIndexed (s : Fin 8 → Setting) (index : UInt8) (value : Word) : Order :=
  if h : index.toNat < 8 then store (s ⟨index.toNat, h⟩) value else nothing

/-- What an order for the given switch makes of it. -/
def switches? (s : Switch) : Order → Option Bool
  | switch t on => if t = s then some on else none
  | _ => none

/-- What an order for the given setting stores. -/
def stores? (s : Setting) : Order → Option Word
  | store t value => if t = s then some value else none
  | _ => none

/-- What an order makes of a bit of a register. -/
def bit? (o : Order) (offset i : Nat) : Option Bool :=
  match o with
  | switch s on => if s.place = (offset, i) then some on else none
  | store s value => if s.place = offset then some (value.getLsbD i) else none
  | resetCounters => if offset = 0x010 ∧ i = 0 then some false else none
  | takeStatus => if offset = 0x00C then some ((0x55441122#32).getLsbD i) else none
  | nothing => none

end Order

/-- The order that a command with an argument gives. -/
def Command.order (command : Command) (arg : Word) : Order :=
  match command with
  | .normalWrite | .nop | .setDebug | .dumpDebug => .nothing
  | .readStatus => .takeStatus
  | .countReset => .resetCounters
  | .pgpOpCode => .store .opCode arg
  | .setLoop => .switchLane .loopBack arg true
  | .clrLoop => .switchLane .loopBack arg false
  | .setRxReset => .switchLane .rxReset arg true
  | .clrRxReset => .switchLane .rxReset arg false
  | .setTxReset => .switchLane .txReset arg true
  | .clrTxReset => .switchLane .txReset arg false
  | .evrEnable => .switch .evrEnable true
  | .evrDisable => .switch .evrEnable false
  | .evrSetReset => .switch .evrReset true
  | .evrClrReset => .switch .evrReset false
  | .evrSetPllRst => .switch .evrPllReset true
  | .evrClrPllRst => .switch .evrPllReset false
  | .evrMask => .store .evrMask arg
  | .evrRunCode index => .storeIndexed .runCode index arg
  | .evrAcceptCode index => .storeIndexed .acceptCode index arg
  | .evrRunDelay index => .storeIndexed .runDelay index arg
  | .evrAcceptDelay index => .storeIndexed .acceptDelay index arg

/-- The order that a command code of a transmit record gives. The codes of the indexed commands come in blocks of
eight; 0x20 and 0x21 are older codes for the first run code and the first accept code. -/
def Order.ofCode (code : Nat) (arg : Word) : Order :=
  match code with
  | 0x01 => takeStatus
  | 0x02 => resetCounters
  | 0x03 => store .opCode arg
  | 0x10 => switchLane .loopBack arg true
  | 0x11 => switchLane .loopBack arg false
  | 0x12 => switchLane .rxReset arg true
  | 0x13 => switchLane .rxReset arg false
  | 0x14 => switchLane .txReset arg true
  | 0x15 => switchLane .txReset arg false
  | 0x20 => store (.runCode 0) arg
  | 0x21 => store (.acceptCode 0) arg
  | 0x22 => switch .evrEnable true
  | 0x23 => switch .evrEnable false
  | 0x24 => switch .evrReset true
  | 0x25 => switch .evrReset false
  | 0x26 => switch .evrPllReset true
  | 0x27 => switch .evrPllReset false
  | 0x28 => store .evrMask arg
  | _ =>
    if 0x30 ≤ code ∧ code < 0x38 then store (.runCode (Fin.ofNat 8 code)) arg
    else if 0x38 ≤ code ∧ code < 0x40 then store (.acceptCode (Fin.ofNat 8 code)) arg
    else if 0x40 ≤ code ∧ code < 0x48 then store (.runDelay (Fin.ofNat 8 code)) arg
    else if 0x48 ≤ code ∧ code < 0x50 then store (.acceptDelay (Fin.ofNat 8 code)) arg
    else nothing

namespace TxRequest

/-- The order that a transmit record gives: the code is its second word, and the argument, of which the low half
counts, starts with the third. A record of another length than that of its layout gives none. -/
def orderOf (record : Bytes) : Order :=
  if record.size = sizeFor (record.wordAt 0) then .ofCode (record.wordAt 4).toNat (record.wordAt 8) else .nothing

/-- A record that asks for a frame has the length of its layout and the code zero. -/
def IsFrame (record : Bytes) : Prop := record.size = sizeFor (record.wordAt 0) ∧ record.wordAt 4 = 0#32

instance (record : Bytes) : Decidable (IsFrame record) :=
  inferInstanceAs (Decidable (record.size = sizeFor (record.wordAt 0) ∧ record.wordAt 4 = 0#32))

end TxRequest

namespace Move

/-- A command of the session, or a record that is not a frame. -/
def IsControl : Move → Prop
  | .control _ _ => True
  | .call _ _ (.write record) => ¬ TxRequest.IsFrame record
  | _ => False

/-- The order that a move gives. -/
def order : Move → Order
  | .control command arg => command.order (arg.setWidth 32)
  | .call _ _ (.write record) => TxRequest.orderOf record
  | _ => .nothing

end Move

/-! ## Orders of records -/

namespace Order

/-- Of a code in a block of eight, the low three bits are the index. -/
theorem storeIndexed_ofNat (s : Fin 8 → Setting) {code base : Nat} (hbase : 8 ∣ base)
    (hcode : base ≤ code ∧ code < base + 8) (arg : Word) :
    storeIndexed s (UInt8.ofNat (code - base)) arg = store (s (Fin.ofNat 8 code)) arg := by
  have hindex : (UInt8.ofNat (code - base)).toNat = code % 8 := by
    rw [UInt8.toNat_ofNat']
    omega
  have hlt : (UInt8.ofNat (code - base)).toNat < 8 := hindex ▸ Nat.mod_lt _ (by decide)
  have hsame : (⟨(UInt8.ofNat (code - base)).toNat, hlt⟩ : Fin 8) = Fin.ofNat 8 code := Fin.ext hindex
  rw [storeIndexed, dif_pos hlt, hsame]

/-- A code gives the order of the command that it stands for, and none if it stands for none. -/
theorem ofCode_eq (code : Nat) (arg : Word) :
    ofCode code arg = ((Command.ofCode? code).map (·.order arg)).getD .nothing := by
  unfold Command.ofCode?
  split
  case h_23 =>
    unfold ofCode
    split
    case h_19 =>
      -- Both tables go through the four blocks in the same order.
      split
      · exact (storeIndexed_ofNat _ (by decide) ‹_› arg).symm
      split
      · exact (storeIndexed_ofNat _ (by decide) ‹_› arg).symm
      split
      · exact (storeIndexed_ofNat _ (by decide) ‹_› arg).symm
      split
      · exact (storeIndexed_ofNat _ (by decide) ‹_› arg).symm
      · rfl
    all_goals contradiction
  all_goals rfl

end Order

namespace TxRequest

/-- A record that is not read gives no order. -/
theorem orderOf_of_error {record : Bytes} {e : RecordError} (h : decode record = .error e) :
    orderOf record = .nothing := by
  refine if_neg fun hsize => ?_
  rw [← txSize_ofTag] at hsize
  rw [(decode_eq_ok_iff record _).mpr ⟨hsize, rfl⟩] at h
  contradiction

/-- A record that is read gives the order of its code. -/
theorem orderOf_of_ok {record : Bytes} {request : TxRequest} (h : decode record = .ok request) :
    orderOf record = .ofCode request.cmd.toNat (request.data.setWidth 32) := by
  obtain ⟨hsize, rfl⟩ := (decode_eq_ok_iff record request).mp h
  rw [orderOf, if_pos (hsize.trans (txSize_ofTag _))]
  cases Model.ofTag (record.wordAt 0) with
  | narrow => rw [ofRecord, Pointer.setWidth_ofWord]
  | wide => rw [ofRecord, Pointer.setWidth_ofWords]

/-- Such a record asks for a frame if its code is zero. -/
theorem isFrame_of_ok {record : Bytes} {request : TxRequest} (h : decode record = .ok request)
    (hcmd : request.cmd = 0#32) : IsFrame record := by
  obtain ⟨hsize, rfl⟩ := (decode_eq_ok_iff record request).mp h
  refine ⟨hsize.trans (txSize_ofTag _), ?_⟩
  rw [← hcmd]
  cases Model.ofTag (record.wordAt 0) <;> rfl

end TxRequest

/-! ## One order -/

/-- Switches are bits of different places. -/
theorem Switch.place_inj {s t : Switch} (h : s.place = t.place) : s = t := by
  cases s <;> cases t <;> simp only [Switch.place, Prod.mk.injEq] at h <;> first | rfl | omega | skip
  all_goals
    congr 1
    omega

/-- Settings are different registers. -/
theorem Setting.place_inj {s t : Setting} (h : s.place = t.place) : s = t := by
  cases s <;> cases t <;> simp only [Setting.place] at h <;> first | rfl | omega | skip
  all_goals
    congr 1
    omega

/-- Settings are registers without switches, and neither are in the registers for resets and tests. -/
theorem Setting.place_ne (s : Setting) (t : Switch) :
    s.place ≠ t.place.1 ∧ s.place ≠ 0x010 ∧ s.place ≠ 0x00C ∧ t.place.1 ≠ 0x010 ∧ t.place.1 ≠ 0x00C := by
  cases s <;> cases t <;> simp only [Setting.place, Switch.place] <;> omega

namespace Order

/-- The bit of a switch is changed by the orders for this switch. -/
theorem bit?_switch (o : Order) (s : Switch) : o.bit? s.place.1 s.place.2 = o.switches? s := by
  cases o with
  | switch t on =>
    have hplace : t.place = (s.place.1, s.place.2) ↔ t = s := ⟨Switch.place_inj, fun h => by rw [h]⟩
    simp only [bit?, switches?, hplace]
  | store t value => exact if_neg (t.place_ne s).1
  | resetCounters => exact if_neg fun h => (Setting.opCode.place_ne s).2.2.2.1 h.1
  | takeStatus => exact if_neg (Setting.opCode.place_ne s).2.2.2.2
  | nothing => rfl

/-- The bits of a setting are changed by the orders for this setting. -/
theorem bit?_setting (o : Order) (s : Setting) (i : Nat) :
    o.bit? s.place i = (o.stores? s).map fun value => value.getLsbD i := by
  cases o with
  | switch t on => exact if_neg fun h => (s.place_ne t).1 (congrArg Prod.fst h).symm
  | store t value =>
    have hplace : t.place = s.place ↔ t = s := ⟨Setting.place_inj, fun h => by rw [h]⟩
    simp only [bit?, stores?, hplace]
    split <;> rfl
  | resetCounters => exact if_neg fun h => (s.place_ne .evrReset).2.1 h.1
  | takeStatus => exact if_neg (s.place_ne .evrReset).2.2.1
  | nothing => rfl

/-- The bit that resets the counters is changed by these orders only. -/
theorem bit?_counters (o : Order) : o.bit? 0x010 0 = if o = resetCounters then some false else none := by
  cases o with
  | switch t on => exact if_neg fun h => (Setting.opCode.place_ne t).2.2.2.1 (congrArg Prod.fst h)
  | store t value => exact if_neg (t.place_ne .evrReset).2.1
  | _ => rfl

/-- The scratch register is changed by taking the status only. -/
theorem bit?_scratch (o : Order) (i : Nat) :
    o.bit? 0x00C i = if o = takeStatus then some ((0x55441122#32).getLsbD i) else none := by
  cases o with
  | switch t on => exact if_neg fun h => (Setting.opCode.place_ne t).2.2.2.2 (congrArg Prod.fst h)
  | store t value => exact if_neg (t.place_ne .evrReset).2.2.1
  | _ => rfl

/-- All other bits are changed by no order. -/
theorem bit?_other (o : Order) {offset i : Nat} (hswitch : ∀ s : Switch, s.place ≠ (offset, i))
    (hsetting : ∀ s : Setting, s.place ≠ offset) (hcounters : (offset, i) ≠ (0x010, 0)) (hscratch : offset ≠ 0x00C) :
    o.bit? offset i = none := by
  cases o with
  | switch s on => exact if_neg (hswitch s)
  | store s value => exact if_neg (hsetting s)
  | resetCounters => exact if_neg fun h => hcounters (Prod.ext h.1 h.2)
  | takeStatus => exact if_neg hscratch
  | nothing => rfl

/-! ## The last word -/

/-- What the last of some orders says that says anything. -/
def lastly {α : Type} (f : Order → Option α) (orders : List Order) : Option α := (orders.filterMap f).getLast?

/-- One more order has the last word, if it says anything. -/
theorem lastly_concat {α : Type} (f : Order → Option α) (orders : List Order) (o : Order) :
    lastly f (orders ++ [o]) = (f o).or (lastly f orders) := by
  unfold lastly
  rw [List.filterMap_append]
  cases hf : f o with
  | none => rw [List.filterMap_cons_none hf, List.filterMap_nil, List.append_nil, Option.none_or]
  | some x => rw [List.filterMap_cons_some hf, List.filterMap_nil, List.getLast?_concat, Option.some_or]

/-- The last word on a part of something is the part of the last word. -/
theorem lastly_map {α γ : Type} (f : Order → Option α) (k : α → γ) (orders : List Order) :
    lastly (fun o => (f o).map k) orders = (lastly f orders).map k := by
  unfold lastly
  rw [← List.map_filterMap, List.getLast?_map]

/-- Something that one order alone settles is settled if the order is given. -/
theorem lastly_of_one {α : Type} (only : Order) (x : α) (orders : List Order) :
    lastly (fun o => if o = only then some x else none) orders = if only ∈ orders then some x else none := by
  induction orders using List.reverseRecOn with
  | nil => rfl
  | append_singleton orders o ih =>
    rw [lastly_concat, ih]
    by_cases ho : o = only
    · rw [if_pos ho, if_pos (List.mem_append_right _ (List.mem_singleton.mpr ho.symm)), Option.some_or]
    · have hmem : only ∈ orders ++ [o] ↔ only ∈ orders := by simp [Ne.symm ho]
      rw [if_neg ho, Option.none_or, if_congr hmem rfl rfl]

/-- There is no last word on what no order is about. -/
theorem lastly_none {α : Type} (orders : List Order) : lastly (fun _ => (none : Option α)) orders = none := by
  rw [lastly, List.filterMap_eq_nil_iff.mpr fun _ _ => rfl, List.getLast?_nil]

end Order

/-- A switch is one bit of a register below the free lists. -/
theorem Switch.place_lt (s : Switch) : s.place.1 < Offset.rxFree ∧ s.place.1 ≠ Offset.irq ∧ s.place.2 < 32 := by
  cases s <;> simp only [Switch.place, Offset.rxFree, Offset.irq] <;> omega

namespace Card

/-- What is stored in a register. -/
def register (c : Card Board) (offset : Nat) : Word := c.host.bus.regs.get offset

/-- `c'` is `c` with other registers, more register writes, more lines in the journal and another level of
detail. -/
structure Adjusted (c c' : Card Board) : Prop where
  device : c'.device = { c.device with debug := c'.device.debug }
  host : c'.host =
    { c.host with
      bus := { c.host.bus with regs := c'.host.bus.regs, writes := c'.host.bus.writes }
      journal := c'.host.journal }

/-- `c'` is `c` after an order was carried out. -/
structure Heeds (c : Card Board) (o : Order) (c' : Card Board) : Prop where
  adjusted : c.Adjusted c'
  bits : ∀ offset i, (c'.register offset).getLsbD i = (o.bit? offset i).getD ((c.register offset).getLsbD i)

variable {c c' c'' : Card Board}

/-- A card is adjusted to itself. -/
theorem Adjusted.refl (c : Card Board) : c.Adjusted c := ⟨rfl, rfl⟩

/-- Adjustments may follow each other. -/
theorem Adjusted.trans (h : c.Adjusted c') (h' : c'.Adjusted c'') : c.Adjusted c'' where
  device := by rw [h'.device, h.device]
  host := by rw [h'.host, h.host]

/-- A card with the same registers has followed no order. -/
theorem Heeds.nothing (h : c.Adjusted c') (hregs : c'.host.bus.regs = c.host.bus.regs) : c.Heeds .nothing c' :=
  ⟨h, fun offset i => by rw [register, hregs, Order.bit?, Option.getD_none, register]⟩

/-- Lines of the journal follow no order. -/
theorem Heeds.note {o : Order} (h : c.Heeds o c') (level : Level) (text : String) :
    c.Heeds o (c'.note level text) := ⟨h.adjusted.trans ⟨rfl, rfl⟩, h.bits⟩

/-- Neither do lines for debugging. -/
theorem Heeds.trace {o : Order} (h : c.Heeds o c') (threshold : Nat) (text : String) :
    c.Heeds o (c'.trace threshold text) :=
  c'.trace_induction (c.Heeds o) h h.note threshold text

/-- Writing a register below the free lists, other than the interrupt register, stores the word. -/
theorem write_eq (c : Card Board) {offset : Nat} (value : Word) (hoffset : offset < Offset.rxFree)
    (hirq : offset ≠ Offset.irq) :
    c.write offset value =
      { c with
        host :=
          { c.host with
            bus := { c.host.bus.logged offset value with regs := c.host.bus.regs.set offset value } } } := by
  have hstore := Board.store_of_isPlain_of_ne c.host value (Board.isPlain_of_lt hoffset) hirq
  rw [write, Host.write]
  change ({ c with host := Board.store c.host offset value } : Card Board) = _
  rw [hstore]

/-- Nothing else changes. -/
theorem adjusted_write (c : Card Board) {offset : Nat} (value : Word) (hoffset : offset < Offset.rxFree)
    (hirq : offset ≠ Offset.irq) : c.Adjusted (c.write offset value) := by
  rw [c.write_eq value hoffset hirq]
  exact ⟨rfl, rfl⟩

/-- Only that register changes. -/
theorem register_write (c : Card Board) {offset : Nat} (value : Word) (hoffset : offset < Offset.rxFree)
    (hirq : offset ≠ Offset.irq) (k : Nat) :
    (c.write offset value).register k = if k = offset then value else c.register k := by
  rw [c.write_eq value hoffset hirq]
  exact RegisterFile.get_set _ _ _ _

/-- Changing such a register writes what is made of the stored word. -/
theorem modify_eq_write (c : Card Board) {offset : Nat} (change : Word → Word) (hoffset : offset < Offset.rxFree)
    (hirq : offset ≠ Offset.irq) :
    ({ c with host := c.host.modify offset change } : Card Board) = c.write offset (change (c.register offset)) := by
  have hlook : c.host.look offset = c.register offset := c.host.bus.look_of_lt hoffset hirq
  have hfetch : RegisterBus.fetch c.host.bus offset = c.host.bus :=
    c.host.bus.fetch_of_isPlain (Board.isPlain_of_lt hoffset)
  rw [Host.modify, Host.read, hlook, hfetch]
  rfl

/-- Writing a register follows an order if the order is about this register alone and the word is as it says. -/
theorem heeds_write (c : Card Board) {offset : Nat} (value : Word) {o : Order} (hoffset : offset < Offset.rxFree)
    (hirq : offset ≠ Offset.irq) (hother : ∀ k i, k ≠ offset → o.bit? k i = none)
    (hbits : ∀ i, value.getLsbD i = (o.bit? offset i).getD ((c.register offset).getLsbD i)) :
    c.Heeds o (c.write offset value) := by
  refine ⟨c.adjusted_write value hoffset hirq, fun k i => ?_⟩
  rw [c.register_write value hoffset hirq]
  split
  · rename_i hk
    rw [hk]
    exact hbits i
  · rename_i hk
    rw [hother k i hk, Option.getD_none]

/-- Switches are switched by masks of one bit. -/
theorem heeds_switch (c : Card Board) {s : Switch} {offset bit : Nat} {mask : Word}
    (hplace : s.place = (offset, bit)) (hmask : ∀ i, mask.getLsbD i = decide (i = bit)) :
    c.Heeds (.switch s true) (c.setBits offset mask) ∧ c.Heeds (.switch s false) (c.clearBits offset mask) := by
  obtain ⟨hoffset, hirq, hword⟩ := s.place_lt
  rw [hplace] at hoffset hirq hword
  have hother (on : Bool) (k i : Nat) (hk : k ≠ offset) : (Order.switch s on).bit? k i = none := by
    rw [Order.bit?, hplace, if_neg]
    exact fun hsame => hk (Prod.mk.inj hsame).1.symm
  have hbit (on : Bool) (i : Nat) : (Order.switch s on).bit? offset i = if bit = i then some on else none := by
    simp only [Order.bit?, hplace, Prod.mk.injEq, true_and]
  constructor
  · rw [setBits, Host.setBits, c.modify_eq_write _ hoffset hirq]
    refine c.heeds_write _ hoffset hirq (hother true) fun i => ?_
    rw [hbit, BitVec.getLsbD_or, hmask]
    by_cases hi : i = bit
    · simp [hi]
    · simp [hi, Ne.symm hi]
  · rw [clearBits, Host.clearBits, c.modify_eq_write _ hoffset hirq]
    refine c.heeds_write _ hoffset hirq (hother false) fun i => ?_
    rw [hbit, BitVec.getLsbD_and, BitVec.getLsbD_not, hmask]
    by_cases hi : i = bit
    · simp [hi]
    · by_cases hin : i < 32
      · simp [hi, Ne.symm hi, hin]
      · simp [hi, Ne.symm hi, BitVec.getLsbD_of_ge _ i (Nat.le_of_not_lt hin)]

/-- Settings are stored as they are. -/
theorem heeds_store (c : Card Board) {s : Setting} {offset : Nat} (hplace : s.place = offset) (value : Word) :
    c.Heeds (.store s value) (c.write offset value) := by
  have hbounds : offset < Offset.rxFree ∧ offset ≠ Offset.irq := by
    subst hplace
    cases s <;> simp only [Setting.place, Offset.rxFree, Offset.irq] <;> omega
  refine c.heeds_write value hbounds.1 hbounds.2 (fun k i hk => ?_) fun i => ?_
  · rw [Order.bit?, hplace, if_neg (Ne.symm hk)]
  · rw [Order.bit?, hplace, if_pos rfl, Option.getD_some]

/-- One of eight settings is stored, if the index names one. -/
theorem heeds_storeIndexed {command : Command} {offset : Nat} {index : UInt8} {value : Word}
    (h : c.writeIndexed command offset index value = .ok c') (s : Fin 8 → Setting)
    (hplace : ∀ i, (s i).place = offset + 4 * i.val) : c.Heeds (.storeIndexed s index value) c' := by
  obtain ⟨hindex, rfl⟩ := of_writeIndexed_ok h
  rw [Order.storeIndexed, dif_pos hindex]
  exact c.heeds_store (hplace _) value

/-- The counters are reset by a pulse of one bit. -/
theorem heeds_resetCounters (c : Card Board) :
    c.Heeds .resetCounters
      ((c.setBits Offset.cardRstStat ResetWord.countReset.mask).clearBits Offset.cardRstStat
        ResetWord.countReset.mask) := by
  have hoffset : Offset.cardRstStat < Offset.rxFree := by decide
  have hirq : Offset.cardRstStat ≠ Offset.irq := by decide
  have hmask (i : Nat) : ResetWord.countReset.mask.getLsbD i = decide (i = 0) := by
    rw [Field.getLsbD_mask _ (by decide), decide_eq_decide]
    change 0 ≤ i ∧ i < 0 + 1 ↔ i = 0
    omega
  rw [clearBits, Host.clearBits, modify_eq_write _ _ hoffset hirq, setBits, Host.setBits,
    c.modify_eq_write _ hoffset hirq]
  refine ⟨(c.adjusted_write _ hoffset hirq).trans (adjusted_write _ _ hoffset hirq), fun k i => ?_⟩
  rw [register_write _ _ hoffset hirq, register_write _ _ hoffset hirq, register_write _ _ hoffset hirq, if_pos rfl]
  by_cases hk : k = Offset.cardRstStat
  · rw [if_pos hk, BitVec.getLsbD_and, BitVec.getLsbD_or, BitVec.getLsbD_not, hmask, hk]
    by_cases hi : i = 0
    · simp [Order.bit?, Offset.cardRstStat, hi]
    · by_cases hin : i < 32
      · simp [Order.bit?, hi, hin]
      · simp [Order.bit?, hi, BitVec.getLsbD_of_ge _ i (Nat.le_of_not_lt hin)]
  · rw [if_neg hk, if_neg hk, Order.bit?, if_neg fun hsame => hk hsame.1, Option.getD_none]

/-- Taking the status leaves the test value in the scratch register. -/
theorem heeds_snapshot (c : Card Board) : c.Heeds .takeStatus c.snapshot.2 := by
  refine c.heeds_write scratchValue (by decide) (by decide) (fun k i hk => if_neg hk) fun i => rfl

/-- A command that was performed has followed its order. -/
theorem heeds_perform {command : Command} {arg : Word} (h : c.perform command arg = .ok c') :
    c.Heeds (command.order arg) c' := by
  have hlane : arg.toNat % laneCount < 8 := Nat.mod_lt _ (by decide)
  have hlink (f : Field) (hwidth : f.width = 1) (hroom : f.offset + 8 ≤ 32) (s : Switch)
      (hplace : s.place = (Offset.pgpCardStat, f.offset + arg.toNat % laneCount)) :=
    c.heeds_switch hplace fun i => f.getLsbD_mask_shifted hwidth (arg.toNat % laneCount) i (by omega)
  have hevr (f : Field) (hwidth : f.width = 1) (hroom : f.offset < 32) (s : Switch)
      (hplace : s.place = (Offset.evrCardStat + 4, f.offset)) :=
    c.heeds_switch hplace fun i => f.getLsbD_mask_shifted hwidth 0 i hroom
  have hloop : (Offset.pgpCardStat, arg.toNat % laneCount) = (Offset.pgpCardStat, 0 + arg.toNat % laneCount) := by
    rw [Nat.zero_add]
  cases command <;> simp only [perform, Except.ok.injEq, reduceCtorEq] at h <;> try subst h
  case countReset => exact c.heeds_resetCounters
  case pgpOpCode | evrMask => exact c.heeds_store rfl arg
  case setLoop => exact (hlink LinkWord.loopBack rfl (by decide) (.loopBack ⟨_, hlane⟩) hloop).1
  case clrLoop => exact (hlink LinkWord.loopBack rfl (by decide) (.loopBack ⟨_, hlane⟩) hloop).2
  case setRxReset => exact (hlink LinkWord.rxReset rfl (by decide) _ rfl).1
  case clrRxReset => exact (hlink LinkWord.rxReset rfl (by decide) _ rfl).2
  case setTxReset => exact (hlink LinkWord.txReset rfl (by decide) _ rfl).1
  case clrTxReset => exact (hlink LinkWord.txReset rfl (by decide) _ rfl).2
  case evrEnable => exact (hevr EvrWord.enable rfl (by decide) _ rfl).1
  case evrDisable => exact (hevr EvrWord.enable rfl (by decide) _ rfl).2
  case evrSetReset => exact (hevr EvrWord.reset rfl (by decide) _ rfl).1
  case evrClrReset => exact (hevr EvrWord.reset rfl (by decide) _ rfl).2
  case evrSetPllRst => exact (hevr EvrWord.pllRst rfl (by decide) _ rfl).1
  case evrClrPllRst => exact (hevr EvrWord.pllRst rfl (by decide) _ rfl).2
  case evrRunCode | evrAcceptCode | evrRunDelay | evrAcceptDelay => exact heeds_storeIndexed h _ fun _ => rfl
  case nop => exact (Heeds.nothing (.refl c) rfl).note _ _
  case setDebug => exact .nothing ⟨rfl, rfl⟩ rfl
  case dumpDebug =>
    exact dumpDiagnostics_induction (c.Heeds .nothing) (fun _ _ _ hw => hw.note _ _) c (.nothing (.refl c) rfl)

/-- A command that is refused gives no order. -/
theorem order_of_refused {command : Command} {arg : Word} {e : CardError} (hstatus : command ≠ .readStatus)
    (h : c.perform command arg = .error e) : command.order arg = .nothing := by
  have hindexed (s : Fin 8 → Setting) {offset : Nat} {index : UInt8}
      (h : c.writeIndexed command offset index arg = .error e) : Order.storeIndexed s index arg = .nothing := by
    unfold writeIndexed at h
    split at h
    · contradiction
    · rename_i hindex
      rw [Order.storeIndexed, dif_neg hindex]
  cases command with
  | normalWrite => rfl
  | readStatus => contradiction
  | evrRunCode => exact hindexed _ h
  | evrAcceptCode => exact hindexed _ h
  | evrRunDelay => exact hindexed _ h
  | evrAcceptDelay => exact hindexed _ h
  | _ => contradiction

/-- Control follows the order of the command, whether it is carried out or refused. -/
theorem heeds_control (c : Card Board) (command : Command) (arg : Pointer) :
    c.Heeds (command.order (arg.setWidth 32)) (c.control command arg).2 := by
  unfold control
  split
  · have htraced : c.Heeds .nothing (c.trace 0 "ReadStatus") := (Heeds.nothing (.refl c) rfl).trace _ _
    have htaken := (c.trace 0 "ReadStatus").heeds_snapshot
    refine ⟨htraced.adjusted.trans htaken.adjusted, fun offset i => ?_⟩
    rw [htaken.bits, htraced.bits]
    rfl
  · rename_i hstatus
    dsimp only
    split
    · rename_i hrefused
      rw [order_of_refused (fun h => hstatus h) hrefused]
      exact .nothing (.refl c) rfl
    · rename_i hdone
      exact (heeds_perform hdone).trace _ _

/-- So does a record that is not a frame. -/
theorem heeds_writeRecord (c : Card Board) (patience : Patience) {record : Bytes} (memory : CallerMemory)
    (hrecord : ¬ TxRequest.IsFrame record) :
    c.Heeds (TxRequest.orderOf record) (c.writeRecord patience record memory).2.1 := by
  rcases hresult : c.writeRecord patience record memory with ⟨reply, after, memory'⟩
  cases writing hresult with
  | unread _ _ hdecode =>
    rw [TxRequest.orderOf_of_error hdecode]
    exact (Heeds.nothing (.refl c) rfl).note _ _
  | unknown request _ hdecode hcommand =>
    rw [TxRequest.orderOf_of_ok hdecode, Order.ofCode_eq, hcommand]
    exact (Heeds.nothing (.refl c) rfl).note _ _
  | frame request hdecode hcommand =>
    have hcmd : request.cmd = 0#32 := BitVec.eq_of_toNat_eq (Command.eq_zero_of_normalWrite hcommand)
    exact (hrecord (TxRequest.isFrame_of_ok hdecode hcmd)).elim
  | command request command _ hdecode hcommand =>
    rw [TxRequest.orderOf_of_ok hdecode, Order.ofCode_eq, hcommand]
    exact c.heeds_control command request.data
  | unstored request command _ _ hdecode hcommand =>
    rw [TxRequest.orderOf_of_ok hdecode, Order.ofCode_eq, hcommand]
    exact (c.heeds_control command request.data).note _ _

/-- Moves that are control follow their orders. -/
theorem heeds_play (c : Card Board) {m : Move} (hm : m.IsControl) : c.Heeds m.order (c.play m).2 := by
  cases m with
  | control command arg => exact c.heeds_control command arg
  | call patience memory call =>
    cases call with
    | write record => exact c.heeds_writeRecord patience memory hm
    | _ => exact hm.elim
  | _ => exact hm.elim

/-! ## All orders -/

/-- After a run of orders every bit of every register is as the last order for it said, and nothing but registers
has changed. -/
theorem bits_of_run {start : Card Board} {past : List Happening}
    (hrun : Run (fun _ _ m => m.IsControl) start past c) :
    start.Adjusted c ∧ ∀ offset i, (c.register offset).getLsbD i =
      (Order.lastly (·.bit? offset i) (past.map fun h => h.move.order)).getD ((start.register offset).getLsbD i) := by
  refine hrun.invariant
    (fun past c => start.Adjusted c ∧ ∀ offset i, (c.register offset).getLsbD i =
      (Order.lastly (·.bit? offset i) (past.map fun h => h.move.order)).getD ((start.register offset).getLsbD i))
    ⟨.refl start, fun offset i => rfl⟩ fun past c m hpast hm => ?_
  obtain ⟨hadjusted, hbits⟩ := hpast
  have hstep := c.heeds_play hm
  refine ⟨hadjusted.trans hstep.adjusted, fun offset i => ?_⟩
  rw [hstep.bits, hbits, List.map_append, List.map_singleton, Order.lastly_concat]
  cases m.order.bit? offset i with
  | none => rw [Option.none_or, Option.getD_none]
  | some on => rfl

/-- What control has made of a card that was `start` before: `c` after the given orders. -/
structure Obeyed (start : Card Board) (orders : List Order) (c : Card Board) : Prop where
  /-- A bit is as the last command for it switched it. -/
  switched : ∀ s : Switch, (c.register s.place.1).getLsbD s.place.2 =
    (Order.lastly (Order.switches? s) orders).getD ((start.register s.place.1).getLsbD s.place.2)
  /-- A register holds the last word that was sent to it. -/
  stored : ∀ s : Setting, c.register s.place = (Order.lastly (Order.stores? s) orders).getD (start.register s.place)
  /-- The bit that resets the counters is left clear, and the one beside it, which holds the card in reset, is
  left as it was. -/
  counters : (c.register 0x010).getLsbD 0 =
    if Order.resetCounters ∈ orders then false else (start.register 0x010).getLsbD 0
  reset : (c.register 0x010).getLsbD 1 = (start.register 0x010).getLsbD 1
  /-- Taking the status writes the scratch register. -/
  scratch : c.register 0x00C = if Order.takeStatus ∈ orders then 0x55441122#32 else start.register 0x00C
  /-- No other bit of a register changes. -/
  others : ∀ offset i, (∀ s : Switch, s.place ≠ (offset, i)) → (∀ s : Setting, s.place ≠ offset) →
    (offset, i) ≠ (0x010, 0) → offset ≠ 0x00C → (c.register offset).getLsbD i = (start.register offset).getLsbD i
  /-- Neither do the rings, the queues of the card, the buffers and what is known of them. -/
  adjusted : start.Adjusted c

/-- Control bits follow the last command: whatever the registers hold at first, after any sequence of control
commands, given as such or as records, every register is as the last command for it left it. In a record each
command has its code, and no code stands for another command, but that two old codes are read as the first run
code and the first accept code. -/
theorem registers_obey (start : Card Board) {past : List Happening} {c : Card Board}
    (hrun : Run (fun _ _ m => m.IsControl) start past c) :
    Obeyed start (past.map fun h => h.move.order) c ∧
      (∀ command : Command, command.InRange → Command.ofCode? command.code = some command) ∧
      (∀ (code : Nat) (command : Command), Command.ofCode? code = some command →
        command.InRange ∧ (code = command.code ∨ code = 0x20 ∧ command = .evrRunCode 0 ∨
          code = 0x21 ∧ command = .evrAcceptCode 0)) ∧
      ∀ arg, (Command.ofCode? 0x20).map (·.order arg) = some (.store (.runCode 0) arg) ∧
        (Command.ofCode? 0x21).map (·.order arg) = some (.store (.acceptCode 0) arg) := by
  obtain ⟨hadjusted, hbits⟩ := bits_of_run hrun
  generalize past.map (fun h => h.move.order) = orders at hbits
  have hothers (offset i : Nat) (hswitch : ∀ s : Switch, s.place ≠ (offset, i))
      (hsetting : ∀ s : Setting, s.place ≠ offset) (hcounters : (offset, i) ≠ (0x010, 0))
      (hscratch : offset ≠ 0x00C) : (c.register offset).getLsbD i = (start.register offset).getLsbD i := by
    have hnone := fun o : Order => o.bit?_other hswitch hsetting hcounters hscratch
    rw [hbits, funext hnone, Order.lastly_none, Option.getD_none]
  refine ⟨?_, fun _ => Command.ofCode?_code, fun _ _ => Command.of_ofCode?, fun arg => ⟨rfl, rfl⟩⟩
  constructor
  case switched =>
    intro s
    rw [hbits, funext fun o : Order => o.bit?_switch s]
  case stored =>
    intro s
    apply BitVec.eq_of_getLsbD_eq
    intro i _
    rw [hbits, funext fun o : Order => o.bit?_setting s i, Order.lastly_map]
    cases Order.lastly (Order.stores? s) orders with
    | none => rfl
    | some value => rfl
  case counters =>
    rw [hbits, funext Order.bit?_counters, Order.lastly_of_one]
    split <;> rfl
  case reset =>
    refine hothers 0x010 1 (fun s h => ?_) (fun s => (s.place_ne .evrReset).2.1) (by decide) (by decide)
    exact (Setting.opCode.place_ne s).2.2.2.1 (congrArg Prod.fst h)
  case scratch =>
    apply BitVec.eq_of_getLsbD_eq
    intro i _
    rw [hbits, funext fun o : Order => o.bit?_scratch i, Order.lastly_of_one]
    split <;> rfl
  case others => exact hothers
  case adjusted => exact hadjusted

/-- The small card with the bit set that resets the receiver of lane 2. -/
def smallReset : Card Board :=
  { small with host := { small.host with bus := small.host.bus.poke 0x080 0x400#32 } }

/-- A lane is looped by a record with the code 0x10 in the wide layout, and no longer by a command for the same lane
mod 8. A record with an old code stores the first run code. A reset that was there before stays. -/
theorem registers_obey_small :
    ∃ (past : List Happening) (c : Card Board), Run (fun _ _ m => m.IsControl) smallReset past c ∧
      (past.map fun h => h.move.order) =
        [.switch (.loopBack 3) true, .switch (.loopBack 3) false, .switch (.txReset 7) true,
          .store (.runCode 0) 0x2A#32] ∧
      c.register 0x180 = 0x2A#32 ∧ (c.register 0x080).getLsbD 3 = false ∧ (c.register 0x080).getLsbD 10 = true ∧
      (c.register 0x080).getLsbD 23 = true := by
  obtain ⟨wide, hwide⟩ : ∃ r, r = Bytes.ofWords [8#32, 0x10#32, 3#32, 1#32, 0#32, 0#32, 0#32, 0#32] := ⟨_, rfl⟩
  obtain ⟨narrow, hnarrow⟩ : ∃ r, r = Bytes.ofWords [4#32, 0x20#32, 0x2A#32, 0#32, 0#32, 0#32] := ⟨_, rfl⟩
  have hwideOrder : ¬ TxRequest.IsFrame wide ∧ TxRequest.orderOf wide = .switch (.loopBack 3) true := by
    rw [hwide]
    decide +kernel
  have hnarrowOrder : ¬ TxRequest.IsFrame narrow ∧ TxRequest.orderOf narrow = .store (.runCode 0) 0x2A#32 := by
    rw [hnarrow]
    decide +kernel
  have hrun : Run (fun _ _ m => m.IsControl) smallReset _ _ :=
    (((Run.nil.snoc (.call .refuses .empty (.write wide)) hwideOrder.1).snoc (.control .clrLoop 0x10000000B#64)
      trivial).snoc (.control .setTxReset 7#64) trivial).snoc (.call .refuses .empty (.write narrow)) hnarrowOrder.1
  have hobeyed : Obeyed smallReset [TxRequest.orderOf wide, .switch (.loopBack 3) false, .switch (.txReset 7) true,
      TxRequest.orderOf narrow] _ := (registers_obey smallReset hrun).1
  rw [hwideOrder.2, hnarrowOrder.2] at hobeyed
  exact ⟨_, _, hrun, by rw [← hwideOrder.2, ← hnarrowOrder.2]; rfl, hobeyed.stored (.runCode 0),
    hobeyed.switched (.loopBack 3), hobeyed.switched (.rxReset 2), hobeyed.switched (.txReset 7)⟩

end Card

end LaneCard
