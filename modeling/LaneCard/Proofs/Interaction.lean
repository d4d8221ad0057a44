import LaneCard.Card.Attach
import LaneCard.Proofs.Backing
import LaneCard.Proofs.Calls

/-!
# Register writes, one by one

What a driver does to its host, as the register writes that it makes on the way: a `Moment` is a write
with the host as it is just before, so that more can be said of a write than what is left of it in the
end. Every write that the card has noted is one of the moments, and no other.

A write is in order if the address in it, if there is one, is that of a buffer of the right pool whose
whole region is live just then; and if it sends, the descriptor has been written just before, and the
buffer holds what the caller wanted to be sent.
-/

namespace LaneCard

/-- A register write, and the host just before it. -/
structure Moment where
  host : Host Board
  offset : Nat
  value : Word

/-- What a driver does to its host, with the register writes that it makes, in order. -/
inductive Host.Interaction : Host Board → List Moment → Host Board → Prop
  /-- No register is written, and no memory changes. -/
  | still {h h' : Host Board} (hwrites : h'.bus.writes = h.bus.writes) (hmemory : h'.memory = h.memory)
      (hapart : h'.apart = h.apart) : Interaction h [] h'
  | write (h : Host Board) (offset : Nat) (value : Word) :
      Interaction h [⟨h, offset, value⟩] (h.write offset value)
  | fill {h : Host Board} {b : Buffer} {data : Bytes} {memory : Allocator}
      (hfill : b.fill h.buffers data = .ok memory) : Interaction h [] (h.setBuffers memory)
  | allocate (h : Host Board) (direction : Direction) (count size : Nat) :
      Interaction h [] (h.allocatePool direction count size).2
  | release (h : Host Board) (p : BufferPool) : Interaction h [] (h.releasePool p)
  | trans {h h' h'' : Host Board} {ms ms' : List Moment} (hfirst : Interaction h ms h')
      (hrest : Interaction h' ms' h'') : Interaction h (ms ++ ms') h''

/-- The writes that the card has noted meanwhile are the moments. -/
theorem Host.Interaction.writes_eq {h h' : Host Board} {ms : List Moment} (hdone : h.Interaction ms h') :
    h'.bus.writes.toList = h.bus.writes.toList ++ ms.map fun m => (m.offset, m.value) := by
  have hset (k : Host Board) (a : Allocator) : (k.setBuffers a).bus = k.bus := by
    unfold Host.setBuffers
    split <;> rfl
  induction hdone with
  | still hwrites => rw [hwrites, List.map_nil, List.append_nil]
  | write h offset value =>
    rw [h.writes_write, Array.toList_push]
    rfl
  | fill => rw [hset, List.map_nil, List.append_nil]
  | allocate h direction count size =>
    have hbus : (h.allocatePool direction count size).2.bus = h.bus := hset _ _
    rw [hbus, List.map_nil, List.append_nil]
  | release h p =>
    have hbus : (h.releasePool p).bus = h.bus := hset _ _
    rw [hbus, List.map_nil, List.append_nil]
  | trans _ _ ih ih' => rw [ih', ih, List.map_append, List.append_assoc]

/-- An address is that of a buffer of a pool, and the whole region of the buffer is live. -/
structure BufferPool.Owns (p : BufferPool) (a : Allocator) (addr : Word) (b : Buffer) : Prop where
  mem : b ∈ p.buffers.toList
  named : b.addr = addr
  reached : addr.toNat = b.region.bus
  roomy : p.bufferSize ≤ b.region.size
  live : b.region ∈ a.regions

/-- A pool that is backed owns its buffers. -/
theorem BufferPool.Backed.owns {p : BufferPool} {a : Allocator} {b : Buffer} (h : p.Backed a)
    (hb : b ∈ p.buffers.toList) : p.Owns a b.addr b :=
  ⟨hb, rfl, h.reached b hb, h.roomy b hb, h.live b hb⟩

/-- A buffer that is owned by one pool is owned by one that is alike, apart from the frame in it. -/
theorem BufferPool.Owns.alike {p q : BufferPool} {a : Allocator} {addr : Word} {b : Buffer} (h : q.Owns a addr b)
    (hpq : p.Alike q) : ∃ b', p.Owns a addr b' ∧ b'.region = b.region := by
  obtain ⟨b', hb', hregion, haddr, -⟩ := hpq.exists_mem h.mem
  refine ⟨b', ⟨hb', haddr.trans h.named, ?_, ?_, ?_⟩, hregion⟩
  · rw [hregion]
    exact h.reached
  · rw [hregion, ← hpq.bufferSize]
    exact h.roomy
  · rw [hregion]
    exact h.live

/-- A register write is in order: an address that is given to the card is that of a receive buffer of
the device, and an address that is sent is that of a transmit buffer; the write before was that of the
descriptor, for the same lane and of no more than the buffer has room for, and the buffer holds the
payload. -/
structure Moment.Proper (m : Moment) (d : Device) (payload : Option Bytes) : Prop where
  gives : ∀ lane, indexIn m.offset Offset.rxFree laneCount = some lane →
    ∃ b, d.rxPool.Owns m.host.buffers m.value b
  sends : ∀ lane, indexIn m.offset Offset.txWrB laneCount = some lane →
    ∃ b word, d.txPool.Owns m.host.buffers m.value b ∧
      m.host.bus.writes.back? = some (Offset.txWrA + 4 * lane, word) ∧
      (TxDescriptor.decode word).length.toNat * wordSize ≤ d.txPool.bufferSize ∧
      payload = some ((m.host.buffers.contents b.region).read 0 ((TxDescriptor.decode word).length.toNat * wordSize))

/-! ## The driver's side -/

/-- The driver's side goes on with the same buffers, and each number that is new to one of its rings is
that of a buffer. -/
structure Device.Continues (d d' : Device) : Prop where
  txPool : d.txPool.Alike d'.txPool
  rxPool : d.rxPool.Alike d'.rxPool
  txFree : ∀ i ∈ d'.txFree.toList, i ∈ d.txFree.toList ∨ i < d.txPool.size
  rxReady : ∀ i ∈ d'.rxReady.toList, i ∈ d.rxReady.toList ∨ i < d.rxPool.size

namespace Device.Continues

variable {d d' d'' : Device}

/-- With the same pools and rings the driver's side goes on, whatever else has changed. -/
theorem of_eq (htx : d'.txPool = d.txPool) (hrx : d'.rxPool = d.rxPool) (hfree : d'.txFree = d.txFree)
    (hready : d'.rxReady = d.rxReady) : d.Continues d' :=
  ⟨htx ▸ .refl _, hrx ▸ .refl _, hfree ▸ fun _ => .inl, hready ▸ fun _ => .inl⟩

/-- Without work the driver's side goes on as it is. -/
theorem refl (d : Device) : d.Continues d := of_eq rfl rfl rfl rfl

/-- What goes on after it has gone on has gone on throughout. -/
theorem trans (h : d.Continues d') (h' : d'.Continues d'') : d.Continues d'' where
  txPool := h.txPool.trans h'.txPool
  rxPool := h.rxPool.trans h'.rxPool
  txFree i hi := by
    rcases h'.txFree i hi with hold | hnew
    · exact h.txFree i hold
    · exact .inr (h.txPool.size ▸ hnew)
  rxReady i hi := by
    rcases h'.rxReady i hi with hold | hnew
    · exact h.rxReady i hold
    · exact .inr (h.rxPool.size ▸ hnew)

end Device.Continues

/-- A write that is in order for the driver's side as it is later was so from the start. -/
theorem Moment.Proper.of_continues {m : Moment} {d d' : Device} {payload : Option Bytes}
    (h : m.Proper d' payload) (hd : d.Continues d') : m.Proper d payload where
  gives lane hlane := by
    obtain ⟨b, hb⟩ := h.gives lane hlane
    obtain ⟨b', hb', -⟩ := hb.alike hd.rxPool
    exact ⟨b', hb'⟩
  sends lane hlane := by
    obtain ⟨b, word, hb, hlast, hlength, hpayload⟩ := h.sends lane hlane
    obtain ⟨b', hb', hregion⟩ := hb.alike hd.txPool
    exact ⟨b', word, hb', hlast, hd.txPool.bufferSize ▸ hlength, hregion ▸ hpayload⟩

/-- A host was worked on by register writes, all that the card has noted meanwhile, and they are in order
for the driver's side, if a payload was to be sent. -/
def Host.Proceeds (h : Host Board) (d : Device) (payload : Option Bytes) (h' : Host Board) : Prop :=
  ∃ ms, h.Interaction ms h' ∧ h'.bus.writes.toList = h.bus.writes.toList ++ ms.map (fun m => (m.offset, m.value)) ∧
    ∀ m ∈ ms, m.Proper d payload

namespace Host.Proceeds

variable {h h' h'' : Host Board} {d d' : Device} {payload : Option Bytes}

/-- Without a register write there is none that is not in order. -/
theorem of_interaction (hdone : h.Interaction [] h') : h.Proceeds d payload h' :=
  ⟨[], hdone, hdone.writes_eq, nofun⟩

/-- Without work no register is written. -/
theorem refl (h : Host Board) : h.Proceeds d payload h := of_interaction (.still rfl rfl rfl)

/-- Writes that are in order may follow each other. -/
theorem trans (hfirst : h.Proceeds d payload h') (hrest : h'.Proceeds d payload h'') :
    h.Proceeds d payload h'' := by
  obtain ⟨ms, hms, -, hproper⟩ := hfirst
  obtain ⟨ms', hms', -, hproper'⟩ := hrest
  have hdone := hms.trans hms'
  refine ⟨ms ++ ms', hdone, hdone.writes_eq, fun m hm => ?_⟩
  rcases List.mem_append.mp hm with hm | hm
  · exact hproper m hm
  · exact hproper' m hm

/-- What is in order for the driver's side as it is later was so from the start. -/
theorem of_continues (hdone : h.Proceeds d' payload h') (hd : d.Continues d') : h.Proceeds d payload h' := by
  obtain ⟨ms, hms, hnoted, hproper⟩ := hdone
  exact ⟨ms, hms, hnoted, fun m hm => (hproper m hm).of_continues hd⟩

/-- A single register write is in order. -/
theorem of_write {offset : Nat} {value : Word} (hproper : Moment.Proper ⟨h, offset, value⟩ d payload) :
    h.Proceeds d payload (h.write offset value) := by
  have hdone := Interaction.write h offset value
  refine ⟨_, hdone, hdone.writes_eq, fun m hm => ?_⟩
  obtain rfl := List.mem_singleton.mp hm
  exact hproper

/-- A write that gives the card no address is in order. -/
theorem write (h : Host Board) {offset : Nat} (value : Word) (hoffset : Board.TakesNoAddress offset) :
    h.Proceeds d payload (h.write offset value) :=
  of_write
    { gives := fun _ hlane => nomatch hoffset.1.symm.trans hlane
      sends := fun _ hlane => nomatch hoffset.2.symm.trans hlane }

/-- Reading a register writes none. -/
theorem read (h : Host Board) (offset : Nat) : h.Proceeds d payload (h.read offset).2 := by
  have hfetch : (h.bus.fetch offset).writes = h.bus.writes := by
    unfold Board.fetch
    split
    · rfl
    · split <;> rfl
  exact of_interaction (.still hfetch rfl rfl)

/-- Changing a register that takes no address makes a write in order. -/
theorem modify (h : Host Board) {offset : Nat} (change : Word → Word) (hoffset : Board.TakesNoAddress offset) :
    h.Proceeds d payload (h.modify offset change) :=
  (read h offset).trans (write _ _ hoffset)

end Host.Proceeds

namespace Card

/-! ## The card at work -/

/-- Both pools of a card are backed, and descriptors can hold the length of every frame that fits. -/
structure Backed (c : Card Board) : Prop where
  tx : c.device.txPool.Backed c.host.buffers
  rx : c.device.rxPool.Backed c.host.buffers
  describable : c.device.txPool.bufferSize / wordSize ≤ TxWord.length.maxValue.toNat

/-- After some work the driver's side has gone on with its buffers, and no region was taken away. -/
structure Kept (c c' : Card Board) : Prop where
  device : c.device.Continues c'.device
  regions : c'.host.buffers.regions = c.host.buffers.regions

/-- The pools stay backed. -/
theorem Kept.backed {c c' : Card Board} (h : c.Kept c') (hc : c.Backed) : c'.Backed where
  tx := (hc.tx.alike h.device.txPool).mono (h.regions ▸ List.Subset.refl _)
  rx := (hc.rx.alike h.device.rxPool).mono (h.regions ▸ List.Subset.refl _)
  describable := h.device.txPool.bufferSize ▸ hc.describable

/-- Some work was done by register writes that are in order, if a payload was to be sent. -/
structure Works (c : Card Board) (payload : Option Bytes) (c' : Card Board) : Prop extends c.Kept c' where
  writes : c.host.Proceeds c.device payload c'.host

namespace Works

variable {c c' c'' : Card Board} {payload : Option Bytes}

/-- No register was written, and no memory changed. -/
theorem still (hdevice : c.device.Continues c'.device) (hwrites : c'.host.bus.writes = c.host.bus.writes)
    (hmemory : c'.host.memory = c.host.memory) (hapart : c'.host.apart = c.host.apart) :
    c.Works payload c' where
  device := hdevice
  regions := by rw [Host.buffers, Host.buffers, hmemory, hapart]
  writes := .of_interaction (.still hwrites hmemory hapart)

/-- Only the driver's side changed, and not in its buffers. -/
theorem aside {d : Device} (hd : c.device.Continues d) : c.Works payload { c with device := d } :=
  still hd rfl rfl rfl

/-- A card works on without doing anything. -/
theorem refl (c : Card Board) : c.Works payload c := still (.refl _) rfl rfl rfl

/-- Work may follow on work. -/
theorem trans (h : c.Works payload c') (h' : c'.Works payload c'') : c.Works payload c'' where
  device := h.device.trans h'.device
  regions := h'.regions.trans h.regions
  writes := h.writes.trans (h'.writes.of_continues h.device)

/-- A line in the journal is no work. -/
theorem note (h : c.Works payload c') (level : Level) (text : String) : c.Works payload (c'.note level text) :=
  h.trans (still (.refl _) rfl rfl rfl)

/-- Nor is a line for debugging. -/
theorem trace (h : c.Works payload c') (threshold : Nat) (text : String) :
    c.Works payload (c'.trace threshold text) :=
  c'.trace_induction (c.Works payload) h h.note threshold text

end Works

/-- Work that moves nothing makes no register write. -/
theorem Unmoved.works {c c' : Card Board} {payload : Option Bytes} (h : c.Unmoved c') : c.Works payload c' := by
  refine .still ?_ ?_ ?_ ?_
  · rw [h.device]
    exact .of_eq rfl rfl rfl rfl
  all_goals rw [h.host]

/-- Pools stay backed while nothing moves. -/
theorem Unmoved.backed {c c' : Card Board} (h : c.Unmoved c') (hc : c.Backed) : c'.Backed := by
  have hworks : c.Works none c' := h.works
  exact hworks.toKept.backed hc

/-- Reading a register is work without a write. -/
theorem works_read (c : Card Board) {payload : Option Bytes} (offset : Nat) :
    c.Works payload (c.read offset).2 :=
  ⟨⟨.refl _, rfl⟩, .read c.host offset⟩

/-- A write that gives the card no address is in order. -/
theorem works_write (c : Card Board) {payload : Option Bytes} {offset : Nat} (value : Word)
    (hoffset : Board.TakesNoAddress offset) : c.Works payload (c.write offset value) :=
  ⟨⟨.refl _, c.host.regions_write offset value⟩, .write c.host value hoffset⟩

/-- A receive buffer of the pool may be given to the card, on any lane. -/
theorem Backed.works_giveFree {c : Card Board} (hc : c.Backed) {payload : Option Bytes} {b : Buffer}
    (hb : b ∈ c.device.rxPool.buffers.toList) (lane : Nat) : c.Works payload (c.giveFree lane b.addr) := by
  refine ⟨⟨.refl _, c.host.regions_write _ _⟩, .of_write ⟨fun _ _ => ⟨b, hc.rx.owns hb⟩, fun k hk => ?_⟩⟩
  rw [Board.indexIn_rxFree_txWrB _ (Nat.mod_lt _ (by decide))] at hk
  contradiction

/-- A transmit buffer of the pool may be sent, once a descriptor says that it holds the payload. -/
theorem Backed.works_txWrB {c : Card Board} (hc : c.Backed) {b : Buffer} {data : Bytes} {lane : Nat} {word : Word}
    (hb : b ∈ c.device.txPool.buffers.toList) (hlane : lane < laneCount)
    (hlast : c.host.bus.writes.back? = some (Offset.txWrA + 4 * lane, word))
    (hlength : (TxDescriptor.decode word).length.toNat * wordSize ≤ c.device.txPool.bufferSize)
    (hdata : (c.host.buffers.contents b.region).read 0 ((TxDescriptor.decode word).length.toNat * wordSize) = data) :
    c.Works (some data) (c.write (Offset.txWrB + 4 * lane) b.addr) := by
  refine ⟨⟨.refl _, c.host.regions_write _ _⟩, .of_write ⟨fun k hk => ?_, fun k hk => ?_⟩⟩
  · rw [Board.indexIn_txWrB_rxFree _ hlane] at hk
    contradiction
  · rw [Board.indexIn_lane _ _ (by decide) hlane] at hk
    obtain rfl := Option.some.inj hk
    exact ⟨b, word, hc.tx.owns hb, hlast, hlength, congrArg some hdata.symm⟩

end Card

end LaneCard
