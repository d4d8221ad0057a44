import LaneCard.Proofs.Matching

/-!
# Every step on benches that match

Whatever is done on two benches that match is answered alike, and they match afterwards: one lemma for each
part of a step, and `Bench.Matches.act` for all steps. Only a call of a session looks at the signal of its
card, and no session is open on the one attachment whose signal may differ.
-/

namespace LaneCard

/-! ## Work on a simulated card -/

namespace Host

variable (h : Host Board)

/-- Raising an interrupt does not touch the separate allocator. -/
theorem apart_interrupt : (Board.interrupt h).apart = h.apart := by
  unfold Board.interrupt
  split <;> rfl

/-- Neither does delivering a frame. -/
theorem apart_deliver (lane : Nat) (vc : Word) (payload : Bytes) :
    (Board.deliver h lane vc payload).apart = h.apart := by
  unfold Board.deliver
  split
  · rfl
  · dsimp only
    split <;> rfl

/-- A register write does not touch the separate allocator. -/
theorem apart_write (offset : Nat) (value : Word) : (h.write offset value).apart = h.apart := by
  change (Board.store h offset value).apart = h.apart
  unfold Board.store
  dsimp only
  split
  · rfl
  · split
    · unfold Board.transmit
      dsimp only
      split
      · rfl
      · rw [apart_interrupt]
        split
        · rw [apart_deliver]
        · rfl
    · split
      · split
        · rw [apart_interrupt]
        · rfl
      · rfl

/-- Neither does an access to a register. -/
theorem apart_access (offset : Nat) (a : Access) : (Bench.access h offset a).2.apart = h.apart := by
  cases a with
  | read | offset => rfl
  | write value => exact h.apart_write offset value
  | set bits | clear bits | flip bits => exact apart_write (h.read offset).2 offset _

/-- Neither does holding transmit completions back, nor giving them. -/
theorem apart_hold (on : Bool) : (Board.hold h on).apart = h.apart := by
  unfold Board.hold
  split
  · rfl
  · rw [apart_interrupt]

/-- Neither does a received frame. -/
theorem apart_injectRx (desc : RxDescriptor) : (Board.injectRx h desc).apart = h.apart := apart_interrupt _

/-- Neither does a returned transmit buffer. -/
theorem apart_injectTx (word : Word) : (Board.injectTx h word).apart = h.apart := apart_interrupt _

end Host

/-- Neither does reading through a window. -/
theorem RegisterWindow.apart_read (w : RegisterWindow) (h : Host Board) (offset : Nat) :
    (w.read h offset).2.apart = h.apart := by
  unfold RegisterWindow.read
  split <;> rfl

/-- Neither does writing through a window. -/
theorem RegisterWindow.apart_write (w : RegisterWindow) (h : Host Board) (offset : Nat) (value : Word) :
    (w.write h offset value).2.apart = h.apart := by
  unfold RegisterWindow.write
  split
  · exact h.apart_write offset value
  · rfl

namespace Bench

variable {b b' : Bench} {stale : Nat → Bool} {i : Nat}

namespace Matches

/-! ## Calls -/

/-- The same call on benches that match, on a card other than the one in whose signal they may differ. -/
theorem call (h : Matches stale i b b') (s : Session) (hs : s.attachment = i → b' = b) (patience : Patience)
    (c : Call) : Both stale i (b.call s patience c) (b'.call s patience c) := by
  unfold Bench.call
  rw [h.memory]
  rcases both_cases (h.onCard s.attachment (fun card => makeCall card b.memory patience c)
    fun hi => .inl (hs hi)) with ⟨hx, hx'⟩ | ⟨⟨outcome, memory⟩, b₁, b₁', hx, hx', hmatch⟩
  · rw [hx, hx']
    exact ⟨rfl, h⟩
  · rw [hx, hx']
    exact ⟨rfl, hmatch.aside (fun b => { b with memory := memory }) (fun _ => rfl) rfl rfl rfl rfl⟩

/-- What happens while a call waits. -/
theorem happen (h : Matches stale i b b') (j sim : Nat) (m : Meanwhile) :
    Matches stale i (b.happen j sim m) (b'.happen j sim m) := by
  have hcalm {b₁ b₁' : Bench} (hchanged : Matches stale i b₁ b₁') :
      Matches stale i { b₁.settle with journal := b.journal } { b₁'.settle with journal := b'.journal } := by
    rw [h.journal]
    exact hchanged.settle.aside (fun b₁ => { b₁ with journal := b.journal }) (fun _ => rfl) rfl rfl rfl rfl
  cases m with
  | interrupt => exact hcalm (h.changeCard j Card.blind_interruptSession)
  | injectRx desc => exact hcalm (h.changeSim sim fun host => host.apart_injectRx desc)
  | injectTx word => exact hcalm (h.changeSim sim fun host => host.apart_injectTx word)
  | release => exact hcalm (h.changeSim sim fun host => host.apart_hold false)
  | detach card =>
    apply hcalm
    dsimp only
    rw [h.cardOf]
    split
    · rename_i attachment _
      exact h.changeCard attachment Card.blind_detach
    · exact h

/-- A call during which something happens. -/
theorem callDuring (h : Matches stale i b b') (s : Session) (hs : s.attachment = i → b' = b) (sim : Nat)
    (c : Call) (m : Meanwhile) : Both stale i (b.callDuring s sim c m) (b'.callDuring s sim c m) := by
  have hcall := h.call s hs (.ofNonblock s.nonblock) c
  have hagain (hi : s.attachment = i) :
      b'.call s (.ofNonblock s.nonblock) c = b.call s (.ofNonblock s.nonblock) c := by rw [hs hi]
  unfold Bench.callDuring
  generalize b.call s (.ofNonblock s.nonblock) c = done at hcall hagain ⊢
  generalize b'.call s (.ofNonblock s.nonblock) c = done' at hcall hagain ⊢
  obtain ⟨outcome, b₁⟩ := done
  obtain ⟨outcome', b₁'⟩ := done'
  obtain ⟨houtcome, hmatch⟩ := hcall
  obtain rfl : outcome' = outcome := houtcome
  have hhappen := hmatch.happen s.attachment sim m
  cases outcome' with
  | asleep =>
    refine hhappen.call s (fun hi => ?_) .woken c
    rw [(Prod.mk.inj (hagain hi)).2]
  | _ => exact ⟨rfl, hhappen⟩

/-- A call that is cancelled where nothing would end it. -/
theorem guardedCall (h : Matches stale i b b') (s : Session) (hs : s.attachment = i → b' = b) (c : Call)
    (meanwhile : Option Meanwhile) : Both stale i (b.guardedCall s c meanwhile) (b'.guardedCall s c meanwhile) := by
  unfold Bench.guardedCall
  rcases h.attachment s.attachment with ⟨ha, ha'⟩ | ⟨a, raised, ha, ha'⟩
  · rw [ha, ha']
    exact ⟨rfl, h⟩
  · rw [ha, ha']
    have htiming : b'.timingMatters (a.signalled raised) = b.timingMatters a := by
      unfold timingMatters
      rw [h.sims]
      rfl
    have hwait : wouldWait (a.signalled raised).device s.nonblock c = wouldWait a.device s.nonblock c := by
      cases c <;> rfl
    dsimp only
    rw [htiming, hwait]
    split
    · exact ⟨rfl, h⟩
    · split
      · cases meanwhile with
        | some m => exact h.callDuring s hs a.sim c m
        | none =>
          refine (h.changeCard s.attachment Card.blind_interruptSession).call s (fun hi => ?_) _ c
          rw [hs hi]
      · exact h.call s hs _ c

/-! ## Every step -/

/-- A step that may be refused. -/
theorem orRefuse (h : Matches stale i b b') (r : Refusal) {answer answer' : Option (Outcome × Bench)}
    (hanswer : Option.Rel (Both stale i) answer answer') :
    Both stale i (b.orRefuse r answer) (b'.orRefuse r answer') := by
  cases hanswer with
  | none => exact ⟨rfl, h⟩
  | some hanswer => exact hanswer

/-- A look at a simulated card. -/
theorem viewSim (h : Matches stale i b b') (sim : Nat) (view : Host Board → Outcome) :
    Both stale i (b.viewSim sim view) (b'.viewSim sim view) := by
  unfold Bench.viewSim
  rw [h.sims]
  split <;> exact ⟨rfl, h⟩

/-- A change of a simulated card, made several times, with the interrupts handled in between. -/
theorem repeated (h : Matches stale i b b') (sim : Nat) {work : Host Board → Host Board}
    (hwork : ∀ host, (work host).apart = host.apart) (times : Nat) :
    Matches stale i (b.repeated (fun b => b.changeSim sim work) times)
      (b'.repeated (fun b => b.changeSim sim work) times) := by
  induction times generalizing b b' with
  | zero => exact h
  | succ n ih => exact ih (h.changeSim sim hwork).settle

/-- So is one of a card that may be missing. -/
theorem changeSimTimes (h : Matches stale i b b') (sim times : Nat) {work : Host Board → Host Board}
    (hwork : ∀ host, (work host).apart = host.apart) :
    Both stale i (b.changeSimTimes sim times work) (b'.changeSimTimes sim times work) := by
  unfold Bench.changeSimTimes
  rw [h.sims]
  split
  · exact ⟨rfl, h.repeated sim hwork times⟩
  · exact ⟨rfl, h⟩

/-- Work on a card that a reference leads to. -/
theorem withCard (h : Matches stale i b b') (card : Nat) {work : Card Board → Outcome × Card Board}
    (hwork : Card.Blind work) : Both stale i (b.withCard card work) (b'.withCard card work) := by
  refine h.orRefuse _ ?_
  rw [h.cardOf]
  cases b.cardOf card with
  | none => exact .none
  | some j => exact h.onCard j work fun _ => .inr hwork

/-- A card is shown, and kept if that is asked for. -/
theorem showCard (h : Matches stale i b b') (j : Option Nat) (keep : Bool) :
    Both stale i (b.showCard j keep) (b'.showCard j keep) := by
  unfold Bench.showCard
  cases j with
  | none => exact ⟨rfl, h⟩
  | some j =>
    rcases h.attachment j with ⟨ha, ha'⟩ | ⟨a, raised, ha, ha'⟩
    · simp only [Option.bind_some, ha, ha']
      exact ⟨rfl, h⟩
    · simp only [Option.bind_some, ha, ha', Option.map_some]
      rw [h.cards]
      split
      · exact ⟨rfl, (h.addHandle j).aside (fun b₁ => { b₁ with cards := b.cards.push (some j) })
          (fun _ => rfl) rfl rfl rfl rfl⟩
      · exact ⟨rfl, h⟩

/-- The status of registers that are plain memory is taken. -/
theorem flatStatus (h : Matches stale i b b') (regs : List (Nat × Word)) (config : Config) :
    Both stale i (b.flatStatus regs config) (b'.flatStatus regs config) := by
  have hnoted (lines : Journal) :
      Matches stale i { b with journal := b.journal ++ lines } { b' with journal := b'.journal ++ lines } :=
    h.aside (fun b => { b with journal := b.journal ++ lines }) (fun _ => rfl) rfl rfl rfl rfl
  unfold Bench.flatStatus
  dsimp only
  split
  · simp only [Array.append_assoc]
    exact ⟨rfl, hnoted _⟩
  · simp only [Array.append_assoc]
    exact ⟨rfl, hnoted _⟩

/-- Work on the registry. -/
theorem withRegistry (h : Matches stale i b b') {work work' : Registry → Outcome × Bench}
    (hwork : ∀ r, Both stale i (work r) (work' r)) : Both stale i (b.withRegistry work) (b'.withRegistry work') := by
  unfold Bench.withRegistry
  rw [h.registry]
  split
  · exact hwork _
  · exact ⟨rfl, h⟩

/-- A session of an attachment is opened. -/
theorem openAttachment (h : Matches stale i b b') (j : Nat) (nonblock : Bool) :
    Option.Rel (Both stale i) (b.openAttachment j nonblock) (b'.openAttachment j nonblock) := by
  unfold Bench.openAttachment
  rcases both_cases (h.openSession j nonblock) with ⟨hx, hx'⟩ | ⟨result, b₁, b₁', hx, hx', hmatch⟩
  · rw [hx, hx']
    exact .none
  · rw [hx, hx']
    exact .some ⟨rfl, hmatch⟩

/-- Only on the same bench is a session open of the attachment in whose signal benches may differ. -/
theorem eq_of_sessionOf (h : Matches stale i b b') {id : Nat} {s : Session} (hs : b.sessionOf id = some s)
    (hi : s.attachment = i) : b' = b := by
  rcases h.same with hsame | ⟨-, hidle, -⟩
  · exact hsame
  · obtain ⟨hid, hopen⟩ := Option.filter_eq_some_iff.mp hs
    rw [hidle id s hid hi] at hopen
    contradiction

/-- The same sessions are open. -/
theorem sessionOf (h : Matches stale i b b') (id : Nat) : b'.sessionOf id = b.sessionOf id := by
  unfold Bench.sessionOf
  rw [h.sessions]

/-- Registers are mapped for a session. -/
theorem mapStep (h : Matches stale i b b') (id : Nat) (s : Session) (length : Nat) (readable writable : Bool) :
    Both stale i (b.sessionStep id s (.map length readable writable))
      (b'.sessionStep id s (.map length readable writable)) := by
  refine h.orRefuse _ ?_
  rcases h.attachment s.attachment with ⟨ha, ha'⟩ | ⟨a, raised, ha, ha'⟩
  · rw [ha, ha']
    exact .none
  · rw [ha, ha']
    refine both_bind (h.onCard s.attachment _ fun _ => .inr (Card.blind_mapRegisters length readable writable))
      fun result b₁ b₁' _ _ hmatch => ?_
    cases result with
    | error e => exact .some ⟨rfl, hmatch⟩
    | ok w =>
      refine .some ⟨congrArg (fun windows : Array BenchWindow => Outcome.window windows.size) hmatch.windows, ?_⟩
      exact hmatch.aside (fun b => { b with windows := b.windows.push ⟨a.sim, w⟩ }) (fun _ => rfl) rfl rfl rfl rfl

/-- Whatever a session does, it does the same on benches that match. -/
theorem sessionStep (h : Matches stale i b b') {id : Nat} {s : Session} (hs : b.sessionOf id = some s)
    (step : SessionStep) : Both stale i (b.sessionStep id s step) (b'.sessionStep id s step) := by
  have hcard {work : Card Board → Outcome × Card Board} (hwork : Card.Blind work) :
      Both stale i (b.orRefuse .noSession (b.onCard s.attachment work))
        (b'.orRefuse .noSession (b'.onCard s.attachment work)) :=
    h.orRefuse _ (h.onCard s.attachment work fun _ => .inr hwork)
  cases step with
  | close => exact ⟨rfl, h.closeSession id⟩
  | flags => exact ⟨rfl, h⟩
  | setFlags nonblock =>
    exact ⟨rfl, h.changeSession id (fun s => { s with nonblock := nonblock }) (fun _ => rfl) fun _ hshut => hshut⟩
  | call c meanwhile => exact h.guardedCall s (h.eq_of_sessionOf hs) c meanwhile
  | control command arg =>
    refine hcard fun c raised => ⟨raised, ?_⟩
    dsimp only
    rw [Card.control_signalled]
  | poll => exact hcard fun _ raised => ⟨raised, rfl⟩
  | interrupt => exact ⟨rfl, h.changeCard s.attachment Card.blind_interruptSession⟩
  | interrupter =>
    exact ⟨congrArg (fun handles : Array Nat => Outcome.interrupter handles.size) h.interrupters,
      h.addInterrupter s.attachment⟩
  | notify on => exact ⟨rfl, h.changeCard s.attachment (Card.blind_setListener _)⟩
  | map length readable writable => exact h.mapStep id s length readable writable
  | status => exact hcard (Card.blind_snapshot.map Outcome.status)
  | diagnostics => exact hcard fun _ raised => ⟨raised, rfl⟩

/-- A driver is attached to a simulated card. -/
theorem attachStep (h : Matches stale i b b') (sim : Nat) (config : Config) (name : String) (slot : Nat)
    (r : Resources) :
    Both stale i (b.act (.attach sim config name slot r)) (b'.act (.attach sim config name slot r)) := by
  unfold Bench.act
  dsimp only
  rw [h.isLive]
  split
  · exact ⟨rfl, h⟩
  · refine h.orRefuse _ ?_
    refine both_bind (h.attach sim name slot config r.baseHdwr r.baseLen r.apart)
      fun result b₁ b₁' _ _ hmatch => ?_
    cases result with
    | error e => exact .some ⟨rfl, hmatch⟩
    | ok j =>
      refine .some ⟨congrArg (fun cards : Array (Option Nat) => Outcome.card cards.size) hmatch.cards, ?_⟩
      exact hmatch.aside (fun b => { b with cards := b.cards.push (some j) }) (fun _ => rfl) rfl rfl rfl rfl

/-- What is shown of a card does not show its signal. -/
theorem infoStep (h : Matches stale i b b') (card : Nat) :
    Both stale i (b.act (.cardInfo card)) (b'.act (.cardInfo card)) := by
  unfold Bench.act
  dsimp only
  rw [h.cardOf]
  cases b.cardOf card with
  | none => exact ⟨rfl, h⟩
  | some j =>
    rcases h.attachment j with ⟨ha, ha'⟩ | ⟨a, raised, ha, ha'⟩
    · simp only [Option.bind_some, ha, ha']
      exact ⟨rfl, h⟩
    · simp only [Option.bind_some, ha, ha']
      exact ⟨rfl, h⟩

/-- A simulated card is probed. -/
theorem probeStep (h : Matches stale i b b') (sim vendor device : Nat) (r : Resources) :
    Both stale i (b.act (.probe sim vendor device r)) (b'.act (.probe sim vendor device r)) := by
  refine h.withRegistry fun registry => ?_
  rw [h.sims]
  split
  · exact ⟨rfl, h⟩
  · rename_i s _
    rw [h.isLive, h.findCard?]
    split
    · exact ⟨rfl, h⟩
    · obtain ⟨hresult, hmatch⟩ := h.probe registry sim s.address vendor device r.baseHdwr r.baseLen r.apart
      generalize b.probe registry sim s.address vendor device r.baseHdwr r.baseLen r.apart = done at hresult hmatch ⊢
      generalize b'.probe registry sim s.address vendor device r.baseHdwr r.baseLen r.apart = done' at hresult hmatch ⊢
      obtain ⟨result, b₁⟩ := done
      obtain ⟨result', b₁'⟩ := done'
      obtain rfl : result' = result := hresult
      cases result' <;> exact ⟨rfl, hmatch⟩

/-- The card of a slot is opened. -/
theorem openSlotStep (h : Matches stale i b b') (slot : Nat) (nonblock : Bool) :
    Both stale i (b.act (.openSlot slot nonblock)) (b'.act (.openSlot slot nonblock)) := by
  refine h.withRegistry fun r => ?_
  cases r.get? slot with
  | none => exact ⟨rfl, h⟩
  | some j =>
    rcases both_cases (h.openAttachment j nonblock) with ⟨hx, hx'⟩ | ⟨outcome, b₁, b₁', hx, hx', hmatch⟩
    · simp only [Option.bind_some, hx, hx']
      exact ⟨rfl, h⟩
    · simp only [Option.bind_some, hx, hx']
      exact ⟨rfl, hmatch⟩

/-- Whatever is done on a bench is answered just so on a bench that matches it, and they match afterwards. -/
theorem act (h : Matches stale i b b') (step : Step) : Both stale i (b.act step) (b'.act step) := by
  have hsim {sim : Nat} {work : Host Board → Outcome × Host Board}
      (hwork : ∀ host, (work host).2.apart = host.apart) :
      Both stale i (b.orRefuse .noSim (b.onSim sim work)) (b'.orRefuse .noSim (b'.onSim sim work)) :=
    h.orRefuse _ (h.onSim sim work hwork)
  have hwindow (k : Nat) {work : BenchWindow → Host Board → Outcome × Host Board}
      (hwork : ∀ w host, (work w host).2.apart = host.apart) :
      Both stale i (b.orRefuse .noWindow ((b.windows[k]?).bind fun w => b.onSim w.sim (work w)))
        (b'.orRefuse .noWindow ((b'.windows[k]?).bind fun w => b'.onSim w.sim (work w))) := by
    refine h.orRefuse _ ?_
    rw [h.windows]
    cases b.windows[k]? with
    | none => exact .none
    | some w => exact h.onSim w.sim (work w) (hwork w)
  cases step with
  | addSim address => exact ⟨rfl, h.addSim address⟩
  | peek sim offset => exact h.viewSim sim _
  | poke sim offset value =>
    unfold Bench.act
    dsimp only
    split
    · exact ⟨rfl, h⟩
    · exact h.changeSimTimes sim 1 fun _ => rfl
  | bus sim offset times a =>
    cases a with
    | read | offset => exact hsim fun host => host.apart_access offset _
    | _ => exact h.changeSimTimes sim times fun host => host.apart_access offset _
  | register sim name index a =>
    unfold Bench.act
    dsimp only
    rw [h.sims]
    split
    · exact ⟨rfl, h⟩
    · split
      · exact ⟨rfl, h⟩
      · split
        · exact ⟨rfl, h⟩
        · exact hsim fun host => host.apart_access _ a
  | freeFifo sim lane => exact h.viewSim sim _
  | takeFree sim lane =>
    refine hsim fun host => ?_
    split
    · split <;> rfl
    · rfl
  | writeCount sim => exact h.viewSim sim _
  | hold sim on => exact h.changeSimTimes sim 1 fun host => host.apart_hold on
  | injectRx sim times desc => exact h.changeSimTimes sim times fun host => host.apart_injectRx desc
  | injectTx sim times word => exact h.changeSimTimes sim times fun host => host.apart_injectTx word
  | raiseIrq sim => exact h.changeSimTimes sim 1 fun _ => rfl
  | dmaRead sim addr length => exact h.viewSim sim _
  | dmaWrite sim addr data =>
    refine hsim fun host => ?_
    split <;> rfl
  | addAllocator base limit =>
    refine ⟨rfl, ?_⟩
    unfold Bench.act
    dsimp only
    rw [h.allocators]
    exact h.aside (fun b₁ => { b₁ with allocators := b.allocators.push (Allocator.new b.allocators.size base limit) })
      (fun _ => rfl) rfl rfl rfl rfl
  | simStats sim => exact h.viewSim sim _
  | allocatorStats k =>
    unfold Bench.act
    dsimp only
    rw [h.allocators]
    split <;> exact ⟨rfl, h⟩
  | memInsert addr data =>
    exact ⟨rfl, h.aside (fun b => { b with memory := b.memory.insert addr data }) (fun _ => rfl) rfl rfl rfl rfl⟩
  | memRead addr length =>
    unfold Bench.act
    dsimp only
    rw [h.memory]
    split <;> exact ⟨rfl, h⟩
  | memStatus addr length =>
    unfold Bench.act
    dsimp only
    rw [h.memory]
    split
    · exact ⟨rfl, h⟩
    · split <;> exact ⟨rfl, h⟩
  | attach sim config name slot r => exact h.attachStep sim config name slot r
  | dropCard card =>
    unfold Bench.act
    dsimp only
    rw [h.cardOf]
    split
    · rename_i j _
      have hgone := h.aside (fun b => { b with cards := b.cards.setIfInBounds card none }) (fun _ => rfl) rfl rfl rfl rfl
      exact ⟨rfl, hgone.dropHandle j⟩
    · exact ⟨rfl, h⟩
  | cardInfo card => exact h.infoStep card
  | cardDetach card => exact h.withCard card (Card.blind_detach.map fun _ => Outcome.nothing)
  | cardDiagnostics card => exact h.withCard card fun _ raised => ⟨raised, rfl⟩
  | cardStatus card => exact h.withCard card (Card.blind_snapshot.map Outcome.status)
  | openCard card nonblock =>
    refine h.orRefuse _ ?_
    rw [h.cardOf]
    cases b.cardOf card with
    | none => exact .none
    | some j => exact h.openAttachment j nonblock
  | registry config =>
    unfold Bench.act
    dsimp only
    split
    · exact ⟨rfl, h⟩
    · rename_i r _
      exact ⟨rfl, h.dropRegistry.aside (fun b => { b with registry := some r }) (fun _ => rfl) rfl rfl rfl rfl⟩
  | dropRegistry => exact ⟨rfl, h.dropRegistry⟩
  | probe sim vendor device r => exact h.probeStep sim vendor device r
  | slotCard slot keep => exact h.withRegistry fun r => h.showCard _ keep
  | findCard address keep =>
    refine h.withRegistry fun r => ?_
    rw [h.findCard?]
    exact h.showCard _ keep
  | openSlot slot nonblock => exact h.openSlotStep slot nonblock
  | detachSlot slot =>
    refine h.withRegistry fun r => ?_
    obtain ⟨hresult, hmatch⟩ := h.detachSlot r slot
    exact ⟨congrArg (Outcome.ofExcept fun _ => .nothing) hresult, hmatch⟩
  | detachAll => exact h.withRegistry fun r => ⟨rfl, h.detachAll r⟩
  | slotCount => exact h.withRegistry fun r => ⟨rfl, h⟩
  | windowInfo w =>
    unfold Bench.act
    dsimp only
    rw [h.windows]
    split <;> exact ⟨rfl, h⟩
  | windowRead k offset => exact hwindow k fun w host => w.window.apart_read host offset
  | windowWrite k offset value => exact hwindow k fun w host => w.window.apart_write host offset value
  | fire k =>
    unfold Bench.act
    dsimp only
    rw [h.interrupters]
    split
    · rename_i j _
      exact ⟨rfl, h.changeCard j Card.blind_interruptSession⟩
    · exact ⟨rfl, h⟩
  | flatStatus regs config => exact h.flatStatus regs config
  | notified id =>
    unfold Bench.act
    dsimp only
    rw [h.sessions]
    split <;> exact ⟨rfl, h⟩
  | session id step =>
    unfold Bench.act
    dsimp only
    rw [h.sessionOf]
    split
    · rename_i s hs
      exact h.sessionStep hs step
    · exact ⟨rfl, h⟩

end Matches
end Bench
end LaneCard
