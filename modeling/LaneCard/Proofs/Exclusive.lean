import LaneCard.Proofs.Bookkeeping
import LaneCard.Proofs.Episodes
import LaneCard.Proofs.Interrupters

/-!
# One session at a time

Whatever is done on a bench, each card has at most one open session, and knows whether it has. What a session
leaves behind is gone when it is closed, and nothing of the kind comes up before the next one is opened: no
frame is readable, nobody is told of frames, and a signal that was raised meanwhile is dropped when the card is
opened. `Scene.Exclusive` is what every episode keeps of this; what an attempt to open a card comes to follows
from it, on any bench that steps can reach.
-/

namespace LaneCard

namespace Scene

variable {grows : Bool} {s s' : Scene} {i id : Nat}

/-- Each card knows of the one session that is open, if any. Without one there is nothing to read and nobody to
tell. -/
structure Exclusive (s : Scene) : Prop where
  openings : ∀ (i : Nat) (p : Post), s.posts[i]? = some p → s.openings i = p.device.isOpen.toNat
  unread : ∀ (i : Nat) (p : Post), s.posts[i]? = some p → p.device.isOpen = false →
    p.device.rxReady.toList = [] ∧ p.device.listener = none

/-- A session that is opened is one more of its card, and of no other. -/
theorem openings_push (s : Scene) (i j : Nat) :
    Scene.openings { s with seats := s.seats.push ⟨i, true⟩ } j = s.openings j + (i == j).toNat := by
  simp only [openings, Array.toList_push, List.count_append, List.count_singleton]
  cases hij : i == j <;> simp_all

/-- A session that is closed is one less. -/
theorem openings_close (hseat : s.seats[id]? = some ⟨i, true⟩) (j : Nat) :
    Scene.openings { s with seats := s.seats.setIfInBounds id ⟨i, false⟩ } j + (i == j).toNat = s.openings j := by
  have htraded := (perm_cons_set ((Array.getElem?_toList).trans hseat) ⟨i, false⟩).count_eq ⟨j, true⟩
  simp only [List.count_cons] at htraded
  simp only [openings, Array.toList_setIfInBounds]
  cases hij : i == j <;> simp_all

/-- A card that does not exist has no session. -/
theorem Placed.openings_eq_zero (hs : s.Placed) (hi : s.posts.size ≤ i) : s.openings i = 0 := by
  refine List.count_eq_zero.mpr fun hmem => ?_
  obtain ⟨id, hid⟩ := List.mem_iff_getElem?.mp hmem
  exact absurd (hs.seats id _ (Array.getElem?_toList.symm.trans hid)) (Nat.not_lt.mpr hi)

/-- A card of which a session is open knows it. -/
theorem Exclusive.isOpen_of_seat (h : s.Exclusive) {p : Post} (hpost : s.posts[i]? = some p)
    (hseat : s.seats[id]? = some ⟨i, true⟩) : p.device.isOpen = true := by
  have hcount : 0 < s.openings i :=
    List.count_pos_iff.mpr (List.mem_iff_getElem?.mpr ⟨id, Array.getElem?_toList.trans hseat⟩)
  rw [h.openings i p hpost] at hcount
  cases hopen : p.device.isOpen with
  | true => rfl
  | false =>
    rw [hopen] at hcount
    contradiction

/-- Every episode keeps sessions exclusive. -/
theorem Episode.exclusive (h : Episode grows s s') (hs : s.Placed) (hexcl : s.Exclusive) : s'.Exclusive := by
  cases h with
  | grown address => exact ⟨hexcl.openings, hexcl.unread⟩
  | @used i p d hpost hsame =>
    refine ⟨Table.forall_setIfInBounds hexcl.openings ?_, Table.forall_setIfInBounds hexcl.unread ?_⟩
    · change s.openings i = d.isOpen.toNat
      rw [hsame.isOpen]
      exact hexcl.openings i p hpost
    · intro hclosed
      have hbefore : p.device.isOpen = false := hsame.isOpen.symm.trans hclosed
      obtain ⟨hunread, hunheard⟩ := hexcl.unread i p hpost hbefore
      exact ⟨hsame.unread hbefore hunread, hsame.listener.trans hunheard⟩
  | @listened i id p listener hpost hseat =>
    refine ⟨Table.forall_setIfInBounds hexcl.openings (hexcl.openings i p hpost),
      Table.forall_setIfInBounds hexcl.unread fun hclosed => ?_⟩
    have hopen := hexcl.isOpen_of_seat hpost hseat
    rw [hopen] at hclosed
    contradiction
  | @attached p _ hplaced hclosed hunread hunheard =>
    refine ⟨Table.forall_push hexcl.openings ?_, Table.forall_push hexcl.unread fun _ => ⟨hunread, hunheard⟩⟩
    rw [hclosed]
    exact hs.openings_eq_zero (Nat.le_refl _)
  | @opened i p hpost hclosed =>
    refine ⟨Table.forall_setIfInBounds_of_ne (fun j q hj hq => ?_) ?_, Table.forall_setIfInBounds hexcl.unread ?_⟩
    · have hmore := s.openings_push i j
      rw [beq_eq_false_iff_ne.mpr (Ne.symm hj), hexcl.openings j q hq] at hmore
      exact hmore
    · have hmore := s.openings_push i i
      rw [beq_self_eq_true, hexcl.openings i p hpost, hclosed] at hmore
      exact hmore
    · intro hstill
      contradiction
  | @closed i id p ring dropped hpost hseat hunread =>
    refine ⟨Table.forall_setIfInBounds_of_ne (fun j q hj hq => ?_) ?_,
      Table.forall_setIfInBounds hexcl.unread fun _ => ⟨hunread, rfl⟩⟩
    · have hless := openings_close hseat j
      rw [beq_eq_false_iff_ne.mpr (Ne.symm hj), hexcl.openings j q hq] at hless
      exact hless
    · have hless := openings_close hseat i
      rw [beq_self_eq_true, hexcl.openings i p hpost, hexcl.isOpen_of_seat hpost hseat] at hless
      exact Nat.add_right_cancel hless

/-- So do any number of them. -/
theorem Course.exclusive (h : Course grows s s') (hs : s.Placed) (hexcl : s.Exclusive) : s'.Exclusive := by
  induction h with
  | refl => exact hexcl
  | tail hbefore hlast ih => exact hlast.exclusive (Course.placed hbefore hs) ih

end Scene

namespace Bench

variable {b : Bench} {i : Nat}

/-- The open sessions of a card are counted on the bench as they are in its scene. -/
theorem openings_scene (b : Bench) (i : Nat) : b.scene.openings i = b.openings i := by
  rw [Scene.openings, scene, Array.toList_map, List.count, List.countP_map]
  refine List.countP_congr fun x _ => ?_
  simp [Session.seat, and_comm]

/-- Whatever was done on a bench from the start, everything is placed and sessions are exclusive. -/
theorem exclusive_playAll_empty (steps : List Step) :
    (empty.playAll steps).scene.Placed ∧ (empty.playAll steps).scene.Exclusive := by
  have hcourse := course_playAll placed_empty steps
  have hempty : empty.scene.Exclusive := ⟨by simp [scene, empty], by simp [scene, empty]⟩
  exact ⟨hcourse.placed placed_empty, hcourse.exclusive placed_empty hempty⟩

/-! ## Opening a card -/

/-- The attachment whose card a step opens. -/
def opensOn (b : Bench) : Step → Option Nat
  | .openCard card _ => b.cardOf card
  | .openSlot slot _ => b.registry.bind fun r => r.get? slot
  | _ => none

/-- Such a step does nothing but open that card. -/
theorem act_of_opensOn {step : Step} (hstep : b.opensOn step = some i) :
    ∃ nonblock, ∀ done, b.openAttachment i nonblock = some done → b.act step = done := by
  unfold opensOn at hstep
  split at hstep
  · rename_i card nonblock
    refine ⟨nonblock, fun done hdone => ?_⟩
    simp only [act, orRefuse, hstep]
    change ((b.openAttachment i nonblock).getD _) = done
    rw [hdone, Option.getD_some]
  · rename_i slot nonblock
    refine ⟨nonblock, fun done hdone => ?_⟩
    obtain ⟨r, hr, hslot⟩ := Option.bind_eq_some_iff.mp hstep
    simp only [act, withRegistry, hr, hslot, Option.bind_some, hdone]
  · contradiction

/-- On a tidy bench, opening a card that is detached or open changes the journal only. -/
theorem Tidy.openSession_refused (h : b.Tidy) {a : Attachment} {s : Sim} (ha : b.attachments[i]? = some a)
    (hs : b.sims[a.sim]? = some s) (hshut : a.device.detached = true ∨ a.device.isOpen = true) (nonblock : Bool) :
    ∃ journal, b.openSession i nonblock =
      some (.error (if a.device.detached then .noDevice else .busy), { b with journal := journal }) := by
  rcases openSession_ends ha hs nonblock with ⟨e, journal, hopen, hwhy⟩ | ⟨hattached, hfree, -⟩
  · refine ⟨b.journal ++ journal, ?_⟩
    have hself : b.putCard i a ⟨{ b.hostFor s a.apart with journal := journal }, a.device⟩ =
        { b with journal := b.journal ++ journal } :=
      congrArg (fun b' : Bench => { b' with journal := b.journal ++ journal }) (h.putCard_self ha hs)
    rw [hopen, hself]
    rcases hwhy with ⟨hdetached, rfl⟩ | ⟨hattached, -, rfl⟩
    · rw [if_pos hdetached]
    · rw [if_neg (by rw [hattached]; exact Bool.false_ne_true)]
  · rw [hattached, hfree] at hshut
    simp at hshut

/-- On a tidy bench, opening any other card changes the card and counts the session. -/
theorem Tidy.openSession_granted (h : b.Tidy) {a : Attachment} {s : Sim} (ha : b.attachments[i]? = some a)
    (hs : b.sims[a.sim]? = some s) (hattached : a.device.detached = false) (hfree : a.device.isOpen = false)
    (nonblock : Bool) :
    ∃ journal, b.openSession i nonblock =
      some (.ok b.sessions.size,
        { b with
          attachments := b.attachments.setIfInBounds i
            { a with device := { a.device with isOpen := true, signal := false }, sessions := a.sessions + 1 }
          sessions := b.sessions.push ⟨i, nonblock, true, 0⟩
          journal := journal }) := by
  rcases openSession_ends ha hs nonblock with ⟨e, journal, -, hwhy⟩ | ⟨-, -, journal, w, hw, hopen⟩
  · rw [hattached, hfree] at hwhy
    simp at hwhy
  · refine ⟨b.journal ++ journal, ?_⟩
    have hw' : w =
        { b with
          attachments := b.attachments.setIfInBounds i
            { a with device := { a.device with isOpen := true, signal := false, notices := [] } }
          journal := b.journal ++ journal } :=
      hw.trans (congrArg
        (fun b' : Bench =>
          { b' with
            attachments := b.attachments.setIfInBounds i
              { a with device := { a.device with isOpen := true, signal := false, notices := [] } }
            journal := b.journal ++ journal })
        (h.putCard_self ha hs))
    rw [hopen, hw', changeAttachment]
    dsimp only
    rw [Table.modify_setIfInBounds _ _ ha, ← h.notices i a ha]

/-- A step is taken on cleared journals, and then the interrupts are handled. -/
theorem play_eq (b : Bench) (step : Step) :
    b.play step = ((b.cleared.act step).1, (b.cleared.act step).2.settle) := rfl

/-- A step that was answered without leaving an interrupt to take. -/
theorem play_of_act {step : Step} {outcome : Outcome} {b' : Bench} (hact : b.cleared.act step = (outcome, b'))
    (htidy : b'.Tidy) (hsettled : b'.Settled) : b.play step = (outcome, b') := by
  rw [play_eq, hact, htidy.settle_of_settled hsettled]

/-- What an attempt to open a card comes to, on a bench where nothing is left to handle. -/
theorem play_of_opensOn (hplaced : b.scene.Placed) (htidy : b.cleared.Tidy) (hsettled : b.Settled) {a : Attachment}
    (ha : b.attachments[i]? = some a) {step : Step} (hstep : b.opensOn step = some i) :
    ((a.device.detached = true ∨ a.device.isOpen = true) ∧ ∃ journal,
        b.play step =
          (.failed (if a.device.detached then .noDevice else .busy), { b.cleared with journal := journal })) ∨
      (a.device.detached = false ∧ a.device.isOpen = false ∧ ∃ nonblock journal,
        b.play step =
          (.session b.sessions.size,
            { b.cleared with
              attachments := b.attachments.setIfInBounds i
                { a with device := { a.device with isOpen := true, signal := false }, sessions := a.sessions + 1 }
              sessions := b.sessions.push ⟨i, nonblock, true, 0⟩
              journal := journal })) := by
  obtain ⟨s, hs, -⟩ := exists_sim_of_placed hplaced ha
  obtain ⟨nonblock, hopens⟩ := b.cleared.act_of_opensOn hstep
  by_cases hshut : a.device.detached = true ∨ a.device.isOpen = true
  · obtain ⟨journal, hopen⟩ := htidy.openSession_refused ha hs hshut nonblock
    have hact := hopens _ (congrArg (Option.map _) hopen)
    refine .inl ⟨hshut, journal, play_of_act hact ⟨htidy.hosts, htidy.notices⟩ hsettled⟩
  · obtain ⟨hattached, hfree⟩ := not_or.mp hshut
    rw [Bool.not_eq_true] at hattached hfree
    obtain ⟨journal, hopen⟩ := htidy.openSession_granted ha hs hattached hfree nonblock
    have hact := hopens _ (congrArg (Option.map _) hopen)
    refine .inr ⟨hattached, hfree, nonblock, journal, play_of_act hact ⟨htidy.hosts, ?_⟩ ?_⟩
    · exact Table.forall_setIfInBounds htidy.notices (htidy.notices i a ha)
    · have hcalm (j : Nat) (x : Attachment) (hx : b.attachments[j]? = some x) :
          x.device.detached = false → ∀ s', b.sims[x.sim]? = some s' → s'.host.line.IsCalm :=
        fun hdetached s' => hsettled j x s' (Array.getElem?_eq_some_iff.mp hx).1 hx hdetached
      intro j x s' _ hx hdetached hs'
      exact Table.forall_setIfInBounds
        (P := fun _ x => x.device.detached = false → ∀ s', b.sims[x.sim]? = some s' → s'.host.line.IsCalm)
        hcalm (hcalm i a ha) j x hx hdetached s' hs'

/-- After any run the card of every attachment has at most one open session, and says whether it has one. While
it has none, no frame is readable and nobody is told of frames. An attempt to open it is told that it is gone if
it was detached, and that it is busy if it is open, and then nothing changes but the journal. Otherwise there is
a new session, which has nothing to read, nobody to tell and no cancellation pending; all else of the card is as
it was. -/
theorem exclusive_sessions (steps : List Step) {b : Bench} (hb : b = empty.playAll steps) {i : Nat} {a : Attachment}
    (ha : b.attachments[i]? = some a) :
    b.openings i = a.device.isOpen.toNat ∧
      (b.openings i = 0 → a.device.rxReady.toList = [] ∧ a.device.listener = none) ∧
      ∀ step, b.opensOn step = some i →
        (a.device.detached = true ∨ b.openings i = 1 → ∃ journal,
          b.play step =
            (.failed (if a.device.detached then .noDevice else .busy), { b.cleared with journal := journal })) ∧
        (a.device.detached = false → b.openings i = 0 → ∃ b' a',
          b.play step = (.session b.sessions.size, b') ∧ b'.attachments[i]? = some a' ∧
            (b'.sessionOf b.sessions.size).map Session.attachment = some i ∧ b'.openings i = 1 ∧
            a'.device = { a.device with isOpen := true, signal := false } ∧
            a'.device.rxReady.toList = [] ∧ a'.device.listener = none) := by
  obtain ⟨hplaced, hexcl⟩ := exclusive_playAll_empty steps
  have htidy := tidy_playAll_empty steps
  have hsettled := settled_playAll_empty steps
  rw [← hb] at hplaced hexcl htidy hsettled
  have hpost : b.scene.posts[i]? = some a.post := post_of_attachment ha
  have hcount : b.openings i = a.device.isOpen.toNat := (b.openings_scene i).symm.trans (hexcl.openings i _ hpost)
  have hfree (hnone : b.openings i = 0) : a.device.isOpen = false := by
    rw [hcount] at hnone
    simpa using hnone
  refine ⟨hcount, fun hnone => hexcl.unread i _ hpost (hfree hnone), fun step hstep => ?_⟩
  rcases play_of_opensOn hplaced htidy hsettled ha hstep with
    ⟨hshut, hplay⟩ | ⟨hattached, hclosed, nonblock, journal, hplay⟩
  · refine ⟨fun _ => hplay, fun hattached hnone => ?_⟩
    rw [hattached, hfree hnone] at hshut
    simp at hshut
  · refine ⟨fun hshut => ?_, fun _ hnone => ?_⟩
    · rw [hattached, hcount, hclosed] at hshut
      simp at hshut
    · obtain ⟨hunread, hunheard⟩ := hexcl.unread i _ hpost hclosed
      refine ⟨_, _, hplay, Array.getElem?_setIfInBounds_self_of_lt (lt_size_of_getElem? ha), ?_, ?_, rfl, hunread,
        hunheard⟩
      · rw [sessionOf, Array.getElem?_push_size]
        rfl
      · rw [openings] at hnone
        simp [openings, List.countP_append, hnone]

/-- A frame of one word, in the first receive buffer. -/
def strayFrame : Step := .injectRx 0 1 ⟨⟨0#32, 1#32, 1#32, FrameFlags.none⟩, 0x10002000#32⟩

/-- A session is told of frames, and is closed before it has read one. Then it is cancelled by its handle, and
another frame comes. -/
def leftovers : List Step :=
  [.addSim .standard, .registry .small, probeFirst, .openSlot 0 true, .session 0 .interrupter,
    .session 0 (.notify true), strayFrame, .session 0 .close, .fire 0, strayFrame]

/-- Both frames were dropped, and the signal is raised. The next session starts without it. -/
theorem exclusive_sessions_leftovers :
    ∃ b a, b = empty.playAll leftovers ∧ b.attachments[0]? = some a ∧ a.device.droppedClosed = 2 ∧
      a.device.signal = true ∧ b.openings 0 = 0 ∧ b.opensOn (.openSlot 0 true) = some 0 ∧
      ∃ b' a', b.play (.openSlot 0 true) = (.session b.sessions.size, b') ∧ b'.attachments[0]? = some a' ∧
        b'.openings 0 = 1 ∧ a'.device.signal = false ∧ a'.device.rxReady.toList = [] ∧ a'.device.listener = none := by
  obtain ⟨a, ha, hleft⟩ := Option.map_eq_some_iff.mp
    (show ((empty.playAll leftovers).attachments[0]?).map
        (fun a => (a.device.droppedClosed, a.device.signal, a.device.detached)) = some (2, true, false) by
      decide +kernel)
  have hnone : (empty.playAll leftovers).openings 0 = 0 := by decide +kernel
  have hstep : (empty.playAll leftovers).opensOn (.openSlot 0 true) = some 0 := by decide +kernel
  obtain ⟨-, -, hopens⟩ := exclusive_sessions leftovers rfl ha
  obtain ⟨b', a', hplay, ha', -, hone, hdevice, hunread, hunheard⟩ :=
    (hopens _ hstep).2 (congrArg (fun t => t.2.2) hleft) hnone
  exact ⟨_, a, rfl, ha, congrArg Prod.fst hleft, congrArg (fun t => t.2.1) hleft, hnone, hstep, b', a', hplay, ha',
    hone, congrArg Device.signal hdevice, hunread, hunheard⟩

end Bench
end LaneCard
