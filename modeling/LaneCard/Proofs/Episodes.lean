import LaneCard.Proofs.MatchingSteps
import LaneCard.Proofs.SameSession

/-!
# Sessions on the bench

Of all that is on a bench, a `Scene` is the driver's side of each attachment and which session is of which
attachment. Few things happen on it: an `Episode` opens a session or closes one, changes who is told of
frames, attaches another driver, or uses a card within its session. Whatever is done on a bench comes to
episodes, one after the other: `Bench.course_act`. What every episode keeps, every step keeps.
-/

namespace LaneCard

/-- The driver's side of an attachment, with what never changes of it. -/
structure Post where
  device : Device
  sim : Nat
  slot : Nat

/-- Whose session it is, and whether it is open. -/
structure Seat where
  attachment : Nat
  isOpen : Bool
  deriving DecidableEq

/-- The post of an attachment. -/
def Attachment.post (a : Attachment) : Post := ⟨a.device, a.sim, a.slot⟩

/-- The seat of a session. -/
def Session.seat (s : Session) : Seat := ⟨s.attachment, s.isOpen⟩

/-- Whether a step may attach a driver. -/
def Step.attaches : Step → Bool
  | .attach .. | .probe .. => true
  | _ => false

/-- Where the simulated cards are, the driver's sides, and the sessions. -/
structure Scene where
  sims : Array PciAddress
  posts : Array Post
  seats : Array Seat

namespace Scene

/-- The number of open sessions of an attachment. -/
def openings (s : Scene) (i : Nat) : Nat := s.seats.toList.count ⟨i, true⟩

/-- One thing that happens to the sessions and the cards. Drivers are attached only where that is said. -/
inductive Episode (grows : Bool) : Scene → Scene → Prop
  /-- There is one more simulated card. -/
  | grown {s : Scene} (address : PciAddress) : Episode grows s { s with sims := s.sims.push address }
  /-- A card was used, with the session that it has or without one. -/
  | used {s : Scene} {i : Nat} {p : Post} {d : Device} (hpost : s.posts[i]? = some p)
      (hsame : p.device.SameSession d) :
      Episode grows s { s with posts := s.posts.setIfInBounds i { p with device := d } }
  /-- A session says who is told of frames. -/
  | listened {s : Scene} {i id : Nat} {p : Post} (listener : Option Nat) (hpost : s.posts[i]? = some p)
      (hseat : s.seats[id]? = some ⟨i, true⟩) :
      Episode grows s
        { s with
          posts := s.posts.setIfInBounds i { p with device := { p.device with listener := listener, notices := [] } } }
  /-- A driver was attached to a simulated card. -/
  | attached {s : Scene} {p : Post} (hgrows : grows = true) (hplaced : s.sims[p.sim]? = some p.device.address)
      (hclosed : p.device.isOpen = false) (hunread : p.device.rxReady.toList = [])
      (hunheard : p.device.listener = none) :
      Episode grows s { s with posts := s.posts.push p }
  /-- A session was opened, of a card that had none. -/
  | opened {s : Scene} {i : Nat} {p : Post} (hpost : s.posts[i]? = some p) (hclosed : p.device.isOpen = false) :
      Episode grows s
        { s with
          posts := s.posts.setIfInBounds i
            { p with device := { p.device with isOpen := true, signal := false, notices := [] } }
          seats := s.seats.push ⟨i, true⟩ }
  /-- A session was closed. -/
  | closed {s : Scene} {i id : Nat} {p : Post} {ring : Ring} {dropped : Nat} (hpost : s.posts[i]? = some p)
      (hseat : s.seats[id]? = some ⟨i, true⟩) (hunread : ring.toList = []) :
      Episode grows s
        { s with
          posts := s.posts.setIfInBounds i
            { p with
              device :=
                { p.device with
                  rxReady := ring
                  isOpen := false
                  listener := none
                  signal := false
                  droppedClosed := dropped
                  notices := [] } }
          seats := s.seats.setIfInBounds id ⟨i, false⟩ }

/-- Any number of episodes, one after the other. -/
def Course (grows : Bool) : Scene → Scene → Prop := Relation.ReflTransGen (Episode grows)

variable {grows : Bool}

/-- Nothing happened. -/
theorem Course.of_eq {s s' : Scene} (h : s' = s) : Course grows s s' := h ▸ .refl

/-- Where no driver is attached, none may be. -/
theorem Episode.mono {s s' : Scene} (h : Episode grows s s') : Episode true s s' := by
  cases h with
  | grown address => exact .grown address
  | used hpost hsame => exact .used hpost hsame
  | listened listener hpost hseat => exact .listened listener hpost hseat
  | attached _ hplaced hclosed hunread hunheard => exact .attached rfl hplaced hclosed hunread hunheard
  | opened hpost hclosed => exact .opened hpost hclosed
  | closed hpost hseat hunread => exact .closed hpost hseat hunread

/-- A course on which no driver is attached is one on which some may be. -/
theorem Course.mono {s s' : Scene} (h : Course grows s s') : Course true s s' :=
  Relation.ReflTransGen.mono (fun _ _ => Episode.mono) _ _ h

/-- Every attachment is to the simulated card at its address, and every session is of an attachment. -/
structure Placed (s : Scene) : Prop where
  posts : ∀ (i : Nat) (p : Post), s.posts[i]? = some p → s.sims[p.sim]? = some p.device.address
  seats : ∀ (id : Nat) (seat : Seat), s.seats[id]? = some seat → seat.attachment < s.posts.size

/-- A driver's side may change where it is, and sessions may come and change. -/
theorem Placed.changed {s : Scene} (hs : s.Placed) {i : Nat} {p : Post} {d : Device} {seats : Array Seat}
    (hpost : s.posts[i]? = some p) (haddress : d.address = p.device.address)
    (hseats : ∀ (id : Nat) (seat : Seat), seats[id]? = some seat → seat.attachment < s.posts.size) :
    Placed { s with posts := s.posts.setIfInBounds i { p with device := d }, seats := seats } where
  posts := by
    have hthere := hs.posts i p hpost
    rw [← haddress] at hthere
    exact Table.forall_setIfInBounds hs.posts hthere
  seats id seat hseat := by
    rw [Array.size_setIfInBounds]
    exact hseats id seat hseat

/-- An episode takes nothing away. -/
theorem Episode.placed {s s' : Scene} (h : Episode grows s s') (hs : s.Placed) : s'.Placed := by
  cases h with
  | grown address =>
    refine ⟨fun i p hp => ?_, hs.seats⟩
    have hthere := hs.posts i p hp
    rw [Array.getElem?_push, if_neg (Nat.ne_of_lt (Array.getElem?_eq_some_iff.mp hthere).1)]
    exact hthere
  | used hpost hsame => exact hs.changed hpost hsame.address hs.seats
  | listened _ hpost _ => exact hs.changed hpost rfl hs.seats
  | attached _ hplaced =>
    refine ⟨Table.forall_push hs.posts hplaced, fun id seat hseat => ?_⟩
    rw [Array.size_push]
    exact Nat.lt_succ_of_lt (hs.seats id seat hseat)
  | opened hpost _ =>
    exact hs.changed hpost rfl (Table.forall_push hs.seats (Array.getElem?_eq_some_iff.mp hpost).1)
  | closed hpost _ _ =>
    exact hs.changed hpost rfl (Table.forall_setIfInBounds hs.seats (Array.getElem?_eq_some_iff.mp hpost).1)

/-- Neither do several. -/
theorem Course.placed {s s' : Scene} (h : Course grows s s') (hs : s.Placed) : s'.Placed := by
  induction h with
  | refl => exact hs
  | tail _ hlast ih => exact hlast.placed ih

end Scene

namespace Bench

open Scene

/-- The sessions and the driver's sides on a bench. -/
def scene (b : Bench) : Scene :=
  ⟨b.sims.map Sim.address, b.attachments.map Attachment.post, b.sessions.map Session.seat⟩

variable {α : Type} {grows : Bool} {b : Bench}

/-- The driver's side of an attachment, on the scene. -/
theorem getElem?_posts (b : Bench) (i : Nat) : b.scene.posts[i]? = (b.attachments[i]?).map Attachment.post :=
  Array.getElem?_map

/-- A session, on the scene. -/
theorem getElem?_seats (b : Bench) (id : Nat) : b.scene.seats[id]? = (b.sessions[id]?).map Session.seat :=
  Array.getElem?_map

/-- The post of an attachment is in the scene. -/
theorem post_of_attachment {i : Nat} {a : Attachment} (ha : b.attachments[i]? = some a) :
    b.scene.posts[i]? = some a.post := by rw [getElem?_posts, ha, Option.map_some]

/-- An open session has its seat there. -/
theorem seat_of_session {id : Nat} {x : Session} (hx : b.sessionOf id = some x) :
    b.scene.seats[id]? = some ⟨x.attachment, true⟩ := by
  obtain ⟨hid, hopen⟩ := Option.filter_eq_some_iff.mp hx
  rw [getElem?_seats, hid, Option.map_some, Session.seat, hopen]

/-- An attachment has its simulated card, where everything is placed. -/
theorem exists_sim_of_placed (hplaced : b.scene.Placed) {i : Nat} {a : Attachment}
    (ha : b.attachments[i]? = some a) : ∃ s, b.sims[a.sim]? = some s ∧ s.address = a.device.address := by
  have hsim := hplaced.posts i a.post (post_of_attachment ha)
  rw [scene, Array.getElem?_map] at hsim
  exact Option.map_eq_some_iff.mp hsim

/-- A session has its attachment. -/
theorem exists_attachment_of_placed (hplaced : b.scene.Placed) {id : Nat} {x : Session}
    (hx : b.sessions[id]? = some x) : ∃ a, b.attachments[x.attachment]? = some a := by
  have hthere := hplaced.seats id x.seat (by rw [getElem?_seats, hx, Option.map_some])
  rw [scene, Array.size_map] at hthere
  exact ⟨_, Array.getElem?_eq_getElem hthere⟩

/-! ## Work on one card -/

/-- Notices are of no session's opening or closing. -/
theorem seats_deliverNotices (sessions : Array Session) (notices : List Nat) :
    (deliverNotices sessions notices).map Session.seat = sessions.map Session.seat := by
  induction notices generalizing sessions with
  | nil => rfl
  | cons i rest ih => exact (ih _).trans (Table.map_modify_of_same sessions i _ _ fun _ => rfl)

/-- A host that was worked on is put back where it was. -/
theorem addresses_putHost (b : Bench) (sim : Nat) (apart : Option Nat) (host : Host Board) :
    (b.putHost sim apart host).sims.map Sim.address = b.sims.map Sim.address :=
  Table.map_modify_of_same b.sims sim (fun s => { s with host := { host with apart := none, journal := #[] } })
    Sim.address fun _ => rfl

/-- A card that was worked on is put back. -/
theorem scene_putCard (b : Bench) (i : Nat) (a : Attachment) (c : Card Board) :
    (b.putCard i a c).scene =
      { b.scene with
        posts := b.scene.posts.setIfInBounds i { a.post with device := { c.device with notices := [] } } } := by
  have hsims := b.addresses_putHost a.sim a.apart c.host
  simp only [scene, putCard, Array.map_setIfInBounds, seats_deliverNotices, hsims]
  rfl

/-- Work on a card within its session. -/
theorem course_onCard {i : Nat} {work : Card Board → α × Card Board}
    (hwork : ∀ c : Card Board, c.device.SameSession (work c).2.device) {done : α × Bench}
    (hdone : b.onCard i work = some done) : Course grows b.scene done.2.scene := by
  rw [onCard_eq_bind] at hdone
  obtain ⟨a, ha, hdone⟩ := Option.bind_eq_some_iff.mp hdone
  obtain ⟨s, -, rfl⟩ := Option.map_eq_some_iff.mp hdone
  have hpost : b.scene.posts[i]? = some a.post := post_of_attachment ha
  dsimp only
  rw [scene_putCard]
  refine .single (.used hpost ?_)
  exact (hwork ⟨b.hostFor s a.apart, a.device⟩).trans { Device.SameSession.refl _ with }

/-- A change of a card within its session. -/
theorem course_changeCard (b : Bench) (i : Nat) {work : Card Board → Card Board}
    (hwork : ∀ c : Card Board, c.device.SameSession (work c).device) :
    Course grows b.scene (b.changeCard i work).scene := by
  unfold changeCard
  split
  · rename_i hdone
    exact course_onCard hwork hdone
  · exact .refl

/-- A simulated card that is put back is where it was. -/
theorem addresses_setIfInBounds (b : Bench) {sim : Nat} {s : Sim} (hs : b.sims[sim]? = some s) (host : Host Board) :
    (b.sims.setIfInBounds sim { s with host := host }).map Sim.address = b.sims.map Sim.address := by
  rw [Array.map_setIfInBounds]
  exact Table.setIfInBounds_self (by rw [Array.getElem?_map, hs, Option.map_some])

/-- Work on a simulated card is of no session. -/
theorem scene_onSim {sim : Nat} {work : Host Board → α × Host Board} {done : α × Bench}
    (hdone : b.onSim sim work = some done) : done.2.scene = b.scene := by
  obtain ⟨s, hs, rfl⟩ := Option.map_eq_some_iff.mp hdone
  rw [scene, addresses_setIfInBounds b hs]
  rfl

/-- A change of a simulated card is of no session. -/
theorem scene_changeSim (b : Bench) (sim : Nat) (work : Host Board → Host Board) :
    (b.changeSim sim work).scene = b.scene := by
  unfold changeSim
  split
  · rename_i hdone
    exact scene_onSim hdone
  · rfl

/-- Handling interrupts is done within the sessions. -/
theorem course_settle (b : Bench) : Course grows b.scene b.settle.scene := by
  have hone (b : Bench) (j : Nat) : Course grows b.scene (b.settleWanted j).scene := by
    unfold settleWanted
    split
    · split
      · exact ({ b with journal := #[] } : Bench).course_changeCard j Card.sameSession_settle
      · exact .refl
    · exact .refl
  have hall (js : List Nat) (b : Bench) : Course grows b.scene (js.foldl settleWanted b).scene := by
    induction js generalizing b with
    | nil => exact .refl
    | cons j rest ih => exact (hone b j).trans (ih _)
  rw [settle_eq]
  exact hall _ b

/-- Changing a simulated card several times. -/
theorem course_changeSimTimes (b : Bench) (sim times : Nat) (work : Host Board → Host Board) :
    Course grows b.scene (b.changeSimTimes sim times work).2.scene := by
  have hrepeated (n : Nat) (b : Bench) : Course grows b.scene (b.repeated (fun b => b.changeSim sim work) n).scene := by
    induction n generalizing b with
    | zero => exact .refl
    | succ n ih =>
      have hfirst : Course grows (b.changeSim sim work).scene _ := course_settle _
      rw [scene_changeSim] at hfirst
      exact hfirst.trans (ih _)
  unfold changeSimTimes
  split
  · exact hrepeated times b
  · exact .refl

/-! ## What refers to an attachment -/

/-- Counters of an attachment are of no session. -/
theorem scene_changeAttachment (b : Bench) (i : Nat) (change : Attachment → Attachment)
    (hsame : ∀ a, (change a).post = a.post) : (b.changeAttachment i change).scene = b.scene := by
  simp only [scene, changeAttachment, Table.map_modify_of_same _ _ _ _ hsame]

/-- Giving back the memory of a card that nobody uses any more. -/
theorem course_releaseUnused (b : Bench) (i : Nat) : Course grows b.scene (b.releaseUnused i).scene := by
  unfold releaseUnused
  split
  · split
    · rw [scene_changeAttachment]
      · exact b.course_changeCard i fun c => .refl c.device
      · exact fun _ => rfl
    · exact .refl
  · exact .refl

/-- Dropping a handle of a card. -/
theorem course_dropHandle (b : Bench) (i : Nat) : Course grows b.scene (b.dropHandle i).scene := by
  have hfewer := b.scene_changeAttachment i (fun a => { a with handles := a.handles - 1 }) fun _ => rfl
  unfold dropHandle
  dsimp only
  generalize (b.changeAttachment i fun a => { a with handles := a.handles - 1 }) = fewer at hfewer ⊢
  rw [← hfewer]
  split
  · split
    · exact (fewer.course_changeCard i Card.sameSession_detach).trans (course_releaseUnused _ i)
    · exact .refl
  · exact .refl

/-- Taking a card out of the registry. -/
theorem course_remove (b : Bench) (i : Nat) : Course grows b.scene (b.remove i).scene := by
  unfold remove
  exact (b.course_changeCard i Card.sameSession_detach).trans (course_dropHandle (noteModule _ _ _) i)

/-- Detaching all cards of the registry. -/
theorem course_detachAll (b : Bench) (r : Registry) : Course grows b.scene (b.detachAll r).scene := by
  have hall (is : List Nat) (b : Bench) : Course grows b.scene (is.foldl remove b).scene := by
    induction is generalizing b with
    | nil => exact .refl
    | cons i rest ih => exact (b.course_remove i).trans (ih _)
  exact hall r.cards { b with registry := some r.clearAll }

/-- Giving up the registry. -/
theorem course_dropRegistry (b : Bench) : Course grows b.scene b.dropRegistry.scene := by
  unfold dropRegistry
  split
  · exact b.course_detachAll _
  · exact .refl

/-- Detaching the card of a slot, or refusing to. -/
theorem course_detachSlot (b : Bench) (r : Registry) (slot : Nat) :
    Course grows b.scene (b.detachSlot r slot).2.scene := by
  unfold detachSlot
  split
  · exact .refl
  · split
    · exact .refl
    · exact ({ b with registry := some (r.clear slot) } : Bench).course_remove _

/-- Attaching a driver, whether it succeeds or not. -/
theorem course_attach {sim : Nat} {name : String} {slot : Nat} {config : Config} {baseHdwr baseLen : Nat}
    {apart : Option Nat} {done : Except (Setback CardError) Nat × Bench}
    (hdone : b.attach sim name slot config baseHdwr baseLen apart = some done) : Course true b.scene done.2.scene := by
  obtain ⟨s, hs, hdone⟩ := Option.bind_eq_some_iff.mp hdone
  have hput (h : Host Board) : (b.putHost sim apart h).scene = b.scene := by
    rw [scene, addresses_putHost]
    rfl
  have hsim : b.scene.sims[sim]? = some s.address := by rw [scene, Array.getElem?_map, hs, Option.map_some]
  generalize hattach : Device.attach (b.hostFor s apart) name s.address baseHdwr baseLen config = attached at hdone
  obtain ⟨result, h⟩ := attached
  cases result with
  | error e =>
    obtain rfl := Option.some.inj hdone
    exact .of_eq (hput h)
  | ok d =>
    obtain rfl := Option.some.inj hdone
    obtain ⟨-, txPool, rxPool, _, _, -, -, rfl, -⟩ := Device.attach_cases hattach
    have hpushed (a : Attachment) :
        ({ b.putHost sim apart h with attachments := b.attachments.push a } : Bench).scene =
          { b.scene with posts := b.scene.posts.push a.post } := by
      rw [← hput h]
      simp only [scene, Array.map_push]
      rfl
    exact (hpushed _).symm ▸ .single (.attached rfl hsim rfl (Ring.toList_new _) rfl)

/-- Adding a simulated card. -/
theorem course_addSim (b : Bench) (address : PciAddress) : Course grows b.scene (b.addSim address).scene := by
  have hmore : (b.addSim address).scene = { b.scene with sims := b.scene.sims.push address } := by
    simp only [scene, addSim, Array.map_push]
  exact hmore.symm ▸ .single (.grown address)

/-- Probing a card, whether a driver is attached or not. -/
theorem course_probe (b : Bench) (r : Registry) (sim : Nat) (address : PciAddress)
    (vendor device baseHdwr baseLen : Nat) (apart : Option Nat) :
    Course true b.scene (b.probe r sim address vendor device baseHdwr baseLen apart).2.scene := by
  unfold probe
  split
  · exact .refl
  · split
    · exact .refl
    · split
      · exact .refl
      · split
        · exact .refl
        · rename_i hattach
          exact course_attach hattach
        · rename_i card b' hattach
          have hattached := course_attach hattach
          exact hattached

/-- Showing a card is of no session. -/
theorem scene_showCard (b : Bench) (i : Option Nat) (keep : Bool) : (b.showCard i keep).2.scene = b.scene := by
  unfold showCard
  split
  · rfl
  · split
    · exact b.scene_changeAttachment _ (fun a => { a with handles := a.handles + 1 }) fun _ => rfl
    · rfl

/-! ## Sessions -/

/-- Opening a card fails and changes at most the journal, or there is a new session. -/
theorem openSession_ends {i : Nat} {a : Attachment} {s : Sim} (ha : b.attachments[i]? = some a)
    (hs : b.sims[a.sim]? = some s) (nonblock : Bool) :
    (∃ e journal, b.openSession i nonblock =
        some (.error e, b.putCard i a ⟨{ b.hostFor s a.apart with journal := journal }, a.device⟩) ∧
        (a.device.detached = true ∧ e = .noDevice ∨
          a.device.detached = false ∧ a.device.isOpen = true ∧ e = .busy)) ∨
      (a.device.detached = false ∧ a.device.isOpen = false ∧ ∃ journal w,
        w = b.putCard i a
          ⟨{ b.hostFor s a.apart with journal := journal }, { a.device with isOpen := true, signal := false }⟩ ∧
        b.openSession i nonblock =
          some (.ok w.sessions.size,
            { w.changeAttachment i fun a => { a with sessions := a.sessions + 1 } with
              sessions := w.sessions.push ⟨i, nonblock, true, 0⟩ })) := by
  have hwork := b.onCard_eq_bind i fun c : Card Board => c.openSession nonblock
  rw [ha, Option.bind_some, hs, Option.map_some] at hwork
  have hopen : b.openSession i nonblock = Option.bind (b.onCard i fun c => c.openSession nonblock) _ := rfl
  rw [hwork, Option.bind_some] at hopen
  rcases Card.openSession_cases ⟨b.hostFor s a.apart, a.device⟩ nonblock with
    ⟨hdetached, hcase⟩ | ⟨hattached, hbusy, journal, hcase⟩ | ⟨hattached, hfree, journal, hcase⟩
  · rw [hcase] at hopen
    exact .inl ⟨_, _, hopen, .inl ⟨hdetached, rfl⟩⟩
  · rw [hcase] at hopen
    exact .inl ⟨_, journal, hopen, .inr ⟨hattached, hbusy, rfl⟩⟩
  · rw [hcase] at hopen
    exact .inr ⟨hattached, hfree, journal, _, rfl, hopen⟩

/-- Opening an attached card, whether it succeeds or not. -/
theorem course_openSession {i : Nat} {nonblock : Bool} {done : Except CardError Nat × Bench}
    (hdone : b.openSession i nonblock = some done) : Course grows b.scene done.2.scene := by
  obtain ⟨⟨result, b₁⟩, hopen, -⟩ := Option.bind_eq_some_iff.mp hdone
  rw [onCard_eq_bind] at hopen
  obtain ⟨a, ha, hopen⟩ := Option.bind_eq_some_iff.mp hopen
  obtain ⟨s, hs, -⟩ := Option.map_eq_some_iff.mp hopen
  have hpost : b.scene.posts[i]? = some a.post := post_of_attachment ha
  rcases openSession_ends ha hs nonblock with ⟨e, journal, hend, -⟩ | ⟨-, hclosed, journal, w, hw, hend⟩
  · obtain rfl := Option.some.inj (hdone.symm.trans hend)
    dsimp only
    rw [scene_putCard]
    exact .single (.used hpost { Device.SameSession.refl a.device with })
  · obtain rfl := Option.some.inj (hdone.symm.trans hend)
    have hput := b.scene_putCard i a
      ⟨{ b.hostFor s a.apart with journal := journal }, { a.device with isOpen := true, signal := false }⟩
    rw [← hw] at hput
    have hseated : Course grows b.scene { w.scene with seats := w.scene.seats.push ⟨i, true⟩ } := by
      rw [hput]
      exact .single (.opened hpost hclosed)
    rw [← w.scene_changeAttachment i (fun a => { a with sessions := a.sessions + 1 }) fun _ => rfl] at hseated
    simp only [scene, changeAttachment, Array.map_push] at hseated ⊢
    exact hseated

/-- The seat of a session that ends stays its own. -/
theorem seats_close {sessions : Array Session} {id i : Nat}
    (hseat : (sessions.map Session.seat)[id]? = some ⟨i, true⟩) :
    (sessions.modify id fun x => { x with isOpen := false }).map Session.seat =
      (sessions.map Session.seat).setIfInBounds id ⟨i, false⟩ := by
  rw [Array.getElem?_map] at hseat
  obtain ⟨x, hx, hsame⟩ := Option.map_eq_some_iff.mp hseat
  have hattachment : x.attachment = i := congrArg Seat.attachment hsame
  rw [Table.modify_eq _ hx, Array.map_setIfInBounds, ← hattachment]
  rfl

/-- Closing an open session. -/
theorem course_closeSession (hplaced : b.scene.Placed) {id : Nat} {x : Session} (hx : b.sessionOf id = some x) :
    Course grows b.scene (b.closeSession id).scene := by
  obtain ⟨hid, -⟩ := Option.filter_eq_some_iff.mp hx
  obtain ⟨a, ha⟩ := exists_attachment_of_placed hplaced hid
  obtain ⟨s, hs, -⟩ := exists_sim_of_placed hplaced ha
  have hpost : b.scene.posts[x.attachment]? = some a.post := post_of_attachment ha
  have hseat := seat_of_session hx
  set c := Card.closeSession ⟨b.hostFor s a.apart, a.device⟩ with hc
  obtain ⟨hunread, hdevice⟩ := Card.device_closeSession ⟨b.hostFor s a.apart, a.device⟩
  rw [← hc] at hunread hdevice
  have hended : ({ c.device with notices := [] } : Device) =
      { a.device with
        rxReady := c.device.rxReady
        isOpen := false
        listener := none
        signal := false
        droppedClosed := c.device.droppedClosed
        notices := [] } := congrArg (fun d : Device => { d with notices := [] }) hdevice
  set w := b.putCard x.attachment a c with hw
  have hchanged : b.changeCard x.attachment Card.closeSession = w := by
    rw [changeCard, onCard_eq_bind, ha, Option.bind_some, hs, Option.map_some]
  have hput := b.scene_putCard x.attachment a c
  rw [← hw, hended] at hput
  have hclosed : Course grows b.scene
      { w.scene with seats := w.scene.seats.setIfInBounds id ⟨x.attachment, false⟩ } := by
    rw [hput]
    exact .single (.closed hpost hseat hunread)
  have hleft : ({ w with sessions := w.sessions.modify id fun x => { x with isOpen := false } } : Bench).scene =
      { w.scene with seats := w.scene.seats.setIfInBounds id ⟨x.attachment, false⟩ } := by
    have hkept : w.scene.seats[id]? = some ⟨x.attachment, true⟩ := by rw [hput, ← hseat]
    rw [scene, seats_close hkept]
    rfl
  unfold closeSession
  rw [hid]
  dsimp only
  rw [hchanged]
  refine .trans ?_ (course_releaseUnused _ x.attachment)
  rw [scene_changeAttachment, hleft]
  · exact hclosed
  · exact fun _ => rfl

/-- A call of a session, which opens and closes none. -/
theorem course_call (b : Bench) (x : Session) (patience : Patience) (c : Call) :
    Course grows b.scene (b.call x patience c).2.scene := by
  unfold call
  split
  · rename_i hdone
    exact course_onCard (fun card => card.sameSession_makeCall b.memory patience c) hdone
  · exact .refl

/-- Raising the cancellation signal of a card. -/
theorem course_interrupt (b : Bench) (i : Nat) : Course grows b.scene (b.changeCard i Card.interruptSession).scene :=
  b.course_changeCard i fun c => { Device.SameSession.refl c.device with }

/-- What happens while a call waits. -/
theorem course_happen (b : Bench) (i sim : Nat) (m : Meanwhile) : Course grows b.scene (b.happen i sim m).scene := by
  have hcalm {b' : Bench} (hchanged : Course grows b.scene b'.scene) :
      Course grows b.scene ({ b'.settle with journal := b.journal } : Bench).scene := hchanged.trans b'.course_settle
  cases m with
  | interrupt => exact hcalm (b.course_interrupt i)
  | injectRx | injectTx | release => exact hcalm (.of_eq (b.scene_changeSim sim _))
  | detach card =>
    apply hcalm
    dsimp only
    split
    · exact b.course_changeCard _ Card.sameSession_detach
    · exact .refl

/-- A call during which something happens. -/
theorem course_callDuring (b : Bench) (x : Session) (sim : Nat) (c : Call) (m : Meanwhile) :
    Course grows b.scene (b.callDuring x sim c m).2.scene := by
  have hcall : Course grows b.scene _ := b.course_call x (.ofNonblock x.nonblock) c
  unfold callDuring
  generalize b.call x (.ofNonblock x.nonblock) c = done at hcall ⊢
  obtain ⟨outcome, b'⟩ := done
  have hhappen : Course grows b'.scene _ := b'.course_happen x.attachment sim m
  cases outcome with
  | asleep => exact (hcall.trans hhappen).trans (course_call _ x .woken c)
  | _ => exact hcall.trans hhappen

/-- A call that is cancelled where nothing would end it. -/
theorem course_guardedCall (b : Bench) (x : Session) (c : Call) (meanwhile : Option Meanwhile) :
    Course grows b.scene (b.guardedCall x c meanwhile).2.scene := by
  unfold guardedCall
  split
  · exact .refl
  · split
    · exact .refl
    · split
      · cases meanwhile with
        | some m => exact b.course_callDuring x _ c m
        | none => exact (b.course_interrupt x.attachment).trans (course_call _ x _ c)
      · exact b.course_call x _ c

/-- Who is told of frames is said by an open session. -/
theorem course_notify {id : Nat} {x : Session} (hx : b.sessionOf id = some x) (listener : Option Nat) :
    Course grows b.scene (b.changeCard x.attachment fun c => c.setListener listener).scene := by
  have hseat := seat_of_session hx
  unfold changeCard
  rw [onCard_eq_bind]
  cases ha : b.attachments[x.attachment]? with
  | none => exact .refl
  | some a =>
    have hpost : b.scene.posts[x.attachment]? = some a.post := post_of_attachment ha
    rw [Option.bind_some]
    cases b.sims[a.sim]? with
    | none => exact .refl
    | some s =>
      rw [Option.map_some]
      dsimp only
      rw [scene_putCard, Card.device_setListener]
      exact .single (.listened listener hpost hseat)

/-! ## Every step -/

/-- A step that may be refused, which changes nothing. -/
theorem course_orRefuse (b : Bench) (r : Refusal) {answer : Option (Outcome × Bench)}
    (hanswer : ∀ done, answer = some done → Course grows b.scene done.2.scene) :
    Course grows b.scene (b.orRefuse r answer).2.scene := by
  unfold orRefuse
  cases answer with
  | none => exact .refl
  | some done => exact hanswer done rfl

/-- Work on the registry, if there is one. -/
theorem course_withRegistry (b : Bench) {work : Registry → Outcome × Bench}
    (hwork : ∀ r, Course grows b.scene (work r).2.scene) : Course grows b.scene (b.withRegistry work).2.scene := by
  unfold withRegistry
  split
  · exact hwork _
  · exact .refl

/-- Work on a card that a reference leads to. -/
theorem course_withCard (b : Bench) (card : Nat) {work : Card Board → Outcome × Card Board}
    (hwork : ∀ c : Card Board, c.device.SameSession (work c).2.device) :
    Course grows b.scene (b.withCard card work).2.scene := by
  refine b.course_orRefuse _ fun done hdone => ?_
  obtain ⟨i, -, hdone⟩ := Option.bind_eq_some_iff.mp hdone
  exact course_onCard hwork hdone

/-- A look at a simulated card is of no session. -/
theorem scene_viewSim (b : Bench) (sim : Nat) (view : Host Board → Outcome) :
    (b.viewSim sim view).2.scene = b.scene := by
  unfold viewSim
  split <;> rfl

/-- Nor is the status of registers that are plain memory. -/
theorem scene_flatStatus (b : Bench) (regs : List (Nat × Word)) (config : Config) :
    (b.flatStatus regs config).2.scene = b.scene := by
  unfold flatStatus
  dsimp only
  split <;> rfl

/-- Opening an attached card for a step. -/
theorem course_openAttachment {i : Nat} {nonblock : Bool} {done : Outcome × Bench}
    (hdone : b.openAttachment i nonblock = some done) : Course grows b.scene done.2.scene := by
  obtain ⟨⟨result, b'⟩, hopen, rfl⟩ := Option.map_eq_some_iff.mp hdone
  exact course_openSession hopen

/-- Registers are mapped for a session. -/
theorem course_mapStep (b : Bench) (id : Nat) (x : Session) (length : Nat) (readable writable : Bool) :
    Course grows b.scene (b.sessionStep id x (.map length readable writable)).2.scene := by
  refine b.course_orRefuse _ fun done hdone => ?_
  obtain ⟨a, -, hdone⟩ := Option.bind_eq_some_iff.mp hdone
  obtain ⟨⟨result, b'⟩, hmap, hdone⟩ := Option.bind_eq_some_iff.mp hdone
  have hmapped : Course grows b.scene b'.scene :=
    course_onCard (fun c => by rw [c.device_mapRegisters]; exact .refl _) hmap
  cases result <;> obtain rfl := Option.some.inj hdone <;> exact hmapped

/-- Whatever a session does. -/
theorem course_sessionStep (hplaced : b.scene.Placed) {id : Nat} {x : Session} (hx : b.sessionOf id = some x)
    (step : SessionStep) : Course grows b.scene (b.sessionStep id x step).2.scene := by
  have hcard {work : Card Board → Outcome × Card Board}
      (hwork : ∀ c : Card Board, c.device.SameSession (work c).2.device) :
      Course grows b.scene (b.orRefuse .noSession (b.onCard x.attachment work)).2.scene :=
    b.course_orRefuse _ fun _ hdone => course_onCard hwork hdone
  cases step with
  | close => exact course_closeSession hplaced hx
  | flags => exact .refl
  | setFlags nonblock =>
    have hkept := Table.map_modify_of_same b.sessions id (fun x => { x with nonblock := nonblock }) Session.seat fun _ => rfl
    exact .of_eq (congrArg (fun seats => { b.scene with seats := seats }) hkept)
  | call c meanwhile => exact b.course_guardedCall x c meanwhile
  | control command arg => exact hcard fun c => c.sameSession_control command arg
  | poll => exact hcard fun c => .refl c.device
  | interrupt => exact b.course_interrupt x.attachment
  | interrupter => exact .refl
  | notify on => exact course_notify hx _
  | map length readable writable => exact b.course_mapStep id x length readable writable
  | status => exact hcard fun c => .refl c.device
  | diagnostics => exact hcard fun c => .refl c.device

/-- A driver is attached for a caller. -/
theorem course_attachStep (b : Bench) (sim : Nat) (config : Config) (name : String) (slot : Nat) (r : Resources) :
    Course true b.scene (b.act (.attach sim config name slot r)).2.scene := by
  unfold act
  dsimp only
  split
  · exact .refl
  · refine b.course_orRefuse _ fun done hdone => ?_
    obtain ⟨⟨result, b'⟩, hattach, hdone⟩ := Option.bind_eq_some_iff.mp hdone
    have hattached := course_attach hattach
    cases result <;> obtain rfl := Option.some.inj hdone <;> exact hattached

/-- Whatever is done on a bench comes to episodes. -/
theorem course_act (hplaced : b.scene.Placed) (step : Step) :
    Course step.attaches b.scene (b.act step).2.scene := by
  have hsim {grows : Bool} {sim : Nat} {work : Host Board → Outcome × Host Board} :
      Course grows b.scene (b.orRefuse .noSim (b.onSim sim work)).2.scene :=
    b.course_orRefuse _ fun _ hdone => .of_eq (scene_onSim hdone)
  have hwindow {grows : Bool} (k : Nat) {work : BenchWindow → Host Board → Outcome × Host Board} :
      Course grows b.scene (b.orRefuse .noWindow ((b.windows[k]?).bind fun w => b.onSim w.sim (work w))).2.scene := by
    refine b.course_orRefuse _ fun done hdone => ?_
    obtain ⟨w, -, hdone⟩ := Option.bind_eq_some_iff.mp hdone
    exact .of_eq (scene_onSim hdone)
  have hview {grows : Bool} {sim : Nat} {view : Host Board → Outcome} :
      Course grows b.scene (b.viewSim sim view).2.scene := .of_eq (b.scene_viewSim sim view)
  cases step with
  | addSim address => exact b.course_addSim address
  | peek | freeFifo | writeCount | dmaRead | simStats => exact hview
  | poke sim offset value =>
    unfold act
    dsimp only
    split
    · exact .refl
    · exact b.course_changeSimTimes sim 1 _
  | bus sim offset times a =>
    cases a with
    | read | offset => exact hsim
    | _ => exact b.course_changeSimTimes sim times _
  | register sim name index a =>
    unfold act
    dsimp only
    repeat' split
    all_goals first | exact .refl | exact hsim
  | takeFree | dmaWrite => exact hsim
  | hold sim | raiseIrq sim => exact b.course_changeSimTimes sim 1 _
  | injectRx sim times | injectTx sim times => exact b.course_changeSimTimes sim times _
  | addAllocator | memInsert => exact .refl
  | allocatorStats | memRead | windowInfo | notified =>
    unfold act
    dsimp only
    split <;> exact .refl
  | memStatus addr length =>
    unfold act
    dsimp only
    split
    · exact .refl
    · split <;> exact .refl
  | attach sim config name slot r => exact b.course_attachStep sim config name slot r
  | dropCard card =>
    unfold act
    dsimp only
    split
    · exact ({ b with cards := b.cards.setIfInBounds card none } : Bench).course_dropHandle _
    · exact .refl
  | cardInfo card =>
    unfold act
    dsimp only
    split <;> exact .refl
  | cardDetach card => exact b.course_withCard card Card.sameSession_detach
  | cardDiagnostics card | cardStatus card => exact b.course_withCard card fun c => .refl c.device
  | openCard card nonblock =>
    refine b.course_orRefuse _ fun done hdone => ?_
    obtain ⟨i, -, hdone⟩ := Option.bind_eq_some_iff.mp hdone
    exact course_openAttachment hdone
  | registry config =>
    unfold act
    dsimp only
    split
    · exact .refl
    · exact b.course_dropRegistry
  | dropRegistry => exact b.course_dropRegistry
  | probe sim vendor device r =>
    refine b.course_withRegistry fun registry => ?_
    split
    · exact .refl
    · rename_i s _
      split
      · exact .refl
      · have hprobed := b.course_probe registry sim s.address vendor device r.baseHdwr r.baseLen r.apart
        generalize b.probe registry sim s.address vendor device r.baseHdwr r.baseLen r.apart = done at hprobed ⊢
        obtain ⟨result, b'⟩ := done
        cases result <;> exact hprobed
  | slotCard slot keep => exact b.course_withRegistry fun r => .of_eq (b.scene_showCard _ keep)
  | findCard address keep => exact b.course_withRegistry fun r => .of_eq (b.scene_showCard _ keep)
  | openSlot slot nonblock =>
    refine b.course_withRegistry fun r => ?_
    split
    · rename_i hdone
      obtain ⟨i, -, hdone⟩ := Option.bind_eq_some_iff.mp hdone
      exact course_openAttachment hdone
    · exact .refl
  | detachSlot slot => exact b.course_withRegistry fun r => b.course_detachSlot r slot
  | detachAll => exact b.course_withRegistry fun r => b.course_detachAll r
  | slotCount => exact b.course_withRegistry fun r => .refl
  | windowRead k | windowWrite k => exact hwindow k
  | fire k =>
    unfold act
    dsimp only
    split
    · exact b.course_interrupt _
    · exact .refl
  | flatStatus regs config => exact .of_eq (b.scene_flatStatus regs config)
  | session id step =>
    unfold act
    dsimp only
    split
    · rename_i hx
      exact course_sessionStep hplaced hx step
    · exact .refl

/-- So does a step with the interrupts that are handled after it. -/
theorem course_play (hplaced : b.scene.Placed) (step : Step) :
    Course step.attaches b.scene (b.play step).2.scene := by
  have hacted := course_act (b := { b with journal := #[], irqJournal := #[] }) hplaced step
  exact hacted.trans (course_settle _)

/-- On an empty bench everything is placed. -/
theorem placed_empty : empty.scene.Placed where
  posts i p hp := by simp [scene, empty] at hp
  seats id seat hseat := by simp [scene, empty] at hseat

/-- So do any number of steps. -/
theorem course_playAll (hplaced : b.scene.Placed) (steps : List Step) :
    Course true b.scene (b.playAll steps).scene := by
  induction steps generalizing b with
  | nil => exact .refl
  | cons step rest ih =>
    have hfirst := course_play hplaced step
    exact hfirst.mono.trans (ih (hfirst.placed hplaced))

end Bench

end LaneCard
