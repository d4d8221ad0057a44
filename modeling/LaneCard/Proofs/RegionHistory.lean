import LaneCard.Bench.Regions
import LaneCard.Proofs.Accounts
import LaneCard.Proofs.Tables
import Mathlib.Data.List.Induction

/-!
# What becomes of regions

Several allocators, whose windows may overlap, and the regions they have handed out. A region may be given
to any of the allocators, once. A course is all that happened to the regions of a bench, the newest first,
and the bench as it is then.

An allocator goes by bus address when it gets a region. `standing` follows that through the events: what was
created stays until some region with its address comes. `owed` is what one would expect instead, that a
region stays until it comes back itself. Both agree as long as no allocator gets a region that it did not
create at an address where one of its own is live; `Mistaken` says that this has happened.
-/

namespace LaneCard

namespace RegionBench

/-- What is done with allocators and regions. Reading is left out: it changes nothing. -/
inductive Act where
  | allocate (k size : Nat)
  | release (k id : Nat)
  | write (id offset : Nat) (data : Bytes)
  | clear (id : Nat)
  | busWrite (k addr : Nat) (data : Bytes)

/-- What happens to a region: one of the allocators creates it, or gets it. -/
inductive Event where
  | created (k : Nat) (r : Region)
  | given (k : Nat) (r : Region)
  deriving Repr, DecidableEq

/-- The bench after an act. What is refused or fails leaves it as it was. -/
def act (b : RegionBench) : Act → RegionBench
  | .allocate k size =>
    match b.allocate? k size with
    | some (_, c) => c
    | none => b
  | .release k id => (b.release? k id).getD b
  | .write id offset data =>
    match b.write? id offset data with
    | some (.ok c) => c
    | _ => b
  | .clear id => (b.clear? id).getD b
  | .busWrite k addr data => (b.busWrite k addr data).getD b

/-- What happens to a region by an act, if anything. -/
def event? (b : RegionBench) : Act → Option Event
  | .allocate k size =>
    match b.allocate? k size with
    | some (.ok (_, r), _) => some (.created k r)
    | _ => none
  | .release k id => (b.release? k id).bind fun _ => (b.region? id).map (.given k)
  | .write _ _ _ | .clear _ | .busWrite _ _ _ => none

/-! ## What came of one act -/

section Results

variable {b c : RegionBench} {k id offset : Nat} {data : Bytes}

/-- A region that was created is the newest, and comes from the allocator that was asked. -/
theorem allocate?_ok {size : Nat} {r : Region} (h : b.allocate? k size = some (.ok (id, r), c)) :
    ∃ a a', b.allocators[k]? = some a ∧ a.allocate size = (.ok r, a') ∧ id = b.regions.size ∧
      c = { b with allocators := b.allocators.setIfInBounds k a', regions := b.regions.push (some r) } := by
  obtain ⟨a, ha, hresult⟩ := Option.map_eq_some_iff.mp h
  split at hresult
  · rcases hrequest : a.allocate size with ⟨_ | s, a'⟩
    · simp [hrequest] at hresult
    · simp only [hrequest, Prod.mk.injEq, Except.ok.injEq] at hresult
      obtain ⟨⟨rfl, rfl⟩, rfl⟩ := hresult
      exact ⟨a, a', ha, hrequest, rfl, rfl⟩
  · simp at hresult

/-- A request that came to nothing changes at most the allocator that was asked. -/
theorem allocate?_error {size : Nat} {e : Setback PlatformError} (h : b.allocate? k size = some (.error e, c)) :
    c = b ∨ ∃ a a' f, b.allocators[k]? = some a ∧ a.allocate size = (.error f, a') ∧
      c = { b with allocators := b.allocators.setIfInBounds k a' } := by
  obtain ⟨a, ha, hresult⟩ := Option.map_eq_some_iff.mp h
  split at hresult
  · rcases hrequest : a.allocate size with ⟨f | s, a'⟩
    · simp only [hrequest, Prod.mk.injEq] at hresult
      exact .inr ⟨a, a', f, ha, hrequest, hresult.2.symm⟩
    · simp [hrequest] at hresult
  · exact .inl (Prod.mk.inj hresult).2.symm

/-- A region with a number can be given to any of the allocators. -/
theorem release?_eq {a : Allocator} {r : Region} (hr : b.region? id = some r) (ha : b.allocators[k]? = some a) :
    b.release? k id =
      some
        { allocators := b.allocators.setIfInBounds k (a.release r).1
          regions := b.regions.setIfInBounds id none
          journal := b.journal ++ (a.release r).2.toArray } := by
  simp only [release?, hr, ha, Option.bind_eq_bind, Option.bind_some]

/-- A region that was given to an allocator has no number any more. -/
theorem release?_eq_some (h : b.release? k id = some c) :
    ∃ r a, b.region? id = some r ∧ b.allocators[k]? = some a ∧
      c =
        { allocators := b.allocators.setIfInBounds k (a.release r).1
          regions := b.regions.setIfInBounds id none
          journal := b.journal ++ (a.release r).2.toArray } := by
  obtain ⟨r, hr, h⟩ := Option.bind_eq_some_iff.mp h
  obtain ⟨a, ha, h⟩ := Option.bind_eq_some_iff.mp h
  exact ⟨r, a, hr, ha, (Option.some.inj h).symm⟩

/-- Data written through a region goes to the allocator that it came from. -/
theorem write?_ok (h : b.write? id offset data = some (.ok c)) :
    ∃ r a a', b.region? id = some r ∧ b.allocators[r.origin]? = some a ∧ a.write r offset data = .ok a' ∧
      c = { b with allocators := b.allocators.setIfInBounds r.origin a' } := by
  obtain ⟨r, hr, h⟩ := Option.bind_eq_some_iff.mp h
  obtain ⟨a, ha, h⟩ := Option.bind_eq_some_iff.mp h
  rcases hwrite : a.write r offset data with _ | a'
  · simp [hwrite, Except.map] at h
  · simp only [hwrite, Except.map, Option.some.injEq, Except.ok.injEq] at h
    exact ⟨r, a, a', hr, ha, hwrite, h.symm⟩

/-- So do zeros. -/
theorem clear?_eq_some (h : b.clear? id = some c) :
    ∃ r a, b.region? id = some r ∧ b.allocators[r.origin]? = some a ∧
      c = { b with allocators := b.allocators.setIfInBounds r.origin (a.clear r) } := by
  obtain ⟨r, hr, h⟩ := Option.bind_eq_some_iff.mp h
  obtain ⟨a, ha, h⟩ := Option.bind_eq_some_iff.mp h
  exact ⟨r, a, hr, ha, (Option.some.inj h).symm⟩

/-- Data written by bus address goes to the allocator whose bus it is. -/
theorem busWrite_eq_some {addr : Nat} (h : b.busWrite k addr data = some c) :
    ∃ a a', b.allocators[k]? = some a ∧ a.busWrite addr data = some a' ∧
      c = { b with allocators := b.allocators.setIfInBounds k a' } := by
  obtain ⟨a, ha, h⟩ := Option.bind_eq_some_iff.mp h
  obtain ⟨a', ha', h⟩ := Option.bind_eq_some_iff.mp h
  exact ⟨a, a', ha, ha', (Option.some.inj h).symm⟩

end Results

/-! ## What one act can do -/

/-- An allocator that was used without a region being created or released. -/
structure Used (a a' : Allocator) : Prop where
  reachable : a.Reachable → a'.Reachable
  origin : a'.origin = a.origin
  regions : a'.regions = a.regions
  allocated : a'.allocated = a.allocated

/-- The ways in which an act changes a bench, with what happens to a region. -/
inductive Move (b : RegionBench) : RegionBench → Option Event → Prop
  | nothing : Move b b none
  | used {k : Nat} {a a' : Allocator} : b.allocators[k]? = some a → Used a a' →
      Move b { b with allocators := b.allocators.setIfInBounds k a' } none
  | created {k size : Nat} {a a' : Allocator} {r : Region} :
      b.allocators[k]? = some a → a.allocate size = (.ok r, a') →
      Move b { b with allocators := b.allocators.setIfInBounds k a', regions := b.regions.push (some r) }
        (some (.created k r))
  | given {k id : Nat} {a : Allocator} {r : Region} {journal : Journal} :
      b.allocators[k]? = some a → b.region? id = some r →
      Move b
        { allocators := b.allocators.setIfInBounds k (a.release r).1
          regions := b.regions.setIfInBounds id none
          journal := journal }
        (some (.given k r))

namespace Used

variable {a a' : Allocator}

/-- A request that fails creates no region. -/
theorem of_allocate {size : Nat} {e : PlatformError} (h : a.allocate size = (.error e, a')) : Used a a' := by
  have hsame := Allocator.allocate_error h
  refine ⟨fun ha => ?_, by rw [hsame], ?_, by rw [hsame]⟩
  · have hreachable := ha.allocate size
    rwa [h] at hreachable
  · rw [Allocator.regions, Allocator.regions, hsame]

/-- Neither does changing memory. -/
theorem of_overwritten (hreachable : a.Reachable → a'.Reachable) (h : a.Overwritten a') : Used a a' where
  reachable := hreachable
  origin := by rw [h.same]
  regions := h.regions
  allocated := by rw [h.same]

/-- Writing to a region is a use of its memory. -/
theorem of_write {r : Region} {offset : Nat} {data : Bytes} (h : a.write r offset data = .ok a') : Used a a' :=
  of_overwritten (fun ha => ha.write h) (Allocator.overwritten_write h)

/-- So is clearing one. -/
theorem of_clear (a : Allocator) (r : Region) : Used a (a.clear r) :=
  of_overwritten (fun ha => ha.clear r) (a.overwritten_clear r)

/-- So is writing over the bus. -/
theorem of_busWrite {addr : Nat} {data : Bytes} (h : a.busWrite addr data = some a') : Used a a' :=
  of_overwritten (fun ha => ha.busWrite h) (Allocator.overwritten_busWrite h)

end Used

/-- An act changes a bench in one of these ways. -/
theorem move (b : RegionBench) (x : Act) : Move b (b.act x) (b.event? x) := by
  cases x with
  | allocate k size =>
    rw [act, event?]
    rcases hresult : b.allocate? k size with _ | ⟨e | ⟨id, r⟩, c⟩
    · exact .nothing
    · obtain rfl | ⟨a, a', f, ha, hrequest, rfl⟩ := allocate?_error hresult
      · exact .nothing
      · exact .used ha (.of_allocate hrequest)
    · obtain ⟨a, a', ha, hrequest, -, rfl⟩ := allocate?_ok hresult
      exact .created ha hrequest
  | release k id =>
    rw [act, event?]
    rcases hresult : b.release? k id with _ | c
    · exact .nothing
    · obtain ⟨r, a, hr, ha, rfl⟩ := release?_eq_some hresult
      rw [Option.bind_some, hr]
      exact .given ha hr
  | write id offset data =>
    rw [act, event?]
    rcases hresult : b.write? id offset data with _ | e | c
    · exact .nothing
    · exact .nothing
    · obtain ⟨r, a, a', -, ha, hwrite, rfl⟩ := write?_ok hresult
      exact .used ha (.of_write hwrite)
  | clear id =>
    rw [act, event?]
    rcases hresult : b.clear? id with _ | c
    · exact .nothing
    · obtain ⟨r, a, -, ha, rfl⟩ := clear?_eq_some hresult
      exact .used ha (.of_clear a r)
  | busWrite k addr data =>
    rw [act, event?]
    rcases hresult : b.busWrite k addr data with _ | c
    · exact .nothing
    · obtain ⟨a, a', ha, hwrite, rfl⟩ := busWrite_eq_some hresult
      exact .used ha (.of_busWrite hwrite)

/-! ## Courses -/

/-- What has happened on a bench, the newest first, and the bench. -/
structure Course where
  events : List Event
  bench : RegionBench

/-- The course after one more act. -/
def Course.next (s : Course) (x : Act) : Course := ⟨(s.bench.event? x).toList ++ s.events, s.bench.act x⟩

/-- The course of the given acts on new allocators over the given windows. -/
def play (windows : List (Nat × Nat)) (acts : List Act) : Course := acts.foldl Course.next ⟨[], new windows⟩

/-- The regions that an allocator has created, the newest first. -/
def creations (k : Nat) : List Event → List Region
  | [] => []
  | .created j r :: past => if j = k then r :: creations k past else creations k past
  | .given _ _ :: past => creations k past

/-- The regions that an allocator has created and that have not come back to it. -/
def owed (k : Nat) (events : List Event) : List Region :=
  (creations k events).filter fun r => Event.given k r ∉ events

/-- The regions that an allocator has created, without those at whose address it has got one since. -/
def standing (k : Nat) : List Event → List Region
  | [] => []
  | .created j r :: past => if j = k then r :: standing k past else standing k past
  | .given j r :: past => if j = k then (standing k past).filter fun s => s.bus != r.bus else standing k past

/-- An allocator got a region that it had not created, at an address where one of its own was out. -/
def Mistaken (k : Nat) : List Event → Prop
  | [] => False
  | .created _ _ :: past => Mistaken k past
  | .given j r :: past =>
    Mistaken k past ∨ (j = k ∧ Event.created k r ∉ past ∧ ∃ s ∈ owed k past, s.bus = r.bus)

instance decidableMistaken (k : Nat) : (events : List Event) → Decidable (Mistaken k events)
  | [] => inferInstanceAs (Decidable False)
  | .created _ _ :: past => decidableMistaken k past
  | .given j r :: past =>
    have := decidableMistaken k past
    inferInstanceAs (Decidable (Mistaken k past ∨
      (j = k ∧ Event.created k r ∉ past ∧ ∃ s ∈ owed k past, s.bus = r.bus)))

/-! ## What a course shows of the bench -/

/-- What is known of an allocator from the events. -/
structure Tracked (k : Nat) (events : List Event) (a : Allocator) : Prop where
  reachable : a.Reachable
  origin : a.origin = k
  numbered : ∀ r, .created k r ∈ events → r.serial < a.allocated
  regions : a.regions = standing k events

namespace Tracked

variable {k : Nat} {events : List Event} {a a' : Allocator}

/-- A new allocator has created nothing. -/
theorem new (k base limit : Nat) : Tracked k [] (Allocator.new k base limit) :=
  ⟨.new k base limit, rfl, nofun, rfl⟩

/-- Nothing is learnt from a use that creates and releases no region. -/
theorem used (h : Tracked k events a) (hused : Used a a') : Tracked k events a' :=
  ⟨hused.reachable h.reachable, hused.origin.trans h.origin, hused.allocated ▸ h.numbered,
    hused.regions.trans h.regions⟩

/-- A region that is created is marked with the number of the allocator and the next serial number. -/
theorem created (h : Tracked k events a) {size : Nat} {r : Region} (hrequest : a.allocate size = (.ok r, a')) :
    Tracked k (.created k r :: events) a' ∧ r.origin = k ∧ .created k r ∉ events := by
  obtain ⟨horigin, hserial, hmark⟩ := Allocator.allocate_marked hrequest
  obtain ⟨-, hallocated, -⟩ := Allocator.allocate_counted hrequest
  refine ⟨⟨?_, hmark.trans h.origin, fun s hs => ?_, ?_⟩, horigin.trans h.origin, fun hold => ?_⟩
  · have hreachable := h.reachable.allocate size
    rwa [hrequest] at hreachable
  · rw [hallocated]
    rcases List.mem_cons.mp hs with hnew | hold
    · obtain ⟨-, rfl⟩ := Event.created.inj hnew
      omega
    · have := h.numbered s hold
      omega
  · rw [(Allocator.regions_allocate hrequest).1, standing, if_pos rfl, h.regions]
  · have := h.numbered r hold
    omega

/-- What another allocator creates or gets does not matter. -/
theorem elsewhere (h : Tracked k events a) {j : Nat} (hj : j ≠ k) (r : Region) :
    Tracked k (.created j r :: events) a ∧ Tracked k (.given j r :: events) a := by
  refine ⟨⟨h.reachable, h.origin, fun s hs => ?_, ?_⟩, ⟨h.reachable, h.origin, fun s hs => ?_, ?_⟩⟩
  · rcases List.mem_cons.mp hs with hnew | hold
    · exact absurd (Event.created.inj hnew).1.symm hj
    · exact h.numbered s hold
  · rw [standing, if_neg hj, h.regions]
  · exact h.numbered s ((List.mem_cons.mp hs).resolve_left nofun)
  · rw [standing, if_neg hj, h.regions]

/-- Whatever region an allocator gets, the one at its address goes. -/
theorem given (h : Tracked k events a) (r : Region) : Tracked k (.given k r :: events) (a.release r).1 := by
  obtain ⟨hmark, hallocated⟩ := a.release_marked r
  refine ⟨h.reachable.release r, hmark.trans h.origin, fun s hs => ?_, ?_⟩
  · rw [hallocated]
    exact h.numbered s ((List.mem_cons.mp hs).resolve_left nofun)
  · rw [a.regions_release, standing, if_pos rfl, h.regions]

end Tracked

/-- What is known of a bench from the events. -/
structure Consistent (s : Course) : Prop where
  tracked : ∀ k a, s.bench.allocators[k]? = some a → Tracked k s.events a
  creator : ∀ k r, .created k r ∈ s.events → r.origin = k ∧ k < s.bench.allocators.size
  given : ∀ k r, .given k r ∈ s.events → .created r.origin r ∈ s.events
  /-- A region with a number was created, and has not been given to any allocator. -/
  held : ∀ id r, s.bench.region? id = some r → .created r.origin r ∈ s.events ∧ ∀ k, .given k r ∉ s.events
  kept : ∀ k r, .created k r ∈ s.events → (∀ j, .given j r ∉ s.events) → ∃ id, s.bench.region? id = some r
  distinct : ∀ i j r, s.bench.region? i = some r → s.bench.region? j = some r → i = j
  owed : ∀ k, ¬ Mistaken k s.events → standing k s.events = owed k s.events

/-- The number of a new region is new. -/
theorem region?_push (b : RegionBench) (allocators : Array Allocator) (r : Region) (id : Nat) :
    region? { b with allocators := allocators, regions := b.regions.push (some r) } id =
      if id = b.regions.size then some r else b.region? id := by
  rw [region?, Array.getElem?_push]
  split <;> rfl

/-- The next number is not in use. -/
theorem region?_size (b : RegionBench) : b.region? b.regions.size = none := by
  rw [region?, Array.getElem?_eq_none (Nat.le_refl _)]
  rfl

/-- A region that was given away has no number. -/
theorem region?_erase (b : RegionBench) (allocators : Array Allocator) (journal : Journal) (gone id : Nat) :
    region? ⟨allocators, b.regions.setIfInBounds gone none, journal⟩ id =
      if id = gone then none else b.region? id := by
  rw [region?, Array.getElem?_setIfInBounds]
  by_cases hid : gone = id
  · rw [if_pos hid, if_pos hid.symm]
    split <;> rfl
  · rw [if_neg hid, if_neg (Ne.symm hid)]
    rfl

/-- What an allocator has created and not got back is owed to it. -/
theorem mem_owed_iff {k : Nat} {events : List Event} {r : Region} :
    r ∈ owed k events ↔ .created k r ∈ events ∧ .given k r ∉ events := by
  have hcreations : r ∈ creations k events ↔ .created k r ∈ events := by
    induction events with
    | nil => simp [creations]
    | cons e past ih =>
      cases e with
      | created j x =>
        rw [creations, List.mem_cons, Event.created.injEq]
        split
        · rename_i hj
          rw [List.mem_cons, ih]
          simp [hj]
        · rename_i hj
          rw [ih]
          simp [Ne.symm hj]
      | given j x => rw [creations, ih, List.mem_cons, or_iff_right nofun]
  rw [owed, List.mem_filter, hcreations, decide_eq_true_eq]

namespace Consistent

variable {s : Course}

/-- Nothing has happened at first. -/
theorem new (windows : List (Nat × Nat)) : Consistent ⟨[], .new windows⟩ where
  tracked k a ha := by
    simp only [RegionBench.new, List.getElem?_toArray, List.getElem?_mapIdx] at ha
    obtain ⟨w, -, rfl⟩ := Option.map_eq_some_iff.mp ha
    exact .new k w.1 w.2
  creator := nofun
  given := nofun
  held id r hr := by simp [RegionBench.new, region?] at hr
  kept := nofun
  distinct i j r hr := by simp [RegionBench.new, region?] at hr
  owed _ _ := rfl

/-- A region that is created has never been given to an allocator before. -/
theorem not_given (h : Consistent s) {k : Nat} {r : Region} (hnew : .created k r ∉ s.events) (horigin : r.origin = k)
    (j : Nat) : .given j r ∉ s.events := fun hgiven => hnew (horigin ▸ h.given j r hgiven)

/-- A use that creates and releases no region changes nothing of what is known. -/
theorem used (h : Consistent s) {k : Nat} {a a' : Allocator} (ha : s.bench.allocators[k]? = some a)
    (hused : Used a a') :
    Consistent { s with bench := { s.bench with allocators := s.bench.allocators.setIfInBounds k a' } } :=
  { h with
    tracked := Table.forall_setIfInBounds h.tracked ((h.tracked k a ha).used hused)
    creator := by simpa using h.creator }

/-- A region is created. -/
theorem created (h : Consistent s) {k size : Nat} {a a' : Allocator} {r : Region}
    (ha : s.bench.allocators[k]? = some a) (hrequest : a.allocate size = (.ok r, a')) :
    Consistent
      ⟨.created k r :: s.events,
        { s.bench with
          allocators := s.bench.allocators.setIfInBounds k a'
          regions := s.bench.regions.push (some r) }⟩ := by
  obtain ⟨htracked, horigin, hnew⟩ := (h.tracked k a ha).created hrequest
  have hnever := h.not_given hnew horigin
  have hfresh (id : Nat) : s.bench.region? id ≠ some r := fun hr => hnew (horigin ▸ (h.held id r hr).1)
  have hout := s.bench.region?_size
  constructor
  case tracked =>
    exact Table.forall_setIfInBounds_of_ne (fun j x hj hx => ((h.tracked j x hx).elsewhere (Ne.symm hj) r).1) htracked
  case creator =>
    intro j x hx
    rcases List.mem_cons.mp hx with hx | hx
    · obtain ⟨rfl, rfl⟩ := Event.created.inj hx
      exact ⟨horigin, by simpa using (Array.getElem?_eq_some_iff.mp ha).1⟩
    · simpa using h.creator j x hx
  case given =>
    intro j x hx
    exact List.mem_cons_of_mem _ (h.given j x ((List.mem_cons.mp hx).resolve_left nofun))
  case held =>
    intro id x hx
    rw [region?_push] at hx
    split at hx
    · obtain rfl := Option.some.inj hx
      exact ⟨horigin ▸ List.mem_cons_self, fun j hj => hnever j ((List.mem_cons.mp hj).resolve_left nofun)⟩
    · obtain ⟨hcreated, hgiven⟩ := h.held id x hx
      exact ⟨List.mem_cons_of_mem _ hcreated, fun j hj => hgiven j ((List.mem_cons.mp hj).resolve_left nofun)⟩
  case kept =>
    intro j x hx hnone
    rcases List.mem_cons.mp hx with hx | hx
    · obtain ⟨-, rfl⟩ := Event.created.inj hx
      exact ⟨s.bench.regions.size, by rw [region?_push, if_pos rfl]⟩
    · obtain ⟨id, hid⟩ := h.kept j x hx fun i hi => hnone i (List.mem_cons_of_mem _ hi)
      refine ⟨id, ?_⟩
      rw [region?_push, if_neg, hid]
      rintro rfl
      rw [hout] at hid
      contradiction
  case distinct =>
    intro i j x hi hj
    rw [region?_push] at hi hj
    split at hi <;> split at hj
    · omega
    · exact absurd (hi ▸ hj) (hfresh j)
    · exact absurd (hj ▸ hi) (hfresh i)
    · exact h.distinct i j x hi hj
  case owed =>
    intro j hmistaken
    have hfilter (xs : List Region) : (xs.filter fun x => Event.given j x ∉ Event.created k r :: s.events) =
        xs.filter fun x => Event.given j x ∉ s.events := by
      refine List.filter_congr fun x _ => ?_
      simp
    rw [standing, RegionBench.owed, hfilter, creations]
    have hbefore := h.owed j hmistaken
    split
    · rw [List.filter_cons_of_pos (by simpa using hnever j), hbefore, RegionBench.owed]
    · exact hbefore

/-- A region is given to an allocator. -/
theorem released (h : Consistent s) {k id : Nat} {a : Allocator} {r : Region} (journal : Journal)
    (ha : s.bench.allocators[k]? = some a) (hr : s.bench.region? id = some r) :
    Consistent
      ⟨.given k r :: s.events,
        { allocators := s.bench.allocators.setIfInBounds k (a.release r).1
          regions := s.bench.regions.setIfInBounds id none
          journal := journal }⟩ := by
  obtain ⟨hcreated, hnever⟩ := h.held id r hr
  constructor
  case tracked =>
    exact Table.forall_setIfInBounds_of_ne (fun j x hj hx => ((h.tracked j x hx).elsewhere (Ne.symm hj) r).2)
      ((h.tracked k a ha).given r)
  case creator =>
    intro j x hx
    simpa using h.creator j x ((List.mem_cons.mp hx).resolve_left nofun)
  case given =>
    intro j x hx
    rcases List.mem_cons.mp hx with hx | hx
    · obtain ⟨-, rfl⟩ := Event.given.inj hx
      exact List.mem_cons_of_mem _ hcreated
    · exact List.mem_cons_of_mem _ (h.given j x hx)
  case held =>
    intro i x hx
    rw [region?_erase] at hx
    split at hx
    · contradiction
    · rename_i hi
      obtain ⟨hthere, hgiven⟩ := h.held i x hx
      refine ⟨List.mem_cons_of_mem _ hthere, fun j hj => ?_⟩
      rcases List.mem_cons.mp hj with hj | hj
      · obtain ⟨-, rfl⟩ := Event.given.inj hj
        exact hi (h.distinct i id x hx hr)
      · exact hgiven j hj
  case kept =>
    intro j x hx hnone
    have hbefore (i : Nat) : .given i x ∉ s.events := fun hi => hnone i (List.mem_cons_of_mem _ hi)
    obtain ⟨i, hi⟩ := h.kept j x ((List.mem_cons.mp hx).resolve_left nofun) hbefore
    refine ⟨i, ?_⟩
    rw [region?_erase, if_neg, hi]
    rintro rfl
    obtain rfl := Option.some.inj (hi.symm.trans hr)
    exact hnone k List.mem_cons_self
  case distinct =>
    intro i j x hi hj
    rw [region?_erase] at hi hj
    split at hi <;> split at hj
    · contradiction
    · contradiction
    · contradiction
    · exact h.distinct i j x hi hj
  case owed =>
    intro j hmistaken
    rw [Mistaken, not_or] at hmistaken
    have hbefore := h.owed j hmistaken.1
    have hfilter : RegionBench.owed j (.given k r :: s.events) =
        (RegionBench.owed j s.events).filter fun x => ¬ (k = j ∧ x = r) := by
      simp only [RegionBench.owed, creations, List.filter_filter]
      refine List.filter_congr fun x _ => ?_
      simp [eq_comm]
    rw [standing, hfilter, hbefore]
    by_cases hj : k = j
    · subst hj
      rw [if_pos rfl]
      refine List.filter_congr fun x hx => ?_
      by_cases hsame : x = r
      · simp [hsame]
      · -- A region that is owed and has the address of the one that comes would be that one.
        have hbus : x.bus ≠ r.bus := fun hbus => hsame <| by
          have hmine : .created k r ∈ s.events := by
            by_contra hforeign
            exact hmistaken.2 ⟨rfl, hforeign, x, hx, hbus⟩
          have hregions : a.regions = RegionBench.owed k s.events := (h.tracked k a ha).regions.trans hbefore
          have hr' : r ∈ a.regions := hregions ▸ mem_owed_iff.mpr ⟨hmine, hnever k⟩
          exact (h.tracked k a ha).reachable.accounted.wellFormed.region_eq (hregions ▸ hx) hr' hbus
        simp [hsame, hbus]
    · rw [if_neg hj, List.filter_eq_self.mpr]
      simp [hj]

/-- Every act leaves the bench in agreement with the events. -/
theorem next (h : Consistent s) (x : Act) : Consistent (s.next x) := by
  have hmove := s.bench.move x
  rw [Course.next]
  generalize s.bench.act x = b, s.bench.event? x = e at hmove
  cases hmove with
  | nothing => exact h
  | used ha hused => exact h.used ha hused
  | created ha hrequest => exact h.created ha hrequest
  | given ha hr => exact h.released _ ha hr

end Consistent

/-- The bench agrees with the events after any acts. -/
theorem consistent_play (windows : List (Nat × Nat)) (acts : List Act) : Consistent (play windows acts) := by
  induction acts using List.reverseRecOn with
  | nil => exact .new windows
  | append_singleton acts x ih =>
    rw [play, List.foldl_append]
    exact ih.next x

end RegionBench

end LaneCard
