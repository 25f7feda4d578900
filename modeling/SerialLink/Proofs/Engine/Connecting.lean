import SerialLink.Proofs.Engine.Lifecycle

/-!
# What connecting leaves

A call of `connect` looks whether the link is open before it closes the one that was attached. As
long as these are two links, the one that is attached is open behind the call and the other is
closed. When they are one link, the call closes the link that it attaches, and succeeds
(`connect_leaves_open_unless_attached`, `attached_link_is_closed_by_connect`).
-/

namespace SerialLink

namespace Engine

variable {σ : Type} {e e' first : Engine σ} {past : List (Moment σ)} {id other : Nat}

/-- The engine's end of a link is open. -/
def Open (e : Engine σ) (id : Nat) : Prop :=
  ∃ link, e.link? id = some link ∧ link.near.isOpen = true

theorem Closed.not_open (closed : e.Closed id) : ¬e.Open id := by
  rintro ⟨link, known, isOpen⟩
  obtain ⟨link', known', shut⟩ := closed
  obtain rfl : link = link' := Option.some.inj (known.symm.trans known')
  rw [isOpen] at shut
  cases shut

/-- Closing a link does nothing to the others. -/
theorem link?_closeLink_of_ne (e : Engine σ) (apart : other ≠ id) :
    (e.closeLink other).link? id = e.link? id := by
  simp [closeLink, updateLink, link?, apart]

theorem link?_closeAttached (e : Engine σ) (apart : e.attached ≠ some id) :
    e.closeAttached.link? id = e.link? id := by
  unfold closeAttached
  cases attached : e.attached with
  | none => rfl
  | some previous =>
    refine link?_closeLink_of_ne e fun same => apart ?_
    rw [attached, same]

/-- What a call of `connect` that has succeeded makes of an engine. -/
structure Connects (e : Engine σ) (id : Nat) (e' : Engine σ) : Prop where
  /-- it found the link open -/
  found : e.Open id
  attached : e'.attached = some id
  writer : e'.writer = some id
  connected : e'.connected = true
  /-- another link that was attached is closed -/
  previous : ∀ other, e.attached = some other → other ≠ id → e'.Closed other
  /-- the link is open still unless it was the one that was attached -/
  opened : e'.Open id ↔ e.attached ≠ some id

/-- **A link stays open that is connected, unless it was connected before.** Whatever an engine has
been through, a call of `connect` that succeeds was given an open link and attaches it; the engine
counts as connected and sends on this link, and another link that was attached is closed. The link
itself is open behind the call exactly when it was not attached already: what was attached is closed,
be it the same. -/
theorem connect_leaves_open_unless_attached (runs : Runs first past e) (sound : first.Sound)
    (done : e.connect id = (.ok (), e')) : Connects e id e' := by
  obtain ⟨fails, -⟩ | ⟨-, -, found, rfl⟩ := cases_of_connect done
  · cases fails
  have attached : e.collect.2.attached = e.attached := by rw [collect_eq]
  have links (other : Nat) : e.collect.2.link? other = e.link? other := by
    rw [collect_eq]
    rfl
  have closes (other : Nat) (here : e.attached = some other) :
      Closed { e.collect.2.closeAttached with
        attached := some id, writer := some id, connected := true } other := by
    have known := (runs.sound sound).known other here
    rw [← links] at known
    exact e.collect.2.shut_closeAttached.closed other (attached.trans here) known
  refine ⟨found, rfl, rfl, rfl, fun other here _ => closes other here, ?_⟩
  constructor
  · intro opened here
    exact (closes id here).not_open opened
  · intro apart
    obtain ⟨link, known, isOpen⟩ := found
    refine ⟨link, ?_, isOpen⟩
    change e.collect.2.closeAttached.link? id = some link
    rw [link?_closeAttached _ (attached ▸ apart), links, known]

/-- A link that is connected a second time is closed by the call, which succeeds, and the next
session on it ends at once. -/
theorem attached_link_is_closed_by_connect :
    let first : Engine Nat := { state := 0, links := [Link.pair] }
    let e := (first.connect 0).2
    let again := (e.connect 0).2
    Runs first [⟨first, .connect 0⟩] e ∧ e.Open 0 ∧ (e.connect 0).1 = .ok () ∧
      again.attached = some 0 ∧ again.connected = true ∧ ¬again.Open 0 ∧
      again.start.2.settle.worker =
        .finished ⟨{}, 0, .connectionLost "connection closed"⟩ := by
  intro first e again
  have runs : Runs first [⟨first, .connect 0⟩] e := .snoc .nil (.connect first 0)
  have closed : again.Closed 0 := ⟨_, rfl, rfl⟩
  refine ⟨runs, ⟨_, rfl, rfl⟩, rfl, rfl, rfl, closed.not_open, ?_⟩
  decide +kernel

end Engine

end SerialLink
