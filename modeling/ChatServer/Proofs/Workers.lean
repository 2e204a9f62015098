import ChatServer.Connection.Worker
import ChatServer.Proofs.Cancellation

/-!
# Workers and the registry

What a worker does to the server when it opens its session and when it leaves,
and what others do to the sessions of the registry.

* `open_eq_ok`: an opened session is registered as its owner's, and is otherwise
  as it was.
* `Wired.attached_step`: a session has its link in the table until it is told to
  stop.
-/
namespace ChatServer.Delivery

def Traffic.isRegistration : Traffic → Bool
  | .register .. => true
  | _ => false

namespace Registry

/-- The session has the link, or is not registered any more and told to stop. -/
def Attached (r : Registry) (id : Uuid) (n : Nat) : Prop :=
  r.linkOf? id = some n ∨ r.linkOf? id = none ∧ r.cancelled? n = some true

/-- A session that is in the table before a step and not behind it was
removed. -/
theorem removal_of_linkOf? {r : Registry} {t : Traffic} {id : Uuid} {n : Nat}
    (h : r.linkOf? id = some n) (hgone : (r.step t).linkOf? id = none) : Removal r n t := by
  cases t with
  | register x userId =>
    rw [Registry.step, linkOf?, entryOf?_register] at hgone
    split at hgone
    · cases hgone
    · rw [← linkOf?, h] at hgone
      cases hgone
  | unregister x =>
    rw [Registry.step, linkOf?_unregister] at hgone
    split at hgone
    · next hid => exact .unregistered (hid ▸ h)
    · rw [h] at hgone
      cases hgone
  | deliver a frame =>
    refine .evicted h ?_
    rw [contains, Option.isSome_eq_false_iff, Option.isNone_iff_eq_none]
    exact Option.map_eq_none_iff.1 hgone
  | closeAll | take | shut | abandon =>
    have hsame : r.linkOf? id = none := hgone
    rw [h] at hsame
    cases hsame

/-- As long as a session is not registered again, it keeps its link, or is told
to stop with its removal. -/
theorem Wired.attached_step {r : Registry} (h : r.Wired) {id : Uuid} {n : Nat}
    (hn : n < r.links.length)
    (ha : r.Attached id n) {t : Traffic} (ht : ∀ userId, t ≠ .register id userId) :
    (r.step t).Attached id n := by
  cases hlink : (r.step t).linkOf? id with
  | some m =>
    obtain ⟨e, he, rfl⟩ := entryOf?_of_linkOf? hlink
    rcases entryOf?_step he with hold | ⟨userId, hregister, -⟩
    · have hold := linkOf?_of_entryOf? hold
      rcases ha with ha | ⟨ha, -⟩
      · exact .inl (hlink.trans (hold.symm.trans ha))
      · rw [hold] at ha
        cases ha
    · exact absurd hregister (ht userId)
  | none =>
    refine .inr ⟨hlink, (h.cancelled_step t hn).2 ?_⟩
    rcases ha with ha | ⟨-, ha⟩
    · exact .inr (.inr (removal_of_linkOf? ha hlink))
    · exact .inl ha

/-- A session that is not in the table does not come back unless it is
registered again. -/
theorem linkOf?_step_none {r : Registry} {id : Uuid} (h : r.linkOf? id = none) {t : Traffic}
    (ht : ∀ userId, t ≠ .register id userId) : (r.step t).linkOf? id = none := by
  rw [Option.eq_none_iff_forall_ne_some]
  intro m hm
  obtain ⟨e, he, -⟩ := entryOf?_of_linkOf? hm
  rcases entryOf?_step he with hold | ⟨userId, hregister, -⟩
  · rw [linkOf?_of_entryOf? hold] at h
    cases h
  · exact ht userId hregister

theorem capacity_foldl_unregister (ids : List Uuid) (r : Registry) :
    (ids.foldl (fun r id => (r.unregister id).2) r).capacity = r.capacity :=
  foldl_unregister_of_removeEntry (f := Registry.capacity) (fun _ _ _ => rfl) ids r

/-- Queues stay as long as they were made. -/
theorem capacity_step (r : Registry) (t : Traffic) : (r.step t).capacity = r.capacity := by
  cases t with
  | unregister id => exact capacity_foldl_unregister [id] r
  | deliver a frame => rw [step, deliver_eq, capacity_foldl_unregister]
  | register | closeAll | take | shut | abandon => rfl

/-- The removal of a session leaves the sessions of users otherwise as they
are. -/
theorem mem_sessionsOf_unregister {r : Registry} {id x : Uuid} (hx : x ≠ id) (u : Uuid) :
    x ∈ (r.unregister id).2.sessionsOf u ↔ x ∈ r.sessionsOf u := by
  unfold unregister
  split
  · rfl
  · rw [mem_sessionsOf_removeEntry]
    exact and_iff_left fun h => hx h.2

end Registry

end ChatServer.Delivery

namespace ChatServer

/-- No step changes which session it is. -/
theorem Session.move_id (s : Session) (next : Phase) : (s.move next).2.id = s.id := by
  unfold Session.move
  split <;> rfl

/-- No step changes whose session it is. -/
theorem Session.move_userId (s : Session) (next : Phase) : (s.move next).2.userId = s.userId :=
  congrArg Identity.userId (s.move_identity next)

end ChatServer

namespace ChatServer.Connection.Worker

open Delivery

/-- A session that is opened is registered, with the next link, and the store is
left alone. -/
theorem open_eq_ok {s : Session} {sv tv : Server} {w : Worker}
    (h : Worker.open s sv = .ok (w, tv)) :
    w = ⟨((s.move .authenticated).2.move .active).2, sv.registry.links.length⟩ ∧
      tv = { sv with registry := (sv.registry.register s.id s.userId).2 } := by
  simp only [«open», Server.register] at h
  split at h
  · cases h
    rw [Session.move_id, Session.move_userId]
    exact ⟨rfl, rfl⟩
  · cases h

/-- A worker that comes to its end is finished. -/
theorem conclude?_eq_some {t : Timing} {reason : Event} {w after : Worker}
    (h : w.conclude? t reason = some after) :
    after = w.finish := by
  unfold conclude? at h
  split at h
  · exact (Option.some.inj h).symm
  · cases h

end ChatServer.Connection.Worker

