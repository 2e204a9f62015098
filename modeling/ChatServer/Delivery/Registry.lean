import ChatServer.Delivery.Link
import ChatServer.Uuid

/-!
# The registry

Which sessions are live, whose they are, and where their frames go. A session is
found by its identifier or through its user, who may have many. Links are
numbered in the order of registration and keep their numbers, also when their
registration has been replaced or removed.

* `resolve_nodup`: an audience reaches each session once.
* `deliver` puts a frame into the queue of every session it can, and removes the
  sessions whose queue is full or closed.
-/
namespace ChatServer.Delivery

inductive Audience
  | session (id : Uuid)
  /-- All sessions of the users. -/
  | users (ids : List Uuid)
  /-- All sessions of a channel's members, and the session that caused the
  event. -/
  | channel (members : List Uuid) (origin : Uuid)
  | everyone
deriving DecidableEq

structure Entry where
  userId : Uuid
  link : Nat
deriving DecidableEq

structure Registry where
  /-- Frames that a queue holds at most. -/
  capacity : Nat
  /-- The links of all registrations so far. -/
  links : List Link
  sessions : List (Uuid × Entry)
  /-- The sessions of each user who has any. -/
  byUser : List (Uuid × List Uuid)
  /-- The server is closing. -/
  closing : Bool

inductive RegistrationFault
  /-- Queues are to hold more frames than a queue can. -/
  | queueTooLong
deriving DecidableEq

def RegistrationFault.message : RegistrationFault → String
  | queueTooLong => "a semaphore may not have more than MAX_PERMITS permits (2305843009213693951)"

namespace Registry

/-- Frames that a queue can hold at most. They are counted by a semaphore, and
this is the number of permits that one can have. -/
def longestQueue : Nat := 0x1fffffffffffffff

/-- A registry without sessions. A queue holds at least one frame, also where
the settings ask for none. -/
def empty (capacity : Nat) : Registry := ⟨max capacity 1, [], [], [], false⟩

def entryOf? (r : Registry) (id : Uuid) : Option Entry := r.sessions.lookup id

def contains (r : Registry) (id : Uuid) : Bool := (r.entryOf? id).isSome

def size (r : Registry) : Nat := r.sessions.length

/-- The live sessions of a user. -/
def sessionsOf (r : Registry) (userId : Uuid) : List Uuid := (r.byUser.lookup userId).getD []

def link? (r : Registry) (n : Nat) : Option Link := r.links[n]?

def modifyLink (r : Registry) (n : Nat) (f : Link → Link) : Registry :=
  { r with links := r.links.modify n f }

/-- Sets the value of a key in a list of pairs, at its place or at the end. -/
def put {α : Type} (key : Uuid) (x : α) : List (Uuid × α) → List (Uuid × α)
  | [] => [(key, x)]
  | (k, y) :: rest => if k = key then (k, x) :: rest else (k, y) :: put key x rest

def remove {α : Type} (key : Uuid) (xs : List (Uuid × α)) : List (Uuid × α) :=
  xs.filter fun p => p.1 ≠ key

/-- Queues of the registry's capacity can be made. A registry may be set up with
any capacity; that its queues are too long shows with the first session. -/
def canRegister (r : Registry) : Bool := r.capacity ≤ longestQueue

/-- Registers a session; gives the number of its link. An identifier that is
live already gets the new link in the place of the old one, which is not
cancelled. -/
def register (r : Registry) (id userId : Uuid) : Nat × Registry :=
  let number := r.links.length
  let ids := r.sessionsOf userId
  (number,
    { r with
      links := r.links ++ [.fresh r.closing]
      sessions := put id ⟨userId, number⟩ r.sessions
      byUser := put userId (if id ∈ ids then ids else ids ++ [id]) r.byUser })

/-- Removes a session and tells its worker to stop. A user whose last session
this was leaves the index too, so no user is listed without a session. -/
def removeEntry (r : Registry) (id : Uuid) (e : Entry) : Registry :=
  let ids := (r.sessionsOf e.userId).filter (· ≠ id)
  { r with
    links := r.links.modify e.link Link.cancel
    sessions := remove id r.sessions
    byUser := if ids.isEmpty then remove e.userId r.byUser else put e.userId ids r.byUser }

/-- Removes a session, if it is live; tells whether it was. -/
def unregister (r : Registry) (id : Uuid) : Bool × Registry :=
  match r.entryOf? id with
  | none => (false, r)
  | some e => (true, r.removeEntry id e)

/-- The sessions an audience may reach, each once, in a fixed order. A session
that is named itself is among them whether or not it is live; `canTake` is what
tells. -/
def resolve (r : Registry) : Audience → List Uuid
  | .session id => [id]
  | .users ids => (ids.flatMap r.sessionsOf).eraseDups
  | .channel members origin => (origin :: members.flatMap r.sessionsOf).eraseDups
  | .everyone => (r.sessions.map Prod.fst).eraseDups

/-- The session is live and its queue has room. -/
def canTake (r : Registry) (id : Uuid) : Bool :=
  match r.entryOf? id with
  | none => false
  | some e => (r.link? e.link).any (Link.hasRoom r.capacity)

/-- Puts a frame into a session's queue, where it has room. -/
def push (frame : String) (r : Registry) (id : Uuid) : Registry :=
  match r.entryOf? id with
  | none => r
  | some e => r.modifyLink e.link (Link.offer r.capacity frame)

/-- Puts a frame into the queues of an audience; gives their number. Who can
take the frame is looked at before any queue changes. Sessions whose queue is
full or closed are removed afterwards, and their workers stop: a client that
does not keep up loses its connection and holds nobody up. -/
def deliver (r : Registry) (audience : Audience) (frame : String) : Nat × Registry :=
  let ids := r.resolve audience
  let ready := ids.filter r.canTake
  let failed := ids.filter fun id => !r.canTake id
  let pushed := ready.foldl (push frame) r
  (ready.length, failed.foldl (fun r id => (r.unregister id).2) pushed)

/-- Tells the workers of all registrations to stop, those to come included. The
sessions stay in the registry until their workers leave it. -/
def closeAll (r : Registry) : Registry :=
  { r with links := r.links.map Link.cancel, closing := true }

theorem nodup_eraseDups (xs : List Uuid) : xs.eraseDups.Nodup := by
  induction h : xs.length using Nat.strongRecOn generalizing xs with
  | ind n ih =>
    cases xs with
    | nil => simp
    | cons x xs =>
      rw [List.eraseDups_cons, List.nodup_cons]
      refine ⟨?_, ih _ ?_ _ rfl⟩
      · intro hx
        simpa using (List.mem_eraseDups.1 hx)
      · have := List.length_filter_le (fun b => !b == x) xs
        simp only [List.length_cons] at h
        omega

theorem resolve_nodup (r : Registry) (a : Audience) : (r.resolve a).Nodup := by
  cases a <;> simp [resolve, nodup_eraseDups]

end Registry
end ChatServer.Delivery

