/-!
# Links

The two ends of a registration: the frames queued for a session's socket, and
whether its worker has been told to stop. A link belongs to one registration; a
session that is registered again gets another.

* `offer_accepted`: a frame that is taken is the last of the queue.
-/
namespace ChatServer.Delivery

/-- The queue between the registry, which puts frames in, and the writer of one
connection, which takes them out, with the mark that tells the worker of that
connection to stop. -/
structure Link where
  /-- Frames not taken yet, oldest first. -/
  queue : List String
  /-- The receiving end still takes frames. -/
  isOpen : Bool
  /-- The worker has been told to stop. -/
  cancelled : Bool
deriving DecidableEq

namespace Link

/-- The link of a new registration. It is cancelled from the start when the
server is closing, so that a worker that registers too late still learns that it
has to stop. -/
def fresh (cancelled : Bool) : Link := ⟨[], true, cancelled⟩

def hasRoom (capacity : Nat) (l : Link) : Bool := l.isOpen && decide (l.queue.length < capacity)

/-- Puts a frame into the queue, where there is room. Nobody waits for room: a
frame that finds none is not queued at all. -/
def offer (capacity : Nat) (frame : String) (l : Link) : Link :=
  if l.hasRoom capacity then { l with queue := l.queue ++ [frame] } else l

/-- Takes the oldest frame. -/
def take? (l : Link) : Option (String × Link) :=
  match l.queue with
  | [] => none
  | frame :: rest => some (frame, { l with queue := rest })

/-- The receiving end takes no more frames; those in the queue stay. A writer
that is about to stop begins with this, so that what it has still to write does
not grow. -/
def shut (l : Link) : Link := { l with isOpen := false }

/-- The receiving end is gone, and the frames with it. -/
def abandon (l : Link) : Link := { l with queue := [], isOpen := false }

/-- Tells the worker to stop. -/
def cancel (l : Link) : Link := { l with cancelled := true }

theorem offer_accepted {capacity : Nat} {frame : String} {l : Link}
    (h : l.hasRoom capacity = true) :
    (l.offer capacity frame).queue = l.queue ++ [frame] := by
  simp [offer, h]

end Link
end ChatServer.Delivery

