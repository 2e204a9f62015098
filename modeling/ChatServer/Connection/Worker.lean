import ChatServer.Connection.Writer
import ChatServer.Server

/-!
# The worker

What serves one session from its opening to its end. It is registered, and then
takes one event at a time: frames of the client, which it has answered before it
takes the next, or one of the events that end it. Then it leaves the registry,
waits for the writer, and is closed.

* `react_frame`: no frame that is part of the conversation makes a worker leave.
* `react_ending`: every other event makes it leave, and the registry does not
  know it any more.
-/
namespace ChatServer.Connection

open Delivery Socket Store

inductive Event
  | text (s : String)
  | binary
  | ping
  | pong
  /-- The client has closed. -/
  | close
  /-- The client is gone. -/
  | streamEnd
  /-- Nothing more can be read. -/
  | readError
  /-- The worker has been told to stop. -/
  | cancelled
  /-- The writer has stopped by itself. -/
  | writerStopped
deriving DecidableEq

namespace Event

def ofIncoming : Incoming → Event
  | .text s => text s
  | .binary _ => binary
  | .ping _ => ping
  | .pong => pong
  | .close => close

def isEnding : Event → Bool
  | text _ | binary | ping | pong => false
  | close | streamEnd | readError | cancelled | writerStopped => true

end Event

structure Worker where
  session : Session
  /-- The number of the session's link. -/
  link : Nat
deriving DecidableEq

namespace Worker

/-- What clients are told that send bytes instead of text. -/
def binaryMessage : String := "binary frames are not supported"

/-- Opens a session: it is bound to its user, registered, and active. One that
cannot be registered is never active. -/
def «open» (s : Session) (sv : Server) : Except RegistrationFault (Worker × Server) :=
  let s := (s.move .authenticated).2
  (sv.register s).map fun (link, sv) => (⟨(s.move .active).2, link⟩, sv)

def isReading (w : Worker) : Bool := w.session.phase = .active

/-- Leaves the registry. No frame is queued for the session from here on; its
writer goes on with those that are. -/
def leave (w : Worker) (sv : Server) : Worker × Server :=
  ({ w with session := (w.session.move .closing).2 }, (sv.unregister w.session.id).2)

/-- The session ends once the writer has stopped. -/
def finish (w : Worker) : Worker := { w with session := (w.session.move .closed).2 }

/-- What becomes of a worker that has left for a reason. If the writer has not
stopped yet, it waits for that, and fails when the time to wait cannot be
held. -/
def conclude? (t : Timing) (reason : Event) (w : Worker) : Option Worker :=
  if reason = .writerStopped ∨ t.closingWait?.isSome then some w.finish else none

/-- Takes an event. A text is carried out and bytes are refused before the next
event is taken; Pings and Pongs concern neither session nor server. -/
def react (d : Draw) (e : Event) (w : Worker) (sv : Server) : Worker × Server :=
  match e with
  | .text s => (w, (sv.handleText w.session d s).2)
  | .binary => (w, (sv.reject w.session binaryMessage).2)
  | .ping | .pong => (w, sv)
  | .close | .streamEnd | .readError | .cancelled | .writerStopped => w.leave sv

theorem react_frame {d : Draw} {e : Event} {w : Worker} {sv : Server} (h : e.isEnding = false) :
    (w.react d e sv).1 = w := by
  cases e <;> first | rfl | cases h

theorem react_ending {d : Draw} {e : Event} {w : Worker} {sv : Server} (h : e.isEnding = true) :
    w.react d e sv = w.leave sv := by
  cases e <;> first | rfl | cases h

end Worker
end ChatServer.Connection

