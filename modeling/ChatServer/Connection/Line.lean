import ChatServer.Connection.Worker
import ChatServer.Connection.Writer

/-!
# Lines

One connection: worker, writer and socket, and what the client has sent and the
worker has not read yet. The worker looks first whether it has been told to
stop, then at the writer, and then reads. Replies to Pings wait in the socket's
buffer, and reading is what writes them.
-/
namespace ChatServer.Connection

open Delivery Socket

structure Line where
  worker : Worker
  writer : Writer
  endpoint : Endpoint
  /-- Frames of the client that have not been read. -/
  inbox : List ClientFrame
  /-- The client has gone; nothing follows the frames in the inbox. -/
  hungUp : Bool
  /-- The socket is closed. -/
  ended : Bool
  /-- The event for which the worker has left. -/
  reason : Option Event

namespace Line

def fresh (t : Timing) (now : Nat) (w : Worker) : Line :=
  ⟨w, .start t now, .fresh, [], false, false, none⟩

/-- A connection whose session could not be registered; it is closed at once. -/
def lost (t : Timing) (now : Nat) (s : Session) : Line :=
  { fresh t now ⟨s, 0⟩ with writer := { Writer.start t now with stage := .stopped }, ended := true }

/-- Reads frames up to the first that makes an event. The parts of a message
make none but the last, and a frame that breaks the rules ends the reading. -/
def readFrames (limit : Nat) :
    List ClientFrame → Endpoint → Option Event × List ClientFrame × Endpoint
  | [], e => (none, [], e)
  | f :: rest, e =>
    match e.receive limit f with
    | .error _ => (some .readError, rest, e)
    | .ok (some m, e) => (some (.ofIncoming m), rest, e)
    | .ok (none, e) => readFrames limit rest e

/-- Reads on: the next event, if there is one. That the client has gone shows
only behind the last of its frames. -/
def readOn (limit : Nat) (l : Line) : Option Event × Line :=
  match readFrames limit l.inbox l.endpoint with
  | (some event, rest, e) => (some event, { l with inbox := rest, endpoint := e })
  | (none, rest, e) =>
    (if l.hungUp then some .streamEnd else none, { l with inbox := rest, endpoint := e })

/-- What the worker sees next, if it sees anything. That it has to stop comes
first, then that its writer has stopped. What waits in the buffer is written
before more is read, and reading fails where that fails. -/
def read (limit : Nat) (cancelled : Bool) (l : Line) : Option Event × Line :=
  if !l.worker.isReading then (none, l)
  else if cancelled then (some .cancelled, l)
  else if l.writer.stage = .stopped then (some .writerStopped, l)
  else if l.endpoint.buffer.isEmpty then l.readOn limit
  else
    match l.endpoint.flush with
    | .written e => { l with endpoint := e }.readOn limit
    | .blocked => l.readOn limit
    | .failed => (some .readError, l)

def wire (l : Line) : List Outgoing := l.endpoint.wire

/-- The wire has been read, and the client has sent these answers. -/
def takeWire (answers : List ClientFrame) (l : Line) : Line :=
  { l with endpoint := { l.endpoint with wire := [] }, inbox := l.inbox ++ answers }

/-- What an event means for the heartbeat, and for the end of the connection: a
Pong counts for the next tick, and the event for which the worker leaves is
kept. -/
def heard (event : Event) (l : Line) : Line :=
  if event = .pong then { l with writer := { l.writer with heartbeat := l.writer.heartbeat.pong } }
  else if event.isEnding then { l with reason := some event }
  else l

/-- Lets the writer work until it has to wait. The worker waits for the writer
and not the other way round, so the socket is closed when the worker has left
and the writer is done. -/
def tend (t : Timing) (now : Nat) (link : Link) (l : Line) : Link × Line :=
  let o := Outlet.settle t now ⟨l.writer, link, l.endpoint⟩
  let l := { l with writer := o.writer, endpoint := o.endpoint }
  (o.link,
    if l.worker.session.phase = .closing ∧ l.writer.stage = .stopped then
      { l with
        worker := (l.reason.bind fun reason => l.worker.conclude? t reason).getD l.worker
        ended := true }
    else l)

end Line
end ChatServer.Connection

