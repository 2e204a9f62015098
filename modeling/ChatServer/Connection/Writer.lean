import ChatServer.Connection.Heartbeat
import ChatServer.Delivery.Link
import ChatServer.Socket.Endpoint

/-!
# The writer

What writes to a client's socket. It waits for the first of three things: that
it is told to stop, a frame in the session's queue, a tick of the heartbeat. A
frame once taken is written before anything else is looked at, and must be
within a time limit. When the writer is told to stop, or drops a silent client,
it takes no more frames, writes those that are queued, and last a closing frame,
all within one time limit. After a failed write it stops without more ado.
-/
namespace ChatServer.Connection

open Delivery Socket

/-- Periods, in milliseconds. -/
structure Timing where
  heartbeat : Nat
  writeTimeout : Nat
deriving DecidableEq

namespace Timing

/-- The longest time that can be held: 2^64 - 1 seconds and almost one more. -/
def longest : Nat := 0xffffffffffffffff * 1000 + 999

/-- How long a worker that leaves waits for its writer: twice as long as a write
may take, if that can be held. -/
def closingWait? (t : Timing) : Option Nat :=
  if 2 * t.writeTimeout ≤ longest then some (2 * t.writeTimeout) else none

end Timing

/-- What a writer that is to stop has in hand. -/
inductive Hand
  | empty
  | frame
  /-- The closing frame. -/
  | farewell
deriving DecidableEq

/-- Where a writer stands. Times are those at which it gives up: each frame that
is sent has its own, and all that is drained has one together. -/
inductive Stage
  | waiting
  | sending (deadline : Nat)
  | draining (deadline : Nat) (hand : Hand)
  | stopped
deriving DecidableEq

structure Writer where
  stage : Stage
  heartbeat : Heartbeat
  /-- When the next tick is due. -/
  nextTick : Nat

/-- A writer with what it writes from and to: the link of its session, and the
socket. -/
structure Outlet where
  writer : Writer
  link : Link
  endpoint : Endpoint

namespace Writer

/-- A writer that begins at a time. The first tick passes at once and does
nothing, so the first Ping comes after a whole period. A period of zero cannot
be waited for, and such a writer never begins. -/
def start (t : Timing) (now : Nat) : Writer :=
  ⟨if t.heartbeat = 0 then .stopped else .waiting, .start, now + t.heartbeat⟩

/-- The frame that ends a session. -/
def farewell : Outgoing := .close (some ⟨1000, "session closed"⟩)

/-- When something is due for the writer, if it only has to wait: the next tick,
or the time at which it gives up. -/
def due? (w : Writer) : Option Nat :=
  match w.stage with
  | .waiting => some w.nextTick
  | .sending limit => some limit
  | .draining limit _ => some limit
  | .stopped => none

end Writer

namespace Outlet

def moveTo (o : Outlet) (s : Stage) : Outlet := { o with writer := { o.writer with stage := s } }

/-- The writer stops, and what is left in its queue is lost. -/
def stop (o : Outlet) : Outlet := { (o.moveTo .stopped) with link := o.link.abandon }

/-- The writer takes no more frames and begins to write those that are queued.
The one time limit for all of them and the closing frame is set here. -/
def beginDrain (t : Timing) (now : Nat) (o : Outlet) : Outlet :=
  { (o.moveTo (.draining (now + t.writeTimeout) .empty)) with link := o.link.shut }

/-- Hands a frame to the socket, and goes on to a stage; stops when the socket
takes none. -/
def hand (f : Outgoing) (s : Stage) (o : Outlet) : Outlet :=
  match o.endpoint.accept? f with
  | some e => { (o.moveTo s) with endpoint := e }
  | none => o.stop

/-- Waits for a write to be done. A write that fails, or is not done when the
time is over, stops the writer; there is no closing frame then. -/
def await (now limit : Nat) (done : Outlet → Outlet) (o : Outlet) : Option Outlet :=
  match o.endpoint.flush with
  | .written e => some (done { o with endpoint := e })
  | .failed => some o.stop
  | .blocked => if limit ≤ now then some o.stop else none

/-- A tick of the heartbeat: a Ping, or the end for a client that has been
silent too long. The next tick is a period after this one was due, however late
this one is. -/
def tick (t : Timing) (now : Nat) (o : Outlet) : Outlet :=
  let next (h : Heartbeat) : Outlet :=
    { o with writer := { o.writer with heartbeat := h, nextTick := o.writer.nextTick + t.heartbeat } }
  match o.writer.heartbeat.tick with
  | some h => (next h).hand (.ping []) (.sending (now + t.writeTimeout))
  | none => (next o.writer.heartbeat).beginDrain t now

/-- One step of the writer; none when it has to wait. In its loop it looks
whether it is to stop, then into its queue, and last at the clock. While it
drains it looks into its queue only. -/
def step? (t : Timing) (now : Nat) (o : Outlet) : Option Outlet :=
  match o.writer.stage with
  | .waiting =>
    if o.link.cancelled then some (o.beginDrain t now)
    else
      match o.link.take? with
      | some (frame, link) =>
        some ({ o with link := link }.hand (.text frame) (.sending (now + t.writeTimeout)))
      | none => if o.writer.nextTick ≤ now then some (o.tick t now) else none
  | .sending limit => o.await now limit (·.moveTo .waiting)
  | .draining limit .empty =>
    match o.link.take? with
    | some (frame, link) => some ({ o with link := link }.hand (.text frame) (.draining limit .frame))
    | none => some (o.hand Writer.farewell (.draining limit .farewell))
  | .draining limit .frame => o.await now limit (·.moveTo (.draining limit .empty))
  | .draining limit .farewell => o.await now limit Outlet.stop
  | .stopped => none

/-- Steps of the writer until it has to wait, at most so many. -/
def run (t : Timing) (now : Nat) : Nat → Outlet → Outlet
  | 0, o => o
  | n + 1, o =>
    match o.step? t now with
    | none => o
    | some o => run t now n o

/-- Runs the writer until it has to wait. Each queued frame takes two steps, and
a few more are for the ticks that are due, of which the third in a row drops the
client, and for the closing frame. -/
def settle (t : Timing) (now : Nat) (o : Outlet) : Outlet :=
  o.run t now (2 * o.link.queue.length + 16)

end Outlet
end ChatServer.Connection

