import ChatServer.Connection.Line

/-!
# Clients in memory

The other end of a connection that does not leave the process. A client keeps
what it receives until it is asked for it, answers Pings, and learns of the end
of the connection when everything before it has been read. A muted client reads
nothing.
-/
namespace ChatServer.Loopback

open Connection Socket

inductive Receipt
  | frame (f : Outgoing)
  /-- The server has closed the socket. -/
  | ended
deriving DecidableEq

structure Client where
  line : Line
  muted : Bool
  /-- The client has closed its own end. -/
  gone : Bool
  /-- The client knows that the connection has ended. -/
  sawEnd : Bool
  /-- Receipts that have not been asked for. -/
  log : List Receipt

namespace Client

def ofLine (l : Line) : Client := ⟨l, false, false, false, []⟩

/-- Sends a frame; tells whether the connection takes it. -/
def send (f : ClientFrame) (c : Client) : Bool × Client :=
  if c.gone || c.line.ended then (false, c)
  else (true, { c with line := { c.line with inbox := c.line.inbox ++ [f] } })

/-- The answer to a frame of the server, if it asks for one. -/
def answer? : Outgoing → Option ClientFrame
  | .ping payload => some (.ofKind .pong payload)
  | _ => none

/-- Reads what is on the wire, and answers Pings. -/
def collect (c : Client) : Client :=
  if c.muted || c.gone then c
  else
    let frames := c.line.wire
    let ends := c.line.ended && !c.sawEnd
    { c with
      line := c.line.takeWire (frames.filterMap answer?)
      sawEnd := c.sawEnd || c.line.ended
      log := c.log ++ frames.map .frame ++ if ends then [.ended] else [] }

def drop (c : Client) : Client := { c with gone := true, line := { c.line with hungUp := true } }

def setMode (m : WriteMode) (c : Client) : Client :=
  { c with line := { c.line with endpoint := { c.line.endpoint with mode := m } } }

def takeLog (c : Client) : List Receipt × Client := (c.log, { c with log := [] })

end Client
end ChatServer.Loopback

