import ChatServer.Socket.Frame

/-!
# The server's end of a socket

Frames of the client are put together to messages. Parts of a message are
joined, and its whole payload counts for the limit; a text has to be UTF-8,
which is looked at with every part. Frames of the server go through a buffer to
the wire. While writing is blocked they stay in the buffer, and once either side
has closed no more are accepted.
-/
namespace ChatServer.Socket

open Text

inductive Incoming
  | text (s : String)
  | binary (payload : List UInt8)
  | ping (payload : List UInt8)
  | pong
  | close
deriving DecidableEq

inductive Violation
  | unmasked
  | reservedBits
  | reservedKind
  | splitControl
  | longControl
  | shortCloseCode
  | noMessageToContinue
  | unfinishedMessage
  | tooLong
  | notUtf8
deriving DecidableEq

structure Partial where
  isText : Bool
  bytes : List UInt8

inductive WriteMode
  | normal
  | stalled
  | failing
deriving DecidableEq

/-- Who may still speak. Either side may close first, and a closing frame of the
client is answered once. -/
inductive Speaking
  | both
  /-- The client has closed, and its frame may still be answered with this
  one. -/
  | closedByClient (answer : Outgoing)
  /-- Nothing more is accepted. -/
  | nobody
deriving DecidableEq

structure Endpoint where
  /-- Frames accepted and not written yet. -/
  buffer : List Outgoing
  /-- Frames on their way to the client. -/
  wire : List Outgoing
  unfinished : Option Partial
  speaking : Speaking
  mode : WriteMode

namespace Endpoint

def fresh : Endpoint := ⟨[], [], none, .both, .normal⟩

/-! ## Reading -/

def whole (p : Partial) : Except Violation Incoming :=
  if p.isText then
    match Utf8.decode? p.bytes with
    | some s => .ok (.text s)
    | none => .error .notUtf8
  else .ok (.binary p.bytes)

/-- A message with one more part. All parts count together for the limit, and a
text has to be the beginning of one after every part. -/
def extend (limit : Nat) (p : Partial) (payload : List UInt8) : Except Violation Partial :=
  if limit < p.bytes.length + payload.length then .error .tooLong
  else
    let p := { p with bytes := p.bytes ++ payload }
    if p.isText && !Utf8.canContinue p.bytes then .error .notUtf8 else .ok p

/-- Takes a part of a message; gives the message that it ends. `start` says that
the part begins a text or bytes; without it the part continues what was
begun. -/
def takePart (limit : Nat) (e : Endpoint) (f : ClientFrame) (start : Option Bool) :
    Except Violation (Option Incoming × Endpoint) := do
  let before ←
    match start, e.unfinished with
    | none, none => .error .noMessageToContinue
    | none, some p => .ok p
    | some _, some _ => .error .unfinishedMessage
    | some isText, none => .ok ⟨isText, []⟩
  let message ← extend limit before f.payload
  if f.isFinal then return (some (← whole message), { e with unfinished := none })
  else return (none, { e with unfinished := some message })

/-- Codes with which a client may close. -/
def isCloseCode (n : Nat) : Bool :=
  (1000 ≤ n && n ≤ 1003) || (1007 ≤ n && n ≤ 1013) || (3000 ≤ n && n ≤ 4999)

/-- The reason that a closing frame gives. A code that no client may use breaks
the rules, which the answer says; the frame closes all the same. -/
def closeReason (payload : List UInt8) : Except Violation (Option CloseReason) :=
  match payload with
  | [] => .ok none
  | [_] => .error .shortCloseCode
  | a :: b :: rest =>
    match Utf8.decode? rest with
    | none => .error .notUtf8
    | some text =>
      let code := a.toNat * 256 + b.toNat
      .ok (some (if isCloseCode code then ⟨code, text⟩ else ⟨1002, "Protocol violation"⟩))

/-- Takes a frame that is not part of a message. A closing frame is answered
with its own reason and a Ping with its own payload, unless one side has closed
before. -/
def takeControl (e : Endpoint) (f : ClientFrame) (k : Kind) :
    Except Violation (Option Incoming × Endpoint) :=
  if !f.isFinal then .error .splitControl
  else if 125 < f.payload.length then .error .longControl
  else
    match k with
    | .close => do
      let reason ← closeReason f.payload
      return (some .close,
        { e with speaking := if e.speaking = .both then .closedByClient (.close reason) else e.speaking })
    | .ping =>
      .ok (some (.ping f.payload),
        { e with buffer := if e.speaking = .both then e.buffer ++ [.pong f.payload] else e.buffer })
    | _ => .ok (some .pong, e)

/-- Takes a frame of the client; gives the message that it ends. What is wrong
with its kind counts first, then a mask that lacks, then reserved bits. -/
def receive (limit : Nat) (e : Endpoint) (f : ClientFrame) :
    Except Violation (Option Incoming × Endpoint) :=
  match f.kind? with
  | none => .error .reservedKind
  | some k =>
    if !f.masked then .error .unmasked
    else if f.hasReservedBits then .error .reservedBits
    else if k.isControl then e.takeControl f k
    else
      match k with
      | .text => e.takePart limit f (some true)
      | .binary => e.takePart limit f (some false)
      | _ => e.takePart limit f none

/-! ## Writing -/

/-- Accepts a frame for writing, if anything may still be said. A closing frame
is the last. -/
def accept? (e : Endpoint) (o : Outgoing) : Option Endpoint :=
  match e.speaking with
  | .both => some { e with buffer := e.buffer ++ [o], speaking := if o.isClose then .nobody else .both }
  | _ => none

inductive Flush
  | written (e : Endpoint)
  | blocked
  | failed

/-- The frames to be written: the buffer, and behind it the answer to a closing
frame. -/
def outstanding (e : Endpoint) : List Outgoing :=
  match e.speaking with
  | .closedByClient answer => e.buffer ++ [answer]
  | _ => e.buffer

/-- Writes what is outstanding, all of it or nothing. The answer to a closing
frame is the last that goes out. -/
def flush (e : Endpoint) : Flush :=
  match e.mode with
  | .stalled => .blocked
  | .failing => .failed
  | .normal =>
    .written {
      e with
      buffer := []
      wire := e.wire ++ e.outstanding
      speaking := if e.speaking = .both then .both else .nobody }

end Endpoint
end ChatServer.Socket

