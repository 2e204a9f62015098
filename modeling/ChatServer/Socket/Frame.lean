import ChatServer.Text.Utf8

/-!
# Frames

The frames of a WebSocket: those a client sends, as they stand on the wire, and
those the server sends. The first byte of a frame holds a mark for the last part
of a message, three reserved bits, and the kind of the frame in its last four.
-/
namespace ChatServer.Socket

structure CloseReason where
  code : Nat
  text : String
deriving DecidableEq

inductive Outgoing
  | text (s : String)
  | ping (payload : List UInt8)
  | pong (payload : List UInt8)
  | close (reason : Option CloseReason)
deriving DecidableEq

def Outgoing.isClose : Outgoing → Bool
  | close _ => true
  | _ => false

structure ClientFrame where
  /-- The first byte. -/
  first : UInt8
  /-- The payload was masked on the wire. -/
  masked : Bool
  payload : List UInt8
deriving DecidableEq

inductive Kind
  | continuation
  | text
  | binary
  | close
  | ping
  | pong
deriving DecidableEq

namespace Kind

def number : Kind → Nat
  | continuation => 0
  | text => 1
  | binary => 2
  | close => 8
  | ping => 9
  | pong => 10

def ofNumber? (n : Nat) : Option Kind :=
  [continuation, text, binary, close, ping, pong].find? (·.number == n)

/-- Frames that are not part of a message. -/
def isControl (k : Kind) : Bool := 8 ≤ k.number

end Kind

namespace ClientFrame

def isFinal (f : ClientFrame) : Bool := 0x80 ≤ f.first.toNat

def hasReservedBits (f : ClientFrame) : Bool := f.first.toNat / 16 % 8 ≠ 0

def kind? (f : ClientFrame) : Option Kind := Kind.ofNumber? (f.first.toNat % 16)

/-- A whole frame of a kind. -/
def ofKind (k : Kind) (payload : List UInt8) : ClientFrame :=
  ⟨UInt8.ofNat (0x80 + k.number), true, payload⟩

/-- A frame that closes, with a code and a reason. -/
def close (r : CloseReason) : ClientFrame :=
  ofKind .close (UInt8.ofNat (r.code / 256) :: UInt8.ofNat r.code :: Text.Utf8.encode r.text)

end ClientFrame
end ChatServer.Socket

