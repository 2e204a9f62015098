import ChatServer.Model.User

/-!
# Sessions

The server's side of one connection: whose it is, and where it stands in its
life. The owner never changes, and the phase moves only along the steps that
`Phase.canMove` allows.

* `move_identity`: no step changes whose session it is.
-/
namespace ChatServer

inductive Phase
  /-- The token is verified, the socket is not open yet. -/
  | connecting
  /-- The socket is open and bound to a user. -/
  | authenticated
  /-- Frames may be delivered to the session. -/
  | active
  | closing
  | closed
deriving DecidableEq

namespace Phase

/-- The steps of a session's life. A session that is never bound to a user goes
straight to its end; every other one closes first. -/
def canMove : Phase → Phase → Bool
  | connecting, authenticated => true
  | connecting, closed => true
  | authenticated, active => true
  | authenticated, closing => true
  | active, closing => true
  | closing, closed => true
  | _, _ => false

end Phase

structure Session where
  id : Uuid
  userId : Uuid
  email : String
  phase : Phase
deriving DecidableEq

namespace Session

def begin (id : Uuid) (owner : Identity) : Session := ⟨id, owner.userId, owner.email, .connecting⟩

/-- Whose session it is. -/
def identity (s : Session) : Identity := ⟨s.userId, s.email⟩

/-- Moves to a phase, where that step is allowed; tells whether it was. A step
that is not allowed leaves the session where it is. -/
def move (s : Session) (next : Phase) : Bool × Session :=
  if s.phase.canMove next then (true, { s with phase := next }) else (false, s)

theorem move_allowed {s : Session} {next : Phase} (h : s.phase.canMove next = true) :
    s.move next = (true, { s with phase := next }) := by
  simp [move, h]

theorem move_identity (s : Session) (next : Phase) : (s.move next).2.identity = s.identity := by
  unfold move
  split <;> rfl

end Session
end ChatServer

