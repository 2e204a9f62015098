import ChatServer.Store.Basic

/-!
# The operations of the store

Everything the rest of the server asks of the store, as data. Each operation is
atomic: it sees the tables as earlier operations left them, and one that fails
leaves them alone.

* `Operation.asking_eq_ok`: a question leaves the tables as they are.
* `perform_error`: a failed operation changes nothing.
* `perform_poisoned`: a poisoned store fails every operation.
-/
namespace ChatServer.Store

open Time

inductive Operation
  | createUser (email password : String)
  | getUser (id : Uuid)
  | getCredentials (email : String)
  | createChannel (kind : ChannelKind) (name : String) (creatorId : Uuid)
  | getChannel (id : Uuid)
  | listChannels
  | addMember (channelId userId : Uuid)
  | removeMember (channelId userId : Uuid)
  | listMembers (channelId : Uuid)
  | appendMessage (new : NewMessage)
  | listMessages (channelId : Uuid) (limit : Nat) (before : Option Uuid)

namespace Operation

@[reducible] def Answer : Operation → Type
  | createUser .. => Option User
  | getUser .. => Option User
  | getCredentials .. => Option (User × String)
  | createChannel .. => Channel
  | getChannel .. => Option Channel
  | listChannels => List Channel
  | addMember .. => Bool
  | removeMember .. => Bool
  | listMembers .. => List Uuid
  | appendMessage .. => Option Message
  | listMessages .. => List Message

def asking {α : Type} (t : Tables) (answer : Except Error α) : Except Error (α × Tables) :=
  answer.map fun x => (x, t)

/-- A question that is answered leaves the tables as they are. -/
theorem asking_eq_ok {α : Type} {t u : Tables} {x : Except Error α} {a : α} :
    asking t x = .ok (a, u) ↔ x = .ok a ∧ t = u := by
  cases x <;> simp [asking, Except.map]

/-- Carries out a request on the tables. Only those that create, add, append or
remove may change them. -/
def apply : (op : Operation) → Draw → Tables → Except Error (op.Answer × Tables)
  | createUser email password, d, t => t.createUser d email password
  | getUser id, _, t => asking t (t.getUser id)
  | getCredentials email, _, t => asking t (t.getCredentials email)
  | createChannel kind name creatorId, d, t => t.createChannel d kind name creatorId
  | getChannel id, _, t => asking t (t.getChannel id)
  | listChannels, _, t => asking t t.listChannels
  | addMember channelId userId, d, t => t.addMember channelId userId d.now
  | removeMember channelId userId, _, t => .ok (t.removeMember channelId userId)
  | listMembers channelId, _, t => asking t (t.listMembers channelId)
  | appendMessage new, d, t => t.appendMessage d.id new
  | listMessages channelId limit before, _, t => asking t (t.listMessages channelId limit before)

end Operation
end ChatServer.Store

namespace ChatServer.Database

open Store

/-- Carries out a request: its answer, and the store after it. A request that
fails leaves the store as it was. -/
def perform (db : Database) (op : Operation) (d : Draw) : Except Error op.Answer × Database :=
  match db.write (op.apply d) with
  | .ok (answer, db) => (.ok answer, db)
  | .error e => (.error e, db)

/-- A request's answer, from a store that it does not change. -/
def answer (db : Database) (op : Operation) (d : Draw) : Except Error op.Answer :=
    (db.perform op d).1

theorem perform_error {db : Database} {op : Operation} {d : Draw} {e : Error}
    (h : (db.perform op d).1 = .error e) : (db.perform op d).2 = db := by
  unfold perform at h ⊢
  split at h
  · cases h
  · rfl

theorem perform_poisoned {db : Database} (h : db.poisoned = true) (op : Operation) (d : Draw) :
    db.perform op d = (.error .poisoned, db) := by
  simp [perform, write_poisoned h]

end ChatServer.Database

