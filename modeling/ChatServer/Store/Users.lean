import ChatServer.Store.Tables

/-!
# Users in the store

Creating and finding accounts. An email is registered once, as it is written:
case matters.

* `createUser_eq_ok`: a registered email is refused without a change; otherwise
  one row is added, and the user it stands for is the answer.
-/
namespace ChatServer.Store

open Time

/-- What an operation takes from outside: an identifier, more of them in case it
is in use, and the time. -/
structure Draw where
  id : Uuid
  spare : List Uuid
  now : Instant

namespace Tables

def userByEmail? (t : Tables) (email : String) : Option UserRow := t.users.find? (·.email == email)

def userById? (t : Tables) (id : String) : Option UserRow := t.users.find? (·.id == some id)

/-- Registers an account; none when the email is taken. Whether it is taken is
looked at before the row is put in, where it would be an error. -/
def createUser (t : Tables) (d : Draw) (email password : String) :
    Except Error (Option User × Tables) :=
  match t.userByEmail? email with
  | some row => (named row.id).map fun _ => (none, t)
  | none => do
    let user : User := ⟨d.id, email, d.now⟩
    let t ← t.insertUser (.ofUser user password)
    return (some user, t)

def getUser (t : Tables) (id : Uuid) : Except Error (Option User) :=
  match t.userById? id.text with
  | none => .ok none
  | some row => row.read.map some

def getCredentials (t : Tables) (email : String) : Except Error (Option (User × String)) :=
  match t.userByEmail? email with
  | none => .ok none
  | some row => row.read.map fun u => some (u, row.password)

/-- A registration that succeeds found the email taken, or added one row. -/
theorem createUser_eq_ok {t u : Tables} {d : Draw} {email password : String} {answer : Option User}
    (h : t.createUser d email password = .ok (answer, u)) :
    (t.userByEmail? email ≠ none ∧ answer = none ∧ t = u) ∨
      (t.userByEmail? email = none ∧ answer = some ⟨d.id, email, d.now⟩ ∧
        t.insertUser (.ofUser ⟨d.id, email, d.now⟩ password) = .ok u) := by
  unfold createUser at h
  split at h
  · next row hrow =>
    obtain ⟨id, -, he⟩ := map_eq_ok.1 h
    cases he
    exact .inl ⟨by simp [hrow], rfl, rfl⟩
  · next hrow =>
    obtain ⟨v, hv, he⟩ := bind_eq_ok.1 h
    cases he
    exact .inr ⟨hrow, rfl, hv⟩

end Tables
end ChatServer.Store

