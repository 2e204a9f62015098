import ChatServer.Proofs.Integrity

/-!
# Users in the ledger

What the store says of users. A question leaves the store as it is, whether it
is answered or not. A user who was found once is found again by the same
identifier, with the same email, whatever happens to the store. Along a run the
ledger knows the users with their hashed passwords, one for each email and each
identifier, and the store answers from it.

* `perform_reading`: what becomes of a question.
* `getUser_eq_ok`, `Tables.Grows.userById?`: the row that an answer about a user
  comes from, and that it is found as long as tables grow.
* `answer_createUser`, `answer_getUser`, `answer_getCredentials`: what a store
  that holds a ledger answers about users.
* `Holds.answer_getUser_run`: a user of the ledger is found whatever happens to
  the store.
-/
namespace ChatServer.Database

open Store

/-- A question is answered from the tables, and leaves the store as it is. -/
theorem perform_reading {op : Operation} {d : Draw} {f : Tables → Except Store.Error op.Answer}
    (hop : ∀ t, op.apply d t = Operation.asking t (f t)) (db : Database) :
    db.perform op d = (db.read f, db) := by
  obtain ⟨tables, poisoned⟩ := db
  cases poisoned with
  | true => rfl
  | false =>
    simp only [perform, write, read, Bool.false_eq_true, if_false, hop, Operation.asking]
    cases f tables <;> rfl

theorem perform_getUser (db : Database) (id : Uuid) (d : Draw) :
    db.perform (.getUser id) d = (db.read fun t => t.getUser id, db) :=
  perform_reading (fun _ => rfl) db

theorem perform_getCredentials (db : Database) (email : String) (d : Draw) :
    db.perform (.getCredentials email) d = (db.read fun t => t.getCredentials email, db) :=
  perform_reading (fun _ => rfl) db

theorem read_eq_ok {α : Type} {db : Database} {f : Tables → Except Store.Error α} {x : α}
    (h : db.read f = .ok x) : f db.tables = .ok x := by
  unfold read at h
  split at h
  · cases h
  · exact h

end ChatServer.Database

namespace ChatServer.Store

/-- What a row of a user reads as. -/
theorem UserRow.read_eq_ok {row : UserRow} {user : User} (h : row.read = .ok user) :
    (∃ text, row.id = some text ∧ Uuid.parse? text = some user.id) ∧ user.email = row.email := by
  obtain ⟨text, htext, h⟩ := bind_eq_ok.1 h
  obtain ⟨id, hid, h⟩ := bind_eq_ok.1 h
  obtain ⟨createdAt, -, h⟩ := bind_eq_ok.1 h
  cases h
  refine ⟨⟨text, ?_, ?_⟩, rfl⟩
  · unfold named at htext
    split at htext
    · next hrow => rw [hrow, Except.ok.inj htext]
    · cases htext
  · unfold readId at hid
    split at hid
    · next hparse => rw [hparse, Except.ok.inj hid]
    · cases hid

namespace Tables

/-- A user who is found has a row under the identifier that was asked for. -/
theorem getUser_eq_ok {t : Tables} {id : Uuid} {user : User} (h : t.getUser id = .ok (some user)) :
    user.id = id ∧ ∃ row, t.userById? id.text = some row ∧ row.email = user.email := by
  unfold getUser at h
  split at h
  · cases h
  · next row hrow =>
    obtain ⟨u, hread, hu⟩ := map_eq_ok.1 h
    obtain rfl := Option.some.inj hu
    obtain ⟨⟨text, hid, hparse⟩, hemail⟩ := UserRow.read_eq_ok hread
    obtain rfl : text = id.text := by simpa [hid] using List.find?_some hrow
    rw [Uuid.parse?_text] at hparse
    exact ⟨(Option.some.inj hparse).symm, row, hrow, hemail.symm⟩

/-- The row of a user is the first one with its identifier, and stays so. -/
theorem Grows.userById? {t u : Tables} (h : t.Grows u) {id : String} {row : UserRow}
    (hrow : t.userById? id = some row) : u.userById? id = some row :=
  h.users.find?_eq_some hrow

end Tables

/-! ## The users of a ledger -/

/-- What is the only one of its kind is found. -/
theorem find?_of_unique {α : Type} {p : α → Bool} {xs : List α} {a : α} (ha : a ∈ xs)
    (hp : p a = true) (hunique : ∀ b ∈ xs, p b = true → b = a) : xs.find? p = some a := by
  cases h : xs.find? p with
  | none => exact absurd hp (List.find?_eq_none.1 h a ha)
  | some b => rw [hunique b (List.mem_of_find?_eq_some h) (List.find?_some h)]

namespace Ledger

/-- The users with their hashed passwords, by email. -/
def account? (k : Ledger) (email : String) : Option (User × String) :=
    k.users.find? (·.1.email == email)

def user? (k : Ledger) (id : Uuid) : Option (User × String) := k.users.find? (·.1.id == id)

theorem userById?_written (k : Ledger) (id : Uuid) :
    k.written.userById? id.text = (k.user? id).map fun q => .ofUser q.1 q.2 := by
  rw [Tables.userById?, written, List.find?_map]
  simp only [Function.comp_def, UserRow.ofUser, Option.some_beq_some, Uuid.text_beq, user?]

theorem userByEmail?_written (k : Ledger) (email : String) :
    k.written.userByEmail? email = (k.account? email).map fun q => .ofUser q.1 q.2 := by
  rw [Tables.userByEmail?, written, List.find?_map]
  rfl

section
variable {k : Ledger} (hk : k.Sound) {q : User × String} (hq : q ∈ k.users)
include hk hq

/-- An email has one account. -/
theorem Sound.account?_eq_some {email : String} (hemail : q.1.email = email) :
    k.account? email = some q := by
  have hnodup : (k.users.map fun q => q.1.email).Nodup := by
    have h := hk.keyed.emails
    rwa [written, List.map_map] at h
  refine find?_of_unique hq (by simpa using hemail) fun r hr hremail => ?_
  exact List.inj_on_of_nodup_map hnodup hr hq ((beq_iff_eq.1 hremail).trans hemail.symm)

/-- An identifier has one account. -/
theorem Sound.user?_eq_some : k.user? q.1.id = some q := by
  have hnodup : (k.users.map fun q => q.1.id.text).Nodup := by
    have h := hk.keyed.userIds
    simpa only [written, List.filterMap_map, Function.comp_def, UserRow.ofUser,
      List.filterMap_eq_map'] using h
  refine find?_of_unique hq (by simp) fun r hr hid => List.inj_on_of_nodup_map hnodup hr hq ?_
  rw [beq_iff_eq.1 hid]

end

end Ledger
end ChatServer.Store

namespace ChatServer.Database

open Store

/-- A registration that finds the email taken leaves the store as it is. -/
theorem perform_none {db : Database} {email password : String} {d : Draw}
    (h : db.answer (.createUser email password) d = .ok none) :
    db.perform (.createUser email password) d = (.ok none, db) := by
  obtain ⟨-, t, ht, hafter⟩ := perform_eq_ok h
  rcases Tables.createUser_eq_ok ht with ⟨-, -, rfl⟩ | ⟨-, hanswer, -⟩
  · exact Prod.ext h hafter
  · cases hanswer

section
variable {db : Database} {k : Ledger} (h : db.Holds k)
include h

/-- An account is created under an identifier that is free, unless its email is
taken. -/
theorem Holds.answer_createUser {d : Draw} (hfresh : k.written.hasUser d.id.text = false)
    (email password : String) :
    db.answer (.createUser email password) d =
      .ok (if (k.account? email).isSome then none else some ⟨d.id, email, d.now⟩) := by
  rw [answer, perform_healthy h.healthy, h.tables]
  simp only [Operation.apply, Tables.createUser, Ledger.userByEmail?_written]
  cases haccount : k.account? email with
  | some q => rfl
  | none =>
    have hemail : k.written.users.any (·.email == email) = false := by
      have hnone := Ledger.userByEmail?_written k email
      rw [haccount, Option.map_none, Tables.userByEmail?, List.find?_eq_none] at hnone
      exact List.any_eq_false.2 hnone
    have hinsert : k.written.insertUser (.ofUser ⟨d.id, email, d.now⟩ password) = .ok
        { k.written with users := k.written.users ++ [.ofUser ⟨d.id, email, d.now⟩ password] } :=
      Tables.insertUser_eq_ok.2 ⟨hemail, hfresh, rfl⟩
    simp only [Option.map_none, hinsert]
    rfl

/-- The account of an email is found with its hashed password, and readable if
the clock was when it was created. -/
theorem Holds.answer_getCredentials (email : String)
    (hdate : ∀ q, k.account? email = some q → q.1.createdAt.hasFourDigitYear = true) (d : Draw) :
    db.answer (.getCredentials email) d = .ok (k.account? email) := by
  rw [answer, perform_healthy h.healthy, h.tables]
  simp only [Operation.apply, Tables.getCredentials, Ledger.userByEmail?_written]
  cases haccount : k.account? email with
  | none => rfl
  | some q =>
    simp only [Option.map_some, UserRow.read_ofUser (hdate q haccount)]
    rfl

/-- The user with an identifier is found, and readable if the clock was when the
account was created. -/
theorem Holds.answer_getUser (id : Uuid)
    (hdate : ∀ q, k.user? id = some q → q.1.createdAt.hasFourDigitYear = true) (d : Draw) :
    db.answer (.getUser id) d = .ok ((k.user? id).map Prod.fst) := by
  rw [answer, perform_healthy h.healthy, h.tables]
  simp only [Operation.apply, Tables.getUser, Ledger.userById?_written]
  cases huser : k.user? id with
  | none => rfl
  | some q =>
    simp only [Option.map_some, UserRow.read_ofUser (hdate q huser)]
    rfl

/-- A user of the ledger is found whatever happens to the store. -/
theorem Holds.answer_getUser_run {q : User × String} (hq : q ∈ k.users)
    (hdate : q.1.createdAt.hasFourDigitYear = true) (steps : List Step) (d : Draw) :
    (db.run steps).answer (.getUser q.1.id) d = .ok (some q.1) := by
  have hrow : (db.run steps).tables.userById? q.1.id.text = some (.ofUser q.1 q.2) := by
    refine (h.run_grows steps).userById? ?_
    rw [h.tables, Ledger.userById?_written, h.sound.user?_eq_some hq, Option.map_some]
  rw [answer, perform_getUser, read, (h.run steps).healthy, if_neg (by decide),
    Tables.getUser, hrow]
  simp only [UserRow.read_ofUser hdate]
  rfl

end

end ChatServer.Database

