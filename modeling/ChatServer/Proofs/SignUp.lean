import ChatServer.Proofs.TokenLife
import ChatServer.Proofs.Users
import ChatServer.Web.Service
import Mathlib.Data.List.TakeWhile

/-!
# Signing up and logging in

What an account request is answered depends on the requests before it and on
nothing else: on those that created an account and were answered 200. The first
to ask for an email gets it, and who logs in with an email and the password that
it was created with is who created it. So the accounts of the store can be read
off the answers that were given (`Kept`), and the answer to a request off these
accounts.

* `isPlausibleEmail_iff`: the emails that may be registered.
* `readBody_given`: fields that a body leaves out are read as empty.
* `Kept.step`, `Kept.run`: what the store holds after some requests, and what
  the next one is answered.
* `answered_by_history`: every request of every sequence.
-/
namespace ChatServer.Web

open Account Json Store Time

/-! ## Emails -/

/-- There is something on both sides of the first at sign, no blank, and not too
much. -/
structure Plausible (email : String) : Prop where
  parts : ∃ front back : List Char, email.toList = front ++ '@' :: back ∧ '@' ∉ front ∧
    front ≠ [] ∧ back ≠ []
  size : email.utf8ByteSize ≤ 254
  unblank : ∀ c ∈ email.toList, Text.isBlank c = false

/-- What stands on both sides of the first at sign. -/
theorem parts_iff (cs : List Char) :
    (∃ front back, cs = front ++ '@' :: back ∧ '@' ∉ front ∧ front ≠ [] ∧ back ≠ []) ↔
      cs.contains '@' = true ∧ cs.head? ≠ some '@' ∧ (cs.dropWhile (· ≠ '@')).drop 1 ≠ [] := by
  have hother {front : List Char} (h : '@' ∉ front) : ∀ c ∈ front, decide (c ≠ '@') = true :=
    fun c hc => decide_eq_true fun he => h (he ▸ hc)
  constructor
  · rintro ⟨front, back, rfl, hfront, hne, hback⟩
    refine ⟨by simp, ?_, ?_⟩
    · obtain ⟨c, rest, rfl⟩ := List.exists_cons_of_ne_nil hne
      have hc : c ≠ '@' := fun he => hfront (he ▸ List.mem_cons_self)
      simpa using hc
    · rw [List.dropWhile_append_of_pos (hother hfront), List.dropWhile_cons_of_neg (by decide)]
      exact hback
  · rintro ⟨hat, hhead, hback⟩
    have hmem : '@' ∉ cs.takeWhile (· ≠ '@') := fun h => by simpa using List.mem_takeWhile_imp h
    have hsplit : cs.takeWhile (· ≠ '@') ++ cs.dropWhile (· ≠ '@') = cs :=
      List.takeWhile_append_dropWhile
    have hfirst := List.head?_dropWhile_not (fun c => decide (c ≠ '@')) cs
    cases hrest : cs.dropWhile (· ≠ '@') with
    | nil =>
      rw [hrest] at hback
      exact absurd rfl hback
    | cons c back =>
      rw [hrest] at hsplit hfirst hback
      obtain rfl : c = '@' := by simpa using hfirst
      refine ⟨_, back, hsplit.symm, hmem, fun hnil => ?_, hback⟩
      rw [hnil] at hsplit
      exact hhead (by rw [← hsplit]; rfl)

theorem isPlausibleEmail_iff {email : String} : isPlausibleEmail email = true ↔
    Plausible email := by
  have hparts := parts_iff email.toList
  constructor
  · intro h
    simp only [isPlausibleEmail, Bool.and_eq_true, decide_eq_true_eq, Bool.not_eq_true',
      List.any_eq_false,
      List.isEmpty_eq_false_iff] at h
    obtain ⟨⟨⟨⟨hat, hhead⟩, hback⟩, hsize⟩, hblank⟩ := h
    exact ⟨hparts.2 ⟨hat, hhead, hback⟩, hsize, fun c hc => Bool.eq_false_iff.2 (hblank c hc)⟩
  · rintro ⟨hsides, hsize, hblank⟩
    obtain ⟨hat, hhead, hback⟩ := hparts.1 hsides
    simp only [isPlausibleEmail, Bool.and_eq_true, decide_eq_true_eq, Bool.not_eq_true',
      List.any_eq_false,
      List.isEmpty_eq_false_iff]
    exact ⟨⟨⟨⟨hat, hhead⟩, hback⟩, hsize⟩, fun c hc => Bool.eq_false_iff.1 (hblank c hc)⟩

/-! ## Bodies -/

/-- The members of a body that gives an email and a password, or leaves them
out. -/
def givenMembers (email? password? : Option String) : List (String × Value) :=
  (email?.map fun s => ("email", Value.string s)).toList ++
    (password?.map fun s => ("password", Value.string s)).toList

theorem takes_given (email? password? : Option String) (depth : Nat) :
    Takes (Credentials.fields.recordMember (depth + 1)) Credentials.fields.emptySlots
      (givenMembers email? password?) (email?, password?, ()) := by
  have htext (s : String) : Codec.text.Reads (depth + 1) (.string s) s := reads_ofString rfl
  have hemail (email : String) : ∀ rest, Ends rest → Credentials.fields.recordMember (depth + 1)
      Credentials.fields.emptySlots "email" (':' :: (Value.string email).chars ++ rest) =
        .ok ((some email, none, ()), rest) :=
    fun _ hr => Fields.recordMember_own (htext email) _ hr
  have hpassword (password : String) :
    ∀ rest, Ends rest → Credentials.fields.recordMember (depth + 1)
      (email?, none, ()) "password" (':' :: (Value.string password).chars ++ rest) =
        .ok ((email?, some password, ()), rest) :=
    fun _ hr => Fields.recordMember_behind (by decide) (Fields.recordMember_own (htext password) _ hr)
  have hrest : Takes (Credentials.fields.recordMember (depth + 1)) (email?, none, ())
      (password?.map fun s => ("password", Value.string s)).toList (email?, password?, ()) := by
    cases password? with
    | none => exact .nil
    | some password => exact .cons (hpassword password) .nil
  cases email? with
  | none => exact hrest
  | some email => exact .cons (hemail email) hrest

/-- **What a body leaves out is read as empty.** -/
theorem parse_given (name : String) (email? password? : Option String) :
    (Credentials.codec name).parse (Value.object (givenMembers email? password?)).text =
      .ok ⟨email?.getD "", password?.getD ""⟩ := by
  have hfinish : Credentials.fields.finish (email?, password?, ()) =
      .ok (email?.getD "", password?.getD "", ()) := by
    cases email? <;> cases password? <;> rfl
  exact ((reads_record (takes_given email? password? 126) hfinish).map _ _).parse

/-! ## Account requests -/

inductive Kind
  | create
  | login
deriving DecidableEq

namespace Kind

def route : Kind → Route
  | create => .createAccount
  | login => .login

def path : Kind → String
  | create => "/api/user/create"
  | login => "/api/user/login"

def codec : Kind → Codec Credentials
  | create => Credentials.forCreation
  | login => Credentials.forLogin

def plan (p : AccountPolicy) (now : Instant) (salt : String) (c : Credentials) : Kind → AnswerPlan
  | create => createAccount p now salt c
  | login => Web.login p now c

end Kind

/-- An account request with a well formed body, and what is drawn for it. -/
structure Visit where
  kind : Kind
  request : Request
  credentials : Credentials
  draw : Draw
  salt : String
  posted : request.method = "POST"
  routed : Route.ofPath? (Address.parts request.target).1 = some kind.route
  body : readBody kind.codec request = .ok credentials

namespace Visit

def email (v : Visit) : String := Text.trim v.credentials.email

/-- What the server answers to a request, and the store behind it. -/
def served (p : AccountPolicy) (db : Database) (v : Visit) :
    Except TimeOverflow Answer × Database :=
  (serve p v.draw.now v.salt v.request).run v.draw db

def result (p : AccountPolicy) (db : Database) (v : Visit) : Except TimeOverflow Answer :=
    (v.served p db).1

def after (p : AccountPolicy) (db : Database) (v : Visit) : Database := (v.served p db).2

/-- A request comes to the plan of its kind, with what its body gives. -/
theorem served_eq (p : AccountPolicy) (db : Database) (v : Visit) :
    v.served p db = (v.kind.plan p v.draw.now v.salt v.credentials).run v.draw db := by
  have hpost : "POST" ≠ "OPTIONS" := by decide
  have hbody := v.body
  cases hkind : v.kind with
  | create | login =>
    rw [hkind, Kind.codec] at hbody
    simp only [served, serve, v.posted, if_neg hpost, v.routed, hkind, Kind.route, posting, if_true,
      withBody, hbody,
      Kind.plan]

theorem readBody_given (name : String) (target : String) (email? password? : Option String) :
    readBody (Credentials.codec name)
      ⟨"POST", target, [("content-type", "application/json")],
        (Value.object (givenMembers email? password?)).text⟩ =
        .ok ⟨email?.getD "", password?.getD ""⟩ := by
  have htype : ((Request.header? ⟨"POST", target, [("content-type", "application/json")],
      (Value.object (givenMembers email? password?)).text⟩ "content-type").map
        MediaType.isJson).getD false = true :=
    MediaType.isJson_plain
  rw [readBody, if_pos htype, parse_given]
  rfl

theorem ofPath?_path (kind : Kind) :
    Route.ofPath? (Address.parts kind.path).1 = some kind.route := by
  cases kind <;> decide

/-- A request with a body that gives an email and a password, or leaves them
out. -/
def given (kind : Kind) (email? password? : Option String) (draw : Draw) (salt : String) :
    Visit where
  kind
  request := ⟨"POST", kind.path, [("content-type", "application/json")],
    (Value.object (givenMembers email? password?)).text⟩
  credentials := ⟨email?.getD "", password?.getD ""⟩
  draw
  salt
  posted := rfl
  routed := ofPath?_path kind
  body := by cases kind <;> exact readBody_given _ _ _ _

end Visit

/-! ## Histories -/

/-- Requests with what they were answered. -/
abbrev Past := List (Visit × Except TimeOverflow Answer)

def storeAfter (p : AccountPolicy) (db : Database) (visits : List Visit) : Database :=
  visits.foldl (fun db v => v.after p db) db

/-- Some requests, one after the other, with what they are answered. -/
def history (p : AccountPolicy) (db : Database) : List Visit → Past
  | [] => []
  | v :: visits => (v, v.result p db) :: history p (v.after p db) visits

theorem map_fst_history (p : AccountPolicy) (db : Database) (visits : List Visit) :
    (history p db visits).map Prod.fst = visits := by
  induction visits generalizing db with
  | nil => rfl
  | cons v visits ih => rw [history, List.map_cons, ih]

/-- A request of the past created the account of an email, with this answer. -/
structure Created (past : Past) (email : String) (w : Visit) (answer : Answer) : Prop where
  mem : (w, .ok answer) ∈ past
  kind : w.kind = .create
  status : answer.status = 200
  email : w.email = email

/-- An answer lets a user in: it names the user, and has a token that admits the
user until it ends, whatever happens to the store. -/
structure LetsIn (p : AccountPolicy) (now : Instant) (db : Database) (owner : Identity)
    (answer : Answer) : Prop where
  status : answer.status = 200
  body : answer.body = UserResponse.codec.write ⟨owner.userId, owner.email⟩
  token : ∃ token, answer.authorization = some ("Bearer " ++ token) ∧
    ∀ steps d t, t.unixSeconds ≤ now.unixSeconds + p.tokenSeconds + Token.leeway →
      ((verify p.secret t token).run d (db.run steps)).1 = .ok owner

/-- How a request for a new account is answered. -/
structure AnswersCreate (p : AccountPolicy) (past : Past) (db : Database) (v : Visit)
    (answer : Answer) : Prop where
  refused : answer.status = 400 ↔ ¬ Plausible v.email ∨ v.credentials.password = ""
  taken : answer.status = 409 ↔
    (Plausible v.email ∧ v.credentials.password ≠ "") ∧ ∃ w earlier, Created past v.email w earlier
  created : answer.status = 200 ↔
    (Plausible v.email ∧ v.credentials.password ≠ "") ∧
      ¬ ∃ w earlier, Created past v.email w earlier
  fresh : answer.status = 200 → db.tables.hasUser v.draw.id.text = false
  letsIn : answer.status = 200 → LetsIn p v.draw.now (v.after p db) ⟨v.draw.id, v.email⟩ answer

/-- How a request to log in is answered. -/
structure AnswersLogin (p : AccountPolicy) (past : Past) (db : Database) (v : Visit)
    (answer : Answer) : Prop where
  known : answer.status = 200 ↔
    ∃ w earlier, Created past v.email w earlier ∧ w.credentials.password = v.credentials.password
  unknown : answer.status = 401 ↔
    ¬ ∃ w earlier, Created past v.email w earlier ∧ w.credentials.password = v.credentials.password
  letsIn : ∀ w earlier, Created past v.email w earlier → w.credentials.password =
    v.credentials.password →
    LetsIn p v.draw.now (v.after p db) ⟨w.draw.id, v.email⟩ answer ∧ answer.body = earlier.body

/-- How a request is answered after others: as its kind is, and one that is not
answered 200 leaves the store as it was. -/
structure Answers (p : AccountPolicy) (past : Past) (db : Database) (v : Visit) (answer : Answer) :
    Prop where
  create : v.kind = .create → AnswersCreate p past db v answer
  login : v.kind = .login → AnswersLogin p past db v answer
  unchanged : answer.status ≠ 200 → v.after p db = db

/-- What is drawn for some requests: identifiers are new, accounts are created
at times that can be written with four digits for the year, and the end of every
token can be held. -/
structure Orderly (p : AccountPolicy) (visits : List Visit) : Prop where
  ids : ((visits.filter fun v => decide (v.kind = .create)).map fun v => v.draw.id).Nodup
  clock : ∀ v ∈ visits, v.kind = .create → v.draw.now.hasFourDigitYear = true
  ends : ∀ v ∈ visits, (v.draw.now.secondsAfter? p.tokenSeconds).isSome = true

theorem Orderly.of_append {p : AccountPolicy} {visits more : List Visit}
    (h : Orderly p (visits ++ more)) :
    Orderly p visits := by
  have hids := h.ids
  rw [List.filter_append, List.map_append] at hids
  exact ⟨hids.of_append_left, fun v hv => h.clock v (List.mem_append_left _ hv),
    fun v hv => h.ends v (List.mem_append_left _ hv)⟩

section
variable {p : AccountPolicy} {past : Past} {db : Database} {v : Visit} {answer : Answer}

/-- A request for an account is answered as it should be when its status fits
one of the three cases. -/
theorem AnswersCreate.of_status
    (hstatus : answer.status = 400 ∧ (¬ Plausible v.email ∨ v.credentials.password = "") ∨
      (Plausible v.email ∧ v.credentials.password ≠ "") ∧
        (answer.status = 409 ∧ (∃ w earlier, Created past v.email w earlier) ∨
          answer.status = 200 ∧ ¬ ∃ w earlier, Created past v.email w earlier))
    (hcreated : answer.status = 200 → db.tables.hasUser v.draw.id.text = false ∧
      LetsIn p v.draw.now (v.after p db) ⟨v.draw.id, v.email⟩ answer) :
      AnswersCreate p past db v answer := by
  have hrefused : (¬ Plausible v.email ∨ v.credentials.password = "") ↔
      ¬ (Plausible v.email ∧ v.credentials.password ≠ "") := by tauto
  have hother {status : Nat} (hs : answer.status = status) {other : Nat} (hne : status ≠ other) :
      ¬ answer.status = other := fun h => hne (hs.symm.trans h)
  refine ⟨?_, ?_, ?_, fun h => (hcreated h).1, fun h => (hcreated h).2⟩
  · rcases hstatus with ⟨hs, hr⟩ | ⟨hv, ⟨hs, -⟩ | ⟨hs, -⟩⟩
    · exact iff_of_true hs hr
    · exact iff_of_false (hother hs (by decide)) fun hr => hrefused.1 hr hv
    · exact iff_of_false (hother hs (by decide)) fun hr => hrefused.1 hr hv
  · rcases hstatus with ⟨hs, hr⟩ | ⟨hv, ⟨hs, hw⟩ | ⟨hs, hw⟩⟩
    · exact iff_of_false (hother hs (by decide)) fun ht => hrefused.1 hr ht.1
    · exact iff_of_true hs ⟨hv, hw⟩
    · exact iff_of_false (hother hs (by decide)) fun ht => hw ht.2
  · rcases hstatus with ⟨hs, hr⟩ | ⟨hv, ⟨hs, hw⟩ | ⟨hs, hw⟩⟩
    · exact iff_of_false (hother hs (by decide)) fun hc => hrefused.1 hr hc.1
    · exact iff_of_false (hother hs (by decide)) fun hc => hc.2 hw
    · exact iff_of_true hs ⟨hv, hw⟩

theorem Answers.of_create (hkind : v.kind = .create) (h : AnswersCreate p past db v answer)
    (hunchanged : answer.status ≠ 200 → v.after p db = db) : Answers p past db v answer where
  create := fun _ => h
  login := fun hlogin => by rw [hkind] at hlogin; cases hlogin
  unchanged := hunchanged

theorem Answers.of_login (hkind : v.kind = .login) (h : AnswersLogin p past db v answer)
    (hunchanged : v.after p db = db) : Answers p past db v answer where
  create := fun hcreate => by rw [hkind] at hcreate; cases hcreate
  login := fun _ => h
  unchanged := fun _ => hunchanged

end

/-! ## The accounts of a past -/

namespace Visit

/-- The account that a request asks for. -/
def account (p : AccountPolicy) (v : Visit) : User × String :=
  (⟨v.draw.id, v.email, v.draw.now⟩, p.hasher.hash v.salt v.credentials.password)

/-- The account that a request has created. -/
def entered (p : AccountPolicy) : Visit × Except TimeOverflow Answer → Option (User × String)
  | (v, .ok answer) => if v.kind = .create ∧ answer.status = 200 then some (v.account p) else none
  | (_, .error _) => none

theorem entered_eq_some {p : AccountPolicy} {e : Visit × Except TimeOverflow Answer}
    {q : User × String} :
    entered p e = some q ↔
      ∃ answer, e.2 = .ok answer ∧ e.1.kind = .create ∧ answer.status = 200 ∧
        e.1.account p = q := by
  obtain ⟨v, result⟩ := e
  cases result with
  | error f => simp [entered]
  | ok answer => simp [entered, and_assoc]

end Visit

/-- The accounts that the requests of the past have created. -/
def accounts (p : AccountPolicy) (past : Past) : List (User × String) :=
    past.filterMap (Visit.entered p)

structure Kept (p : AccountPolicy) (past : Past) (db : Database) (k : Ledger) : Prop where
  holds : db.Holds k
  users : k.users = accounts p past
  bodies : ∀ email w answer, Created past email w answer →
    answer.body = UserResponse.codec.write ⟨w.draw.id, w.email⟩

section
variable {p : AccountPolicy} {past : Past} {db : Database} {k : Ledger} (h : Kept p past db k)
include h

/-- The account of an email is the one that was created for it. -/
theorem Kept.account?_of_created {email : String} {w : Visit} {answer : Answer}
    (hw : Created past email w answer) :
    k.account? email = some (w.account p) := by
  have hmem : w.account p ∈ k.users := by
    rw [h.users, accounts, List.mem_filterMap]
    exact ⟨_, hw.mem, Visit.entered_eq_some.2 ⟨answer, rfl, hw.kind, hw.status, rfl⟩⟩
  exact h.holds.sound.account?_eq_some hmem hw.email

theorem Kept.created_of_account? {email : String} {q : User × String}
    (hq : k.account? email = some q) :
    ∃ w answer, Created past email w answer ∧ w.account p = q := by
  have hmem := List.mem_of_find?_eq_some hq
  rw [h.users, accounts, List.mem_filterMap] at hmem
  obtain ⟨⟨w, result⟩, he, hentered⟩ := hmem
  obtain ⟨answer, rfl, hkind, hstatus, rfl⟩ := Visit.entered_eq_some.1 hentered
  exact ⟨w, answer, ⟨he, hkind, hstatus, by simpa [Visit.account] using List.find?_some hq⟩, rfl⟩

/-- Accounts of the past were created at times that can be written. -/
theorem Kept.written_of_account? (hpast : Orderly p (past.map Prod.fst)) {email : String}
    {q : User × String}
    (hq : k.account? email = some q) : q.1.createdAt.hasFourDigitYear = true := by
  obtain ⟨w, answer, hw, rfl⟩ := h.created_of_account? hq
  exact hpast.clock w (List.mem_map_of_mem hw.mem) hw.kind

end

/-! ## Answers -/

/-- The answer that lets a user in with a token. -/
def welcomed (user : User) (token : String) : Answer :=
  { Answer.json (UserResponse.codec.write ⟨user.id, user.email⟩) with
    authorization := some ("Bearer " ++ token) }

theorem exists_token {p : AccountPolicy} {now : Instant}
    (h : (now.secondsAfter? p.tokenSeconds).isSome = true)
    (owner : Identity) : ∃ token, Token.issue p.secret owner p.tokenSeconds now = .ok token := by
  cases hissue : Token.issue p.secret owner p.tokenSeconds now with
  | ok token => exact ⟨token, rfl⟩
  | error f =>
    unfold Token.issue at hissue
    split at hissue
    · next hnone => rw [hnone] at h; cases h
    · cases hissue

theorem welcome_eq {p : AccountPolicy} {now : Instant} {user : User} {token : String}
    (h : Token.issue p.secret user.identity p.tokenSeconds now = .ok token) :
    welcome p now user = .done (.ok (welcomed user token)) := by
  rw [welcome, h]
  rfl

/-- A user of the ledger is let in. -/
theorem letsIn_welcomed {p : AccountPolicy} {now : Instant} {db : Database} {k : Ledger}
    {q : User × String}
    (h : db.Holds k) (hq : q ∈ k.users) (hdate : q.1.createdAt.hasFourDigitYear = true)
    {token : String} (htoken : Token.issue p.secret q.1.identity p.tokenSeconds now = .ok token) :
    LetsIn p now db q.1.identity (welcomed q.1 token) := by
  refine ⟨rfl, rfl, token, rfl, fun steps d t ht => ?_⟩
  obtain ⟨⟨hfirst, hlast⟩, rfl⟩ := issue_eq_ok.1 htoken
  have hword : ¬ (Token.expiryWord (now.unixSeconds + p.tokenSeconds) : Int) <
      t.unixSeconds - Token.leeway := by
    rw [Token.expiryWord_lt_iff hfirst hlast]
    omega
  exact (verify_sign (h.answer_getUser_run hq hdate steps d) p.secret q.1.email
    (Token.expiryWord_le _) t).trans (if_neg hword)

/-- What the answer of the store comes to when an account is created. -/
def ofCreation (p : AccountPolicy) (now : Instant) : Except Store.Error (Option User) → AnswerPlan
  | .error _ => status 500
  | .ok none => status 409
  | .ok (some user) => welcome p now user

/-- What the answer of the store comes to when someone logs in. -/
def ofLogin (p : AccountPolicy) (now : Instant) (password : String) :
    Except Store.Error (Option (User × String)) → AnswerPlan
  | .error _ => status 500
  | .ok none => status 401
  | .ok (some (user, text)) =>
    match p.hasher.check text password with
    | none => status 500
    | some false => status 401
    | some true => welcome p now user

section
variable {p : AccountPolicy} {db : Database} {v : Visit}

theorem served_refused (hkind : v.kind = .create)
    (hv : ¬ Plausible v.email ∨ v.credentials.password = "") :
    v.served p db = (.ok (.ofStatus 400), db) := by
  have hrefused : isPlausibleEmail (Text.trim v.credentials.email) = false ∨
    v.credentials.password = "" :=
    hv.imp_left fun h => Bool.eq_false_iff.2 (mt isPlausibleEmail_iff.1 h)
  rw [Visit.served_eq, hkind, Kind.plan, createAccount_refused hrefused]
  rfl

theorem served_accepted (hkind : v.kind = .create)
    (hv : Plausible v.email ∧ v.credentials.password ≠ "")
    {answer : Except Store.Error (Option User)} {after : Database}
    (hperform : db.perform (.createUser v.email (v.account p).2) v.draw = (answer, after)) :
    v.served p db = (ofCreation p v.draw.now answer).run v.draw after := by
  have haccepted : isPlausibleEmail (Text.trim v.credentials.email) = true :=
    isPlausibleEmail_iff.2 hv.1
  have hpassword : v.credentials.password.isEmpty = false := by simpa using hv.2
  rw [Visit.email, Visit.account] at hperform
  rw [Visit.served_eq, hkind, Kind.plan, createAccount, if_neg (by simp [haccepted, hpassword]),
    Plan.run, hperform]
  rcases answer with e | user?
  · rfl
  · cases user? <;> rfl

theorem served_login (hkind : v.kind = .login)
    {answer : Except Store.Error (Option (User × String))} {after : Database}
    (hperform : db.perform (.getCredentials v.email) v.draw = (answer, after)) :
    v.served p db = (ofLogin p v.draw.now v.credentials.password answer).run v.draw after := by
  rw [Visit.email] at hperform
  rw [Visit.served_eq, hkind, Kind.plan, Web.login, Plan.run, hperform]
  rcases answer with e | q?
  · rfl
  · cases q? <;> rfl

end

section
variable {p : AccountPolicy} {past : Past} {db : Database} {k : Ledger} {v : Visit}
    (h : Kept p past db k)
include h

theorem Kept.served_taken (hkind : v.kind = .create)
    (hv : Plausible v.email ∧ v.credentials.password ≠ "")
    (hfresh : db.tables.hasUser v.draw.id.text = false) {w : Visit} {answer : Answer}
    (hw : Created past v.email w answer) : v.served p db = (.ok (.ofStatus 409), db) := by
  have hanswer := h.holds.answer_createUser (h.holds.tables ▸ hfresh) v.email (v.account p).2
  rw [h.account?_of_created hw, Option.isSome_some, if_pos rfl] at hanswer
  rw [served_accepted hkind hv (Database.perform_none hanswer)]
  rfl

theorem Kept.served_created (hkind : v.kind = .create)
    (hv : Plausible v.email ∧ v.credentials.password ≠ "")
    (hfresh : db.tables.hasUser v.draw.id.text = false)
    (hnew : ¬ ∃ w answer, Created past v.email w answer) {token : String}
    (htoken : Token.issue p.secret (v.account p).1.identity p.tokenSeconds v.draw.now = .ok token) :
    ∃ after, v.served p db = (.ok (welcomed (v.account p).1 token), after) ∧
      after.Holds { k with users := k.users ++ [v.account p] } := by
  have hnone : k.account? v.email = none := by
    rw [Option.eq_none_iff_forall_ne_some]
    intro q hq
    obtain ⟨w, answer, hw, -⟩ := h.created_of_account? hq
    exact hnew ⟨w, answer, hw⟩
  have hanswer := h.holds.answer_createUser (h.holds.tables ▸ hfresh) v.email (v.account p).2
  rw [hnone, Option.isSome_none, if_neg (by decide), Database.answer] at hanswer
  have hholds := h.holds.perform (.createUser v.email (v.account p).2) v.draw
  rw [hanswer] at hholds
  refine ⟨_, (served_accepted hkind hv (Prod.ext hanswer rfl)).trans ?_, hholds⟩
  rw [ofCreation, show (⟨v.draw.id, v.email, v.draw.now⟩ : User) = (v.account p).1 from rfl,
    welcome_eq htoken]
  rfl

theorem Kept.served_login (hkind : v.kind = .login) (hpast : Orderly p (past.map Prod.fst)) :
    v.served p db =
      (ofLogin p v.draw.now v.credentials.password (.ok (k.account? v.email))).run v.draw db := by
  have hanswer := h.holds.answer_getCredentials v.email
    (fun q hq => h.written_of_account? hpast hq) v.draw
  refine Web.served_login hkind (Prod.ext hanswer ?_)
  rw [Database.perform_getCredentials]

/-- A request that creates nothing adds no account. -/
theorem Kept.unentered {answer : Answer} (hanswer : v.kind = .create → answer.status ≠ 200) :
    Kept p (past ++ [(v, .ok answer)]) db k := by
  have hnone : Visit.entered p (v, .ok answer) = none :=
    if_neg fun hcreated => hanswer hcreated.1 hcreated.2
  refine ⟨h.holds, ?_, fun email w earlier hw => ?_⟩
  · rw [accounts, List.filterMap_append, ← accounts, ← h.users, List.filterMap_cons_none hnone,
      List.filterMap_nil,
      List.append_nil]
  · rcases List.mem_append.1 hw.mem with hmem | hmem
    · exact h.bodies email w earlier { hw with mem := hmem }
    · cases List.mem_singleton.1 hmem
      exact absurd hw.status (hanswer hw.kind)

/-- A request that creates an account adds it. -/
theorem Kept.enter (hkind : v.kind = .create) {token : String} {after : Database}
    (hafter : after.Holds { k with users := k.users ++ [v.account p] }) :
    Kept p (past ++ [(v, .ok (welcomed (v.account p).1 token))]) after
      { k with users := k.users ++ [v.account p] } := by
  have hentered : Visit.entered p (v, .ok (welcomed (v.account p).1 token)) = some (v.account p) :=
    if_pos ⟨hkind, rfl⟩
  refine ⟨hafter, ?_, fun email w earlier hw => ?_⟩
  · rw [accounts, List.filterMap_append, ← accounts, ← h.users, List.filterMap_cons_some hentered,
      List.filterMap_nil]
  · rcases List.mem_append.1 hw.mem with hmem | hmem
    · exact h.bodies email w earlier { hw with mem := hmem }
    · cases List.mem_singleton.1 hmem
      rfl

/-- What is drawn for a new account is no identifier of the store. -/
theorem Kept.fresh (hvisits : Orderly p (past.map Prod.fst ++ [v])) (hkind : v.kind = .create) :
    db.tables.hasUser v.draw.id.text = false := by
  have hids := hvisits.ids
  rw [List.filter_append, List.map_append, List.filter_cons_of_pos (by simpa using hkind),
    List.nodup_append] at hids
  rw [h.holds.tables, Tables.hasUser, Ledger.written, List.any_map, List.any_eq_false]
  intro q hq hid
  rw [h.users, accounts, List.mem_filterMap] at hq
  obtain ⟨⟨w, result⟩, he, hentered⟩ := hq
  obtain ⟨answer, -, hw, -, rfl⟩ := Visit.entered_eq_some.1 hentered
  have hsame : w.draw.id = v.draw.id := by simpa [UserRow.ofUser, Visit.account] using hid
  have hmem : w ∈ (past.map Prod.fst).filter fun v => decide (v.kind = .create) :=
    List.mem_filter.2 ⟨List.mem_map_of_mem he, by simpa using hw⟩
  exact hids.2.2 _ (List.mem_map_of_mem hmem) _ (List.mem_singleton.2 rfl) hsame

/-! ## One request more -/

/-- A request is answered as it should be, and the accounts are kept. -/
def Settles (p : AccountPolicy) (past : Past) (db : Database) (v : Visit) : Prop :=
  ∃ answer after k, v.served p db = (.ok answer, after) ∧ Answers p past db v answer ∧
    Kept p (past ++ [(v, .ok answer)]) after k

theorem Kept.step_create (hvisits : Orderly p (past.map Prod.fst ++ [v]))
    (hkind : v.kind = .create) :
    Settles p past db v := by
  have hfresh := h.fresh hvisits hkind
  have hclock := hvisits.clock v (List.mem_append_right _ (List.mem_singleton.2 rfl)) hkind
  have hends := hvisits.ends v (List.mem_append_right _ (List.mem_singleton.2 rfl))
  by_cases hv : Plausible v.email ∧ v.credentials.password ≠ ""
  · by_cases hw : ∃ w earlier, Created past v.email w earlier
    · -- the email is taken
      obtain ⟨w, earlier, hcreated⟩ := id hw
      have hserved := h.served_taken hkind hv hfresh hcreated
      have hanswers : AnswersCreate p past db v (.ofStatus 409) :=
        .of_status (.inr ⟨hv, .inl ⟨rfl, hw⟩⟩) (by simp [Answer.ofStatus])
      exact ⟨_, _, k, hserved, .of_create hkind hanswers fun _ => congrArg Prod.snd hserved,
        h.unentered fun _ => by simp [Answer.ofStatus]⟩
    · -- the email is free
      obtain ⟨token, htoken⟩ := exists_token hends (v.account p).1.identity
      obtain ⟨after, hserved, hholds⟩ := h.served_created hkind hv hfresh hw htoken
      have hafter : v.after p db = after := congrArg Prod.snd hserved
      have hletsIn : LetsIn p v.draw.now (v.after p db) (v.account p).1.identity
        (welcomed (v.account p).1 token) :=
        hafter ▸ letsIn_welcomed hholds (List.mem_append_right _ (List.mem_singleton.2 rfl)) hclock htoken
      have hanswers : AnswersCreate p past db v (welcomed (v.account p).1 token) :=
        .of_status (.inr ⟨hv, .inr ⟨rfl, hw⟩⟩) fun _ => ⟨hfresh, hletsIn⟩
      exact ⟨_, _, _, hserved, .of_create hkind hanswers fun hne => absurd rfl hne,
        h.enter hkind hholds⟩
  · have hrefused : ¬ Plausible v.email ∨ v.credentials.password = "" := by tauto
    have hserved : v.served p db = (.ok (.ofStatus 400), db) := served_refused hkind hrefused
    have hanswers : AnswersCreate p past db v (.ofStatus 400) :=
      .of_status (.inl ⟨rfl, hrefused⟩) (by simp [Answer.ofStatus])
    exact ⟨_, _, k, hserved, .of_create hkind hanswers fun _ => congrArg Prod.snd hserved,
      h.unentered fun _ => by simp [Answer.ofStatus]⟩

/-- The password of an account is checked as that of the request that created
it. -/
theorem Kept.login_of_created (hkind : v.kind = .login) (hpast : Orderly p (past.map Prod.fst))
    {w : Visit} {earlier : Answer} (hw : Created past v.email w earlier) :
    v.served p db = (if w.credentials.password =
      v.credentials.password then welcome p v.draw.now (w.account p).1
      else status 401).run v.draw db := by
  rw [h.served_login hkind hpast, h.account?_of_created hw]
  simp only [ofLogin, Visit.account, p.hasher.check_hash]
  by_cases hpassword : w.credentials.password = v.credentials.password
  · rw [if_pos hpassword, beq_iff_eq.2 hpassword]
  · rw [if_neg hpassword, beq_eq_false_iff_ne.2 hpassword]

theorem Kept.served_unknown (hkind : v.kind = .login) (hpast : Orderly p (past.map Prod.fst))
    (hw : ¬ ∃ w earlier, Created past v.email w earlier ∧
      w.credentials.password = v.credentials.password) :
    v.served p db = (.ok (.ofStatus 401), db) := by
  cases haccount : k.account? v.email with
  | none =>
    rw [h.served_login hkind hpast, haccount]
    rfl
  | some q =>
    obtain ⟨w, earlier, hcreated, -⟩ := h.created_of_account? haccount
    rw [h.login_of_created hkind hpast hcreated,
      if_neg fun hpassword => hw ⟨w, earlier, hcreated, hpassword⟩]
    rfl

theorem Kept.step_login (hvisits : Orderly p (past.map Prod.fst ++ [v])) (hkind : v.kind = .login) :
    Settles p past db v := by
  have hpast := hvisits.of_append
  have hends := hvisits.ends v (List.mem_append_right _ (List.mem_singleton.2 rfl))
  have hnocreate : v.kind ≠ .create := by simp [hkind]
  by_cases hw : ∃ w earlier, Created past v.email w earlier ∧
    w.credentials.password = v.credentials.password
  · obtain ⟨w, earlier, hcreated, hpassword⟩ := id hw
    have haccount := h.account?_of_created hcreated
    obtain ⟨token, htoken⟩ := exists_token hends (w.account p).1.identity
    have hserved : v.served p db = (.ok (welcomed (w.account p).1 token), db) := by
      rw [h.login_of_created hkind hpast hcreated, if_pos hpassword, welcome_eq htoken]
      rfl
    have hafter : v.after p db = db := congrArg Prod.snd hserved
    have hletsIn : LetsIn p v.draw.now (v.after p db) (w.account p).1.identity
      (welcomed (w.account p).1 token) :=
      hafter.symm ▸ letsIn_welcomed h.holds (List.mem_of_find?_eq_some haccount)
        (h.written_of_account? hpast haccount) htoken
    refine ⟨_, db, k, hserved, .of_login hkind ?_ hafter, h.unentered fun hc => absurd hc hnocreate⟩
    refine ⟨iff_of_true rfl hw, iff_of_false (by simp [welcomed, Answer.json]) (not_not.2 hw),
      fun w' earlier' hcreated' _ => ?_⟩
    -- the email has one account, so any other request that created it drew the same identifier
    have hsame : w.account p = w'.account p :=
      Option.some.inj (haccount.symm.trans (h.account?_of_created hcreated'))
    have hid : (⟨w'.draw.id, v.email⟩ : Identity) = (w.account p).1.identity := by
      rw [hsame, ← hcreated'.email]
      rfl
    refine ⟨hid ▸ hletsIn, ?_⟩
    rw [h.bodies _ _ _ hcreated', hcreated'.email, hletsIn.body, ← hid]
  · have hserved := h.served_unknown hkind hpast hw
    have hanswers : AnswersLogin p past db v (.ofStatus 401) :=
      ⟨iff_of_false (by simp [Answer.ofStatus]) hw, iff_of_true rfl hw,
        fun w earlier hcreated hpassword => absurd ⟨w, earlier, hcreated, hpassword⟩ hw⟩
    exact ⟨_, db, k, hserved, .of_login hkind hanswers (congrArg Prod.snd hserved),
      h.unentered fun hc => absurd hc hnocreate⟩

/-- **What the next request is answered, and what is kept behind it.** -/
theorem Kept.step (hvisits : Orderly p (past.map Prod.fst ++ [v])) : Settles p past db v := by
  cases hkind : v.kind with
  | create => exact h.step_create hvisits hkind
  | login => exact h.step_login hvisits hkind

end

theorem Kept.run {p : AccountPolicy} {past : Past} {db : Database} {k : Ledger}
    (h : Kept p past db k)
    (visits : List Visit) (hvisits : Orderly p (past.map Prod.fst ++ visits)) :
    ∃ k', Kept p (past ++ history p db visits) (storeAfter p db visits) k' := by
  induction visits generalizing past db k with
  | nil => exact ⟨k, by rwa [history, List.append_nil]⟩
  | cons v visits ih =>
    have hsplit : past.map Prod.fst ++ v :: visits = (past.map Prod.fst ++ [v]) ++ visits := by simp
    rw [hsplit] at hvisits
    obtain ⟨answer, after, k', hserved, -, hkept⟩ := h.step hvisits.of_append
    have hresult : v.result p db = .ok answer := congrArg Prod.fst hserved
    have hafter : v.after p db = after := congrArg Prod.snd hserved
    obtain ⟨k'', hrun⟩ := ih hkept (by simpa using hvisits)
    refine ⟨k'', ?_⟩
    rw [history, storeAfter, List.foldl_cons, hresult, hafter]
    simpa [storeAfter] using hrun

theorem kept_empty (p : AccountPolicy) : Kept p [] .empty .empty :=
  ⟨Database.holds_empty, rfl, fun _ _ _ h => by cases h.mem⟩

/-- **Every request is answered by the history of the requests before it.** -/
theorem answered_by_history {p : AccountPolicy} (before : List Visit) (v : Visit)
    (h : Orderly p (before ++ [v])) :
    ∃ answer, v.result p (storeAfter p .empty before) = .ok answer ∧
      Answers p (history p .empty before) (storeAfter p .empty before) v answer := by
  obtain ⟨k, hkept⟩ := (kept_empty p).run before (by simpa using h.of_append)
  rw [List.nil_append] at hkept
  obtain ⟨answer, after, -, hserved, hanswers, -⟩ := hkept.step (v := v) (by rwa [map_fst_history])
  exact ⟨answer, congrArg Prod.fst hserved, hanswers⟩

/-- A server whose tokens live for an hour. -/
def samplePolicy : AccountPolicy := ⟨"key", 3600, .plain []⟩

/-- A request for an account, with blanks around the email. -/
def sampleCreation : Visit := .given .create (some " a@test.com ") (some "secret")
    (sampleDraw 1) "salt"

def sampleLogin : Visit := .given .login (some "a@test.com") (some "secret") (sampleDraw 2) "salt"

theorem orderly_sample : Orderly samplePolicy ([sampleCreation] ++ [sampleLogin]) := by
  refine ⟨by decide, ?_, ?_⟩
  · simp only [List.singleton_append, List.mem_cons, List.not_mem_nil, or_false, forall_eq_or_imp,
      forall_eq]
    decide
  · simp only [List.singleton_append, List.mem_cons, List.not_mem_nil, or_false, forall_eq_or_imp,
      forall_eq]
    decide

/-- Who logs in after signing up, with the same password, is let in. -/
theorem answered_by_history_sample : Orderly samplePolicy ([sampleCreation] ++ [sampleLogin]) ∧
    ∃ answer,
      sampleLogin.result samplePolicy (storeAfter samplePolicy .empty [sampleCreation]) =
        .ok answer ∧
      LetsIn samplePolicy sampleNoon
        (sampleLogin.after samplePolicy (storeAfter samplePolicy .empty [sampleCreation]))
        ⟨sampleId 1, "a@test.com"⟩ answer := by
  have hemail : sampleCreation.email = "a@test.com" := by decide +kernel
  have hlogin : sampleLogin.email = "a@test.com" := by decide +kernel
  have haccepted : Plausible sampleCreation.email :=
    isPlausibleEmail_iff.1 (by rw [hemail]; decide +kernel)
  obtain ⟨first, hfirst, hcreates⟩ := answered_by_history [] sampleCreation orderly_sample.of_append
  have hstatus : first.status = 200 :=
    (hcreates.create rfl).created.2 ⟨⟨haccepted, by decide⟩, fun ⟨w, a, hw⟩ => by cases hw.mem⟩
  obtain ⟨second, hsecond, hanswers⟩ :=
    answered_by_history [sampleCreation] sampleLogin orderly_sample
  have hcreated : Created (history samplePolicy .empty [sampleCreation]) sampleLogin.email
      sampleCreation first :=
    ⟨by rw [history, history, ← hfirst]; exact List.mem_singleton.2 rfl, rfl,
      hstatus, by rw [hemail, hlogin]⟩
  have hletsIn := ((hanswers.login rfl).letsIn _ _ hcreated rfl).1
  rw [hlogin] at hletsIn
  exact ⟨orderly_sample, second, hsecond, hletsIn⟩

end ChatServer.Web

