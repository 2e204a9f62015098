import ChatServer.Proofs.BearerForms
import ChatServer.Proofs.Replies
import ChatServer.Proofs.Users
import ChatServer.Proofs.Workers

/-!
# Whom live sessions belong to

All that the server is at runs side by side: requests for data and accounts,
requests for sockets, and frames. Each goes on by one question to the store at a
time, and between two questions the others go on, sessions leave, and the server
may close. A request for a socket that is admitted has its session registered,
later and perhaps never.

What a request was admitted for stays true: the token of its header does not
change, and users stay in the store as they are. So it still holds when the
session is registered, and as long as it is live.

* `authenticateSocket_cases`: how a request for a socket may go on.
* `Sound.step`, `Sound.run`: what holds of the server, its tasks and its
  sessions at every moment.
* `work_alone`: a task that nothing comes between does what its plan does when
  it is run alone.
* `live_sessions_entitled`: live sessions belong to users who had a token, and
  refusals change nothing.
-/
namespace ChatServer.Admission

open ChatServer.Account ChatServer.Action ChatServer.Connection Delivery Store Time Web

/-! ## The server at work -/

inductive Arrival
  /-- A request that is not for a socket. The salt is for a password that may
  have to be hashed. -/
  | request (r : Request) (now : Instant) (salt : String)
  | socket (r : Request) (now : Instant)
  | text (s : Session) (now : Instant) (frame : String)
  | binary (s : Session)

inductive Finish
  | answered (answer : Except TimeOverflow Answer)
  /-- A request for a socket is refused with a status. -/
  | refused (status : Nat)
  /-- A request for a socket is admitted as some user's. -/
  | admitted (owner : Identity)
  | reply (reply : Reply)

def Finish.ofSocket : Except Nat Identity → Finish
  | .ok owner => .admitted owner
  | .error status => .refused status

def Arrival.plan (p : AccountPolicy) : Arrival → Plan Finish
  | .request r now salt => (serve p now salt r).map .answered
  | .socket r now => (authenticateSocket p.secret now r).map .ofSocket
  | .text s now frame => (respond s now frame).map .reply
  | .binary s => .done (.reply (.unreadable s Worker.binaryMessage))

structure Task where
  arrival : Arrival
  left : Plan Finish

structure Opening where
  arrival : Arrival
  worker : Worker

/-- The server, what it is at, and the sessions that it has ever opened. A task
goes on by one question at a time, and others may come between. -/
structure Site where
  server : Server
  tasks : List Task
  openings : List Opening

inductive Move
  | arrive (a : Arrival)
  /-- A task goes on: it puts a question to the store, or what came of it is
  carried out. -/
  | work (i : Nat) (d : Draw)
  /-- Sessions leave or are evicted, queues are emptied, the server closes. -/
  | connections (t : Traffic) (h : t.isRegistration = false)
  /-- Something fails inside the store. -/
  | poison

namespace Site

def idle (server : Server) : Site := ⟨server, [], []⟩

/-- Carries out what came of an arrival. -/
def carryOut (s : Site) (a : Arrival) (d : Draw) : Finish → Site
  | .answered _ | .refused _ => s
  | .admitted owner =>
    match Worker.open (.begin d.id owner) s.server with
    | .ok (worker, server) => { s with server, openings := s.openings ++ [⟨a, worker⟩] }
    | .error _ => s
  | .reply reply => { s with server := (s.server.deliver reply).2 }

def work (s : Site) (i : Nat) (d : Draw) (task : Task) : Site :=
  match task.left with
  | .done finish => ({ s with tasks := s.tasks.eraseIdx i } : Site).carryOut task.arrival d finish
  | .ask op next =>
    { s with
      server := { s.server with database := (s.server.database.perform op d).2 }
      tasks := s.tasks.set i ⟨task.arrival, next (s.server.database.perform op d).1⟩ }

/-- The site after a move. -/
def step (p : AccountPolicy) (s : Site) : Move → Site
  | .arrive a => { s with tasks := s.tasks ++ [⟨a, a.plan p⟩] }
  | .work i d =>
    match s.tasks[i]? with
    | none => s
    | some task => s.work i d task
  | .connections t _ => { s with server := { s.server with registry := s.server.registry.step t } }
  | .poison => { s with server := { s.server with database := s.server.database.poison } }

def run (p : AccountPolicy) (s : Site) (moves : List Move) : Site := moves.foldl (step p) s

end Site

/-! ## One arrival alone -/

/-- A task that nothing comes between runs its plan, and then what came of it is
carried out. -/
theorem work_alone (p : AccountPolicy) {s : Site} {a : Arrival} {left : Plan Finish}
    (htasks : s.tasks = [⟨a, left⟩]) (d : Draw) : ∃ k, s.run p (List.replicate k (.work 0 d)) =
      Site.carryOut ⟨{ s.server with database := (left.run d s.server.database).2 }, [],
        s.openings⟩ a d
        (left.run d s.server.database).1 := by
  induction left generalizing s with
  | done finish =>
    refine ⟨1, ?_⟩
    rw [List.replicate_one, Site.run, List.foldl_cons, List.foldl_nil, Site.step, htasks]
    simp only [List.getElem?_cons_zero, Site.work, htasks, List.eraseIdx_cons_zero]
    rfl
  | ask op next ih =>
    have hnext : (s.work 0 d ⟨a, .ask op next⟩).tasks =
        [⟨a, next (s.server.database.perform op d).1⟩] := by
      simp only [Site.work, htasks, List.set_cons_zero]
    obtain ⟨k, hk⟩ := ih _ hnext
    refine ⟨k + 1, ?_⟩
    rw [List.replicate_succ, Site.run, List.foldl_cons, Site.step, htasks]
    exact hk

section
variable (p : AccountPolicy) (server : Server) (d : Draw)

/-- A request that nothing comes between leaves the store that answering it
alone leaves. -/
theorem request_alone (r : Request) (salt : String) :
    ∃ k, ((Site.idle server).run p
        (.arrive (.request r d.now salt) :: List.replicate k (.work 0 d))).server =
      { server with database := ((serve p d.now salt r).run d server.database).2 } := by
  obtain ⟨k, hk⟩ :=
    work_alone p (s := (Site.idle server).step p (.arrive (.request r d.now salt))) rfl d
  refine ⟨k, (congrArg Site.server hk).trans ?_⟩
  rw [Arrival.plan, Plan.run_map]
  rfl

/-- A frame that nothing comes between is answered as the server answers it. -/
theorem text_alone (s : Session) (frame : String) :
    ∃ k, ((Site.idle server).run p
        (.arrive (.text s d.now frame) :: List.replicate k (.work 0 d))).server =
      (server.handleText s d frame).2 := by
  obtain ⟨k, hk⟩ :=
    work_alone p (s := (Site.idle server).step p (.arrive (.text s d.now frame))) rfl d
  refine ⟨k, (congrArg Site.server hk).trans ?_⟩
  rw [Arrival.plan, Plan.run_map]
  rfl

end

/-! ## Requests for sockets -/

/-- What an answer about the user of a token comes to. -/
def seated : Except Store.Error (Option User) → Except Nat Identity
  | .error _ => .error 500
  | .ok none => .error 401
  | .ok (some user) => .ok user.identity

/-- A request for a socket is refused at once, or has a token that holds and
asks for the user that it names. -/
theorem authenticateSocket_cases (secret : String) (now : Instant) (r : Request) :
    authenticateSocket secret now r = .done (.error 401) ∨
      ∃ token held, (r.header? "authorization").bind Bearer.lenient? = some token ∧
        Token.Valid secret now held token.toList ∧
        authenticateSocket secret now r = .ask (.getUser held.subject) fun answer =>
          .done (seated answer) := by
  unfold authenticateSocket
  cases htoken : (r.header? "authorization").bind Bearer.lenient? with
  | none => exact .inl rfl
  | some token =>
    cases hcheck : Token.check secret now token with
    | error f => exact .inl (admitted_unchecked hcheck)
    | ok held =>
      refine .inr ⟨token, held, rfl, Token.check_eq_ok_iff.1 hcheck, ?_⟩
      have hempty : token ≠ "" := by
        rintro rfl
        rw [Token.check_empty] at hcheck
        cases hcheck
      rw [admitted, verify, if_neg (by simpa using hempty), hcheck]
      refine congrArg (Plan.ask _) (funext fun answer => ?_)
      rcases answer with e | user?
      · rfl
      · cases user? <;> rfl

/-- A request for a socket leaves the store as it is. -/
theorem authenticateSocket_database (secret : String) (now : Instant) (r : Request) (d : Draw)
    (db : Database) :
    ((authenticateSocket secret now r).run d db).2 = db := by
  rcases authenticateSocket_cases secret now r with h | ⟨token, held, -, -, h⟩
  · rw [h]
    rfl
  · rw [h, Plan.run, Database.perform_getUser]
    rfl

/-- A request for a socket that nothing comes between opens a session of the
user that it is admitted as, or changes nothing. -/
theorem socket_alone (p : AccountPolicy) (server : Server) (d : Draw) (r : Request) :
    ∃ k, ((Site.idle server).run p (.arrive (.socket r d.now) :: List.replicate k (.work 0 d))).server =
      match ((authenticateSocket p.secret d.now r).run d server.database).1 with
      | .error _ => server
      | .ok owner =>
        match Worker.open (.begin d.id owner) server with
        | .ok (_, after) => after
        | .error _ => server := by
  obtain ⟨k, hk⟩ := work_alone p (s := (Site.idle server).step p (.arrive (.socket r d.now))) rfl d
  refine ⟨k, (congrArg Site.server hk).trans ?_⟩
  rw [Arrival.plan, Plan.run_map]
  simp only [Site.idle, Site.step, authenticateSocket_database]
  cases ((authenticateSocket p.secret d.now r).run d server.database).1 with
  | error status => rfl
  | ok owner =>
    simp only [Finish.ofSocket, Site.carryOut]
    cases Worker.open (.begin d.id owner) server <;> rfl

/-! ## What holds at every moment -/

/-- A request has a token in its header that was signed with the secret, had not
ended when the request came (with the leeway that every check of a token
allows), and names a user. -/
def Presents (secret : String) (r : Request) (now : Instant) (subject : Uuid) : Prop :=
  ∃ token held, (r.header? "authorization").bind Bearer.lenient? = some token ∧
    Token.Valid secret now held token.toList ∧ held.subject = subject

/-- The user with an identifier has this email. -/
def Knows (t : Tables) (owner : Identity) : Prop :=
  ∃ row, t.userById? owner.userId.text = some row ∧ row.email = owner.email

/-- An arrival is a request for a socket that may be admitted as a user's. -/
inductive Entitled (secret : String) (t : Tables) (owner : Identity) : Arrival → Prop
  | intro {r : Request} {now : Instant} (presents : Presents secret r now owner.userId)
      (known : Knows t owner) :
    Entitled secret t owner (.socket r now)

/-- How far a task may have come. Only requests for sockets are admitted, and
those that are not are answered 401 or 500. What a token presents is settled
when the request comes, and whom the store knows when it is asked. -/
inductive Underway (secret : String) (t : Tables) : Task → Prop
  | elsewhere {a : Arrival} {left : Plan Finish} (ha : ∀ r now, a ≠ .socket r now)
    (h : ∀ owner, ¬ left.MayEnd (.admitted owner)) : Underway secret t ⟨a, left⟩
  | refused {a : Arrival} {status : Nat} (h : status = 401 ∨ status = 500) :
    Underway secret t ⟨a, .done (.refused status)⟩
  | asking {r : Request} {now : Instant} {subject : Uuid} (h : Presents secret r now subject) :
    Underway secret t
      ⟨.socket r now, .ask (.getUser subject) fun answer => .done (.ofSocket (seated answer))⟩
  | admitted {a : Arrival} {owner : Identity} (h : Entitled secret t owner a) :
    Underway secret t ⟨a, .done (.admitted owner)⟩

section
variable {secret : String} {t u : Tables}

theorem Entitled.grow {owner : Identity} {a : Arrival} (h : Entitled secret t owner a)
    (hgrow : t.Grows u) :
    Entitled secret u owner a := by
  obtain ⟨hpresents, row, hrow, hemail⟩ := h
  exact ⟨hpresents, row, hgrow.userById? hrow, hemail⟩

theorem Underway.grow {task : Task} (h : Underway secret t task) (hgrow : t.Grows u) :
    Underway secret u task := by
  cases h with
  | elsewhere ha h => exact .elsewhere ha h
  | refused h => exact .refused h
  | asking h => exact .asking h
  | admitted h => exact .admitted (h.grow hgrow)

/-- Every arrival starts well. -/
theorem underway_start (p : AccountPolicy) (a : Arrival) : Underway p.secret t ⟨a, a.plan p⟩ := by
  have hmap {α : Type} {plan : Plan α} {f : α → Finish} (hf : ∀ x owner,
    f x ≠ .admitted owner) (owner : Identity) :
      ¬ (plan.map f).MayEnd (.admitted owner) := by
    intro h
    obtain ⟨x, -, hx⟩ := Plan.mayEnd_map h
    exact hf x owner hx
  cases a with
  | request r now salt => exact .elsewhere (by simp) (hmap (by simp))
  | text s now frame => exact .elsewhere (by simp) (hmap (by simp))
  | binary s =>
    refine .elsewhere (by simp) fun owner h => ?_
    cases h
  | socket r now =>
    rw [Arrival.plan]
    rcases authenticateSocket_cases p.secret now r with h | ⟨token, held, hpresents, hvalid, h⟩
    · rw [h]
      exact .refused (.inl rfl)
    · rw [h]
      exact .asking ⟨token, held, hpresents, hvalid, rfl⟩

/-- A task that asks is as well off with the answer. -/
theorem Underway.ask {a : Arrival} {op : Operation}
    {next : Except Store.Error op.Answer → Plan Finish} {db : Database}
    (h : Underway secret db.tables ⟨a, .ask op next⟩) (d : Draw) :
    Underway secret (db.perform op d).2.tables ⟨a, next (db.perform op d).1⟩ := by
  cases h with
  | elsewhere ha h => exact .elsewhere ha fun owner hend => h owner ⟨_, hend⟩
  | @asking r now subject hpresents =>
    rw [Database.perform_getUser]
    cases hread : db.read fun t => t.getUser subject with
    | error e => exact .refused (.inr rfl)
    | ok user? =>
      cases user? with
      | none => exact .refused (.inl rfl)
      | some user =>
        obtain ⟨rfl, hrow⟩ := Tables.getUser_eq_ok (Database.read_eq_ok hread)
        exact .admitted ⟨hpresents, hrow⟩

end

structure Site.Sound (secret : String) (s : Site) : Prop where
  tasks : ∀ task ∈ s.tasks, Underway secret s.server.database.tables task
  openings : ∀ o ∈ s.openings,
    Entitled secret s.server.database.tables o.worker.session.identity o.arrival
  sessions : ∀ id e, s.server.registry.entryOf? id = some e → ∃ o ∈ s.openings,
    o.worker.session.id = id ∧ o.worker.session.userId = e.userId ∧ o.worker.link = e.link

namespace Site.Sound

theorem idle (secret : String) (database : Database) (capacity : Nat) :
    (Site.idle ⟨database, .empty capacity⟩).Sound secret where
  tasks := by simp [Site.idle]
  openings := by simp [Site.idle]
  sessions := fun _ _ h => by cases h

section
variable {p : AccountPolicy} {s : Site} (h : s.Sound p.secret)
include h

/-- Tables may grow, and tasks may be left or go on. -/
theorem change (db : Database) (hgrow : s.server.database.tables.Grows db.tables)
    {tasks : List Task}
    (htasks : ∀ task ∈ tasks, task ∈ s.tasks ∨ Underway p.secret db.tables task) :
    ({ s with server := { s.server with database := db }, tasks } : Site).Sound p.secret where
  tasks := fun task ht => (htasks task ht).elim (fun hold => (h.tasks task hold).grow hgrow) id
  openings := fun o ho => (h.openings o ho).grow hgrow
  sessions := h.sessions

/-- Sessions may leave. -/
theorem connections {t : Traffic} (ht : t.isRegistration = false) :
    ({ s with server := { s.server with registry := s.server.registry.step t } } : Site).Sound
      p.secret where
  tasks := h.tasks
  openings := h.openings
  sessions := by
    intro id e he
    rcases Registry.entryOf?_step he with hold | ⟨userId, rfl, -⟩
    · exact h.sessions id e hold
    · cases ht

/-- A session of an entitled owner may be opened. -/
theorem enter {a : Arrival} {owner : Identity}
    (ha : Entitled p.secret s.server.database.tables owner a) (d : Draw) :
    (s.carryOut a d (.admitted owner)).Sound p.secret := by
  simp only [Site.carryOut]
  cases hopen : Worker.open (.begin d.id owner) s.server with
  | error e => exact h
  | ok r =>
    obtain ⟨worker, after⟩ := r
    obtain ⟨rfl, rfl⟩ := Worker.open_eq_ok hopen
    refine ⟨h.tasks, ?_, ?_⟩
    · intro o ho
      rcases List.mem_append.1 ho with ho | ho
      · exact h.openings o ho
      · obtain rfl := List.mem_singleton.1 ho
        exact ha
    · intro id e he
      rw [Registry.entryOf?_register] at he
      split at he
      · next hid =>
        cases he
        exact ⟨_, List.mem_append_right _ (List.mem_singleton.2 rfl), hid.symm, rfl, rfl⟩
      · obtain ⟨o, ho, hrest⟩ := h.sessions id e he
        exact ⟨o, List.mem_append_left _ ho, hrest⟩

theorem work {i : Nat} {task : Task} (htask : s.tasks[i]? = some task) (d : Draw) :
    (s.work i d task).Sound p.secret := by
  have hunderway := h.tasks task (List.mem_of_getElem? htask)
  obtain ⟨a, left⟩ := task
  cases left with
  | ask op next =>
    refine h.change _ (perform_grows _ _ _) fun task ht => ?_
    rcases List.mem_or_eq_of_mem_set ht with ht | rfl
    · exact .inl ht
    · exact .inr (hunderway.ask d)
  | done finish =>
    have hrest : ({ s with tasks := s.tasks.eraseIdx i } : Site).Sound p.secret :=
      h.change _ (.refl _) fun task ht => .inl (List.mem_of_mem_eraseIdx ht)
    cases finish with
    | answered | refused => exact hrest
    | reply reply => exact hrest.connections (t := .deliver reply.audience reply.envelope.text) rfl
    | admitted owner =>
      cases hunderway with
      | elsewhere _ hnever => exact absurd rfl (hnever owner)
      | admitted hentitled => exact hrest.enter hentitled d

theorem step (m : Move) : (s.step p m).Sound p.secret := by
  cases m with
  | arrive a =>
    refine h.change _ (.refl _) fun task ht => ?_
    rcases List.mem_append.1 ht with ht | ht
    · exact .inl ht
    · obtain rfl := List.mem_singleton.1 ht
      exact .inr (underway_start p a)
  | work i d =>
    rw [Site.step]
    split
    · exact h
    · next task htask => exact h.work htask d
  | connections t ht => exact h.connections ht
  | poison => exact h.change s.server.database.poison (.refl _) fun task ht => .inl ht

theorem run (moves : List Move) : (s.run p moves).Sound p.secret := by
  induction moves generalizing s with
  | nil => exact h
  | cons m moves ih => exact ih (h.step m)

/-- A request for a socket that is not admitted is answered 401 or 500, and no
step of it changes the server. -/
theorem refusal {i : Nat} {r : Request} {now : Instant} {left : Plan Finish}
    (htask : s.tasks[i]? = some ⟨.socket r now, left⟩)
    (hleft : ∀ owner, left ≠ .done (.admitted owner)) :
    (∀ finish, left = .done finish → finish = .refused 401 ∨ finish = .refused 500) ∧
      ∀ d, (s.step p (.work i d)).server = s.server := by
  have hunderway := h.tasks _ (List.mem_of_getElem? htask)
  cases hunderway with
  | elsewhere ha => exact absurd rfl (ha r now)
  | admitted => exact absurd rfl (hleft _)
  | refused hstatus =>
    refine ⟨fun finish hfinish => ?_, fun d => ?_⟩
    · cases hfinish
      exact hstatus.imp (congrArg _) (congrArg _)
    · rw [Site.step, htask]
      rfl
  | asking =>
    refine ⟨fun finish hfinish => (by cases hfinish), fun d => ?_⟩
    rw [Site.step, htask]
    simp only [Site.work, Database.perform_getUser]

end

end Site.Sound

/-- **Live sessions belong to users who had a token, and refusals change
nothing.** In every state that the server comes to, whatever reaches it: every
session that was ever opened was opened for a request with a token that was
signed and had not ended, and is its user's, whom the store still has with the
session's email; every live session is one of these, under its identifier, its
user and its link; and a request for a socket that is not admitted is answered
401 or 500, without a step that changes the registry or the store. -/
theorem live_sessions_entitled (p : AccountPolicy) (capacity : Nat) (moves : List Move) :
    let s := (Site.idle ⟨.empty, .empty capacity⟩).run p moves
    (∀ o ∈ s.openings, Entitled p.secret s.server.database.tables o.worker.session.identity o.arrival) ∧
      (∀ id e, s.server.registry.entryOf? id = some e → ∃ o ∈ s.openings,
        o.worker.session.id = id ∧ o.worker.session.userId = e.userId ∧ o.worker.link = e.link) ∧
      ∀ i r now left, s.tasks[i]? = some ⟨.socket r now, left⟩ →
        (∀ owner, left ≠ .done (.admitted owner)) →
        (∀ finish, left = .done finish → finish = .refused 401 ∨ finish = .refused 500) ∧
          ∀ d, (s.step p (.work i d)).server = s.server := by
  have hsound := (Site.Sound.idle p.secret .empty capacity).run (p := p) moves
  exact ⟨hsound.openings, hsound.sessions, fun _ _ _ _ htask hleft => hsound.refusal htask hleft⟩

end ChatServer.Admission

