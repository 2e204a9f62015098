import ChatServer.Connection.Line
import ChatServer.Proofs.Ledger
import ChatServer.Proofs.Workers

/-!
# The life of a session

All sessions that one server has opened, each with its worker. Workers see
events and come to their ends in any order, and meanwhile sessions are evicted
or removed by others, queues are emptied, the server closes, and anything may
happen to the store.

A worker leaves the registry once, whatever it leaves for. Its session may have
been evicted by then; it is told to stop either way, and nobody else is touched,
since no other session has its link.

* `Life.Sound.traffic`, `Life.Sound.see`, `Life.Sound.conclude`: where a session
  stands, and what the registry has of it, at every moment.
* `Line.life_react`, `Line.life_tend`: the worker of a line lives like this.
* `Hall.Sound.run`: what holds of all sessions of a server.
* `Hall.Sound.spares`: what the end of a session does to others.
* `life_cycle`: the life of every session.
-/
namespace ChatServer.Connection

open Delivery Store

/-! ## Lives -/

structure Attempt where
  before : Phase
  after : Phase
  allowed : Bool
deriving DecidableEq

namespace Attempt

def of (s : Session) (next : Phase) : Attempt := ⟨s.phase, next, (s.move next).1⟩

theorem of_allowed {s : Session} {next : Phase} (h : s.phase.canMove next = true) :
    of s next = ⟨s.phase, next, true⟩ := by
  rw [of, Session.move_allowed h]

end Attempt

/-- A worker with the steps that its session has tried so far, and the event for
which it has left. -/
structure Life where
  worker : Worker
  tried : List Attempt
  reason : Option Event
deriving DecidableEq

namespace Life

/-- The steps of a whole life. -/
def course : List Attempt :=
  [⟨.connecting, .authenticated, true⟩, ⟨.authenticated, .active, true⟩, ⟨.active, .closing, true⟩,
    ⟨.closing, .closed, true⟩]

def opened (s : Session) (w : Worker) : Life :=
  ⟨w, [.of s .authenticated, .of (s.move .authenticated).2 .active], none⟩

/-- The worker sees an event, if it still reads. One that has left sees nothing
more, and nothing is done for it. -/
def see (l : Life) (d : Draw) (e : Event) (sv : Server) : Life × Server :=
  if l.worker.isReading then
    let (worker, after) := l.worker.react d e sv
    (if e.isEnding then ⟨worker, l.tried ++ [.of l.worker.session .closing], some e⟩
      else { l with worker }, after)
  else (l, sv)

/-- The worker comes to its end, if it has left. -/
def conclude (t : Timing) (l : Life) : Life :=
  if l.worker.session.phase = .closing then
    match l.reason.bind fun reason => l.worker.conclude? t reason with
    | some worker => { l with worker, tried := l.tried ++ [.of l.worker.session .closed] }
    | none => l
  else l

end Life

structure Hall where
  server : Server
  lives : List Life

inductive Happening
  /-- A session is opened for a user. -/
  | opening (id : Uuid) (owner : Identity)
  /-- A worker sees an event. -/
  | event (i : Nat) (d : Draw) (e : Event)
  /-- A worker that has left need not wait any longer. -/
  | conclude (i : Nat)
  /-- Sessions are removed or evicted, queues are emptied, the server closes. -/
  | connections (t : Traffic) (h : t.isRegistration = false)
  | store (db : Database)

def Happening.opened? : Happening → Option Uuid
  | .opening id _ => some id
  | _ => none

namespace Hall

def empty (capacity : Nat) (database : Database) : Hall := ⟨⟨database, .empty capacity⟩, []⟩

/-- The hall after something has happened. -/
def step (t : Timing) (hall : Hall) : Happening → Hall
  | .opening id owner =>
    match Worker.open (.begin id owner) hall.server with
    | .ok (worker, server) => ⟨server, hall.lives ++ [.opened (.begin id owner) worker]⟩
    | .error _ => hall
  | .event i d e =>
    match hall.lives[i]? with
    | some life =>
      let (life, server) := life.see d e hall.server
      ⟨server, hall.lives.set i life⟩
    | none => hall
  | .conclude i =>
    match hall.lives[i]? with
    | some life => { hall with lives := hall.lives.set i (life.conclude t) }
    | none => hall
  | .connections traffic _ =>
    { hall with server := { hall.server with registry := hall.server.registry.step traffic } }
  | .store db => { hall with server := { hall.server with database := db } }

def run (t : Timing) (hall : Hall) (happenings : List Happening) : Hall :=
    happenings.foldl (step t) hall

end Hall

/-! ## One life -/

namespace Life

/-- The life of a session that has left for an event. -/
def departed (l : Life) (e : Event) : Life :=
  ⟨{ l.worker with session := { l.worker.session with phase := .closing } },
    l.tried ++ [⟨.active, .closing, true⟩],
    some e⟩

/-- The life of a session that has been closed. -/
def closed (l : Life) : Life :=
  ⟨{ l.worker with session := { l.worker.session with phase := .closed } },
    l.tried ++ [⟨.closing, .closed, true⟩],
    l.reason⟩

inductive Place (r : Registry) (l : Life) : Prop
  | reading (phase : l.worker.session.phase = .active) (tried : l.tried = course.take 2)
  | leaving (phase : l.worker.session.phase = .closing) (tried : l.tried = course.take 3)
    (reason : l.reason.isSome = true) (gone : r.linkOf? l.worker.session.id = none)
  | ended (phase : l.worker.session.phase = .closed) (tried : l.tried = course)
    (gone : r.linkOf? l.worker.session.id = none)

/-- What holds of a life and the registry at every moment: the link is this
session's own, and phase, steps tried and registration go together. -/
structure Sound (r : Registry) (l : Life) : Prop where
  handed : l.worker.link < r.links.length
  attached : r.Attached l.worker.session.id l.worker.link
  /-- No other session has the link. -/
  own : ∀ x, r.linkOf? x = some l.worker.link → x = l.worker.session.id
  place : l.Place r

theorem isReading_iff {l : Life} : l.worker.isReading = true ↔ l.worker.session.phase =
    .active := by
  rw [Worker.isReading, decide_eq_true_eq]

theorem see_idle {l : Life} (h : l.worker.isReading = false) (d : Draw) (e : Event) (sv : Server) :
    l.see d e sv = (l, sv) := by
  rw [see, h, if_neg Bool.false_ne_true]

/-- A frame leaves the worker as it was. -/
theorem see_frame {e : Event} (he : e.isEnding = false) (l : Life) (d : Draw) (sv : Server) :
    (l.see d e sv).1 = l := by
  unfold see
  split
  · simp only [he, Bool.false_eq_true, if_false, Worker.react_frame he]
  · rfl

/-- For any other event the worker leaves the registry. -/
theorem see_ending {l : Life} {e : Event} (he : e.isEnding = true)
    (hphase : l.worker.session.phase = .active) (d : Draw) (sv : Server) :
    l.see d e sv = (l.departed e,
      { sv with registry := sv.registry.step (.unregister l.worker.session.id) }) := by
  have hallowed : l.worker.session.phase.canMove .closing = true := by
    rw [hphase]
    rfl
  simp only [see, isReading_iff.2 hphase, he, if_true, Worker.react_ending he, Worker.leave,
    Attempt.of_allowed hallowed, Session.move_allowed hallowed, hphase]
  rfl

/-- What a worker does to the registry others do as well. -/
theorem see_registry (l : Life) (d : Draw) (e : Event) (sv : Server) :
    (l.see d e sv).2.registry = sv.registry ∨
      ∃ t : Traffic, t.isRegistration = false ∧ (l.see d e sv).2.registry = sv.registry.step t := by
  unfold see
  split
  · cases e with
    | text s => exact .inr ⟨.deliver _ _, rfl, rfl⟩
    | binary => exact .inr ⟨.deliver _ _, rfl, rfl⟩
    | ping | pong => exact .inl rfl
    | close | streamEnd | readError | cancelled | writerStopped =>
      exact .inr ⟨.unregister _, rfl, rfl⟩
  · exact .inl rfl

/-- A worker that has left is closed, or fails and stays as it is. -/
theorem conclude_closing (t : Timing) {l : Life} (hphase : l.worker.session.phase = .closing) :
    l.conclude t = if (l.reason.bind fun reason => l.worker.conclude? t reason).isSome then l.closed
      else l := by
  rw [conclude, if_pos hphase]
  cases hworker : l.reason.bind fun reason => l.worker.conclude? t reason with
  | none => rfl
  | some worker =>
    obtain ⟨reason, -, hsome⟩ := Option.bind_eq_some_iff.1 hworker
    have hallowed : l.worker.session.phase.canMove .closed = true := by
      rw [hphase]
      rfl
    obtain rfl := Worker.conclude?_eq_some hsome
    rw [Option.isSome_some, if_pos rfl, closed, Worker.finish, Attempt.of_allowed hallowed,
      Session.move_allowed hallowed, hphase]

theorem conclude_cases (t : Timing) (l : Life) :
    l.conclude t = l ∨ l.worker.session.phase = .closing ∧ l.conclude t = l.closed := by
  by_cases hphase : l.worker.session.phase = .closing
  · rw [conclude_closing t hphase]
    split
    · exact .inr ⟨hphase, rfl⟩
    · exact .inl rfl
  · exact .inl (if_neg hphase)

/-- A worker that can wait for its writer is closed. -/
theorem conclude_waited {t : Timing} {l : Life} (ht : t.closingWait?.isSome = true)
    (hphase : l.worker.session.phase = .closing) (hreason : l.reason.isSome = true) :
    l.conclude t = l.closed := by
  obtain ⟨reason, hreason⟩ := Option.isSome_iff_exists.1 hreason
  have hworker : l.worker.conclude? t reason = some l.worker.finish := if_pos (.inr ht)
  rw [conclude_closing t hphase, hreason, Option.bind_some, hworker, Option.isSome_some, if_pos rfl]

namespace Sound

/-- A session that is opened is registered and active. -/
theorem opened {id : Uuid} {owner : Identity} {sv after : Server} {w : Worker}
    (hr : sv.registry.Wired) (h : Worker.open (.begin id owner) sv = .ok (w, after)) :
    (Life.opened (.begin id owner) w).Sound after.registry ∧
      w.session = ⟨id, owner.userId, owner.email, .active⟩ ∧
      w.link = sv.registry.links.length ∧
        after.registry = sv.registry.step (.register id owner.userId) := by
  obtain ⟨rfl, rfl⟩ := Worker.open_eq_ok h
  have hlink : (sv.registry.register id owner.userId).2.linkOf? id =
      some sv.registry.links.length := by
    rw [Registry.linkOf?, Registry.entryOf?_register, if_pos rfl, Option.map_some]
  refine ⟨⟨?_, .inl hlink, fun x hx => ?_, .reading rfl rfl⟩, rfl, rfl, rfl⟩
  · rw [Registry.length_links_register]
    exact Nat.lt_succ_self _
  · exact (hr.register id owner.userId).linkOf?_inj hx hlink

section
variable {r : Registry} {l : Life} (h : l.Sound r) (hr : r.Wired)
include h hr

/-- What happens to the registry keeps what holds, if it does not register the
session again. -/
theorem traffic {t : Traffic} (ht : ∀ userId, t ≠ .register l.worker.session.id userId) :
    l.Sound (r.step t) where
  handed := Nat.lt_of_lt_of_le h.handed (Registry.length_links_step_le r t)
  attached := hr.attached_step h.handed h.attached ht
  own := by
    intro x hx
    obtain ⟨e, he, hlink⟩ := Registry.entryOf?_of_linkOf? hx
    rcases Registry.entryOf?_step he with hold | ⟨userId, -, rfl⟩
    · exact h.own x (by rw [Registry.linkOf?_of_entryOf? hold, hlink])
    · exact absurd hlink (Nat.ne_of_gt h.handed)
  place := by
    cases h.place with
    | reading hphase htried => exact .reading hphase htried
    | leaving hphase htried hreason hgone =>
      exact .leaving hphase htried hreason (Registry.linkOf?_step_none hgone ht)
    | ended hphase htried hgone => exact .ended hphase htried (Registry.linkOf?_step_none hgone ht)

/-- So does the worker of any life. -/
theorem seen (m : Life) (d : Draw) (e : Event) {sv : Server} (hsv : sv.registry = r) :
    l.Sound (m.see d e sv).2.registry := by
  subst hsv
  rcases m.see_registry d e sv with hsame | ⟨t, ht, hstep⟩
  · rw [hsame]
    exact h
  · rw [hstep]
    exact h.traffic hr fun userId => by rintro rfl; cases ht

/-- A session that leaves has left the registry. -/
theorem departed (e : Event) (hphase : l.worker.session.phase = .active) :
    (l.departed e).Sound (r.step (.unregister l.worker.session.id)) := by
  have hafter := h.traffic hr (t := .unregister l.worker.session.id) (by simp)
  refine ⟨hafter.handed, hafter.attached, hafter.own, .leaving rfl ?_ rfl ?_⟩
  · cases h.place with
    | reading _ htried => rw [Life.departed, htried]; rfl
    | leaving hclosing | ended hclosing => rw [hphase] at hclosing; cases hclosing
  · exact (Registry.linkOf?_unregister r _ _).trans (if_pos rfl)

/-- What holds of a life still holds after an event. -/
theorem see (d : Draw) (e : Event) {sv : Server} (hsv : sv.registry = r) :
    (l.see d e sv).1.Sound (l.see d e sv).2.registry := by
  cases he : e.isEnding with
  | false =>
    rw [see_frame he]
    exact h.seen hr l d e hsv
  | true =>
    cases hreading : l.worker.isReading with
    | false =>
      rw [see_idle hreading, hsv]
      exact h
    | true =>
      rw [see_ending he (isReading_iff.1 hreading), hsv]
      exact h.departed hr e (isReading_iff.1 hreading)

end

section
variable {r : Registry} {l : Life} (h : l.Sound r)
include h

theorem conclude (t : Timing) : (l.conclude t).Sound r := by
  rcases l.conclude_cases t with hsame | ⟨hphase, hclosed⟩
  · rw [hsame]
    exact h
  · rw [hclosed]
    refine ⟨h.handed, h.attached, h.own, ?_⟩
    cases h.place with
    | leaving _ htried _ hgone => exact .ended rfl (by rw [closed, htried]; rfl) hgone
    | reading hactive => rw [hphase] at hactive; cases hactive
    | ended hended => rw [hphase] at hended; cases hended

/-- A worker that has left is closed once it need not wait any longer. -/
theorem concluded {t : Timing} (ht : t.closingWait?.isSome = true)
    (hleft : l.worker.isReading = false) :
    (l.conclude t).worker.session.phase = .closed ∧ (l.conclude t).tried = course := by
  cases h.place with
  | reading hphase =>
    rw [isReading_iff.2 hphase] at hleft
    cases hleft
  | leaving hphase htried hreason =>
    rw [conclude_waited ht hphase hreason, closed, htried]
    exact ⟨rfl, rfl⟩
  | ended hphase htried =>
    rcases l.conclude_cases t with hsame | ⟨hclosing, -⟩
    · rw [hsame]
      exact ⟨hphase, htried⟩
    · rw [hphase] at hclosing
      cases hclosing

/-- The steps are those of the course, up to where the session stands. -/
theorem ordered : l.tried <+: course ∧ l.tried.getLast?.map Attempt.after =
    some l.worker.session.phase := by
  cases h.place with
  | reading hphase htried | leaving hphase htried | ended hphase htried =>
    rw [hphase, htried]
    decide

/-- A session whose worker has left is not registered, and has been told to
stop. -/
theorem removed (hleft : l.worker.isReading = false) :
    r.linkOf? l.worker.session.id = none ∧ r.cancelled? l.worker.link = some true := by
  have hgone : r.linkOf? l.worker.session.id = none := by
    cases h.place with
    | reading hphase =>
      rw [isReading_iff.2 hphase] at hleft
      cases hleft
    | leaving _ _ _ hgone | ended _ _ hgone => exact hgone
  refine ⟨hgone, ?_⟩
  rcases h.attached with hlink | ⟨-, hcancelled⟩
  · rw [hgone] at hlink
    cases hlink
  · exact hcancelled

end

end Sound

/-- Nothing that a worker sees makes it another's. -/
theorem see_same (l : Life) (d : Draw) (e : Event) (sv : Server) :
    (l.see d e sv).1.worker.session.id = l.worker.session.id ∧
    (l.see d e sv).1.worker.link = l.worker.link := by
  cases he : e.isEnding with
  | false =>
    rw [see_frame he]
    exact ⟨rfl, rfl⟩
  | true =>
    cases hreading : l.worker.isReading with
    | false =>
      rw [see_idle hreading]
      exact ⟨rfl, rfl⟩
    | true =>
      rw [see_ending he (isReading_iff.1 hreading)]
      exact ⟨rfl, rfl⟩

theorem conclude_same (t : Timing) (l : Life) :
    (l.conclude t).worker.session.id = l.worker.session.id ∧
    (l.conclude t).worker.link = l.worker.link := by
  rcases l.conclude_cases t with hsame | ⟨-, hclosed⟩
  · rw [hsame]
    exact ⟨rfl, rfl⟩
  · rw [hclosed]
    exact ⟨rfl, rfl⟩

end Life

/-! ## The life of a line -/

/-- The life of the session of a line that has tried some steps so far. -/
def Line.life (l : Line) (tried : List Attempt) : Life := ⟨l.worker, tried, l.reason⟩

/-- A line whose worker reads and takes an event goes on with its life, and so
does the server. -/
theorem Line.life_react {l : Line} (h : l.worker.isReading = true) (tried : List Attempt) (d : Draw)
    (e : Event) (sv : Server) :
    ∃ more, (({ l.heard e with worker := (l.worker.react d e sv).1 } : Line).life (tried ++ more),
      (l.worker.react d e sv).2) = (l.life tried).see d e sv := by
  cases he : e.isEnding with
  | false =>
    have hreason : (l.heard e).reason = l.reason := by
      rw [Line.heard, he]
      split <;> rfl
    refine ⟨[], ?_⟩
    simp only [Life.see, Line.life, h, he, hreason, List.append_nil, if_true,
      Bool.false_eq_true, if_false]
  | true =>
    have hreason : (l.heard e).reason = some e := by
      have hpong : e ≠ .pong := by
        rintro rfl
        cases he
      rw [Line.heard, if_neg hpong, if_pos he]
    refine ⟨[.of l.worker.session .closing], ?_⟩
    simp only [Life.see, Line.life, h, he, hreason, if_true]

/-- A line whose writer works on may come to the end of its life, and does when
the writer has stopped. -/
theorem Line.life_tend (l : Line) (tried : List Attempt) (t : Timing) (now : Nat) (link : Link) :
    ∃ more, (l.tend t now link).2.life (tried ++ more) =
      if (l.tend t now link).2.writer.stage = .stopped then (l.life tried).conclude t
        else l.life tried := by
  unfold Line.tend
  generalize Outlet.settle t now ⟨l.writer, link, l.endpoint⟩ = o
  by_cases hphase : l.worker.session.phase = .closing
  · by_cases hstopped : o.writer.stage = .stopped
    · cases hworker : l.reason.bind fun reason => l.worker.conclude? t reason with
      | none => exact ⟨[], by simp [Line.life, Life.conclude, hphase, hstopped, hworker]⟩
      | some worker =>
        exact ⟨[.of l.worker.session .closed],
          by simp [Line.life, Life.conclude, hphase, hstopped, hworker]⟩
    · exact ⟨[], by simp [Line.life, hstopped]⟩
  · exact ⟨[], by simp [Line.life, Life.conclude, hphase]⟩

/-! ## All lives -/

namespace Hall

structure Sound (capacity : Nat) (hall : Hall) : Prop where
  wired : hall.server.registry.Wired
  queues : hall.server.registry.capacity = max capacity 1
  lives : ∀ life ∈ hall.lives, life.Sound hall.server.registry
  ids : (hall.lives.map fun life => life.worker.session.id).Nodup
  links : (hall.lives.map fun life => life.worker.link).Nodup

theorem set_of_getElem? {α : Type} {xs : List α} {i : Nat} {x : α} (h : xs[i]? = some x) :
    xs.set i x = xs := by
  obtain ⟨hi, rfl⟩ := List.getElem?_eq_some_iff.1 h
  exact List.set_getElem_self hi

/-- A change of one life that leaves it the same worker's changes no worker's
place. -/
theorem map_set_of_getElem? {α β : Type} {f : α → β} {xs : List α} {i : Nat} {x y : α}
    (h : xs[i]? = some x) (hf : f y = f x) : (xs.set i y).map f = xs.map f := by
  rw [List.map_set, hf]
  exact set_of_getElem? (by rw [List.getElem?_map, h, Option.map_some])

theorem sound_empty (capacity : Nat) (database : Database) :
    (empty capacity database).Sound capacity where
  wired := Registry.wired_empty capacity
  queues := rfl
  lives := by simp [empty]
  ids := .nil
  links := .nil

namespace Sound

variable {capacity : Nat} {hall : Hall} (h : hall.Sound capacity)
include h

/-- The registry may change by what keeps all lives. -/
theorem keep {server : Server} (hregistry : server.registry = hall.server.registry ∨
    ∃ t : Traffic, t.isRegistration = false ∧ server.registry = hall.server.registry.step t) :
    (⟨server, hall.lives⟩ : Hall).Sound capacity := by
  obtain ⟨db, r⟩ := server
  rcases hregistry with rfl | ⟨t, ht, rfl⟩
  · exact ⟨h.wired, h.queues, h.lives, h.ids, h.links⟩
  · refine ⟨h.wired.step t, (Registry.capacity_step _ t).trans h.queues, fun life hlife => ?_,
      h.ids, h.links⟩
    exact (h.lives life hlife).traffic h.wired fun userId => by rintro rfl; cases ht

/-- One life may go on. -/
theorem replace {i : Nat} {life after : Life} (hlife : hall.lives[i]? = some life)
    (hsame : after.worker.session.id = life.worker.session.id ∧
      after.worker.link = life.worker.link)
    (hafter : after.Sound hall.server.registry) :
    (⟨hall.server, hall.lives.set i after⟩ : Hall).Sound capacity where
  wired := h.wired
  queues := h.queues
  lives := by
    intro m hm
    rcases List.mem_or_eq_of_mem_set hm with hm | rfl
    · exact h.lives m hm
    · exact hafter
  ids := by
    rw [map_set_of_getElem? hlife hsame.1]
    exact h.ids
  links := by
    rw [map_set_of_getElem? hlife hsame.2]
    exact h.links

/-- A session that is new may be opened. -/
theorem enter {t : Timing} {id : Uuid} {owner : Identity}
    (hfresh : ∀ life ∈ hall.lives, life.worker.session.id ≠ id) :
    (hall.step t (.opening id owner)).Sound capacity := by
  rw [step]
  split
  · next worker server hopen =>
    obtain ⟨hnew, hsession, hlink, hregistry⟩ := Life.Sound.opened h.wired hopen
    have hold : ∀ life ∈ hall.lives, life.Sound server.registry := by
      intro life hlife
      rw [hregistry]
      refine (h.lives life hlife).traffic h.wired fun userId heq => ?_
      cases heq
      exact hfresh life hlife rfl
    refine ⟨hregistry ▸ h.wired.step _, ?_, fun life hlife => ?_, ?_, ?_⟩
    · rw [hregistry, Registry.capacity_step, h.queues]
    · rcases List.mem_append.1 hlife with hlife | hlife
      · exact hold life hlife
      · obtain rfl := List.mem_singleton.1 hlife
        exact hnew
    · rw [List.map_append, List.map_singleton]
      refine h.ids.append (List.nodup_singleton _) fun x hx hnew => ?_
      obtain ⟨life, hlife, rfl⟩ := List.mem_map.1 hx
      exact hfresh life hlife ((List.mem_singleton.1 hnew).trans (congrArg Session.id hsession))
    · rw [List.map_append, List.map_singleton]
      refine h.links.append (List.nodup_singleton _) fun n hn hnew => ?_
      obtain ⟨life, hlife, rfl⟩ := List.mem_map.1 hn
      exact Nat.ne_of_lt (h.lives life hlife).handed ((List.mem_singleton.1 hnew).trans hlink)
  · exact h

theorem step {t : Timing} {x : Happening}
    (hfresh : ∀ id, x.opened? = some id → ∀ life ∈ hall.lives, life.worker.session.id ≠ id) :
    (hall.step t x).Sound capacity := by
  cases x with
  | opening id owner => exact h.enter (hfresh id rfl)
  | event i d e =>
    rw [Hall.step]
    split
    · next life hlife =>
      have hserver := h.keep (life.see_registry d e hall.server)
      exact hserver.replace hlife (life.see_same d e hall.server)
        ((h.lives life (List.mem_of_getElem? hlife)).see h.wired d e rfl)
    · exact h
  | conclude i =>
    rw [Hall.step]
    split
    · next life hlife =>
      exact h.replace hlife (life.conclude_same t) ((h.lives life (List.mem_of_getElem? hlife)).conclude t)
    · exact h
  | connections traffic ht => exact h.keep (.inr ⟨traffic, ht, rfl⟩)
  | store db => exact h.keep (.inl rfl)

end Sound

/-- Only an opening brings a new session. -/
theorem step_ids {t : Timing} {hall : Hall} {x : Happening} {life : Life}
    (h : life ∈ (hall.step t x).lives) :
    (∃ old ∈ hall.lives, old.worker.session.id = life.worker.session.id) ∨
      x.opened? = some life.worker.session.id := by
  cases x with
  | opening id owner =>
    rw [step] at h
    split at h
    · next worker server hopen =>
      rcases List.mem_append.1 h with h | h
      · exact .inl ⟨life, h, rfl⟩
      · obtain rfl := List.mem_singleton.1 h
        obtain ⟨rfl, -⟩ := Worker.open_eq_ok hopen
        exact .inr rfl
    · exact .inl ⟨life, h, rfl⟩
  | event i d e =>
    rw [step] at h
    split at h
    · next old hold =>
      rcases List.mem_or_eq_of_mem_set h with h | rfl
      · exact .inl ⟨life, h, rfl⟩
      · exact .inl ⟨old, List.mem_of_getElem? hold, (old.see_same d e hall.server).1.symm⟩
    · exact .inl ⟨life, h, rfl⟩
  | conclude i =>
    rw [step] at h
    split at h
    · next old hold =>
      rcases List.mem_or_eq_of_mem_set h with h | rfl
      · exact .inl ⟨life, h, rfl⟩
      · exact .inl ⟨old, List.mem_of_getElem? hold, (old.conclude_same t).1.symm⟩
    · exact .inl ⟨life, h, rfl⟩
  | connections | store => exact .inl ⟨life, h, rfl⟩

theorem Sound.run {capacity : Nat} {hall : Hall} (h : hall.Sound capacity) {t : Timing}
    {happenings : List Happening} (hids : (happenings.filterMap Happening.opened?).Nodup)
    (hfresh : ∀ life ∈ hall.lives, life.worker.session.id ∉ happenings.filterMap Happening.opened?) :
    (hall.run t happenings).Sound capacity := by
  induction happenings generalizing hall with
  | nil => exact h
  | cons x rest ih =>
    have hrest : ∀ id ∈ rest.filterMap Happening.opened?,
      id ∈ (x :: rest).filterMap Happening.opened? :=
      fun id hid => ((List.sublist_cons_self x rest).filterMap _).subset hid
    have hstep : (hall.step t x).Sound capacity := by
      refine h.step fun id hid life hlife heq => hfresh life hlife ?_
      rw [heq, List.filterMap_cons_some hid]
      exact List.mem_cons_self
    refine ih hstep (hids.sublist ((List.sublist_cons_self x rest).filterMap _)) fun life hlife hagain => ?_
    rcases step_ids hlife with ⟨old, hold, hid⟩ | hopened
    · exact hfresh old hold (hid ▸ hrest _ hagain)
    · rw [List.filterMap_cons_some hopened] at hids
      exact (List.nodup_cons.1 hids).1 hagain

end Hall

/-! ## The end of one life -/

/-- What happens touches no session but that of one worker. -/
structure Hall.Spares (before after : Hall) (i : Nat) (life : Life) : Prop where
  lives : ∀ j, j ≠ i → after.lives[j]? = before.lives[j]?
  registrations : ∀ x, x ≠ life.worker.session.id →
    after.server.registry.entryOf? x = before.server.registry.entryOf? x ∧
      ∀ u, x ∈ after.server.registry.sessionsOf u ↔ x ∈ before.server.registry.sessionsOf u
  links : ∀ n, n ≠ life.worker.link → after.server.registry.link? n = before.server.registry.link? n
  closing : after.server.registry.closing = before.server.registry.closing
  database : after.server.database = before.server.database

/-- The worker of a life ends, or comes nearer to its end. -/
inductive Happening.Ends (i : Nat) : Happening → Prop
  | event (d : Draw) {e : Event} (he : e.isEnding = true) : Ends i (.event i d e)
  | conclude : Ends i (.conclude i)

namespace Life.Sound

variable {r : Registry} {l : Life} (h : l.Sound r)
include h

/-- No link but its own is cancelled when a session leaves the registry. -/
theorem link?_unregister {n : Nat} (hn : n ≠ l.worker.link) :
    (r.unregister l.worker.session.id).2.link? n = r.link? n := by
  have hlink : r.linkOf? l.worker.session.id ≠ some n := by
    rcases h.attached with hlink | ⟨hgone, -⟩
    · rw [hlink]
      exact fun heq => hn (Option.some.inj heq).symm
    · rw [hgone]
      exact nofun
  simp [Registry.link?_unregister, hlink]

end Life.Sound

namespace Hall

variable {t : Timing} {hall : Hall} {i : Nat} {life : Life}

theorem step_event (hlife : hall.lives[i]? = some life) (d : Draw) (e : Event) :
    hall.step t (.event i d e) =
      ⟨(life.see d e hall.server).2, hall.lives.set i (life.see d e hall.server).1⟩ := by
  simp only [step, hlife]

theorem step_conclude (hlife : hall.lives[i]? = some life) :
    hall.step t (.conclude i) = { hall with lives := hall.lives.set i (life.conclude t) } := by
  simp only [step, hlife]

theorem getElem?_set_of_getElem? {after : Life} (hlife : hall.lives[i]? = some life) :
    (hall.lives.set i after)[i]? = some after := by
  obtain ⟨hi, -⟩ := List.getElem?_eq_some_iff.1 hlife
  exact List.getElem?_set_self hi

theorem spares_of_set (after : Life) :
    Spares hall { hall with lives := hall.lives.set i after } i life where
  lives := fun _ hj => List.getElem?_set_ne (Ne.symm hj)
  registrations := fun _ _ => ⟨rfl, fun _ => .rfl⟩
  links := fun _ _ => rfl
  closing := rfl
  database := rfl

namespace Sound

variable {capacity : Nat} (h : hall.Sound capacity)
include h

/-- The end of a session spares the others. -/
theorem spares (hlife : hall.lives[i]? = some life) {x : Happening} (hx : x.Ends i) :
    Spares hall (hall.step t x) i life := by
  have hsound := h.lives life (List.mem_of_getElem? hlife)
  cases hx with
  | conclude =>
    rw [step_conclude hlife]
    exact spares_of_set _
  | @event d e he =>
    rw [step_event hlife]
    cases hreading : life.worker.isReading with
    | false =>
      rw [Life.see_idle hreading]
      exact spares_of_set _
    | true =>
      rw [Life.see_ending he (Life.isReading_iff.1 hreading)]
      exact
        { lives := fun _ hj => List.getElem?_set_ne (Ne.symm hj)
          registrations := fun _ hid =>
            ⟨(Registry.entryOf?_unregister ..).trans (if_neg hid),
              Registry.mem_sessionsOf_unregister hid⟩
          links := fun _ hn => hsound.link?_unregister hn
          closing := Registry.closing_foldl_unregister [_] _
          database := rfl }

/-- A session can be opened unless its queue cannot be made. -/
theorem opening (hcapacity : capacity ≤ Registry.longestQueue) (id : Uuid) (owner : Identity) :
    ∃ life, (hall.step t (.opening id owner)).lives = hall.lives ++ [life] ∧
      life.worker.session = ⟨id, owner.userId, owner.email, .active⟩ := by
  have hcan : hall.server.registry.canRegister = true := by
    rw [Registry.canRegister, h.queues, decide_eq_true_eq]
    exact Nat.max_le.2 ⟨hcapacity, by decide⟩
  cases hopen : Worker.open (.begin id owner) hall.server with
  | error e =>
    simp only [Worker.open, Server.register] at hopen
    split at hopen
    · cases hopen
    · next hcannot => exact absurd hcan hcannot
  | ok opened =>
    obtain ⟨worker, server⟩ := opened
    obtain ⟨-, hsession, -⟩ := Life.Sound.opened h.wired hopen
    refine ⟨.opened (.begin id owner) worker, ?_, hsession⟩
    simp only [Hall.step, hopen]

end Sound

/-- Frames leave a life as it is, and so does what happens to others. -/
theorem steady (hlife : hall.lives[i]? = some life) {x : Happening} (hx : ¬ x.Ends i) :
    (hall.step t x).lives[i]? = some life := by
  have hset {j : Nat} {after : Life} (hj : j ≠ i) : (hall.lives.set j after)[i]? = some life :=
    (List.getElem?_set_ne hj).trans hlife
  cases x with
  | opening id owner =>
    rw [step]
    split
    · exact List.getElem?_append_left (List.getElem?_eq_some_iff.1 hlife).1 ▸ hlife
    · exact hlife
  | event j d e =>
    by_cases hj : j = i
    · subst hj
      have he : e.isEnding = false := Bool.eq_false_iff.2 fun he => hx (.event d he)
      rw [step_event hlife, Life.see_frame he]
      exact getElem?_set_of_getElem? hlife
    · rw [step]
      split
      · exact hset hj
      · exact hlife
  | conclude j =>
    have hj : j ≠ i := fun hj => hx (hj ▸ .conclude)
    rw [step]
    split
    · exact hset hj
    · exact hlife
  | connections | store => exact hlife

/-- Every other event ends the reading, and the session leaves. -/
theorem leaving (hlife : hall.lives[i]? = some life) (hreading : life.worker.isReading = true)
    (d : Draw) {e : Event} (he : e.isEnding = true) :
    ∃ after, (hall.step t (.event i d e)).lives[i]? = some after ∧
      after.worker.session.phase = .closing := by
  refine ⟨(life.see d e hall.server).1, ?_, ?_⟩
  · rw [step_event hlife]
    exact getElem?_set_of_getElem? hlife
  · rw [Life.see_ending he (Life.isReading_iff.1 hreading)]
    rfl

/-- A worker that reads does not come to its end. -/
theorem waiting (hlife : hall.lives[i]? = some life) (hreading : life.worker.isReading = true) :
    (hall.step t (.conclude i)).lives[i]? = some life := by
  have hphase : life.worker.session.phase ≠ .closing := by
    rw [Life.isReading_iff.1 hreading]
    decide
  rw [step_conclude hlife, Life.conclude, if_neg hphase]
  exact getElem?_set_of_getElem? hlife

/-- What the lives of the sessions of a server are like. -/
structure Lawful (t : Timing) (capacity : Nat) (hall : Hall) : Prop where
  /-- Sessions can be opened, unless queues cannot be made, and are active
  then. -/
  opening : capacity ≤ Registry.longestQueue → ∀ id owner, ∃ life,
    (hall.step t (.opening id owner)).lives = hall.lives ++ [life] ∧
      life.worker.session = ⟨id, owner.userId, owner.email, .active⟩
  /-- No two sessions are the same or have the same link. -/
  apart : (hall.lives.map fun life => life.worker.session.id).Nodup ∧
    (hall.lives.map fun life => life.worker.link).Nodup
  /-- The steps that a session has tried are those of the course, in order and
  all allowed, and the last has led to where it stands. -/
  ordered : ∀ life ∈ hall.lives, life.tried <+: Life.course ∧
    life.tried.getLast?.map Attempt.after = some life.worker.session.phase
  /-- Frames do not end the reading, nor does anything that happens to
  others. -/
  steady : ∀ i life, hall.lives[i]? = some life → ∀ x : Happening, ¬ x.Ends i →
    (hall.step t x).lives[i]? = some life
  /-- Every other event does. -/
  leaving : ∀ i life, hall.lives[i]? = some life → life.worker.isReading = true →
    ∀ d e, e.isEnding = true → ∃ after, (hall.step t (.event i d e)).lives[i]? = some after ∧
      after.worker.session.phase = .closing
  /-- A worker does not come to its end before. -/
  waiting : ∀ i life, hall.lives[i]? = some life → life.worker.isReading = true →
    (hall.step t (.conclude i)).lives[i]? = some life
  /-- A session whose worker has left is not registered, and its link is
  cancelled. -/
  removed : ∀ life ∈ hall.lives, life.worker.isReading = false →
    hall.server.registry.contains life.worker.session.id = false ∧
      hall.server.registry.cancelled? life.worker.link = some true
  /-- It is closed after the whole course, once the writer need not be waited
  for. -/
  closed : ∀ i life, hall.lives[i]? = some life → life.worker.isReading = false →
    ∃ after, (hall.step t (.conclude i)).lives[i]? = some after ∧
      after.worker.session.phase = .closed ∧
      after.tried = Life.course
  /-- Nobody else is touched when a session leaves and is closed. -/
  spares : ∀ i life, hall.lives[i]? = some life → ∀ x : Happening, x.Ends i →
    Spares hall (hall.step t x) i life

end Hall

/-- Whatever happens on a server whose workers can wait for their writers, its
sessions go through their lives lawfully, if no two are opened under one
identifier. -/
theorem life_cycle {t : Timing} (ht : t.closingWait?.isSome = true) (capacity : Nat)
    (database : Database)
    {happenings : List Happening} (hids : (happenings.filterMap Happening.opened?).Nodup) :
    ((Hall.empty capacity database).run t happenings).Lawful t capacity := by
  have h : ((Hall.empty capacity database).run t happenings).Sound capacity :=
    (Hall.sound_empty capacity database).run hids (by simp [Hall.empty])
  have hlives := fun i life (hlife : ((Hall.empty capacity database).run t happenings).lives[i]? =
    some life) =>
    h.lives life (List.mem_of_getElem? hlife)
  exact
    { opening := h.opening
      apart := ⟨h.ids, h.links⟩
      ordered := fun life hlife => (h.lives life hlife).ordered
      steady := fun i life hlife x hx => Hall.steady hlife hx
      leaving := fun i life hlife hreading d e he => Hall.leaving hlife hreading d he
      waiting := fun i life hlife hreading => Hall.waiting hlife hreading
      removed := by
        intro life hlife hleft
        obtain ⟨hgone, hcancelled⟩ := (h.lives life hlife).removed hleft
        exact ⟨Option.isSome_eq_false_iff.2
          (Option.isNone_iff_eq_none.2 (Option.map_eq_none_iff.1 hgone)), hcancelled⟩
      closed := by
        intro i life hlife hleft
        obtain ⟨hphase, htried⟩ := (hlives i life hlife).concluded ht hleft
        refine ⟨_, ?_, hphase, htried⟩
        rw [Hall.step_conclude hlife]
        exact Hall.getElem?_set_of_getElem? hlife
      spares := fun i life hlife x hx => h.spares hlife hx }

/-- Two sessions are opened. The first is removed by others, and then its client
closes. -/
def sampleDay : List Happening :=
  [.opening (sampleId 8) ⟨sampleId 1, "a@test.com"⟩,
    .opening (sampleId 9) ⟨sampleId 2, "b@test.com"⟩,
    .event 0 (sampleDraw 0) .ping, .connections (.unregister (sampleId 8)) rfl,
      .event 0 (sampleDraw 0) .close,
    .conclude 0]

/-- The first is closed, the second goes on. -/
theorem life_cycle_sample :
    Timing.closingWait? ⟨54000, 10000⟩ = some 20000 ∧
    (sampleDay.filterMap Happening.opened?).Nodup ∧
      ((Hall.empty 8 .empty).run ⟨54000, 10000⟩ sampleDay).Lawful ⟨54000, 10000⟩ 8 ∧
      ((Hall.empty 8 .empty).run ⟨54000, 10000⟩ sampleDay).lives.map (fun life =>
        life.worker.session.phase) =
        [.closed, .active] :=
  ⟨rfl, by decide +kernel, life_cycle rfl 8 .empty (by decide +kernel), by decide +kernel⟩

end ChatServer.Connection

