import ChatServer.Connection.Worker
import ChatServer.Proofs.Cancellation
import ChatServer.Proofs.FanOut
import ChatServer.Proofs.Frames
import ChatServer.Proofs.Replies
import Mathlib.Data.List.Infix
import Mathlib.Logic.Function.Basic

/-!
# Conversations

Each session has a worker that takes one frame at a time and answers it before
it takes the next. The workers of all sessions run side by side: between two
things that one of them does, the others may put questions to the store and
deliver replies, and sessions come and go.

What a client finds in its queue is then a mixture of the replies to its own
frames and of events that other sessions caused. The first are those that name
its session: a reply names the session that asked, and no client has a say in
it.

* `react_alone`: a frame that nothing comes between is answered as a worker
  reacts to it.
* `Sane.step`, `Sane.run`: what holds of a hub at every moment.
* `pending_step`, `queued_step`: what one move does to the frames of a session,
  and to its queue.
* `replies_in_order`: over a run, the frames of a queue that name its session
  are the replies to the frames of that session, in their order.
-/
namespace ChatServer.Delivery

def Traffic.isDelivery : Traffic → Bool
  | .deliver .. => true
  | _ => false

end ChatServer.Delivery

namespace ChatServer.Conversation

open ChatServer.Action ChatServer.Connection Delivery Protocol Store Time

/-! ## The hub -/

inductive Frame
  | text (s : String)
  | binary
deriving DecidableEq

structure Arrival where
  session : Session
  now : Instant
  frame : Frame
deriving DecidableEq

/-- What is done for a frame. Bytes are refused without the store. -/
def Arrival.plan (a : Arrival) : Plan Reply :=
  match a.frame with
  | .text s => respond a.session a.now s
  | .binary => .done (.unreadable a.session Worker.binaryMessage)

/-- A frame that is being answered, and what is left to do for it. -/
structure Job where
  arrival : Arrival
  left : Plan Reply

structure Answer where
  arrival : Arrival
  reply : Reply
deriving DecidableEq

/-- The text that was delivered. -/
def Answer.text (a : Answer) : String := a.reply.envelope.text

/-- The server, and what the worker of each session is at. A worker that is at a
frame takes no other, and between two steps of one worker any other may do its
own. -/
structure Hub where
  server : Server
  jobs : Uuid → Option Job

inductive Move
  /-- A worker takes a frame, if it has answered the one before. -/
  | take (a : Arrival)
  /-- The worker of a session goes on: it puts a question to the store, or
  delivers its reply. -/
  | work (id : Uuid) (d : Draw)
  /-- Something else changes the store, in any way. -/
  | store (db : Database)
  /-- Sessions come and go, and frames are taken out of queues. -/
  | connections (t : Traffic) (h : t.isDelivery = false)

namespace Hub

def idle (server : Server) : Hub := ⟨server, fun _ => none⟩

def setJob (h : Hub) (id : Uuid) (job? : Option Job) : Hub :=
  { h with jobs := Function.update h.jobs id job? }

/-- The worker of a session puts a question to the store. -/
def ask (h : Hub) (id : Uuid) (d : Draw) (a : Arrival) (op : Operation)
    (next : Except Error op.Answer → Plan Reply) : Hub :=
  ({ h with server := { h.server with database := (h.server.database.perform op d).2 } } : Hub).setJob id
    (some ⟨a, next (h.server.database.perform op d).1⟩)

def deliver (h : Hub) (id : Uuid) (reply : Reply) : Hub :=
  ({ h with server := (h.server.deliver reply).2 } : Hub).setJob id none

/-- The hub after a move. A frame is taken where the worker of its session is
free; work is one question to the store, or the delivery of the reply. -/
def step (h : Hub) : Move → Hub
  | .take a =>
    match h.jobs a.session.id with
    | some _ => h
    | none => h.setJob a.session.id (some ⟨a, a.plan⟩)
  | .work id d =>
    match h.jobs id with
    | none => h
    | some ⟨a, .ask op next⟩ => h.ask id d a op next
    | some ⟨_, .done reply⟩ => h.deliver id reply
  | .store db => { h with server := { h.server with database := db } }
  | .connections t _ => { h with server := { h.server with registry := h.server.registry.step t } }

def run (h : Hub) (moves : List Move) : Hub := moves.foldl step h

/-- The frame that is taken in a move. -/
def taken (h : Hub) : Move → List Arrival
  | .take a => if (h.jobs a.session.id).isSome then [] else [a]
  | _ => []

/-- The frame that is answered in a move. -/
def answered (h : Hub) : Move → List Answer
  | .work id _ =>
    match h.jobs id with
    | some ⟨a, .done reply⟩ => [⟨a, reply⟩]
    | _ => []
  | _ => []

/-- The queue of a link. -/
def queue (h : Hub) (n : Nat) : List String := (h.server.registry.queue? n).getD []

/-- What a move puts into the queue of a link. This is what stands there behind
the frames that stood there before. -/
def queued (h : Hub) (n : Nat) (m : Move) : List String :=
  ((h.step m).queue n).drop (h.queue n).length

/-- All that there is of something in the moves of a run. -/
def along {α : Type} (f : Hub → Move → List α) (h : Hub) : List Move → List α
  | [] => []
  | m :: moves => f h m ++ along f (h.step m) moves

/-- The frame of a session that has been taken and not been answered. -/
def pending (h : Hub) (id : Uuid) : List Arrival := ((h.jobs id).map Job.arrival).toList

theorem jobs_setJob (h : Hub) (id : Uuid) (job? : Option Job) (x : Uuid) :
    (h.setJob id job?).jobs x = if x = id then job? else h.jobs x :=
  Function.update_apply ..

section
variable {h : Hub}

theorem step_take {a : Arrival} (hjob : h.jobs a.session.id = none) :
    h.step (.take a) = h.setJob a.session.id (some ⟨a, a.plan⟩) := by
  rw [step, hjob]

theorem step_ask {id : Uuid} {a : Arrival} {op : Operation}
    {next : Except Error op.Answer → Plan Reply}
    (hjob : h.jobs id = some ⟨a, .ask op next⟩) (d : Draw) :
    h.step (.work id d) = h.ask id d a op next := by
  rw [step, hjob]

theorem step_done {id : Uuid} {a : Arrival} {reply : Reply}
    (hjob : h.jobs id = some ⟨a, .done reply⟩)
    (d : Draw) : h.step (.work id d) = h.deliver id reply := by
  rw [step, hjob]

end

/-- What a move does: nothing, or what its name says. -/
inductive Stepped (h : Hub) : Move → Hub → Prop
  | idle {m : Move} (htaken : h.taken m = []) (hanswered : h.answered m = []) : Stepped h m h
  | take {a : Arrival} (hjob : h.jobs a.session.id = none) :
    Stepped h (.take a) (h.setJob a.session.id (some ⟨a, a.plan⟩))
  | ask {id : Uuid} {d : Draw} {a : Arrival} {op : Operation}
      {next : Except Error op.Answer → Plan Reply}
    (hjob : h.jobs id = some ⟨a, .ask op next⟩) : Stepped h (.work id d) (h.ask id d a op next)
  | deliver {id : Uuid} {d : Draw} {a : Arrival} {reply : Reply}
    (hjob : h.jobs id = some ⟨a, .done reply⟩) : Stepped h (.work id d) (h.deliver id reply)
  | store (db : Database) : Stepped h (.store db)
      { h with server := { h.server with database := db } }
  | connections (t : Traffic) (ht : t.isDelivery = false) : Stepped h (.connections t ht)
    { h with server := { h.server with registry := h.server.registry.step t } }

theorem step_cases (h : Hub) (m : Move) : Stepped h m (h.step m) := by
  cases m with
  | take a =>
    cases hjob : h.jobs a.session.id with
    | none => rw [step_take hjob]; exact .take hjob
    | some job => rw [step, hjob]; exact .idle (by simp [taken, hjob]) rfl
  | work id d =>
    cases hjob : h.jobs id with
    | none => rw [step, hjob]; exact .idle rfl (by simp [answered, hjob])
    | some job =>
      obtain ⟨a, left⟩ := job
      cases left with
      | done reply => rw [step_done hjob]; exact .deliver hjob
      | ask op next => rw [step_ask hjob]; exact .ask hjob
  | store db => exact .store db
  | connections t ht => exact .connections t ht

/-- A move answers no frame, or one. -/
theorem answered_cases (h : Hub) (m : Move) : h.answered m = [] ∨ ∃ id d a reply, m = .work id d ∧
    h.jobs id = some ⟨a, .done reply⟩ ∧ h.answered m = [⟨a, reply⟩] := by
  have hstep := h.step_cases m
  generalize h.step m = h' at hstep
  cases hstep with
  | idle _ hanswered => exact .inl hanswered
  | take | store | connections => exact .inl rfl
  | ask hjob => exact .inl (by rw [answered, hjob])
  | deliver hjob => exact .inr ⟨_, _, _, _, rfl, hjob, by rw [answered, hjob]⟩

end Hub

def Arrival.isFrom (id : Uuid) (a : Arrival) : Bool := a.session.id = id

/-- A frame names a session as its sender. -/
def names (id : Uuid) (frame : String) : Bool := senderOf? frame == some id.text

/-! ## One frame alone -/

/-- A worker that nothing comes between runs its plan and delivers the reply. -/
theorem work_alone {plan : Plan Reply} {h : Hub} {id : Uuid} {a : Arrival}
    (hjob : h.jobs id = some ⟨a, plan⟩) (d : Draw) :
    ∃ k, (h.run (List.replicate k (.work id d))).server =
      (({ h.server with database := (plan.run d h.server.database).2 } : Server).deliver
        (plan.run d h.server.database).1).2 := by
  induction plan generalizing h with
  | done reply =>
    refine ⟨1, ?_⟩
    rw [List.replicate_one, Hub.run, List.foldl_cons, List.foldl_nil, Hub.step_done hjob]
    rfl
  | ask op next ih =>
    have hnext : (h.ask id d a op next).jobs id =
        some ⟨a, next (h.server.database.perform op d).1⟩ := by
      rw [Hub.ask, Hub.jobs_setJob, if_pos rfl]
    obtain ⟨k, hk⟩ := ih _ hnext
    refine ⟨k + 1, ?_⟩
    rw [List.replicate_succ, Hub.run, List.foldl_cons, Hub.step_ask hjob]
    exact hk

/-- The event that a frame is to a worker. -/
def Frame.event : Frame → Event
  | .text s => .text s
  | .binary => .binary

/-- A frame that nothing comes between is answered as a worker reacts to it. -/
theorem react_alone (server : Server) (w : Worker) (d : Draw) (frame : Frame) :
    ∃ k, ((Hub.idle server).run (.take ⟨w.session, d.now, frame⟩ ::
      List.replicate k (.work w.session.id d))).server = (w.react d frame.event server).2 := by
  have hjob : ((Hub.idle server).step (.take ⟨w.session, d.now, frame⟩)).jobs w.session.id =
      some ⟨⟨w.session, d.now, frame⟩, Arrival.plan ⟨w.session, d.now, frame⟩⟩ := by
    rw [Hub.step_take (by rfl), Hub.jobs_setJob, if_pos rfl]
  obtain ⟨k, hk⟩ := work_alone hjob d
  refine ⟨k, hk.trans ?_⟩
  cases frame with
  | text s => rfl
  | binary => rfl

/-! ## The invariant -/

/-- A job is for a frame of this session, and comes to a reply that the frame
may be answered with. -/
structure Job.InOrder (id : Uuid) (job : Job) : Prop where
  own : job.arrival.session.id = id
  ends : ∀ reply, job.left.MayEnd reply → job.arrival.plan.MayEnd reply

/-- What holds of a hub at every moment: no two sessions share a link, and every
job is in order. Neither needs the session to be live. -/
structure Sane (h : Hub) : Prop where
  wired : h.server.registry.Wired
  jobs : ∀ id job, h.jobs id = some job → job.InOrder id

theorem sane_idle {server : Server} (h : server.registry.Wired) : Sane (Hub.idle server) :=
  ⟨h, fun _ _ h => (by cases h)⟩

section
variable {h : Hub} (hs : Sane h)
include hs

theorem Sane.setJob {id : Uuid} {job? : Option Job} (hjob : ∀ job, job? = some job → job.InOrder id)
    {server : Server} (hwired : server.registry.Wired) :
    Sane (({ h with server } : Hub).setJob id job?) := by
  refine ⟨hwired, fun x job hx => ?_⟩
  rw [Hub.jobs_setJob] at hx
  split at hx
  · next hid => exact hid ▸ hjob job hx
  · exact hs.jobs x job hx

theorem Sane.step (m : Move) : Sane (h.step m) := by
  have hstep := h.step_cases m
  generalize h.step m = h' at hstep
  cases hstep with
  | idle => exact hs
  | take hjob =>
    refine hs.setJob ?_ hs.wired
    rintro job ⟨⟩
    exact ⟨rfl, fun _ hend => hend⟩
  | ask hjob =>
    refine hs.setJob ?_ hs.wired
    rintro job ⟨⟩
    have hold := hs.jobs _ _ hjob
    exact ⟨hold.own, fun reply hend => hold.ends reply ⟨_, hend⟩⟩
  | deliver hjob => exact hs.setJob (fun _ h => (by cases h)) (hs.wired.deliver _ _)
  | store db => exact ⟨hs.wired, hs.jobs⟩
  | connections t ht => exact ⟨hs.wired.step t, hs.jobs⟩

end

theorem Sane.run {h : Hub} (hs : Sane h) (moves : List Move) : Sane (h.run moves) := by
  induction moves generalizing h with
  | nil => exact hs
  | cons m moves ih => exact ih (hs.step m)

/-! ## Frames of a session -/

theorem Arrival.plan_returns {a : Arrival} {reply : Reply} (h : a.plan.MayEnd reply) :
    reply.Returns a.session := by
  obtain ⟨session, now, frame⟩ := a
  cases frame with
  | text s => exact respond_returns h
  | binary =>
    obtain rfl : Reply.unreadable session Worker.binaryMessage = reply := h
    exact Reply.returns_refuse _ _ _

theorem names_text (id : Uuid) (e : Envelope) : names id e.text = (e.senderId == id) := by
  rw [names, senderOf?_text, Option.some_beq_some, Uuid.text_beq]

theorem pending_setJob (h : Hub) (x : Uuid) (job? : Option Job) (id : Uuid) :
    (h.setJob x job?).pending id = if id = x then (job?.map Job.arrival).toList
      else h.pending id := by
  rw [Hub.pending, Hub.jobs_setJob]
  split <;> rfl

/-- A frame that is taken has been answered or is still pending, and frames are
answered in the order in which they are taken. -/
theorem Sane.pending_step {h : Hub} (hs : Sane h) (m : Move) (id : Uuid) :
    h.pending id ++ (h.taken m).filter (·.isFrom id) =
      ((h.answered m).map Answer.arrival).filter (·.isFrom id) ++ (h.step m).pending id := by
  have hstep := h.step_cases m
  generalize h.step m = h' at hstep
  cases hstep with
  | idle htaken hanswered => simp [htaken, hanswered]
  | @take a hjob =>
    rw [pending_setJob]
    by_cases hid : id = a.session.id
    · subst hid
      simp [Hub.pending, Hub.taken, Hub.answered, hjob, Arrival.isFrom]
    · simp [Hub.taken, Hub.answered, hjob, Arrival.isFrom, hid, Ne.symm hid]
  | @ask x d a op next hjob =>
    rw [Hub.ask, pending_setJob]
    by_cases hid : id = x
    · subst hid
      simp [Hub.pending, Hub.taken, Hub.answered, hjob]
    · simp [Hub.pending, Hub.taken, Hub.answered, hjob, hid]
  | @deliver x d a reply hjob =>
    have hown : a.session.id = x := (hs.jobs x _ hjob).own
    rw [Hub.deliver, pending_setJob]
    by_cases hid : id = x
    · subst hid
      simp [Hub.pending, Hub.taken, Hub.answered, hjob, Arrival.isFrom, hown]
    · simp [Hub.pending, Hub.taken, Hub.answered, hjob, Arrival.isFrom, hown, hid, Ne.symm hid]
  | store db => simp [Hub.pending, Hub.taken, Hub.answered]
  | connections t ht => simp [Hub.pending, Hub.taken, Hub.answered]

/-! ## Queues -/

/-- The queue of a link does not grow when the link is changed so that it does
not. -/
theorem length_queue_modifyLink {f : Link → Link} (hf : ∀ l, (f l).queue.length ≤ l.queue.length)
    (r : Registry) (m n : Nat) :
    (((r.modifyLink m f).queue? n).getD []).length ≤ ((r.queue? n).getD []).length := by
  have hlink : (r.modifyLink m f).link? n = (r.link? n).map fun l => if m = n then f l else l :=
    List.getElem?_modify ..
  rw [Registry.queue?, Registry.queue?, hlink]
  cases r.link? n with
  | none => exact Nat.le_refl _
  | some l =>
    rw [Option.map_some, Option.map_some, Option.map_some, Option.getD_some, Option.getD_some]
    split
    · exact hf l
    · exact Nat.le_refl _

/-- Nothing but a delivery adds to a queue. -/
theorem length_queue_step {t : Traffic} (ht : t.isDelivery = false) (r : Registry) (n : Nat) :
    (((r.step t).queue? n).getD []).length ≤ ((r.queue? n).getD []).length := by
  cases t with
  | deliver a frame => cases ht
  | register id userId =>
    have hlink : (r.step (.register id userId)).link? n = (r.links ++ [.fresh r.closing])[n]? := rfl
    rw [Registry.queue?, Registry.queue?, hlink, Registry.link?]
    by_cases hn : n < r.links.length
    · rw [List.getElem?_append_left hn]
    · -- a link that was not there is the new one, and its queue is empty
      rw [List.getElem?_append_right (by omega)]
      cases h : ([Link.fresh r.closing] : List Link)[n - r.links.length]? with
      | none => exact Nat.zero_le _
      | some l =>
        obtain rfl : l = .fresh r.closing := List.mem_singleton.1 (List.mem_of_getElem? h)
        exact Nat.zero_le _
  | unregister id => exact Nat.le_of_eq (by rw [Registry.step, Registry.queue?_unregister])
  | closeAll =>
    have hlink : (r.step .closeAll).link? n = (r.link? n).map Link.cancel := List.getElem?_map ..
    rw [Registry.queue?, Registry.queue?, hlink, Option.map_map]
    exact Nat.le_refl _
  | take m =>
    refine length_queue_modifyLink (fun l => ?_) r m n
    obtain ⟨queue, isOpen, cancelled⟩ := l
    cases queue with
    | nil => exact Nat.le_refl _
    | cons frame rest => exact Nat.le_succ _
  | shut m => exact length_queue_modifyLink (f := Link.shut) (fun _ => Nat.le_refl _) r m n
  | abandon m => exact length_queue_modifyLink (f := Link.abandon) (fun _ => Nat.zero_le _) r m n

/-- A delivery to a session that stays registered reaches its link. -/
theorem reached_of_linkOf? {r : Registry} {id : Uuid} {n : Nat} (hbefore : r.linkOf? id = some n)
    {a : Audience} {frame : String} (hin : id ∈ r.resolve a)
    (hafter : (r.deliver a frame).2.linkOf? id = some n) : n ∈ r.reached a := by
  cases htake : r.canTake id with
  | true => exact Registry.mem_reached.2 ⟨id, hin, htake, hbefore⟩
  | false =>
    -- a session whose queue cannot take the frame is removed
    have hfailed : id ∈ (r.resolve a).filter fun id => !r.canTake id :=
      List.mem_filter.2 ⟨hin, by simp [htake]⟩
    rw [Registry.linkOf?, Registry.entryOf?_deliver, if_pos hfailed] at hafter
    cases hafter

/-- What a delivery puts into the queue of a link that there is. -/
theorem queue_deliver {h : Hub} (hs : Sane h) (id : Uuid) (reply : Reply) {n : Nat}
    (hn : (h.server.registry.queue? n).isSome = true) :
    ((h.deliver id reply).queue n).drop (h.queue n).length =
      if n ∈ h.server.registry.reached reply.audience then [reply.envelope.text] else [] := by
  obtain ⟨queue, hqueue⟩ := Option.isSome_iff_exists.1 hn
  have hafter := hs.wired.deliver_queue reply.audience reply.envelope.text n
  rw [hqueue] at hafter
  have hnow : (h.deliver id reply).queue n =
      if n ∈ h.server.registry.reached reply.audience then queue ++ [reply.envelope.text]
        else queue :=
    congrArg (Option.getD · []) hafter
  have hthen : h.queue n = queue := congrArg (Option.getD · []) hqueue
  rw [hnow, hthen]
  split
  · exact List.drop_left
  · exact List.drop_length

/-- A move that answers no frame adds to no queue. -/
theorem queued_of_unanswered {h : Hub} {m : Move} (hm : h.answered m = []) (n : Nat) :
    h.queued n m = [] := by
  refine List.drop_eq_nil_of_le ?_
  have hstep := h.step_cases m
  generalize h.step m = h' at hstep
  cases hstep with
  | idle | take | ask | store => exact Nat.le_refl _
  | connections t ht => exact length_queue_step ht _ n
  | deliver hjob => simp [Hub.answered, hjob] at hm

/-- What is put into the queue of a session that stays, and names it, is the
reply to a frame of its own. -/
theorem Sane.queued_step {h : Hub} (hs : Sane h) {m : Move} {id : Uuid} {n : Nat}
    (hbefore : h.server.registry.linkOf? id = some n)
    (hafter : (h.step m).server.registry.linkOf? id = some n) :
    (h.queued n m).filter (names id) =
      ((h.answered m).filter (·.arrival.isFrom id)).map Answer.text := by
  rcases h.answered_cases m with hnone | ⟨x, d, a, reply, rfl, hjob, hanswered⟩
  · rw [queued_of_unanswered hnone, hnone]
    rfl
  · have hreturns : reply.Returns a.session := a.plan_returns ((hs.jobs x _ hjob).ends reply rfl)
    have hn := hs.wired.lt_of_linkOf? hbefore
    rw [Hub.step_done hjob] at hafter
    rw [Hub.queued, Hub.step_done hjob,
      queue_deliver hs x reply (by simpa [Registry.queue?, Registry.link?]), hanswered]
    by_cases hid : a.session.id = id
    · have hreached : n ∈ h.server.registry.reached reply.audience :=
        reached_of_linkOf? hbefore (hid ▸ hreturns.audience _) hafter
      have hnames : names id reply.envelope.text = true := by
        rw [names_text, hreturns.sender, hid, beq_self_eq_true]
      simp [hreached, hnames, Arrival.isFrom, hid, Answer.text]
    · have hnames : names id reply.envelope.text = false := by
        rw [names_text, hreturns.sender]
        simpa using hid
      split <;> simp [hnames, Arrival.isFrom, hid]

/-! ## Whole runs -/

/-- The conversation of a session with a link, over the moves of a run. -/
structure Converses (id : Uuid) (n : Nat) (before : Hub) (moves : List Move) : Prop where
  /-- The frames that were pending and those that were taken are those that were
  answered, in the same order, and the one that is pending. -/
  answers : before.pending id ++ (before.along Hub.taken moves).filter (·.isFrom id) =
    ((before.along Hub.answered moves).map Answer.arrival).filter (·.isFrom id) ++
      (before.run moves).pending id
  /-- What was put into the queue and names the session is the replies to its
  frames, in the same order. -/
  queue : (before.along (Hub.queued · n) moves).filter (names id) =
    ((before.along Hub.answered moves).filter (·.arrival.isFrom id)).map Answer.text
  /-- A reply is one that the frame may be answered with. -/
  replies : ∀ a ∈ before.along Hub.answered moves, a.arrival.plan.MayEnd a.reply
  /-- What other sessions cause does not name the session. -/
  others : ∀ a ∈ before.along Hub.answered moves, a.arrival.session.id ≠ id →
    names id a.text = false

theorem mem_along {α : Type} {f : Hub → Move → List α} {x : α} {moves : List Move} {h : Hub}
    (hx : x ∈ h.along f moves) :
    ∃ early m late, moves = early ++ m :: late ∧ x ∈ f (h.run early) m := by
  induction moves generalizing h with
  | nil => cases hx
  | cons m moves ih =>
    rcases List.mem_append.1 hx with hx | hx
    · exact ⟨[], m, moves, rfl, hx⟩
    · obtain ⟨early, m', late, hmoves, hx'⟩ := ih hx
      exact ⟨m :: early, m', late, by rw [hmoves]; rfl, hx'⟩

section
variable {h : Hub} (hs : Sane h)
include hs

theorem Sane.answered {m : Move} {a : Answer} (ha : a ∈ h.answered m) :
    a.arrival.plan.MayEnd a.reply := by
  rcases h.answered_cases m with hnone | ⟨x, d, arrival, reply, rfl, hjob, hanswered⟩
  · rw [hnone] at ha
    cases ha
  · obtain rfl : a = ⟨arrival, reply⟩ := by simpa [hanswered] using ha
    exact (hs.jobs x _ hjob).ends reply rfl

theorem Sane.pending_run (moves : List Move) (id : Uuid) :
    h.pending id ++ (h.along Hub.taken moves).filter (·.isFrom id) =
      ((h.along Hub.answered moves).map Answer.arrival).filter (·.isFrom id) ++
        (h.run moves).pending id := by
  induction moves generalizing h with
  | nil => simp [Hub.along, Hub.run]
  | cons m moves ih =>
    have hstep := hs.pending_step m id
    have hrest := ih (hs.step m)
    rw [Hub.along, Hub.along, List.filter_append, List.map_append, List.filter_append,
      ← List.append_assoc,
      hstep, List.append_assoc, hrest, ← List.append_assoc]
    rfl

theorem Sane.queued_run {id : Uuid} {n : Nat} {moves : List Move}
    (hlive : ∀ past, past <+: moves → (h.run past).server.registry.linkOf? id = some n) :
    (h.along (Hub.queued · n) moves).filter (names id) =
      ((h.along Hub.answered moves).filter (·.arrival.isFrom id)).map Answer.text := by
  induction moves generalizing h with
  | nil => rfl
  | cons m moves ih =>
    have hnow := hlive [] List.nil_prefix
    have hnext := hlive [m] (List.prefix_append [m] moves)
    have hrest := ih (hs.step m) fun past hpast =>
      hlive (m :: past) ((List.cons_prefix_cons).2 ⟨rfl, hpast⟩)
    rw [Hub.along, Hub.along, List.filter_append, List.filter_append, List.map_append, hrest,
      hs.queued_step hnow hnext]

theorem Sane.converses {id : Uuid} {n : Nat} {moves : List Move}
    (hlive : ∀ past, past <+: moves → (h.run past).server.registry.linkOf? id = some n) :
    Converses id n h moves where
  answers := hs.pending_run moves id
  queue := hs.queued_run hlive
  replies := by
    intro a ha
    obtain ⟨early, m, late, -, ha⟩ := mem_along ha
    exact (hs.run early).answered ha
  others := by
    intro a ha hid
    obtain ⟨early, m, late, -, ha⟩ := mem_along ha
    have hreturns := a.arrival.plan_returns ((hs.run early).answered ha)
    rw [Answer.text, names_text, hreturns.sender]
    simpa using hid

end

/-- **One reply for each frame, in order.** A hub starts with any store and any
registry that came about, and `early` is all that happened before. As long as
session `id` keeps its link, the frames that are put into its queue and name it
are the replies to its own frames, one for each and in the order of the frames;
whatever other sessions send does not name it. -/
theorem replies_in_order (db : Database) (capacity : Nat) (traffic : List Traffic)
    (early moves : List Move) (id : Uuid) (n : Nat)
    (hlive : ∀ past, past <+: moves →
      (((Hub.idle ⟨db, (Registry.empty capacity).run traffic⟩).run
        early).run past).server.registry.linkOf? id = some n) :
    Converses id n ((Hub.idle ⟨db, (Registry.empty capacity).run traffic⟩).run early) moves :=
  ((sane_idle ((Registry.wired_empty capacity).run traffic)).run early).converses hlive

/-- Two sessions of one user: one sends what is no envelope and then bytes, and
in between the other posts to a channel of that user. -/
def sampleTalk : List Move :=
  let other : Session := ⟨sampleId 8, sampleId 1, "a@test.com", .active⟩
  [.take ⟨sampleSession, sampleNoon, .text "x"⟩, .take ⟨other, sampleNoon, .text sampleFarewell⟩,
    .work (sampleId 8) (sampleDraw 5), .work (sampleId 9) (sampleDraw 0),
    .work (sampleId 8) (sampleDraw 6), .take ⟨sampleSession, sampleNoon, .binary⟩,
    .work (sampleId 8) (sampleDraw 7), .work (sampleId 9) (sampleDraw 0)]

/-- Three frames come into the queue, and the first and the last are the
replies. -/
theorem replies_in_order_sample :
    let before :=
      (Hub.idle ⟨Database.empty.run sampleSteps, (Registry.empty 8).run sampleTraffic⟩).run []
    (before.along (Hub.queued · 0) sampleTalk).length = 3 ∧
      ((before.along Hub.answered sampleTalk).filter (·.arrival.isFrom (sampleId 9))).length = 2 ∧
      Converses (sampleId 9) 0 before sampleTalk := by
  intro before
  refine ⟨by decide +kernel, by decide +kernel, ?_⟩
  refine replies_in_order (Database.empty.run sampleSteps) 8 sampleTraffic [] sampleTalk
    (sampleId 9) 0 ?_
  have hlive : ∀ past ∈ sampleTalk.inits,
      (before.run past).server.registry.linkOf? (sampleId 9) = some 0 := by decide +kernel
  exact fun past hpast => hlive past ((List.mem_inits _ _).2 hpast)

end ChatServer.Conversation

