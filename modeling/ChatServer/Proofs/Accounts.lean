import ChatServer.Proofs.FanOut
import ChatServer.Proofs.Interleaving

/-!
# Accounts of interleaved requests

What can be said when all requests are answered, in whichever order their turns
came. The store accounts for the replies and the replies for the store: what was
added was announced, once, and what was announced was added. The invariant of
the system gives this one task at a time.

* `drawn_run`: what is added has the identifier that was drawn when it was
  added.
* `Kept.announced`: over all tasks, what the log has of one kind is what the
  replies of one tag tell.
* `interleaved_accounted`: the account of a whole run.
-/
namespace ChatServer.Interleaving

open ChatServer.Action Delivery Protocol Store Time

/-! ## What the store holds -/

namespace Kept

variable {k : Ledger} {before : Server} {requests : List Request} {y : System}

theorem channels (h : Kept k before requests y) (hk : before.database.Holds k) :
    y.server.database.tables.channels =
      before.database.tables.channels ++ y.rooms.map ChannelRow.ofChannel := by
  rw [h.holds.tables, hk.tables, Ledger.written, Ledger.created_foldl, List.map_append]
  rfl

theorem messages (h : Kept k before requests y) (hk : before.database.Holds k) :
    y.server.database.tables.messages =
      before.database.tables.messages ++ y.posted.map MessageRow.ofMessage := by
  rw [h.holds.tables, hk.tables, Ledger.written, Ledger.messages_foldl, List.map_append]
  rfl

/-- A channel was there before, or has been created since. -/
theorem hasChannel_cases (h : Kept k before requests y) (hk : before.database.Holds k) {id : Uuid}
    (hid : y.server.database.tables.hasChannel id.text = true) :
    before.database.tables.hasChannel id.text = true ∨ ∃ channel ∈ y.rooms, channel.id = id := by
  rw [Tables.hasChannel, h.channels hk, List.any_append, Bool.or_eq_true, List.any_map] at hid
  rcases hid with hold | hnew
  · exact .inl hold
  · obtain ⟨channel, hroom, hsame⟩ := List.any_eq_true.1 hnew
    refine .inr ⟨channel, hroom, ?_⟩
    simpa [ChannelRow.ofChannel] using hsame

end Kept

/-! ## New identifiers -/

/-- What is drawn in a run is new: no identifier twice, and none of a channel or
a message that is there. -/
structure Fresh (t : Tables) (ticks : List Tick) : Prop where
  nodup : (ticks.map fun tick => tick.draw.id).Nodup
  channels : ∀ tick ∈ ticks, t.hasChannel tick.draw.id.text = false
  messages : ∀ tick ∈ ticks, t.hasMessage tick.draw.id.text = false

theorem Fresh.prefix {t : Tables} {ticks : List Tick} {tick : Tick}
    (h : Fresh t (ticks ++ [tick])) :
    Fresh t ticks where
  nodup := by
    have hnodup := h.nodup
    rw [List.map_append] at hnodup
    exact hnodup.of_append_left
  channels tick' htick' := h.channels tick' (List.mem_append_left _ htick')
  messages tick' htick' := h.messages tick' (List.mem_append_left _ htick')

/-- What an event adds has the identifier that was drawn for it. -/
structure Drawn (e : Performed) : Prop where
  channel : ∀ channel, e.created? = some channel → channel.id = e.draw.id
  message : ∀ message, e.appended? = some message → message.id = e.draw.id

theorem System.log_draws (before : Server) (requests : List Request) (ticks : List Tick) :
    List.Sublist (((System.start before requests).run ticks).log.map fun e => e.draw.id)
      (ticks.map fun tick => tick.draw.id) := by
  induction ticks using List.reverseRecOn with
  | nil => exact List.Sublist.refl _
  | append_singleton ticks tick ih =>
    rw [run_concat, List.map_append]
    rcases log_step ((System.start before requests).run ticks) tick with hsame | ⟨e, he⟩
    · rw [hsame]
      exact ih.trans (List.sublist_append_left _ _)
    · rw [he.logged, List.map_append, List.map_singleton, List.map_singleton, he.draw]
      exact ih.append (List.Sublist.refl _)

/-- An event adds what it was asked to add, under the identifier that was drawn
if no channel has it. -/
theorem System.Performs.drawn {y : System} {tick : Tick} {e : Performed} (h : y.Performs tick e)
    (hfree : y.server.database.tables.hasChannel tick.draw.id.text = false) : Drawn e where
  channel channel hcreated := by
    obtain ⟨kind, name, creatorId, d, rfl⟩ := Performed.created?_eq_some hcreated
    obtain rfl : d = tick.draw := h.draw
    obtain ⟨-, t, ha, -⟩ := Database.perform_eq_ok h.answer.symm
    obtain ⟨id, v, hid, hchannel, -, -⟩ := Tables.createChannel_eq_ok ha
    rw [Tables.freshChannelId?, List.find?_cons_of_pos (by simpa using hfree)] at hid
    rw [hchannel]
    exact (Option.some.inj hid).symm
  message message happended := by
    obtain ⟨new, d, rfl⟩ := Performed.appended?_eq_some happended
    obtain ⟨-, t, ha, -⟩ := Database.perform_eq_ok h.answer.symm
    obtain ⟨-, hnone, -⟩ | ⟨-, hmessage, -⟩ := Tables.appendMessage_eq_ok ha
    · cases hnone
    · rw [Option.some.inj hmessage]
      rfl

/-- All that a run adds has the identifiers that were drawn. -/
theorem drawn_run {k : Ledger} {before : Server} (hk : before.database.Holds k)
    (requests : List Request) {ticks : List Tick} (hfresh : Fresh before.database.tables ticks) :
    ∀ e ∈ ((System.start before requests).run ticks).log, Drawn e := by
  induction ticks using List.reverseRecOn with
  | nil => intro e he; cases he
  | append_singleton ticks tick ih =>
    have hdrawn := ih hfresh.prefix
    rw [System.run_concat]
    rcases System.log_step ((System.start before requests).run ticks) tick with hsame | ⟨e, he⟩
    · rwa [hsame]
    · intro e' he'
      rw [he.logged, List.mem_append, List.mem_singleton] at he'
      rcases he' with he' | rfl
      · exact hdrawn e' he'
      · refine he.drawn (Bool.eq_false_iff.2 fun hchannel => ?_)
        have hkept := (kept_start hk requests).run ticks
        rcases hkept.hasChannel_cases hk hchannel with hold | ⟨channel, hroom, hid⟩
        · rw [hfresh.channels tick (by simp)] at hold
          cases hold
        · obtain ⟨e, helog, hcreated⟩ := List.mem_filterMap.1 hroom
          have hmem : tick.draw.id ∈ ticks.map fun tick => tick.draw.id := by
            refine (System.log_draws before requests ticks).subset (List.mem_map.2 ⟨e, helog, ?_⟩)
            rw [← (hdrawn e helog).channel channel hcreated, hid]
          have hnodup := hfresh.nodup
          rw [List.map_append, List.nodup_append] at hnodup
          exact hnodup.2.2 _ hmem _ (by simp) rfl

/-- What is picked from a log by the identifiers that were drawn stands in the
order of the draws. -/
theorem sublist_draws {α : Type} {made : Performed → Option α} {id : α → Uuid}
    {log : List Performed} (h : ∀ e ∈ log, ∀ x, made e = some x → id x = e.draw.id) :
    List.Sublist ((log.filterMap made).map id) (log.map fun e => e.draw.id) := by
  induction log with
  | nil => exact List.Sublist.refl _
  | cons e log ih =>
    have hrest := ih fun e' he' => h e' (List.mem_cons_of_mem e he')
    cases hmade : made e with
    | none =>
      rw [List.filterMap_cons_none hmade]
      exact hrest.cons _
    | some x =>
      rw [List.filterMap_cons_some hmade, List.map_cons, List.map_cons,
        h e List.mem_cons_self x hmade]
      exact hrest.cons_cons _

/-- The identifiers of all channels and messages that a run adds are different
from each other, and none of them was there before. -/
theorem ids_run {k : Ledger} {before : Server} (hk : before.database.Holds k)
    (requests : List Request) {ticks : List Tick} (hfresh : Fresh before.database.tables ticks) :
    let y := (System.start before requests).run ticks
    (y.rooms.map Channel.id ++ y.posted.map Message.id).Nodup ∧
      ∀ id ∈ y.rooms.map Channel.id ++ y.posted.map Message.id,
        before.database.tables.hasChannel id.text = false ∧
          before.database.tables.hasMessage id.text = false := by
  intro y
  have hdrawn := drawn_run hk requests hfresh
  have hdraws := System.log_draws before requests ticks
  have hnodup : (y.log.map fun e => e.draw.id).Nodup := hdraws.nodup hfresh.nodup
  have hrooms := sublist_draws fun e he channel => (hdrawn e he).channel channel
  have hposted := sublist_draws fun e he message => (hdrawn e he).message message
  refine ⟨List.nodup_append.2 ⟨hrooms.nodup hnodup, hposted.nodup hnodup, ?_⟩, ?_⟩
  · -- one draw cannot have been used for a channel and for a message
    intro id hid id' hid' hsame
    obtain ⟨channel, hroom, rfl⟩ := List.mem_map.1 hid
    obtain ⟨message, hpost, rfl⟩ := List.mem_map.1 hid'
    obtain ⟨e, he, hcreated⟩ := List.mem_filterMap.1 hroom
    obtain ⟨e', he', happended⟩ := List.mem_filterMap.1 hpost
    rw [(hdrawn e he).channel _ hcreated, (hdrawn e' he').message _ happended] at hsame
    obtain rfl := List.inj_on_of_nodup_map hnodup he he' hsame
    obtain ⟨kind, name, creatorId, d, rfl⟩ := Performed.created?_eq_some hcreated
    cases happended
  · intro id hid
    have hdraw : id ∈ ticks.map fun tick => tick.draw.id := by
      rcases List.mem_append.1 hid with hid | hid
      · exact hdraws.subset (hrooms.subset hid)
      · exact hdraws.subset (hposted.subset hid)
    obtain ⟨tick, htick, rfl⟩ := List.mem_map.1 hdraw
    exact ⟨hfresh.channels tick htick, hfresh.messages tick htick⟩

/-! ## Replies -/

/-- A task that is answered has run its course. -/
theorem Kept.course {k : Ledger} {before : Server} {requests : List Request} {y : System}
    (h : Kept k before requests y) {task : Task} (htask : task ∈ y.tasks) {reply : Reply}
    (hreply : task.reply? = some reply) : Course task.request.session task.past reply := by
  have hcourse := h.courses task htask
  unfold Task.reply? at hreply
  split at hreply
  · cases hreply
  · next reply' hanswered =>
    rw [Task.OnCourse, hanswered, Option.some.inj hreply] at hcourse
    exact hcourse

/-- What is true of the course of every task adds up: all that the log has of
one kind is, in some order, what the replies of one tag tell. -/
theorem Kept.announced {k : Ledger} {before : Server} {requests : List Request} {y : System}
    (h : Kept k before requests y) (hdone : y.Finished) {α β : Type} {made : Performed → Option α}
    {told : α → β} {tag : ActionTag} {said : Envelope → β}
    (hcourse : ∀ s past reply, Course s past reply →
      (past.filterMap made).map told = ([reply.envelope].filter (·.tag == tag)).map said) :
    ((y.log.filterMap made).map told).Perm
      (((y.replies.map Reply.envelope).filter (·.tag == tag)).map said) := by
  have hsum : ∀ tasks : List Task, (∀ task ∈ tasks, task ∈ y.tasks) →
      ((tasks.flatMap Task.past).filterMap made).map told =
        (((tasks.filterMap Task.reply?).map Reply.envelope).filter (·.tag == tag)).map said := by
    intro tasks hall
    induction tasks with
    | nil => rfl
    | cons task tasks ih =>
      have htask := hall task List.mem_cons_self
      obtain ⟨reply, hreply⟩ := Option.isSome_iff_exists.1 (hdone task htask)
      rw [List.flatMap_cons, List.filterMap_append, List.map_append,
        ih fun t ht => hall t (List.mem_cons_of_mem task ht), hcourse _ _ _ (h.course htask hreply),
        List.filterMap_cons_some hreply, List.map_cons, ← List.map_append, ← List.filter_append,
        List.singleton_append]
  refine ((h.log.filterMap made).map told).trans ?_
  rw [hsum y.tasks fun _ ht => ht]
  exact List.Perm.refl _

/-! ## Who is told -/

/-- A task of session `s` posted a message at one of its ticks and listed the
members at a later one, and the reply is for those members. Whoever was a member
at every moment between the two is among them. -/
inductive Reached (start : System) (ticks : List Tick) (i : Nat) (s : Session) : Reply → Prop
  | posted {early between late : List Tick} {d d' : Draw} {new : NewMessage} {message : Message}
    {members : List Uuid} (hticks : ticks = early ++ ⟨i, d⟩ :: (between ++ ⟨i, d'⟩ :: late))
    (happend : (start.run early).Performs ⟨i, d⟩ ⟨.appendMessage new, d, .ok (some message)⟩)
    (hlist : (start.run (early ++ ⟨i, d⟩ :: between)).Performs ⟨i, d'⟩
      ⟨.listMembers message.channelId, d', .ok members⟩)
    (hsender : message.senderId = s.id) (huser : message.userId = s.userId)
    (hmembers : ∀ userId, (∀ p, p <+: between →
      (start.run (early ++ ⟨i, d⟩ :: p)).IsMember message.channelId userId) → userId ∈ members) :
    Reached start ticks i s ⟨.channel members s.id, announcement message⟩

/-- A listing has every member of the moment. -/
theorem Kept.mem_of_listed {k : Ledger} {before : Server} {requests : List Request} {y : System}
    (h : Kept k before requests y) {tick : Tick} {channelId : Uuid} {d : Draw} {members : List Uuid}
    (hlist : y.Performs tick ⟨.listMembers channelId, d, .ok members⟩) {userId : Uuid}
    (hmember : y.IsMember channelId userId) : userId ∈ members := by
  have hanswer := hlist.answer
  rw [perform_listMembers h.holds] at hanswer
  obtain rfl := Except.ok.inj hanswer
  rwa [Ledger.mem_membersOf_iff, ← h.holds.tables]

theorem reached_run {k : Ledger} {before : Server} (hk : before.database.Holds k)
    (requests : List Request) {ticks : List Tick} {i : Nat} {task : Task} {reply : Reply}
    (htask : ((System.start before requests).run ticks).tasks[i]? = some task)
    (hreply : task.reply? = some reply) (htag : reply.envelope.tag = .createMessage) :
    Reached (.start before requests) ticks i task.request.session reply := by
  have hkept := kept_start hk requests
  have hstart : ∀ task ∈ (System.start before requests).tasks, task.past = [] := by
    intro task htask
    obtain ⟨r, -, rfl⟩ := List.mem_map.1 htask
    rfl
  have hcourse := (hkept.run ticks).course (List.mem_of_getElem? htask) hreply
  generalize hpast : task.past = past at hcourse
  cases hcourse with
  | other _ hmessage _ => exact absurd htag hmessage
  | opened => cases htag
  | @posted new d d' message members hmessage hsender huser =>
    change task.past = [_] ++ [_] at hpast
    obtain ⟨upto, late, old, rfl, hlist, hold, hfirst⟩ := exists_turn hstart htask hpast
    change old.past = [] ++ [_] at hfirst
    obtain ⟨early, between, -, rfl, happend, -⟩ := exists_turn hstart hold hfirst
    subst hmessage
    rw [toChannel_message hsender]
    have hticks : early ++ ⟨i, d⟩ :: between ++ ⟨i, d'⟩ :: late =
        early ++ ⟨i, d⟩ :: (between ++ ⟨i, d'⟩ :: late) := by
      rw [List.append_assoc, List.cons_append]
    exact .posted hticks happend hlist hsender huser fun userId hmember =>
      (hkept.run _).mem_of_listed hlist (hmember between List.prefix_rfl)

/-! ## The account -/

/-- The account of a run in which all requests were answered. -/
structure Accounted (before : Server) (requests : List Request) (ticks : List Tick) (y : System) :
    Prop where
  /-- Each request was answered, and each reply delivered once. -/
  answered : y.tasks.map Task.request = requests
  delivered : y.delivered.Perm y.replies
  registry : y.server.registry =
    y.delivered.foldl (fun r reply => (r.deliver reply.audience reply.envelope.text).2) before.registry
  /-- The messages that came to be are those that replies tell of, one for
  each. -/
  messages : y.server.database.tables.messages =
    before.database.tables.messages ++ y.posted.map MessageRow.ofMessage
  announced : (y.posted.map announcement).Perm
    ((y.replies.map Reply.envelope).filter (·.tag == .createMessage))
  /-- The channels that came to be are those that replies tell of, one for
  each. -/
  channels : y.server.database.tables.channels =
    before.database.tables.channels ++ y.rooms.map ChannelRow.ofChannel
  opened : (y.rooms.map opening).Perm
    (((y.replies.map Reply.envelope).filter (·.tag == .createPublicRoom)).map
      fun e => (e.targetId, e.content))
  /-- No two rows share a key; all new identifiers are different, and none was
  there before. -/
  keyed : y.server.database.tables.Keyed
  ids : (y.rooms.map Channel.id ++ y.posted.map Message.id).Nodup
  unused : ∀ id ∈ y.rooms.map Channel.id ++ y.posted.map Message.id,
    before.database.tables.hasChannel id.text = false ∧
      before.database.tables.hasMessage id.text = false
  /-- A membership is what the last operation on it made of it. -/
  members : ∀ channelId userId : Uuid,
    y.server.database.tables.hasMember channelId.text userId.text =
      (y.log.filterMap (Performed.settles? channelId userId)).getLast?.getD
        (before.database.tables.hasMember channelId.text userId.text)
  /-- A message is told to all who were members from when it was appended until
  the members were listed. -/
  reached : ∀ (i : Nat) (task : Task) (reply : Reply), y.tasks[i]? = some task →
    task.reply? = some reply → reply.envelope.tag = .createMessage →
    Reached (.start before requests) ticks i task.request.session reply

/-- **Nothing is lost and nothing is there twice.** Any requests, answered side
by side in any order of their turns, on a store that any run has left, with
identifiers that are new. When all of them are answered, the store and the
replies account for each other. -/
theorem interleaved_accounted (steps : List Step) (registry : Registry) (requests : List Request)
    {ticks : List Tick} (hfresh : Fresh (Database.empty.run steps).tables ticks)
    (hdone : ((System.start ⟨Database.empty.run steps, registry⟩ requests).run ticks).Finished) :
    Accounted ⟨Database.empty.run steps, registry⟩ requests ticks
      ((System.start ⟨Database.empty.run steps, registry⟩ requests).run ticks) := by
  have hstore := holds_ledgerOf steps
  generalize hbefore : (⟨Database.empty.run steps, registry⟩ : Server) = before at hdone ⊢
  have hk : before.database.Holds (ledgerOf steps) := hbefore ▸ hstore
  have hfree : Fresh before.database.tables ticks := hbefore ▸ hfresh
  have hkept := (kept_start hk requests).run ticks
  obtain ⟨hids, hunused⟩ := ids_run hk requests hfree
  have hannounced := hkept.announced hdone fun s past reply (h : Course s past reply) =>
    h.announced.trans (List.map_id _).symm
  rw [List.map_id] at hannounced
  exact {
    answered := hkept.requests
    delivered := hkept.delivered
    registry := hkept.registry
    messages := hkept.messages hk
    announced := hannounced
    channels := hkept.channels hk
    opened := hkept.announced hdone fun s past reply (h : Course s past reply) => h.opening
    keyed := hkept.holds.tables ▸ hkept.holds.sound.keyed
    ids := hids
    unused := hunused
    members := hkept.members
    reached := fun i task reply htask hreply htag => reached_run hk requests htask hreply htag }

def sampleLeave : String :=
  "\x7b\"action_tag\":\"LEAVE_PUBLIC_ROOM\",\"target_id\":\"00000000-0000-0000-0000-000000000002\"\x7d"

/-- Two sessions of one user, of which one posts and one leaves. -/
def sampleRequests : List Request :=
  [⟨sampleSession, sampleNoon, sampleFarewell⟩,
    ⟨{ sampleSession with id := sampleId 8 }, sampleNoon, sampleLeave⟩]

/-- The user has left when the members are listed for the message. -/
def sampleTicks : List Tick :=
  [0, 1, 1, 0, 1, 1, 0].zipIdx.map fun (task, n) => ⟨task, sampleDraw (20 + n)⟩

theorem interleaved_accounted_sample :
    let before : Server := ⟨Database.empty.run sampleSteps, (Registry.empty 8).run sampleTraffic⟩
    let after := (System.start before sampleRequests).run sampleTicks
    Accounted before sampleRequests sampleTicks after ∧
      after.replies.map Reply.audience = [.channel [] (sampleId 9), .channel [] (sampleId 8)] := by
  intro before after
  have hfresh : Fresh (Database.empty.run sampleSteps).tables sampleTicks :=
    ⟨by decide +kernel, by decide +kernel, by decide +kernel⟩
  have hdone : after.Finished := by decide +kernel
  exact ⟨interleaved_accounted sampleSteps _ sampleRequests hfresh hdone, by decide +kernel⟩

end ChatServer.Interleaving

