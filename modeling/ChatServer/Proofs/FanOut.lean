import ChatServer.Proofs.Members
import ChatServer.Proofs.Registry
import ChatServer.Server

/-!
# Who a reply reaches

A reply passes through three layers: the rows of memberships, the audience that
a handler names, and the sessions and links of the registry. `Aimed` is what
holds between the first two after every handler; the registry does the rest.

* `respond_aimed`: the audience of every reply is right in the store that the
  handler leaves.
* `handleText_fanOut`: the frame of a reply is added once to the queues of the
  sessions it is for, and no other queue changes.
-/
namespace ChatServer.Action

open Delivery Protocol Store

/-- The tags of replies that a whole channel is told. -/
def channelTags : List ActionTag :=
    [.createPublicRoom, .createMessage, .joinPublicRoom, .leavePublicRoom]

/-- A reply and the members it should go to agree: what concerns a channel goes
to its members and the session that asked, all else to that session. -/
inductive Aimed (s : Session) (t : Tables) : Reply → Prop
  | toChannel {tag : ActionTag} (htag : tag ∈ channelTags) {members : List Uuid} {channelId : Uuid}
    (hmembers : ∀ u, u ∈ members ↔ t.hasMember channelId.text u.text = true) (content : Content) :
    Aimed s t (.toChannel s members tag channelId content)
  | toSession {tag : ActionTag} (htag : tag ∉ channelTags) (targetId : String) (content : Content) :
    Aimed s t ⟨.session s.id, ⟨tag, targetId, s.id, content⟩⟩

/-! ## Handlers -/

/-- Whatever reply a plan ends in is aimed right in the store that it leaves. -/
def AimsRight (s : Session) (d : Draw) (p : Plan Outcome) (db : Database) : Prop :=
  ∀ reply, (p.run d db).1 = .ok reply → Aimed s (p.run d db).2.tables reply

section
variable {s : Session} {d : Draw} {db : Database}

theorem aims_refusal (r : Refusal) : AimsRight s d (.done (.error r)) db := by
  intro reply h
  cases h

theorem aims_reply {reply : Reply} (h : Aimed s db.tables reply) :
    AimsRight s d (.done (.ok reply)) db := by
  intro reply' h'
  cases h'
  exact h

theorem aims_checking {α : Type} {check : Except Refusal α} {next : α → Plan Outcome}
    (h : ∀ x, AimsRight s d (next x) db) : AimsRight s d (checking check next) db := by
  cases check with
  | error r => exact aims_refusal r
  | ok x => exact h x

theorem aims_asking {op : Operation} {next : op.Answer → Plan Outcome}
    (h : ∀ answer, (db.perform op d).1 = .ok answer →
      AimsRight s d (next answer) (db.perform op d).2) :
    AimsRight s d (asking op next) db := by
  unfold AimsRight asking
  rw [Plan.run]
  cases ha : (db.perform op d).1 with
  | error e => exact aims_refusal (.store e)
  | ok answer => exact h answer ha

/-- Members are listed last, so those who are listed are the members in the
store that is left. -/
theorem aims_listMembers {k : Ledger} (hdb : db.Holds k) {tag : ActionTag}
    (htag : tag ∈ channelTags) (channelId : Uuid) (content : Content) :
    AimsRight s d (asking (.listMembers channelId) fun members =>
      .done (.ok (.toChannel s members tag channelId content))) db := by
  refine aims_asking fun members hmembers => ?_
  rw [perform_listMembers hdb] at hmembers ⊢
  cases hmembers
  refine aims_reply (.toChannel htag ?_ content)
  intro u
  rw [hdb.tables]
  exact Ledger.mem_membersOf_iff

theorem aims_existing {k : Ledger} (hdb : db.Holds k) {channelId : Uuid} {next : Plan Outcome}
    (h : AimsRight s d next db) : AimsRight s d (existing channelId next) db := by
  refine aims_asking fun found _ => ?_
  rw [Database.perform_asking hdb.healthy rfl]
  cases found with
  | none => exact aims_refusal _
  | some c => exact h

theorem handle_aims {k : Ledger} (hdb : db.Holds k) (command : Command) :
    AimsRight s d (handle s d.now command) db := by
  cases command with
  | unknown tag => exact aims_refusal _
  | createPublicRoom room =>
    refine aims_checking fun name => aims_asking fun channel hchannel => ?_
    refine aims_reply (.toChannel (by decide) ?_ _)
    intro u
    rw [Database.perform_healthy hdb.healthy, hdb.tables] at hchannel ⊢
    cases ha : (Operation.createChannel .publicRoom name s.userId).apply d k.written with
    | error e => simp [ha] at hchannel
    | ok r =>
      obtain ⟨channel', t⟩ := r
      simp only [ha, Except.ok.injEq] at hchannel ⊢
      subst hchannel
      rw [hasMember_created hdb.sound.keyed ha, List.mem_singleton]
  | createMessage target m =>
    refine aims_checking fun channelId => aims_checking fun text =>
      aims_checking fun createdAt => ?_
    refine aims_asking fun message _ => ?_
    cases message with
    | none => exact aims_refusal _
    | some message => exact aims_listMembers (hdb.perform _ _) (by decide) _ _
  | listMessages target =>
    refine aims_checking fun channelId => aims_existing hdb (aims_asking fun messages _ => ?_)
    exact aims_reply (.toSession (by decide) _ _)
  | joinPublicRoom target =>
    refine aims_checking fun channelId => aims_existing hdb (aims_asking fun _ _ => ?_)
    exact aims_listMembers (hdb.perform _ _) (by decide) _ _
  | leavePublicRoom target =>
    refine aims_checking fun channelId => aims_existing hdb (aims_asking fun _ _ => ?_)
    exact aims_listMembers (hdb.perform _ _) (by decide) _ _

/-- The audience of every reply is right in the store that its handler
leaves. -/
theorem respond_aimed {k : Ledger} (hdb : db.Holds k) (text : String) :
    Aimed s ((respond s d.now text).run d db).2.tables ((respond s d.now text).run d db).1 := by
  have hrefuse (t : Tables) (r : Refusal) (tag : Option String) (targetId : String) :
      Aimed s t (.refuse s r tag targetId) := .toSession (by decide) targetId _
  obtain ⟨r, tag, targetId, hrefused⟩ | ⟨inbound, command, -, -, hhandled⟩ :=
    respond_cases s d.now text
  · rw [hrefused]
    exact hrefuse _ _ _ _
  · rw [hhandled, Plan.run_map]
    cases ho : ((handle s d.now command).run d db).1 with
    | error r => exact hrefuse _ _ _ _
    | ok reply => exact handle_aims hdb command reply ho

end

/-! ## Sessions -/

/-- The sessions that an envelope is for, after what session `s` asked for: that
session, and for a channel's envelope all sessions of the users who are members
now. -/
def IsFor (r : Registry) (t : Tables) (s : Session) (e : Envelope) (x : Uuid) : Prop :=
  x = s.id ∨ e.tag ∈ channelTags ∧ ∃ u, t.hasMember e.targetId u.text = true ∧ x ∈ r.sessionsOf u

theorem mem_resolve_iff {s : Session} {t : Tables} {reply : Reply} (h : Aimed s t reply)
    (r : Registry) (x : Uuid) : x ∈ r.resolve reply.audience ↔ IsFor r t s reply.envelope x := by
  cases h with
  | @toChannel tag htag members channelId hmembers content =>
    simp only [Reply.toChannel, Registry.resolve, List.mem_eraseDups, List.mem_cons,
      List.mem_flatMap,
      IsFor, htag, true_and, hmembers]
  | toSession htag targetId content =>
    simp only [Registry.resolve, List.mem_singleton, IsFor, htag, false_and, or_false]

/-- What a frame of session `s` did to the queues: `count` is what was returned,
and `e` the envelope of the reply. -/
structure FannedOut (before after : Server) (count : Nat) (s : Session) (e : Envelope) : Prop where
  /-- The envelope of a channel names one that is there. -/
  target : e.tag ∈ channelTags → ∃ c : Uuid, e.targetId = c.text
  /-- A session that the envelope is for, with an open queue that is not full,
  has the frame once more, behind all others. -/
  grown : ∀ x n, before.registry.linkOf? x = some n → before.registry.canTake x = true →
    IsFor before.registry after.database.tables s e x →
    ∃ queue, before.registry.queue? n = some queue ∧
      after.registry.queue? n = some (queue ++ [e.text])
  /-- The queues of all other sessions are as they were. -/
  kept : ∀ x n, before.registry.linkOf? x = some n →
    ¬ (before.registry.canTake x = true ∧ IsFor before.registry after.database.tables s e x) →
    after.registry.queue? n = before.registry.queue? n
  /-- So are the queues of links that are no session's any more. -/
  others : ∀ n, (∀ x, before.registry.linkOf? x ≠ some n) →
    after.registry.queue? n = before.registry.queue? n
  /-- The count is the number of queues that changed. -/
  count : count = ((List.range before.registry.links.length).filter fun n =>
    after.registry.queue? n ≠ before.registry.queue? n).length

theorem fannedOut_deliver {r : Registry} (hr : r.Wired) {s : Session} {before after : Database}
    {reply : Reply} (h : Aimed s after.tables reply) :
    FannedOut ⟨before, r⟩ (({ database := after, registry := r } : Server).deliver reply).2
      (({ database := after, registry := r } : Server).deliver reply).1 s reply.envelope where
  target := by
    intro htag
    cases h with
    | toChannel _ _ _ => exact ⟨_, rfl⟩
    | toSession hne _ _ => exact absurd htag hne
  grown := by
    intro x n hlink hroom hfor
    have hreached : n ∈ r.reached reply.audience :=
      Registry.mem_reached.2 ⟨x, (mem_resolve_iff h r x).2 hfor, hroom, hlink⟩
    obtain ⟨n', l, hlink', hl, -⟩ := Registry.link_of_canTake hroom
    obtain rfl : n' = n := Option.some.inj (hlink'.symm.trans hlink)
    refine ⟨l.queue, by simp [Registry.queue?, hl], ?_⟩
    refine (hr.deliver_queue reply.audience reply.envelope.text n').trans ?_
    simp [Registry.queue?, hl, hreached]
  kept := by
    intro x n hlink hnot
    have hmissed : n ∉ r.reached reply.audience := by
      intro hreached
      obtain ⟨y, hy, hroom, hlink'⟩ := Registry.mem_reached.1 hreached
      obtain rfl := hr.linkOf?_inj hlink hlink'
      exact hnot ⟨hroom, (mem_resolve_iff h r x).1 hy⟩
    refine (hr.deliver_queue reply.audience reply.envelope.text n).trans ?_
    simp [hmissed]
  others := by
    intro n hnone
    have hmissed : n ∉ r.reached reply.audience := by
      intro hreached
      obtain ⟨y, -, -, hlink⟩ := Registry.mem_reached.1 hreached
      exact hnone y hlink
    refine (hr.deliver_queue reply.audience reply.envelope.text n).trans ?_
    simp [hmissed]
  count := hr.deliver_changed reply.audience reply.envelope.text

/-- **One frame to each of those it is for.** In every store and registry that
can come about, a frame of any session is answered to exactly the sessions that
the answer is for. The sessions of a user are those registered for the user,
where each session is always registered for the same one. -/
theorem handleText_fanOut (steps : List Step) (capacity : Nat) (traffic : List Traffic)
    (s : Session) (d : Draw) (text : String) :
    let before : Server := ⟨Database.empty.run steps, (Registry.empty capacity).run traffic⟩
    let reply := ((respond s d.now text).run d before.database).1
    FannedOut before (before.handleText s d text).2 (before.handleText s d text).1 s reply.envelope ∧
    ∀ owner : Uuid → Uuid, (∀ id u, .register id u ∈ traffic → u = owner id) →
      ∀ x u, x ∈ before.registry.sessionsOf u ↔
        ∃ e, before.registry.entryOf? x = some e ∧ e.userId = u := by
  intro before reply
  have hstore := holds_ledgerOf steps
  have hwired : before.registry.Wired := (Registry.wired_empty capacity).run traffic
  refine ⟨fannedOut_deliver hwired (respond_aimed hstore text), ?_⟩
  intro owner howner x u
  exact ((Registry.indexed_empty capacity owner).run howner).listed

/-- A session of the user of the small run. -/
def sampleSession : Session := ⟨sampleId 9, sampleId 1, "a@test.com", .active⟩

/-- Two sessions of that user and one of another. -/
def sampleTraffic : List Traffic :=
  [.register (sampleId 9) (sampleId 1), .register (sampleId 8) (sampleId 1),
    .register (sampleId 7) (sampleId 6)]

def sampleJoin : String :=
  "\x7b\"action_tag\":\"JOIN_PUBLIC_ROOM\",\"target_id\":\"00000000-0000-0000-0000-000000000002\"\x7d"

def sampleFarewell : String :=
  "\x7b\"action_tag\":\"CREATE_MESSAGE\",\"target_id\":\"00000000-0000-0000-0000-000000000002\"," ++
    "\"content\":\x7b\"text\":\"bye\"\x7d\x7d"

theorem handleText_fanOut_sample :
    let before : Server := ⟨Database.empty.run sampleSteps, (Registry.empty 8).run sampleTraffic⟩
    let reply := ((respond sampleSession sampleNoon sampleJoin).run (sampleDraw 0) before.database).1
    FannedOut before (before.handleText sampleSession (sampleDraw 0) sampleJoin).2 2 sampleSession
      reply.envelope ∧
    ∀ x u, x ∈ before.registry.sessionsOf u ↔
      ∃ e, before.registry.entryOf? x = some e ∧ e.userId = u := by
  intro before reply
  have hcount : (before.handleText sampleSession (sampleDraw 0) sampleJoin).1 =
    2 := by decide +kernel
  have howner : ∀ id u, .register id u ∈ sampleTraffic →
      u = if id = sampleId 7 then sampleId 6 else sampleId 1 := by
    intro id u h
    simp only [sampleTraffic, List.mem_cons, List.not_mem_nil, or_false,
      Traffic.register.injEq] at h
    rcases h with ⟨rfl, rfl⟩ | ⟨rfl, rfl⟩ | ⟨rfl, rfl⟩ <;> decide
  obtain ⟨hfanned, hsessions⟩ :=
    handleText_fanOut sampleSteps 8 sampleTraffic sampleSession (sampleDraw 0) sampleJoin
  exact ⟨hcount ▸ hfanned, hsessions _ howner⟩

end ChatServer.Action

