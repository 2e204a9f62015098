import ChatServer.Server

/-!
# Replies come back

Whatever the store answers to a handler, and whatever happens to it between two
questions, the reply names the session that asked and is also for that session:
refusals and lists go to it alone, and the audience of a channel's event holds
it beside the members.

* `Plan.MayEnd`: the results that a plan comes to for some answers.
* `respond_returns`: every reply that a text frame may come to comes back.
-/
namespace ChatServer.Store

variable {α β : Type}

/-- The plan comes to this result for some answers of the store. -/
def Plan.MayEnd : Plan α → α → Prop
  | .done x, result => x = result
  | .ask _ next, result => ∃ answer, (next answer).MayEnd result

theorem Plan.mayEnd_map {p : Plan α} {f : α → β} {result : β} (h : (p.map f).MayEnd result) :
    ∃ x, p.MayEnd x ∧ f x = result := by
  induction p with
  | done x => exact ⟨x, rfl, h⟩
  | ask op next ih =>
    obtain ⟨answer, h⟩ := h
    obtain ⟨x, hx, hresult⟩ := ih answer h
    exact ⟨x, ⟨answer, hx⟩, hresult⟩

/-- A plan that runs alone is one case. -/
theorem Plan.mayEnd_run (p : Plan α) (d : Draw) (db : Database) : p.MayEnd (p.run d db).1 := by
  induction p generalizing db with
  | done x => rfl
  | ask op next ih => exact ⟨_, ih _ _⟩

end ChatServer.Store

namespace ChatServer.Action

open Delivery Protocol Store Time

/-- A reply names the session that asked and is for it, whoever else it is
for. -/
structure Reply.Returns (s : Session) (reply : Reply) : Prop where
  sender : reply.envelope.senderId = s.id
  audience : ∀ r : Registry, s.id ∈ r.resolve reply.audience

namespace Reply

variable {s : Session}

theorem returns_refuse (r : Refusal) (tag : Option String) (targetId : String) :
    (refuse s r tag targetId).Returns s :=
  ⟨rfl, fun _ => List.mem_singleton.2 rfl⟩

theorem returns_toSession (tag : ActionTag) (channelId : Uuid) (content : Content) :
    (toSession s tag channelId content).Returns s :=
  ⟨rfl, fun _ => List.mem_singleton.2 rfl⟩

theorem returns_toChannel (members : List Uuid) (tag : ActionTag) (channelId : Uuid)
    (content : Content) :
    (toChannel s members tag channelId content).Returns s :=
  ⟨rfl, fun _ => List.mem_eraseDups.2 List.mem_cons_self⟩

end Reply

/-! ## Handlers -/

/-- Every reply that a handler's plan may end in comes back. -/
def AlwaysReturns (s : Session) (p : Plan Outcome) : Prop :=
  ∀ reply, p.MayEnd (.ok reply) → reply.Returns s

section
variable {s : Session}

theorem returns_refusal (r : Refusal) : AlwaysReturns s (.done (.error r)) := by
  rintro reply ⟨⟩

theorem returns_reply {reply : Reply} (h : reply.Returns s) :
    AlwaysReturns s (.done (.ok reply)) := by
  rintro reply' ⟨⟩
  exact h

theorem returns_checking {α : Type} {check : Except Refusal α} {next : α → Plan Outcome}
    (h : ∀ x, AlwaysReturns s (next x)) : AlwaysReturns s (checking check next) := by
  cases check with
  | error r => exact returns_refusal r
  | ok x => exact h x

theorem returns_asking {op : Operation} {next : op.Answer → Plan Outcome}
    (h : ∀ answer, AlwaysReturns s (next answer)) : AlwaysReturns s (asking op next) := by
  rintro reply ⟨answer, hend⟩
  cases answer with
  | error e => exact returns_refusal _ reply hend
  | ok answer => exact h answer reply hend

theorem returns_existing {channelId : Uuid} {next : Plan Outcome} (h : AlwaysReturns s next) :
    AlwaysReturns s (existing channelId next) := by
  refine returns_asking fun found => ?_
  cases found with
  | none => exact returns_refusal _
  | some c => exact h

theorem returns_announce (tag : ActionTag) (channelId : Uuid) :
    AlwaysReturns s (announce s tag channelId) :=
  returns_asking fun members => returns_reply (Reply.returns_toChannel members tag channelId _)

theorem handle_returns (now : Instant) (command : Command) :
    AlwaysReturns s (handle s now command) := by
  cases command with
  | unknown tag => exact returns_refusal _
  | createPublicRoom room =>
    refine returns_checking fun name => returns_asking fun channel => ?_
    exact returns_reply (Reply.returns_toChannel _ _ _ _)
  | createMessage target m =>
    refine returns_checking fun channelId => returns_checking fun text =>
      returns_checking fun createdAt => ?_
    refine returns_asking fun posted => ?_
    cases posted with
    | none => exact returns_refusal _
    | some message =>
      exact returns_asking fun members => returns_reply (Reply.returns_toChannel members _ _ _)
  | listMessages target =>
    refine returns_checking fun channelId => returns_existing (returns_asking fun messages => ?_)
    exact returns_reply (Reply.returns_toSession _ _ _)
  | joinPublicRoom target =>
    exact returns_checking fun channelId =>
      returns_existing (returns_asking fun _ => returns_announce _ _)
  | leavePublicRoom target =>
    exact returns_checking fun channelId =>
      returns_existing (returns_asking fun _ => returns_announce _ _)

/-- Whatever the store answers, the reply to a text frame comes back to the
session that sent it. -/
theorem respond_returns {now : Instant} {text : String} {reply : Reply}
    (h : (respond s now text).MayEnd reply) : reply.Returns s := by
  obtain ⟨r, tag, targetId, hrefused⟩ | ⟨inbound, command, -, -, hhandled⟩ :=
    respond_cases s now text
  · rw [hrefused] at h
    obtain rfl : Reply.refuse s r tag targetId = reply := h
    exact Reply.returns_refuse _ _ _
  · rw [hhandled] at h
    obtain ⟨outcome, houtcome, rfl⟩ := Plan.mayEnd_map h
    cases outcome with
    | error r => exact Reply.returns_refuse _ _ _
    | ok reply => exact handle_returns now command reply houtcome

end

end ChatServer.Action

