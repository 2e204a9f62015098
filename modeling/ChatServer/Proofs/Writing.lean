import ChatServer.Connection.Writer
import ChatServer.Store.Error

/-!
# Writing to a socket

The frames that a socket has accepted are those on the wire and those that wait
in its buffer. Accepting, writing and reading only add to them, and once a
closing frame stands among them nothing is added any more.

A writer that waits is woken by whatever is ready: the mark that it shall stop
or the end of its queue, a frame, or a tick. If several are ready any of them
may come first, so what is proved of the writer is proved for every choice.

* `ClosesLast.accept`, `ClosesLast.flush`, `ClosesLast.receive`: what is
  accepted stays, and a closing frame is the last.
* `exists_choose?`: the writer that runs makes one of the choices.
* `wrote_of_choose?`: everything that a writer can do in a step in which no
  write fails.
-/
namespace ChatServer.Socket

open Store (bind_eq_ok)

/-! ## Accepted frames -/

def Outgoing.text? : Outgoing → Option String
  | text s => some s
  | _ => none

theorem Outgoing.eq_close {f : Outgoing} (h : f.isClose = true) : ∃ reason, f = .close reason := by
  cases f with
  | close reason => exact ⟨reason, rfl⟩
  | text | ping | pong => cases h

theorem Outgoing.text?_of_isClose {f : Outgoing} (h : f.isClose = true) : f.text? = none := by
  obtain ⟨reason, rfl⟩ := eq_close h
  rfl

/-- The texts among frames, in order. -/
def texts (frames : List Outgoing) : List String := frames.filterMap Outgoing.text?

@[simp] theorem texts_append (frames more : List Outgoing) :
    texts (frames ++ more) = texts frames ++ texts more :=
  List.filterMap_append

namespace Endpoint

/-- All frames that have been accepted: those on the wire, and those that have
not been written yet. -/
def accepted (e : Endpoint) : List Outgoing := e.wire ++ e.buffer

/-- A closing frame is the last that has been accepted, and while anything may
be said there is none. -/
inductive ClosesLast (e : Endpoint) : Prop
  | speaking (h : e.speaking = .both) (body : ∀ f ∈ e.accepted, f.isClose = false)
  | answering {answer : Outgoing} (h : e.speaking = .closedByClient answer)
      (last : answer.isClose = true)
    (body : ∀ f ∈ e.accepted, f.isClose = false)
  | closed {frames : List Outgoing} {f : Outgoing} (h : e.speaking = .nobody)
      (accepted : e.accepted = frames ++ [f])
    (last : f.isClose = true) (body : ∀ f ∈ frames, f.isClose = false)

theorem closesLast_fresh : fresh.ClosesLast := .speaking rfl (by simp [accepted, fresh])

/-- A socket has accepted more frames; none, if it accepts nothing any more. -/
structure Grown (e e' : Endpoint) (more : List Outgoing) : Prop where
  accepted : e'.accepted = e.accepted ++ more
  closesLast : e'.ClosesLast
  nobody : e.speaking = .nobody → e'.speaking = .nobody ∧ more = [] ∧
    (e.buffer = [] → e'.buffer = [])

section
variable {e e' : Endpoint}

theorem accept?_eq_some {f : Outgoing} (h : e.accept? f = some e') :
    e.speaking = .both ∧ e'.accepted = e.accepted ++ [f] ∧
      e'.speaking = if f.isClose then .nobody else .both := by
  unfold accept? at h
  split at h
  · next hspeaking =>
    cases h
    exact ⟨hspeaking, (List.append_assoc ..).symm, rfl⟩
  · cases h

theorem flush_eq_written (h : e.flush = .written e') :
    e'.buffer = [] ∧ e'.accepted = e.wire ++ e.outstanding ∧
      e'.speaking = if e.speaking = .both then .both else .nobody := by
  unfold flush at h
  split at h
  · cases h
  · cases h
  · cases h
    exact ⟨rfl, List.append_nil _, rfl⟩

theorem flush_ne_blocked (h : e.mode ≠ .stalled) : e.flush ≠ .blocked := by
  unfold flush
  split
  · next hmode => exact absurd hmode h
  · exact nofun
  · exact nofun

/-- A part of a message leaves what is written alone. -/
theorem takePart_eq_ok {limit : Nat} {f : ClientFrame} {start : Option Bool} {m : Option Incoming}
    (h : e.takePart limit f start = .ok (m, e')) :
    e'.wire = e.wire ∧ e'.buffer = e.buffer ∧ e'.speaking = e.speaking := by
  have hrest {before : Partial} (h : (do
      let message ← extend limit before f.payload
      if f.isFinal then return (some (← whole message), { e with unfinished := none })
      else return (none, { e with unfinished := some message }) : Except Violation _) =
        .ok (m, e')) :
      e'.wire = e.wire ∧ e'.buffer = e.buffer ∧ e'.speaking = e.speaking := by
    obtain ⟨message, -, h⟩ := bind_eq_ok.1 h
    split at h
    · obtain ⟨whole, -, h⟩ := bind_eq_ok.1 h
      cases h
      exact ⟨rfl, rfl, rfl⟩
    · cases h
      exact ⟨rfl, rfl, rfl⟩
  unfold takePart at h
  cases start with
  | none =>
    cases hunfinished : e.unfinished with
    | none => rw [hunfinished] at h; cases h
    | some p => rw [hunfinished] at h; exact hrest h
  | some isText =>
    cases hunfinished : e.unfinished with
    | none => rw [hunfinished] at h; exact hrest h
    | some p => rw [hunfinished] at h; cases h

/-- What a frame that is not part of a message does: a Ping is answered, and a
closing frame is to be. -/
theorem takeControl_eq_ok {f : ClientFrame} {k : Kind} {m : Option Incoming}
    (h : e.takeControl f k = .ok (m, e')) :
    e'.wire = e.wire ∧
      ((e'.buffer = e.buffer ∧ e'.speaking = e.speaking) ∨
        (m = some (.ping f.payload) ∧ e'.speaking = e.speaking ∧
          e'.buffer = if e.speaking = .both then e.buffer ++ [.pong f.payload] else e.buffer) ∨
        ∃ reason, e'.buffer = e.buffer ∧
          e'.speaking = if e.speaking = .both then .closedByClient (.close reason) else e.speaking) := by
  unfold takeControl at h
  split at h
  · cases h
  · split at h
    · cases h
    · split at h
      · obtain ⟨reason, -, h⟩ := bind_eq_ok.1 h
        cases h
        exact ⟨rfl, .inr (.inr ⟨reason, rfl, rfl⟩)⟩
      · cases h
        exact ⟨rfl, .inr (.inl ⟨rfl, rfl, rfl⟩)⟩
      · cases h
        exact ⟨rfl, .inl ⟨rfl, rfl⟩⟩

/-- A frame of the client is part of a message, or is not. -/
theorem receive_eq_ok {limit : Nat} {f : ClientFrame} {m : Option Incoming}
    (h : e.receive limit f = .ok (m, e')) :
    (∃ start, e.takePart limit f start = .ok (m, e')) ∨ ∃ k, e.takeControl f k = .ok (m, e') := by
  unfold receive at h
  split at h
  · cases h
  · next k hk =>
    split at h
    · cases h
    · split at h
      · cases h
      · split at h
        · exact .inr ⟨k, h⟩
        · split at h
          · exact .inl ⟨_, h⟩
          · exact .inl ⟨_, h⟩
          · exact .inl ⟨_, h⟩

/-! ## What is accepted only grows -/

theorem ClosesLast.body_of_both (h : e.ClosesLast) (hboth : e.speaking = .both) :
    ∀ f ∈ e.accepted, f.isClose = false := by
  cases h with
  | speaking _ body => exact body
  | answering hnot | closed hnot => rw [hboth] at hnot; cases hnot

/-- On the wire there is no closing frame but the last. -/
theorem ClosesLast.wire (h : e.ClosesLast) : ∀ f ∈ e.wire.dropLast, f.isClose = false := by
  intro f hf
  have hwire := List.dropLast_subset _ hf
  cases h with
  | speaking _ body | answering _ _ body => exact body f (List.mem_append_left _ hwire)
  | @closed frames last _ haccepted _ body =>
    refine body f ?_
    unfold accepted at haccepted
    have hframes : frames = (e.wire ++ e.buffer).dropLast := by rw [haccepted, List.dropLast_concat]
    rw [hframes]
    by_cases hbuffer : e.buffer = []
    · rwa [hbuffer, List.append_nil]
    · rw [List.dropLast_append_of_ne_nil hbuffer]
      exact List.mem_append_left _ hwire

/-- Only where both sides may speak is anything accepted, and a closing frame is
the last. -/
theorem ClosesLast.accept {f : Outgoing} (h : e.ClosesLast) (ha : e.accept? f = some e') :
    Grown e e' [f] := by
  obtain ⟨hboth, haccepted, hspeaking⟩ := accept?_eq_some ha
  have hbody := h.body_of_both hboth
  refine ⟨haccepted, ?_, fun hnobody => ?_⟩
  · cases hf : f.isClose with
    | true => exact .closed (by rw [hspeaking, hf, if_pos rfl]) haccepted hf hbody
    | false =>
      refine .speaking (by simp [hspeaking, hf]) fun g hg => ?_
      rw [haccepted, List.mem_append, List.mem_singleton] at hg
      rcases hg with hg | rfl
      · exact hbody g hg
      · exact hf
  · rw [hboth] at hnobody
    cases hnobody

/-- Writing puts what waits on the wire, and behind it the answer to the
client's closing frame. -/
theorem ClosesLast.flush (h : e.ClosesLast) (hf : e.flush = .written e') :
    ∃ more, Grown e e' more ∧ ∀ f ∈ more, f.isClose = true := by
  obtain ⟨hbuffer, haccepted, hspeaking⟩ := flush_eq_written hf
  cases h with
  | speaking hboth body =>
    have hsame : e'.accepted = e.accepted := by simpa [outstanding, hboth, accepted] using haccepted
    have hstill : e'.speaking = .both := by simp [hspeaking, hboth]
    refine ⟨[], ⟨by simpa using hsame, .speaking hstill (hsame ▸ body), fun hnobody => ?_⟩, by simp⟩
    rw [hboth] at hnobody
    cases hnobody
  | @answering answer hanswer last body =>
    have hmore : e'.accepted = e.accepted ++ [answer] := by
      simpa [outstanding, hanswer, accepted] using haccepted
    refine ⟨[answer], ⟨hmore, .closed (by simp [hspeaking, hanswer]) hmore last body,
      fun hnobody => ?_⟩, by simpa⟩
    rw [hanswer] at hnobody
    cases hnobody
  | closed hnobody hframes last body =>
    have hsame : e'.accepted =
      e.accepted := by simpa [outstanding, hnobody, accepted] using haccepted
    have hstill : e'.speaking = .nobody := by simp [hspeaking, hnobody]
    refine ⟨[], ⟨by simpa using hsame, .closed hstill (hsame.trans hframes) last body, ?_⟩, by simp⟩
    exact fun _ => ⟨hstill, rfl, fun _ => hbuffer⟩

/-- What leaves the frames and the speaker alone adds nothing. -/
theorem ClosesLast.of_same (h : e.ClosesLast) (hwire : e'.wire = e.wire)
    (hbuffer : e'.buffer = e.buffer) (hspeaking : e'.speaking = e.speaking) : Grown e e' [] := by
  have hsame : e'.accepted = e.accepted := by rw [accepted, hwire, hbuffer, accepted]
  refine ⟨by rw [hsame, List.append_nil], ?_,
    fun hnobody => ⟨hspeaking.trans hnobody, rfl, hbuffer.trans⟩⟩
  cases h with
  | speaking hboth body => exact .speaking (hspeaking.trans hboth) (hsame ▸ body)
  | answering hanswer last body => exact .answering (hspeaking.trans hanswer) last (hsame ▸ body)
  | closed hnobody hframes last body =>
    exact .closed (hspeaking.trans hnobody) (hsame.trans hframes) last body

/-- Reading adds no frame but the answer to a Ping. -/
theorem ClosesLast.receive {limit : Nat} {f : ClientFrame} {m : Option Incoming} (h : e.ClosesLast)
    (hr : e.receive limit f = .ok (m, e')) :
    ∃ more, Grown e e' more ∧
    (more = [] ∨ m = some (.ping f.payload) ∧ more = [.pong f.payload]) := by
  rcases receive_eq_ok hr with ⟨start, hpart⟩ | ⟨k, hcontrol⟩
  · obtain ⟨hwire, hbuffer, hspeaking⟩ := takePart_eq_ok hpart
    exact ⟨[], h.of_same hwire hbuffer hspeaking, .inl rfl⟩
  · obtain ⟨hwire, ⟨hbuffer, hspeaking⟩ | ⟨rfl, hspeaking, hbuffer⟩ | ⟨reason, hbuffer, hspeaking⟩⟩ :=
      takeControl_eq_ok hcontrol
    · exact ⟨[], h.of_same hwire hbuffer hspeaking, .inl rfl⟩
    · by_cases hboth : e.speaking = .both
      · rw [if_pos hboth] at hbuffer
        have hmore : e'.accepted = e.accepted ++ [.pong f.payload] := by
          rw [accepted, hwire, hbuffer, accepted, List.append_assoc]
        refine ⟨[.pong f.payload], ⟨hmore, .speaking (hspeaking.trans hboth) ?_, fun hnobody => ?_⟩,
          .inr ⟨rfl, rfl⟩⟩
        · intro g hg
          rw [hmore, List.mem_append, List.mem_singleton] at hg
          rcases hg with hg | rfl
          · exact h.body_of_both hboth g hg
          · rfl
        · rw [hboth] at hnobody
          cases hnobody
      · rw [if_neg hboth] at hbuffer
        exact ⟨[], h.of_same hwire hbuffer hspeaking, .inl rfl⟩
    · by_cases hboth : e.speaking = .both
      · rw [if_pos hboth] at hspeaking
        have hsame : e'.accepted = e.accepted := by rw [accepted, hwire, hbuffer, accepted]
        refine ⟨[], ⟨by rw [hsame, List.append_nil], ?_, fun hnobody => ?_⟩, .inl rfl⟩
        · exact .answering hspeaking rfl (hsame ▸ h.body_of_both hboth)
        · rw [hboth] at hnobody
          cases hnobody
      · rw [if_neg hboth] at hspeaking
        exact ⟨[], h.of_same hwire hbuffer hspeaking, .inl rfl⟩

end
end Endpoint
end ChatServer.Socket

namespace ChatServer.Connection

open Delivery Socket

/-! ## Choices of the writer -/

/-- What wakes a writer that waits. -/
inductive Choice
  /-- It has been told to stop, or its queue has come to an end. -/
  | stop
  | frame
  | tick
deriving DecidableEq

/-- The writer has left its loop: what is queued now is all that it will
write. -/
def Stage.hasLeft : Stage → Bool
  | .waiting | .sending _ => false
  | .draining .. | .stopped => true

/-- The closing frame has been handed to the socket, or the writer has
stopped. -/
def Stage.hasSaid : Stage → Bool
  | .draining _ .farewell | .stopped => true
  | _ => false

theorem Stage.hasLeft_of_hasSaid {s : Stage} (h : s.hasSaid = true) : s.hasLeft = true := by
  unfold hasSaid at h
  split at h
  · rfl
  · rfl
  · cases h

/-- When the writer gives up the write that it waits for. -/
def Stage.limit? : Stage → Option Nat
  | .sending limit | .draining limit .frame | .draining limit .farewell => some limit
  | .waiting | .draining _ .empty | .stopped => none

namespace Outlet

/-- One step of the writer, with the choice that it makes if it waits; none when
the choice is not ready. The queue is fed while its session is in the table; one
that is not fed any more comes to an end. -/
def choose? (t : Timing) (now : Nat) (fed : Bool) (c : Choice) (o : Outlet) : Option Outlet :=
  match o.writer.stage with
  | .waiting =>
    match c with
    | .stop =>
      if o.link.cancelled || (o.link.queue.isEmpty && !fed) then some (o.beginDrain t now) else none
    | .frame => o.link.take?.map fun (frame, link) =>
        ({ o with link := link }.hand (.text frame) (.sending (now + t.writeTimeout)))
    | .tick => if o.writer.nextTick ≤ now then some (o.tick t now) else none
  | _ => o.step? t now

/-- The writer that runs makes one of the choices. -/
theorem exists_choose? {t : Timing} {now : Nat} {o o' : Outlet} (h : o.step? t now = some o')
    (fed : Bool) :
    ∃ c, o.choose? t now fed c = some o' := by
  unfold choose?
  cases hstage : o.writer.stage with
  | waiting =>
    simp only [step?, hstage] at h
    split at h
    · next hcancelled => exact ⟨.stop, by simp only [hcancelled, Bool.true_or, if_true]; exact h⟩
    · split at h
      · next htake => exact ⟨.frame, by simp only [htake, Option.map_some]; exact h⟩
      · exact ⟨.tick, h⟩
  | sending | draining | stopped => exact ⟨.stop, h⟩

/-- The frame that the writer hands to the socket in a step. -/
def handing? (c : Choice) (o : Outlet) : Option Outgoing :=
  match o.writer.stage with
  | .waiting =>
    match c with
    | .stop => none
    | .frame => o.link.queue.head?.map .text
    | .tick => o.writer.heartbeat.tick.map fun _ => .ping []
  | .draining _ .empty => some ((o.link.queue.head?.map .text).getD Writer.farewell)
  | _ => none

/-- A write fails in the step, or is given up: the socket takes no more frames,
or does not write, or has been blocked for too long. -/
def fails (now : Nat) (c : Choice) (o : Outlet) : Bool :=
  (o.handing? c).any (fun frame => (o.endpoint.accept? frame).isNone) ||
    o.writer.stage.limit?.any fun limit =>
      match o.endpoint.flush with
      | .written _ => false
      | .failed => true
      | .blocked => limit ≤ now

/-- What a writer does in a step in which no write fails. -/
inductive Wrote (o o' : Outlet) : Prop
  /-- It leaves its loop, and its queue is shut. -/
  | left {limit : Nat} (before : o.writer.stage = .waiting)
      (after : o'.writer.stage = .draining limit .empty)
    (link : o'.link = o.link.shut) (same : o'.endpoint = o.endpoint)
  /-- It hands the oldest frame to the socket. -/
  | frame {text : String} {rest : List String} {limit : Nat} (queue : o.link.queue = text :: rest)
    (link : o'.link = { o.link with queue := rest })
    (accepted : o.endpoint.accept? (.text text) = some o'.endpoint)
    (stages : (o.writer.stage = .waiting ∧ o'.writer.stage = .sending limit) ∨
      (o.writer.stage = .draining limit .empty ∧ o'.writer.stage = .draining limit .frame))
  | ping {limit : Nat} (before : o.writer.stage = .waiting) (after : o'.writer.stage =
    .sending limit)
    (link : o'.link = o.link) (accepted : o.endpoint.accept? (.ping []) = some o'.endpoint)
  /-- With its queue empty, it hands the closing frame to the socket. -/
  | farewell {limit : Nat} (before : o.writer.stage = .draining limit .empty)
    (after : o'.writer.stage = .draining limit .farewell) (queue : o.link.queue =
      []) (link : o'.link = o.link)
    (accepted : o.endpoint.accept? Writer.farewell = some o'.endpoint)
  /-- A frame is written. -/
  | written {limit : Nat} (flushed : o.endpoint.flush = .written o'.endpoint) (link : o'.link =
    o.link)
    (stages : (o.writer.stage = .sending limit ∧ o'.writer.stage = .waiting) ∨
      (o.writer.stage = .draining limit .frame ∧ o'.writer.stage = .draining limit .empty))
  /-- The closing frame is written. -/
  | ended {limit : Nat} (before : o.writer.stage = .draining limit .farewell)
    (after : o'.writer.stage = .stopped)
    (flushed : o.endpoint.flush = .written o'.endpoint) (link : o'.link = o.link.abandon)

section
variable {o o' : Outlet} {f : Outgoing}

/-- A frame that the socket takes is handed over. -/
theorem accepted_hand (s : Stage) (h : (o.endpoint.accept? f).isNone = false) :
    o.endpoint.accept? f = some (o.hand f s).endpoint ∧ (o.hand f s).link = o.link ∧
    (o.hand f s).writer.stage = s := by
  unfold hand
  cases ha : o.endpoint.accept? f with
  | none => rw [ha] at h; cases h
  | some e => exact ⟨rfl, rfl, rfl⟩

/-- A write that does not fail, and for which the writer has not waited too
long, is done. -/
theorem await_eq_some {now limit : Nat} {done : Outlet → Outlet}
    (h : o.await now limit done = some o')
    (hf : (match o.endpoint.flush with
      | .written _ => false
      | .failed => true
      | .blocked => decide (limit ≤ now)) = false) :
    ∃ e, o.endpoint.flush = .written e ∧ o' = done { o with endpoint := e } := by
  unfold await at h
  cases hflush : o.endpoint.flush with
  | written e => rw [hflush] at h; exact ⟨e, rfl, (Option.some.inj h).symm⟩
  | failed => rw [hflush] at hf; cases hf
  | blocked =>
    rw [hflush] at h hf
    rw [if_neg (of_decide_eq_false hf)] at h
    cases h

theorem take?_eq_some {l l' : Link} {text : String} (h : l.take? = some (text, l')) :
    ∃ rest, l.queue = text :: rest ∧ l' = { l with queue := rest } := by
  unfold Link.take? at h
  split at h
  · cases h
  · next rest hqueue =>
    cases h
    exact ⟨rest, hqueue, rfl⟩

theorem take?_eq_none {l : Link} (h : l.take? = none) : l.queue = [] := by
  unfold Link.take? at h
  split at h
  · next hqueue => exact hqueue
  · cases h

end

/-- **Everything that a writer does**, whatever it chooses, in a step in which
no write fails. -/
theorem wrote_of_choose? {t : Timing} {now : Nat} {fed : Bool} {c : Choice} {o o' : Outlet}
    (h : o.choose? t now fed c = some o') (hf : o.fails now c = false) : Wrote o o' := by
  obtain ⟨hhand, hlimit⟩ := Bool.or_eq_false_iff.1 hf
  unfold choose? at h
  unfold handing? at hhand
  cases hstage : o.writer.stage with
  | waiting =>
    simp only [hstage] at h hhand
    cases c with
    | stop =>
      simp only [Option.ite_none_right_eq_some, Option.some.injEq] at h
      obtain ⟨-, rfl⟩ := h
      exact .left hstage rfl rfl rfl
    | frame =>
      obtain ⟨⟨text, link⟩, htake, rfl⟩ := Option.map_eq_some_iff.1 h
      obtain ⟨rest, hqueue, rfl⟩ := take?_eq_some htake
      simp only [hqueue, List.head?_cons, Option.map_some, Option.any_some] at hhand
      obtain ⟨haccepted, hlink, hsending⟩ :=
        accepted_hand (o := { o with link := { o.link with queue := rest } })
        (.sending (now + t.writeTimeout)) hhand
      exact .frame hqueue hlink haccepted (.inl ⟨hstage, hsending⟩)
    | tick =>
      simp only [Option.ite_none_right_eq_some, Option.some.injEq] at h
      obtain ⟨-, rfl⟩ := h
      unfold tick
      cases htick : o.writer.heartbeat.tick with
      | none => exact .left hstage rfl rfl rfl
      | some heartbeat =>
        simp only [htick, Option.map_some, Option.any_some] at hhand
        obtain ⟨haccepted, hlink, hsending⟩ := accepted_hand (f := .ping []) (o := { o with
          writer := { o.writer with heartbeat, nextTick := o.writer.nextTick + t.heartbeat } })
          (.sending (now + t.writeTimeout)) hhand
        exact .ping hstage hsending hlink haccepted
  | sending limit =>
    simp only [hstage, step?] at h
    simp only [hstage, Stage.limit?, Option.any_some] at hlimit
    obtain ⟨e, he, rfl⟩ := await_eq_some h hlimit
    exact .written he rfl (.inl ⟨hstage, rfl⟩)
  | draining limit hand =>
    simp only [hstage, step?] at h
    simp only [hstage] at hhand
    simp only [hstage, Stage.limit?] at hlimit
    cases hand with
    | empty =>
      cases htake : o.link.take? with
      | some p =>
        obtain ⟨text, link⟩ := p
        obtain ⟨rest, hqueue, rfl⟩ := take?_eq_some htake
        simp only [hqueue, List.head?_cons, Option.map_some, Option.getD_some,
          Option.any_some] at hhand
        obtain ⟨haccepted, hlink, hdraining⟩ :=
          accepted_hand (o := { o with link := { o.link with queue := rest } })
          (.draining limit .frame) hhand
        simp only [htake, Option.some.injEq] at h
        exact h ▸ .frame hqueue hlink haccepted (.inr ⟨hstage, hdraining⟩)
      | none =>
        have hqueue := take?_eq_none htake
        simp only [hqueue, List.head?_nil, Option.map_none, Option.getD_none,
          Option.any_some] at hhand
        obtain ⟨haccepted, hlink, hdraining⟩ := accepted_hand (.draining limit .farewell) hhand
        simp only [htake, Option.some.injEq] at h
        exact h ▸ .farewell hstage hdraining hqueue hlink haccepted
    | frame =>
      obtain ⟨e, he, rfl⟩ := await_eq_some h hlimit
      exact .written he rfl (.inr ⟨hstage, rfl⟩)
    | farewell =>
      obtain ⟨e, he, rfl⟩ := await_eq_some h hlimit
      exact .ended hstage rfl he rfl
  | stopped =>
    simp only [hstage, step?] at h
    cases h

end Outlet
end ChatServer.Connection

