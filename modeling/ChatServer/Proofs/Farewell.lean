import ChatServer.Proofs.Outflow

/-!
# What was counted is written

`Faithful` is the invariant of a session while no write fails: the frames that
deliveries have counted are the texts that the socket has accepted, and behind
them those in the queue. A writer that leaves its loop shuts the queue, so that
from then on there is less to do with every step, until the farewell has been
written.

* `Faithful.moved`, `Sound.run`: the invariant.
* `left_wrote`: a writer that has left its loop comes closer to its end.
* `written_in_order`: what was counted is written, in order, and a closing frame
  last.
-/
namespace ChatServer.Connection.Outflow

open Delivery Socket

variable {n : Nat}

/-! ## The invariant -/

/-- What may stand on the wire: texts, Pings, answers to the client's Pings, and
closing frames. -/
inductive Expected (pinged : List (List UInt8)) : Outgoing → Prop
  | text (s : String) : Expected pinged (.text s)
  | ping : Expected pinged (.ping [])
  | answer {payload : List UInt8} (h : payload ∈ pinged) : Expected pinged (.pong payload)
  | close (reason : Option CloseReason) : Expected pinged (.close reason)

theorem Expected.mono {pinged more : List (List UInt8)} {f : Outgoing} (h : Expected pinged f)
    (hmore : pinged ⊆ more) :
    Expected more f := by
  cases h with
  | text s => exact .text s
  | ping => exact .ping
  | answer hin => exact .answer (hmore hin)
  | close reason => exact .close reason

/-- The frames that were counted are on their way, and none has been lost. -/
structure Faithful (o : Outlet) (counted : List String) (pinged : List (List UInt8)) : Prop where
  inOrder : texts o.endpoint.accepted ++ o.link.queue = counted
  expected : ∀ f ∈ o.endpoint.accepted, Expected pinged f
  closesLast : o.endpoint.ClosesLast
  /-- A writer that has left its loop has shut its queue; -/
  shut : o.writer.stage.hasLeft = true → o.link.isOpen = false
  /-- one that has said farewell has emptied it before; -/
  said : o.writer.stage.hasSaid = true →
    o.link.queue = [] ∧ o.endpoint.accepted.getLast? = some Writer.farewell
  /-- and one that has stopped has written everything. -/
  written : o.writer.stage = .stopped → o.endpoint.buffer = []

section
variable {o o' : Outlet} {counted : List String} {pinged : List (List UInt8)}

/-- Behind the farewell nothing is accepted. -/
theorem Faithful.nobody (h : Faithful o counted pinged) (hsaid : o.writer.stage.hasSaid = true) :
    o.endpoint.speaking = .nobody := by
  have hlast := (h.said hsaid).2
  have hin := List.mem_of_getLast? hlast
  cases h.closesLast with
  | speaking _ body | answering _ _ body => exact absurd (body _ hin) (by decide)
  | closed hnobody _ _ _ => exact hnobody

theorem Faithful.fed (h : Faithful o counted pinged) {more : List String}
    (hfed : o.link.Fed o'.link more)
    (hstage : o'.writer.stage = o.writer.stage) (hendpoint : o'.endpoint = o.endpoint) :
    Faithful o' (counted ++ more) pinged where
  inOrder := by rw [hendpoint, hfed.queue, ← List.append_assoc, h.inOrder]
  expected := hendpoint ▸ h.expected
  closesLast := hendpoint ▸ h.closesLast
  shut hleft := hfed.isOpen.trans (h.shut (hstage ▸ hleft))
  said hsaid := by
    rw [hstage] at hsaid
    have hleft : o.writer.stage.hasLeft = true := Stage.hasLeft_of_hasSaid hsaid
    obtain ⟨hqueue, hlast⟩ := h.said hsaid
    exact ⟨by rw [hfed.queue, hqueue, hfed.closed (h.shut hleft), List.append_nil],
      hendpoint ▸ hlast⟩
  written hstopped := hendpoint ▸ h.written (hstage ▸ hstopped)

theorem Faithful.grown (h : Faithful o counted pinged) {more : List Outgoing}
    {pinged' : List (List UInt8)} (hgrown : o.endpoint.Grown o'.endpoint more)
    (hanswers : ∀ f ∈ more, f.isClose = true ∨ ∃ payload ∈ pinged', f = .pong payload)
    (hlink : o'.link = o.link)
    (hstage : o'.writer.stage = o.writer.stage) (hpinged : pinged ⊆ pinged') :
    Faithful o' counted pinged' where
  inOrder := by
    have hsilent : texts more = [] := List.filterMap_eq_nil_iff.2 fun f hf => by
      rcases hanswers f hf with hclose | ⟨payload, -, rfl⟩
      · exact Outgoing.text?_of_isClose hclose
      · rfl
    rw [hgrown.accepted, texts_append, hsilent, List.append_nil, hlink, h.inOrder]
  expected f hf := by
    rw [hgrown.accepted, List.mem_append] at hf
    rcases hf with hf | hf
    · exact (h.expected f hf).mono hpinged
    · rcases hanswers f hf with hclose | ⟨payload, hin, rfl⟩
      · obtain ⟨reason, rfl⟩ := Outgoing.eq_close hclose
        exact .close reason
      · exact .answer hin
  closesLast := hgrown.closesLast
  shut hleft := hlink ▸ h.shut (hstage ▸ hleft)
  said hsaid := by
    rw [hstage] at hsaid
    obtain ⟨-, rfl, -⟩ := hgrown.nobody (h.nobody hsaid)
    rw [hgrown.accepted, List.append_nil, hlink]
    exact h.said hsaid
  written hstopped := by
    rw [hstage] at hstopped
    obtain ⟨-, -, hbuffer⟩ := hgrown.nobody (h.nobody (by rw [hstopped]; rfl))
    exact hbuffer (h.written hstopped)

theorem Faithful.flush (h : Faithful o counted pinged) {e : Endpoint}
    (hflush : o.endpoint.flush = .written e) :
    Faithful { o with endpoint := e } counted pinged := by
  obtain ⟨more, hgrown, hclose⟩ := h.closesLast.flush hflush
  exact h.grown hgrown (fun f hf => .inl (hclose f hf)) rfl rfl (List.Subset.refl _)

/-- The writer hands on what it takes from the queue, and nothing else that is a
text. -/
theorem Faithful.wrote (h : Faithful o counted pinged) (hwrote : o.Wrote o') :
    Faithful o' counted pinged := by
  have hhanded {f : Outgoing} (hf : o.endpoint.accept? f = some o'.endpoint)
      (hexpected : Expected pinged f) : ∀ g ∈ o'.endpoint.accepted, Expected pinged g := by
    intro g hg
    rw [(h.closesLast.accept hf).accepted, List.mem_append, List.mem_singleton] at hg
    rcases hg with hg | rfl
    · exact h.expected g hg
    · exact hexpected
  cases hwrote with
  | left before after link same =>
    refine ⟨?_, same ▸ h.expected, same ▸ h.closesLast, fun _ => by rw [link]; rfl, ?_, ?_⟩
    · rw [same, link]
      exact h.inOrder
    · simp [after, Stage.hasSaid]
    · simp [after]
  | @frame text rest limit queue link accepted stages =>
    have hgrown := h.closesLast.accept accepted
    refine ⟨?_, hhanded accepted (.text text), hgrown.closesLast, ?_, ?_, ?_⟩
    · rw [hgrown.accepted, texts_append, link, List.append_assoc, ← h.inOrder, queue]
      rfl
    · rcases stages with ⟨-, after⟩ | ⟨before, -⟩
      · simp [after, Stage.hasLeft]
      · intro _
        rw [link]
        exact h.shut (by rw [before]; rfl)
    · rcases stages with ⟨-, after⟩ | ⟨-, after⟩ <;> simp [after, Stage.hasSaid]
    · rcases stages with ⟨-, after⟩ | ⟨-, after⟩ <;> simp [after]
  | ping before after link accepted =>
    have hgrown := h.closesLast.accept accepted
    refine ⟨?_, hhanded accepted .ping, hgrown.closesLast, ?_, ?_, ?_⟩
    · rw [hgrown.accepted, texts_append, link, ← h.inOrder]
      simp [texts, Outgoing.text?]
    · simp [after, Stage.hasLeft]
    · simp [after, Stage.hasSaid]
    · simp [after]
  | farewell before after queue link accepted =>
    have hgrown := h.closesLast.accept accepted
    refine ⟨?_, hhanded accepted (.close _), hgrown.closesLast, ?_, ?_, ?_⟩
    · rw [hgrown.accepted, texts_append, link, ← h.inOrder]
      simp [texts, Outgoing.text?, Writer.farewell]
    · intro _
      rw [link]
      exact h.shut (by rw [before]; rfl)
    · intro _
      rw [link, hgrown.accepted]
      exact ⟨queue, List.getLast?_concat⟩
    · simp [after]
  | written flushed link stages =>
    have hflushed := h.flush flushed
    refine ⟨link ▸ hflushed.inOrder, hflushed.expected, hflushed.closesLast, ?_, ?_, ?_⟩
    · rcases stages with ⟨-, after⟩ | ⟨before, -⟩
      · simp [after, Stage.hasLeft]
      · intro _
        rw [link]
        exact h.shut (by rw [before]; rfl)
    · rcases stages with ⟨-, after⟩ | ⟨-, after⟩ <;> simp [after, Stage.hasSaid]
    · rcases stages with ⟨-, after⟩ | ⟨-, after⟩ <;> simp [after]
  | ended before after flushed link =>
    have hflushed := h.flush flushed
    obtain ⟨hqueue, hlast⟩ := hflushed.said (by rw [before]; rfl)
    refine ⟨?_, hflushed.expected, hflushed.closesLast, ?_, ?_, ?_⟩
    · rw [link, ← hflushed.inOrder, hqueue]
      rfl
    · intro _
      rw [link]
      rfl
    · intro _
      rw [link]
      exact ⟨rfl, hlast⟩
    · exact fun _ => (Endpoint.flush_eq_written flushed).1

/-- A turn in which no write fails loses no frame. -/
theorem Faithful.moved {x x' : Outflow} (h : Faithful o x.counted x.pinged)
    (hmoved : Moved x o x' o') :
    Faithful o' x'.counted x'.pinged := by
  cases hmoved with
  | fed fed stage endpoint counted pinged =>
    rw [counted, pinged]
    exact h.fed fed stage endpoint
  | grown grown answers link stage counted pinged =>
    rw [counted]
    exact h.grown grown answers link stage pinged
  | wrote wrote counted pinged =>
    rw [counted, pinged]
    exact h.wrote wrote

end

structure Sound (n : Nat) (x : Outflow) (o : Outlet) : Prop where
  wired : x.registry.Wired
  outlet : x.outlet? n = some o
  faithful : Faithful o x.counted x.pinged

section
variable {t : Timing} {x : Outflow} {o : Outlet}

theorem sound_opened {r : Registry} (hr : r.Wired) (ht : t.heartbeat ≠ 0) (now : Nat)
    (id userId : Uuid) :
    Sound r.links.length (opened t now r id userId) ⟨.start t now, .fresh r.closing, .fresh⟩ where
  wired := hr.register id userId
  outlet := outlet?_of_link? List.getElem?_concat_length
  faithful := by
    have hwaiting : (Writer.start t now).stage = .waiting := if_neg ht
    refine ⟨rfl, nofun, Endpoint.closesLast_fresh, ?_, ?_, fun _ => rfl⟩
    · simp [hwaiting, Stage.hasLeft]
    · simp [hwaiting, Stage.hasSaid]

theorem Sound.step (h : Sound n x o) (turn : Turn n) (hx : (x.step t turn).broken = false) :
    ∃ o', Sound n (x.step t turn) o' ∧ Moved x o (x.step t turn) o' := by
  obtain ⟨o', houtlet, hmoved⟩ := step_cases h.wired h.outlet h.faithful.closesLast turn hx
  exact ⟨o', ⟨wired_step h.wired turn, houtlet, h.faithful.moved hmoved⟩, hmoved⟩

theorem broken_run (turns : List (Turn n)) (h : (x.run t turns).broken = false) :
    x.broken = false := by
  induction turns generalizing x with
  | nil => exact h
  | cons turn turns ih => exact broken_step turn (ih h)

/-- **The invariant.** While no write fails, a session stays as it should be. -/
theorem Sound.run (h : Sound n x o) (turns : List (Turn n)) (hx : (x.run t turns).broken = false) :
    ∃ o', Sound n (x.run t turns) o' := by
  induction turns generalizing x o with
  | nil => exact ⟨o, h⟩
  | cons turn turns ih =>
    obtain ⟨o', h', -⟩ := h.step turn (broken_run turns hx)
    exact ih h' hx

end

/-! ## The end of a session -/

/-- The steps that a writer that has left its loop needs at most: two for each
frame that is queued, and those for the closing frame. -/
def left (o : Outlet) : Nat :=
  match o.writer.stage with
  | .draining _ .empty => 2 * o.link.queue.length + 2
  | .draining _ .frame => 2 * o.link.queue.length + 3
  | .draining _ .farewell => 1
  | .waiting | .sending _ | .stopped => 0

/-- The turns of the writer at which the network is not blocked. -/
def worked (t : Timing) (x : Outflow) : List (Turn n) → Nat
  | [] => 0
  | turn :: turns =>
    (match turn with
      | .work .. => if x.endpoint.mode = .stalled then 0 else 1
      | _ => 0) + worked t (x.step t turn) turns

section
variable {t : Timing} {x x' : Outflow} {o o' : Outlet} {turn : Turn n}

theorem stopped_of_left (h : o.writer.stage.hasLeft = true) (hleft : left o = 0) :
    o.writer.stage = .stopped := by
  unfold left at hleft
  split at hleft
  · omega
  · omega
  · cases hleft
  · next hstage => rw [hstage] at h; cases h
  · next hstage => rw [hstage] at h; cases h
  · assumption

/-- A writer that has left its loop comes closer to its end with every step. -/
theorem left_wrote (hwrote : o.Wrote o') (h : o.writer.stage.hasLeft = true) :
    o'.writer.stage.hasLeft = true ∧ left o' < left o := by
  cases hwrote with
  | left before | ping before => rw [before] at h; cases h
  | frame queue link accepted stages =>
    rcases stages with ⟨before, -⟩ | ⟨before, after⟩
    · rw [before] at h
      cases h
    · rw [left, left, before, after, link, queue, List.length_cons]
      exact ⟨rfl, by dsimp only; omega⟩
  | farewell before after queue =>
    rw [left, left, before, after]
    exact ⟨rfl, by dsimp only; omega⟩
  | written flushed link stages =>
    rcases stages with ⟨before, -⟩ | ⟨before, after⟩
    · rw [before] at h
      cases h
    · rw [left, left, before, after, link]
      exact ⟨rfl, Nat.lt_succ_self _⟩
  | ended before after =>
    rw [left, left, before, after]
    exact ⟨rfl, Nat.one_pos⟩

/-- A writer that has left its loop and not stopped has something to do, unless
its write is blocked. -/
theorem exists_choose?_of_hasLeft {now : Nat} {fed : Bool} {c : Choice}
    (h : o.writer.stage.hasLeft = true)
    (hrunning : o.writer.stage ≠ .stopped) (hflush : o.endpoint.flush ≠ .blocked) :
    ∃ o', o.choose? t now fed c = some o' := by
  have hawait (limit : Nat) (done : Outlet → Outlet) : ∃ o', o.await now limit done = some o' := by
    unfold Outlet.await
    split
    · exact ⟨_, rfl⟩
    · exact ⟨_, rfl⟩
    · next hblocked => exact absurd hblocked hflush
  unfold Outlet.choose? Outlet.step?
  cases hstage : o.writer.stage with
  | waiting | sending => rw [hstage] at h; cases h
  | stopped => exact absurd hstage hrunning
  | draining limit hand =>
    cases hand with
    | empty => cases htake : o.link.take? <;> exact ⟨_, rfl⟩
    | frame | farewell => exact hawait _ _

/-- Once the writer has left its loop nothing is queued any more, and what is
left to do grows no more. -/
theorem Faithful.left_moved (hfaithful : Faithful o x.counted x.pinged) (hmoved : Moved x o x' o')
    (h : o.writer.stage.hasLeft = true) :
    o'.writer.stage.hasLeft = true ∧ x'.counted = x.counted ∧ left o' ≤ left o := by
  cases hmoved with
  | fed fed stage endpoint counted pinged =>
    obtain rfl := fed.closed (hfaithful.shut h)
    refine ⟨stage ▸ h, by rw [counted, List.append_nil], Nat.le_of_eq ?_⟩
    rw [left, left, stage, fed.queue, List.append_nil]
  | grown grown answers link stage counted pinged =>
    refine ⟨stage ▸ h, counted, Nat.le_of_eq ?_⟩
    rw [left, left, stage, link]
  | wrote wrote counted pinged =>
    obtain ⟨hleft, hlt⟩ := left_wrote wrote h
    exact ⟨hleft, counted, Nat.le_of_lt hlt⟩

/-- What a writer that has stopped has written stays as it is. -/
theorem Faithful.wire_moved (hfaithful : Faithful o x.counted x.pinged) (hmoved : Moved x o x' o')
    (h : o.writer.stage = .stopped) : o'.writer.stage = .stopped ∧
      o'.endpoint.wire = o.endpoint.wire := by
  cases hmoved with
  | fed fed stage endpoint => exact ⟨stage.trans h, by rw [endpoint]⟩
  | grown grown answers link stage =>
    obtain ⟨-, rfl, hbuffer⟩ := grown.nobody (hfaithful.nobody (by rw [h]; rfl))
    have hsame := grown.accepted
    rw [Endpoint.accepted, Endpoint.accepted, hfaithful.written h,
      hbuffer (hfaithful.written h)] at hsame
    exact ⟨stage.trans h, by simpa using hsame⟩
  | wrote wrote =>
    cases wrote with
    | left before | ping before | farewell before | ended before => rw [h] at before; cases before
    | frame _ _ _ stages | written _ _ stages =>
      rcases stages with ⟨before, -⟩ | ⟨before, -⟩ <;> rw [h] at before <;> cases before

/-- The writer's part in a turn at which the network is not blocked. -/
theorem Sound.worked_lt (h : Sound n x o) (h' : Sound n (x.step t turn) o')
    (hx : (x.step t turn).broken = false)
    (hleft : o.writer.stage.hasLeft = true) (hrunning : o.writer.stage ≠ .stopped)
    (hworked : worked t x [turn] ≠ 0) :
    left o' < left o := by
  cases turn with
  | traffic | offer | hear | flush | network | abort => exact absurd rfl hworked
  | work now c =>
    have hmode : x.endpoint.mode ≠ .stalled := by
      intro hstalled
      simp [worked, hstalled] at hworked
    have hflush : o.endpoint.flush ≠ .blocked :=
      Endpoint.flush_ne_blocked ((outlet?_eq_some h.outlet).2.2 ▸ hmode)
    obtain ⟨o'', hchoice⟩ : ∃ o'', o.choose? t now (x.isFed n) c = some o'' :=
      exists_choose?_of_hasLeft hleft hrunning hflush
    rcases work_cases h.outlet hx with ⟨hnone, -⟩ | ⟨p, hwrote, hmoved⟩
    · rw [hchoice] at hnone
      cases hnone
    · have houtlet := h'.outlet
      rw [Outflow.step, hmoved, outlet?_move h.outlet] at houtlet
      obtain rfl := Option.some.inj houtlet
      exact (left_wrote hwrote hleft).2

/-- A turn after the writer has left its loop. -/
theorem Sound.step_left (h : Sound n x o) (turn : Turn n) (hx : (x.step t turn).broken = false)
    (hleft : o.writer.stage.hasLeft = true) :
    ∃ o', Sound n (x.step t turn) o' ∧ o'.writer.stage.hasLeft = true ∧
    (x.step t turn).counted = x.counted ∧
      left o' ≤ left o - worked t x [turn] := by
  obtain ⟨o', h', hmoved⟩ := h.step turn hx
  obtain ⟨hleft', hcounted, hle⟩ := h.faithful.left_moved hmoved hleft
  refine ⟨o', h', hleft', hcounted, ?_⟩
  have hone : worked t x [turn] ≤ 1 := by
    cases turn with
    | work now c =>
      simp only [worked]
      split <;> omega
    | traffic | offer | hear | flush | network | abort => exact Nat.zero_le _
  by_cases hstopped : o.writer.stage = .stopped
  · have hnone : left o = 0 := by rw [left, hstopped]
    omega
  · by_cases hworked : worked t x [turn] = 0
    · omega
    · have := h.worked_lt h' hx hleft hstopped hworked
      omega

/-- Any number of turns after the writer has left its loop. -/
theorem Sound.run_left (h : Sound n x o) (turns : List (Turn n))
    (hx : (x.run t turns).broken = false) (hleft : o.writer.stage.hasLeft = true) :
    ∃ o', Sound n (x.run t turns) o' ∧ o'.writer.stage.hasLeft = true ∧
    (x.run t turns).counted = x.counted ∧
      left o' ≤ left o - worked t x turns := by
  induction turns generalizing x o with
  | nil => exact ⟨o, h, hleft, rfl, Nat.le_refl _⟩
  | cons turn turns ih =>
    obtain ⟨o', h', hleft', hcounted, hle⟩ := h.step_left turn (broken_run turns hx) hleft
    obtain ⟨o'', h'', hleft'', hcounted', hle'⟩ := ih h' hx hleft'
    refine ⟨o'', h'', hleft'', hcounted'.trans hcounted, ?_⟩
    simp only [worked] at hle ⊢
    omega

/-- Any number of turns after the writer has stopped. -/
theorem Sound.run_stopped (h : Sound n x o) (turns : List (Turn n))
    (hx : (x.run t turns).broken = false)
    (hstopped : o.writer.stage = .stopped) : (x.run t turns).endpoint.wire = x.endpoint.wire := by
  induction turns generalizing x o with
  | nil => rfl
  | cons turn turns ih =>
    obtain ⟨o', h', hmoved⟩ := h.step turn (broken_run turns hx)
    obtain ⟨hstopped', hwire⟩ := h.faithful.wire_moved hmoved hstopped
    have hendpoint := (outlet?_eq_some h.outlet).2.2
    have hendpoint' := (outlet?_eq_some h'.outlet).2.2
    exact (ih h' hx hstopped').trans (by rw [hendpoint, hendpoint', hwire])

end

/-! ## What was counted is written -/

/-- What has come of the frames of the session that has a link, and what will
come of them. -/
structure WrittenInOrder (t : Timing) (n : Nat) (x : Outflow) (o : Outlet) : Prop where
  /-- The texts on the wire, behind them those in the socket's buffer, and
  behind those the queue: this is what was counted, in its order, each once. -/
  inOrder : texts o.endpoint.wire ++ texts o.endpoint.buffer ++ o.link.queue = x.counted
  /-- Besides texts there are Pings, answers to the client's Pings, -/
  expected : ∀ f ∈ o.endpoint.wire, Expected x.pinged f
  /-- and no closing frame but the last. -/
  closesLast : ∀ f ∈ o.endpoint.wire.dropLast, f.isClose = false
  /-- When the writer has stopped all that was counted has been written, and
  then the closing frame. -/
  written : o.writer.stage = .stopped → texts o.endpoint.wire = x.counted ∧ o.endpoint.buffer = [] ∧
    o.link.queue = [] ∧
    o.endpoint.wire.getLast? = some Writer.farewell
  /-- A writer that has left its loop has shut its queue, and nothing is counted
  any more; -/
  silent : o.writer.stage.hasLeft = true → o.link.isOpen = false ∧ ∀ turns : List (Turn n),
    (x.run t turns).broken = false → (x.run t turns).counted = x.counted
  /-- it stops within the steps that it needs, if they are not blocked; -/
  ends : o.writer.stage.hasLeft = true → ∀ turns : List (Turn n), (x.run t turns).broken = false →
    left o ≤ worked t x turns → (x.run t turns).writer.stage = .stopped
  /-- and when it has stopped nothing more is written. -/
  final : o.writer.stage = .stopped → ∀ turns : List (Turn n), (x.run t turns).broken = false →
    (x.run t turns).endpoint.wire = x.endpoint.wire

theorem Sound.writtenInOrder {t : Timing} {x : Outflow} {o : Outlet} (h : Sound n x o) :
    WrittenInOrder t n x o where
  inOrder := by
    rw [← texts_append]
    exact h.faithful.inOrder
  expected f hf := h.faithful.expected f (List.mem_append_left _ hf)
  closesLast := h.faithful.closesLast.wire
  written hstopped := by
    have hbuffer := h.faithful.written hstopped
    obtain ⟨hqueue, hlast⟩ := h.faithful.said (by rw [hstopped]; rfl)
    have hinOrder := h.faithful.inOrder
    rw [Endpoint.accepted, hbuffer, List.append_nil] at hinOrder hlast
    rw [hqueue, List.append_nil] at hinOrder
    exact ⟨hinOrder, hbuffer, hqueue, hlast⟩
  silent hleft := by
    refine ⟨h.faithful.shut hleft, fun turns hx => ?_⟩
    obtain ⟨o', -, -, hcounted, -⟩ := h.run_left turns hx hleft
    exact hcounted
  ends hleft turns hx hworked := by
    obtain ⟨o', h', hleft', -, hle⟩ := h.run_left turns hx hleft
    rw [(outlet?_eq_some h'.outlet).2.1]
    exact stopped_of_left hleft' (by omega)
  final hstopped turns hx := h.run_stopped turns hx hstopped

/-- **What was counted is written, in order, and a closing frame last.** -/
theorem written_in_order (t : Timing) (ht : t.heartbeat ≠ 0) (capacity : Nat)
    (before : List Traffic) (id userId : Uuid) (now : Nat) :
    let r := (Registry.empty capacity).run before
    ∀ turns : List (Turn r.links.length),
      let x := (opened t now r id userId).run t turns
      x.broken = false → ∃ o, x.outlet? r.links.length = some o ∧
        WrittenInOrder t r.links.length x o := by
  intro r turns x hx
  have hwired : r.Wired := (Registry.wired_empty capacity).run before
  obtain ⟨o, h⟩ := (sound_opened hwired ht now id userId).run turns hx
  exact ⟨o, h.outlet, h.writtenInOrder⟩

/-- A session with room for one frame: a frame and a tick are written, the
client asks and answers, and then two more frames come, of which the second
finds the queue full. -/
def sampleTurns : List (Turn 0) :=
  [.traffic (.deliver (.session (.ofNat 9)) "a") nofun, .work 0 .frame, .work 0 .frame,
    .work 1000 .tick,
    .work 1000 .tick, .hear 100 (.ofKind .ping [7]), .hear 100 (.ofKind .pong []), .flush,
    .traffic (.deliver .everyone "b") nofun, .traffic (.deliver .everyone "c") nofun,
      .work 1500 .stop,
    .work 1500 .stop, .work 1500 .stop, .work 1500 .stop, .work 1500 .stop]

theorem written_in_order_sample :
    let t : Timing := ⟨1000, 1000⟩
    let x := (opened t 0 ((Registry.empty 1).run []) (.ofNat 9) (.ofNat 1)).run t sampleTurns
    (t.heartbeat ≠ 0 ∧ x.broken = false) ∧ x.counted = ["a", "b"] ∧
      x.endpoint.wire = [.text "a", .ping [], .pong [7], .text "b", Writer.farewell] ∧
      ∃ o, x.outlet? 0 = some o ∧ WrittenInOrder t 0 x o := by
  intro t x
  have hbroken : x.broken = false := by decide +kernel
  exact ⟨⟨by decide, hbroken⟩, by decide +kernel, by decide +kernel,
    written_in_order t (by decide) 1 [] (.ofNat 9) (.ofNat 1) 0 sampleTurns hbroken⟩

end ChatServer.Connection.Outflow

