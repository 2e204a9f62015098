import ChatServer.Proofs.Farewell

/-!
# When a silent client is dropped

The worker marks that a Pong was read, and the writer clears the mark with every
tick and counts the ticks at which it found none. Over any sequence of ticks and
Pongs, whatever else happens between them, this comes to a window: the writer
drops the client at its `k`-th tick exactly when `k` is 3 or more and no Pong
has come since its tick `k - 2`.

The beats of a session's run are its ticks and Pongs, in order. `silence` counts
the ticks since the last Pong, and `Tells` is what the writer's mark and count
have to do with it.

* `pongAfter_iff`, `Tells.tick_eq_none_iff`: the window, and when the heartbeat
  finds it.
* `heartbeat_step`: the heartbeat moves with the beats of a run, and only with
  them.
* `tick_step`, `leaves_step`: what a tick does, and what else makes a writer
  leave its loop.
* `Heard.step`, `Heard.run`: the invariant.
* `heartbeat_law`: all of it, for every run in which no write fails.
-/
namespace ChatServer.Connection

open Delivery Socket

/-! ## Beats -/

inductive Beat
  | tick
  | pong
deriving DecidableEq

/-- The number of ticks. -/
def ticks (beats : List Beat) : Nat := beats.count .tick

/-- A Pong has come after tick `j`. -/
def PongAfter (j : Nat) (beats : List Beat) : Prop :=
  ∃ before, before ++ [.pong] <+: beats ∧ j ≤ ticks before

/-- The ticks since the last Pong, or since the start. -/
def silence (beats : List Beat) : Nat :=
  beats.foldl (fun s b => match b with | .tick => s + 1 | .pong => 0) 0

/-- The next tick is one at which a client is to be dropped: the `k`-th, with no
Pong since tick `k - 2`. -/
def Unheard (beats : List Beat) : Prop :=
  let k := ticks beats + 1
  3 ≤ k ∧ ¬ PongAfter (k - 2) beats

/-- Each two periods in a row had a Pong: at every tick, the `k`-th, one has
come since tick `k - 2`. -/
def Lively (beats : List Beat) : Prop :=
  ∀ before, before ++ [.tick] <+: beats →
    let k := ticks before + 1
    3 ≤ k → PongAfter (k - 2) before

theorem ticks_tick (beats : List Beat) : ticks (beats ++ [.tick]) = ticks beats + 1 := by
  simp [ticks]

theorem ticks_pong (beats : List Beat) : ticks (beats ++ [.pong]) = ticks beats := by
  simp [ticks]

theorem silence_tick (beats : List Beat) : silence (beats ++ [.tick]) = silence beats + 1 := by
  simp [silence]

theorem silence_pong (beats : List Beat) : silence (beats ++ [.pong]) = 0 := by
  simp [silence]

/-- Without a Pong the silence has lasted from the start. -/
theorem silence_of_no_pong {beats : List Beat} (h : .pong ∉ beats) :
    silence beats = ticks beats := by
  induction beats using List.reverseRecOn with
  | nil => rfl
  | append_singleton beats b ih =>
    simp only [List.mem_append, List.mem_singleton, not_or] at h
    cases b with
    | tick => rw [silence_tick, ticks_tick, ih h.1]
    | pong => exact absurd rfl h.2

/-- What a lively client has done before, it has done in a lively way. -/
theorem Lively.of_append {beats more : List Beat} (h : Lively (beats ++ more)) : Lively beats :=
  fun before hbefore => h before (hbefore.trans (List.prefix_append ..))

theorem Lively.not_unheard {beats : List Beat} (h : Lively (beats ++ [.tick])) : ¬ Unheard beats :=
  fun hunheard => hunheard.2 (h beats List.prefix_rfl hunheard.1)

theorem silence_le_ticks (beats : List Beat) : silence beats ≤ ticks beats := by
  induction beats using List.reverseRecOn with
  | nil => exact Nat.le_refl 0
  | append_singleton beats b ih =>
    cases b with
    | tick => rw [silence_tick, ticks_tick]; omega
    | pong => rw [silence_pong]; exact Nat.zero_le _

/-- A Pong has come after tick `j` when the ticks since the last one leave `j`
ticks before it. -/
theorem pongAfter_iff {j : Nat} {beats : List Beat} :
    PongAfter j beats ↔ .pong ∈ beats ∧ j + silence beats ≤ ticks beats := by
  induction beats using List.reverseRecOn with
  | nil => simp [PongAfter]
  | append_singleton beats b ih =>
    have hlast : PongAfter j (beats ++ [b]) ↔ (b = .pong ∧ j ≤ ticks beats) ∨
        PongAfter j beats := by
      simp only [PongAfter, List.prefix_concat_iff, or_and_right, exists_or]
      refine or_congr ?_ Iff.rfl
      constructor
      · rintro ⟨before, he, hj⟩
        obtain ⟨rfl, hb⟩ := List.append_inj' he rfl
        exact ⟨(List.cons.inj hb).1.symm, hj⟩
      · rintro ⟨rfl, hj⟩
        exact ⟨beats, rfl, hj⟩
    rw [hlast]
    cases b with
    | tick => simp [ih, silence_tick, ticks_tick]; omega
    | pong =>
      simp only [ih, silence_pong, ticks_pong, true_and, List.mem_append,
        List.mem_singleton, or_true,
        Nat.add_zero]
      omega

/-! ## The heartbeat after some beats -/

namespace Heartbeat

/-- The heartbeat after a beat; one that drops the client stays as it is. -/
def beat (h : Heartbeat) : Beat → Heartbeat
  | .tick => h.tick.getD h
  | .pong => h.pong

/-- Mark and count of a client who has not been dropped tell how long it has
been silent: not at all where the mark is set, and else for one tick more than
the count. -/
structure Tells (h : Heartbeat) (beats : List Beat) : Prop where
  answered : h.answered = true ↔ silence beats = 0
  missed : h.answered = false → h.missed + 1 = silence beats

theorem tells_start : start.Tells [] := ⟨by simp [start, silence], nofun⟩

theorem tick_eq_none_iff {h : Heartbeat} : h.tick = none ↔ h.answered = false ∧
    limit ≤ h.missed + 1 := by
  unfold tick
  cases h.answered <;> simp

theorem tells_pong (h : Heartbeat) (beats : List Beat) : h.pong.Tells (beats ++ [.pong]) :=
  ⟨by simp [pong, silence_pong], nofun⟩

theorem Tells.tick {h k : Heartbeat} {beats : List Beat} (ht : h.Tells beats)
    (hk : h.tick = some k) :
    k.Tells (beats ++ [.tick]) := by
  have hmissed : k = ⟨false, silence beats⟩ := by
    unfold Heartbeat.tick at hk
    cases ha : h.answered with
    | true => simpa [ha, ht.answered.1 ha] using hk.symm
    | false =>
      rw [ha, ht.missed ha, if_neg Bool.false_ne_true] at hk
      split at hk
      · cases hk
      · exact (Option.some.inj hk).symm
  subst hmissed
  exact ⟨by simp [silence_tick], fun _ => (silence_tick beats).symm⟩

/-- **The window.** The client is dropped at the next tick exactly when no Pong
has come since the last but one before it. -/
theorem Tells.tick_eq_none_iff {h : Heartbeat} {beats : List Beat} (ht : h.Tells beats) :
    h.tick = none ↔ Unheard beats := by
  have hsilent : h.tick = none ↔ 2 ≤ silence beats := by
    rw [Heartbeat.tick_eq_none_iff, limit]
    cases ha : h.answered with
    | true => simp [ht.answered.1 ha]
    | false => simp [ht.missed ha]
  have hle := silence_le_ticks beats
  rw [hsilent, Unheard, pongAfter_iff]
  by_cases hpong : .pong ∈ beats
  · simp only [hpong, true_and]
    omega
  · rw [silence_of_no_pong hpong]
    simp only [hpong, false_and, not_false_eq_true, and_true]
    omega

/-- The count is never as high as the limit. -/
theorem missed_beat {h : Heartbeat} (hfew : h.missed < limit) (b : Beat) :
    (h.beat b).missed < limit := by
  cases b with
  | pong => exact hfew
  | tick =>
    unfold beat
    cases htick : h.tick with
    | none => exact hfew
    | some k => exact missed_tick_le htick

end Heartbeat

/-! ## The writer's part -/

namespace Outlet

variable {t : Timing} {now : Nat} {fed : Bool} {c : Choice} {o o' : Outlet}

/-- The writer waits, and is due to tick. -/
def IsDue (now : Nat) (o : Outlet) : Prop := o.writer.stage = .waiting ∧ o.writer.nextTick ≤ now

instance (now : Nat) (o : Outlet) : Decidable (o.IsDue now) := inferInstanceAs (Decidable (_ ∧ _))

theorem heartbeat_hand (f : Outgoing) (s : Stage) (o : Outlet) :
    (o.hand f s).writer.heartbeat = o.writer.heartbeat := by
  unfold hand
  split <;> rfl

theorem heartbeat_await {limit : Nat} {done : Outlet → Outlet}
    (hdone : ∀ o, (done o).writer.heartbeat = o.writer.heartbeat)
    (h : o.await now limit done = some o') :
    o'.writer.heartbeat = o.writer.heartbeat := by
  unfold await at h
  split at h
  · obtain rfl := Option.some.inj h
    exact hdone _
  · obtain rfl := Option.some.inj h
    rfl
  · split at h
    · obtain rfl := Option.some.inj h
      rfl
    · cases h

theorem heartbeat_tick (t : Timing) (now : Nat) (o : Outlet) :
    (o.tick t now).writer.heartbeat = o.writer.heartbeat.beat .tick := by
  unfold tick Heartbeat.beat
  cases htick : o.writer.heartbeat.tick with
  | none => rfl
  | some k => exact heartbeat_hand ..

theorem choose?_tick (h : o.IsDue now) : o.choose? t now fed .tick = some (o.tick t now) := by
  unfold choose?
  rw [h.1]
  exact if_pos h.2

/-- Nothing but a tick moves the heartbeat of a writer. -/
theorem heartbeat_choose? (h : o.choose? t now fed c = some o') :
    o'.writer.heartbeat =
      if c = .tick ∧ o.IsDue now then o.writer.heartbeat.beat .tick else o.writer.heartbeat := by
  by_cases hdue : c = .tick ∧ o.IsDue now
  · obtain ⟨rfl, hdue⟩ := hdue
    rw [choose?_tick hdue] at h
    obtain rfl := Option.some.inj h
    rw [if_pos ⟨rfl, hdue⟩, heartbeat_tick]
  · rw [if_neg hdue]
    unfold choose? at h
    cases hstage : o.writer.stage with
    | waiting =>
      simp only [hstage] at h
      cases c with
      | stop =>
        simp only [Option.ite_none_right_eq_some, Option.some.injEq] at h
        rw [← h.2]
        rfl
      | frame =>
        obtain ⟨⟨text, link⟩, -, rfl⟩ := Option.map_eq_some_iff.1 h
        exact heartbeat_hand ..
      | tick =>
        simp only [Option.ite_none_right_eq_some] at h
        exact absurd ⟨rfl, hstage, h.1⟩ hdue
    | sending limit =>
      simp only [hstage, step?] at h
      exact heartbeat_await (fun _ => by rfl) h
    | draining limit hand =>
      simp only [hstage, step?] at h
      cases hand with
      | empty =>
        cases htake : o.link.take? with
        | none =>
          simp only [htake, Option.some.injEq] at h
          exact h ▸ heartbeat_hand ..
        | some p =>
          simp only [htake, Option.some.injEq] at h
          exact h ▸ heartbeat_hand ..
      | frame => exact heartbeat_await (fun _ => by rfl) h
      | farewell => exact heartbeat_await (fun _ => by rfl) h
    | stopped =>
      simp only [hstage, step?] at h
      cases h

/-- What a tick does in which no write fails: where the client has been silent
for too long the writer leaves its loop, and else it hands one Ping to the
socket. -/
theorem tick_eq (hdue : o.IsDue now) (hf : o.fails now .tick = false) :
    (o.writer.heartbeat.tick = none ∧ (o.tick t now).writer.stage.hasLeft = true ∧
        (o.tick t now).endpoint.accepted = o.endpoint.accepted) ∨
      (o.writer.heartbeat.tick ≠ none ∧ (o.tick t now).writer.stage.hasLeft = false ∧
        (o.tick t now).endpoint.accepted = o.endpoint.accepted ++ [.ping []]) := by
  unfold tick
  cases htick : o.writer.heartbeat.tick with
  | none => exact .inl ⟨rfl, rfl, rfl⟩
  | some k =>
    have hhand := (Bool.or_eq_false_iff.1 hf).1
    simp only [handing?, hdue.1, htick, Option.map_some, Option.any_some] at hhand
    obtain ⟨haccepted, -, hsending⟩ := accepted_hand (f := .ping []) (o := { o with
      writer := { o.writer with heartbeat := k, nextTick := o.writer.nextTick + t.heartbeat } })
      (.sending (now + t.writeTimeout)) hhand
    exact .inr ⟨nofun, by rw [hsending]; rfl, (Endpoint.accept?_eq_some haccepted).2.1⟩

/-- A writer that is not told to stop and does not tick stays in its loop. -/
theorem stays_of_choose? (h : o.choose? t now fed c = some o') (hf : o.fails now c = false)
    (hloop : o.writer.stage.hasLeft = false) (hstop : c ≠ .stop)
    (hdue : ¬ (c = .tick ∧ o.IsDue now)) :
    o'.writer.stage.hasLeft = false := by
  cases wrote_of_choose? h hf with
  | left before after =>
    unfold choose? at h
    simp only [before] at h
    cases c with
    | stop => exact absurd rfl hstop
    | tick =>
      simp only [Option.ite_none_right_eq_some] at h
      exact absurd ⟨rfl, before, h.1⟩ hdue
    | frame =>
      -- a frame that is taken is handed over, and then the writer waits for it to be written
      obtain ⟨⟨text, link⟩, htake, rfl⟩ := Option.map_eq_some_iff.1 h
      obtain ⟨rest, hqueue, rfl⟩ := take?_eq_some htake
      have hhand := (Bool.or_eq_false_iff.1 hf).1
      simp only [handing?, before, hqueue, List.head?_cons, Option.map_some,
        Option.any_some] at hhand
      obtain ⟨-, -, hsending⟩ :=
        accepted_hand (o := { o with link := { o.link with queue := rest } })
        (.sending (now + t.writeTimeout)) hhand
      rw [hsending]
      rfl
  | frame _ _ _ stages =>
    rcases stages with ⟨-, after⟩ | ⟨before, -⟩
    · rw [after]
      rfl
    · rw [before] at hloop
      cases hloop
  | ping _ after =>
    rw [after]
    rfl
  | written _ _ stages =>
    rcases stages with ⟨-, after⟩ | ⟨before, -⟩
    · rw [after]
      rfl
    · rw [before] at hloop
      cases hloop
  | farewell before | ended before =>
    rw [before] at hloop
    cases hloop

end Outlet

/-! ## Turns -/

namespace Outflow

variable {n : Nat}

/-- The beat of a turn: the writer ticks, or a Pong is read. -/
def beat? (x : Outflow) : Turn n → Option Beat
  | .work now .tick =>
    match x.outlet? n with
    | some o => if o.IsDue now then some .tick else none
    | none => none
  | .hear limit f =>
    match x.endpoint.receive limit f with
    | .ok (some .pong, _) => some .pong
    | _ => none
  | _ => none

/-- The beats of a run, in order. -/
def beats (t : Timing) (x : Outflow) : List (Turn n) → List Beat
  | [] => []
  | turn :: turns => (x.beat? turn).toList ++ (x.step t turn).beats t turns

section
variable {t : Timing} {x : Outflow} {o : Outlet} {turn : Turn n}

theorem beat?_tick_iff (ho : x.outlet? n = some o) {now : Nat} {c : Choice} :
    x.beat? (n := n) (.work now c) = some .tick ↔ c = .tick ∧ o.IsDue now := by
  cases c <;> simp [beat?, ho]

/-- Only a writer that is in its loop ticks. -/
theorem loop_of_beat? (ho : x.outlet? n = some o) {now : Nat}
    (h : x.beat? (n := n) (.work now .tick) = some .tick) : x.writer.stage.hasLeft = false := by
  obtain ⟨-, hwaiting, -⟩ := (beat?_tick_iff ho).1 h
  rw [(outlet?_eq_some ho).2.1, hwaiting]
  rfl

/-- Only the writer ticks. -/
theorem eq_work_of_beat? (h : x.beat? turn = some .tick) : ∃ now, turn = .work now .tick := by
  unfold beat? at h
  split at h
  · exact ⟨_, rfl⟩
  · split at h <;> cases h
  · cases h

/-- The heartbeat moves with beats, and only with them. -/
theorem heartbeat_step (ho : x.outlet? n = some o) (turn : Turn n) :
    (x.step t turn).writer.heartbeat =
      (x.beat? turn).elim x.writer.heartbeat x.writer.heartbeat.beat := by
  have hwriter := (outlet?_eq_some ho).2.1
  cases turn with
  | traffic | offer | network => rfl
  | flush =>
    unfold step
    dsimp only
    split <;> rfl
  | abort =>
    unfold step abort
    rw [ho]
    dsimp only
    split
    · rfl
    · rw [hwriter]
      rfl
  | hear limit f =>
    unfold step beat?
    dsimp only
    cases hr : x.endpoint.receive limit f with
    | error v => rfl
    | ok p =>
      obtain ⟨m, e⟩ := p
      cases m with
      | none => rfl
      | some message => cases message <;> rfl
  | work now c =>
    have hbeat : (x.beat? (n := n) (.work now c)).elim x.writer.heartbeat x.writer.heartbeat.beat =
        if c = .tick ∧ o.IsDue now then o.writer.heartbeat.beat .tick else o.writer.heartbeat := by
      rw [hwriter]
      cases c with
      | tick =>
        by_cases hdue : o.IsDue now <;> simp [beat?, ho, hdue]
      | stop | frame => simp [beat?]
    rw [hbeat]
    unfold step work
    rw [ho]
    dsimp only
    cases hchoice : o.choose? t now (x.isFed n) c with
    | some o' => exact Outlet.heartbeat_choose? hchoice
    | none =>
      -- a tick that is due is ready
      have hnot : ¬ (c = .tick ∧ o.IsDue now) := by
        rintro ⟨rfl, hdue⟩
        rw [Outlet.choose?_tick hdue] at hchoice
        cases hchoice
      rw [if_neg hnot, ← hwriter]

/-- The writer's part in a turn, while no write fails. -/
theorem work_eq (ho : x.outlet? n = some o) {now : Nat} {c : Choice}
    (hx : (x.step t (.work (n := n) now c)).broken = false) :
    (o.choose? t now (x.isFed n) c = none ∧ (x.step t (.work (n := n) now c)).writer = o.writer) ∨
      ∃ o', o.choose? t now (x.isFed n) c = some o' ∧ o.fails now c = false ∧
        (x.step t (.work (n := n) now c)).writer = o'.writer ∧
        (x.step t (.work (n := n) now c)).endpoint = o'.endpoint := by
  unfold step work at hx ⊢
  rw [ho] at hx ⊢
  dsimp only at hx ⊢
  cases hchoice : o.choose? t now (x.isFed n) c with
  | none => exact .inl ⟨rfl, (outlet?_eq_some ho).2.1⟩
  | some o' =>
    rw [hchoice] at hx
    exact .inr ⟨o', rfl, (Bool.or_eq_false_iff.1 hx).2, rfl, rfl⟩

/-- A tick in which no write fails: the writer leaves its loop, or hands one
Ping to the socket. -/
theorem tick_step (ho : x.outlet? n = some o) {now : Nat}
    (hbeat : x.beat? (n := n) (.work now .tick) = some .tick)
    (hx : (x.step t (.work (n := n) now .tick)).broken = false) :
    (x.writer.heartbeat.tick = none ∧
        (x.step t (.work (n := n) now .tick)).writer.stage.hasLeft = true ∧
        (x.step t (.work (n := n) now .tick)).endpoint.accepted = x.endpoint.accepted) ∨
      (x.writer.heartbeat.tick ≠ none ∧
        (x.step t (.work (n := n) now .tick)).writer.stage.hasLeft = false ∧
        (x.step t (.work (n := n) now .tick)).endpoint.accepted =
          x.endpoint.accepted ++ [.ping []]) := by
  obtain ⟨-, hwriter, hendpoint⟩ := outlet?_eq_some ho
  obtain ⟨-, hdue⟩ := (beat?_tick_iff ho).1 hbeat
  rcases work_eq ho hx with ⟨hnone, -⟩ | ⟨o', hchoice, hfails, hwriter', hendpoint'⟩
  · rw [Outlet.choose?_tick hdue] at hnone
    cases hnone
  · rw [Outlet.choose?_tick hdue] at hchoice
    obtain rfl := Option.some.inj hchoice
    rw [hwriter, hendpoint, hwriter', hendpoint']
    exact Outlet.tick_eq hdue hfails

/-- What else makes a writer leave its loop while no write fails: it is told to
stop, or its queue has come to an end. -/
theorem leaves_step (ho : x.outlet? n = some o) (hloop : x.writer.stage.hasLeft = false)
    (hx : (x.step t turn).broken = false) (hleft : (x.step t turn).writer.stage.hasLeft = true) :
    x.beat? turn = some .tick ∨ ∃ now, turn = .work now .stop := by
  obtain ⟨-, hwriter, -⟩ := outlet?_eq_some ho
  have hstays (hsame : (x.step t turn).writer.stage = x.writer.stage) : False := by
    rw [hsame, hloop] at hleft
    cases hleft
  cases turn with
  | traffic | offer | network => exact (hstays rfl).elim
  | flush =>
    refine (hstays ?_).elim
    unfold step
    dsimp only
    split <;> rfl
  | hear limit f =>
    refine (hstays ?_).elim
    unfold step hear
    dsimp only
    split
    · rfl
    · dsimp only
      split <;> rfl
  | abort =>
    unfold step abort at hx
    dsimp only at hx
    split at hx
    · next hstopped => rw [hstopped] at hloop; cases hloop
    · rw [ho] at hx
      cases hx
  | work now c =>
    by_cases hbeat : x.beat? (n := n) (.work now c) = some .tick
    · exact .inl hbeat
    · rw [beat?_tick_iff ho] at hbeat
      rcases work_eq ho hx with ⟨-, hsame⟩ | ⟨o', hchoice, hfails, hwriter', -⟩
      · exact (hstays (by rw [hsame, hwriter])).elim
      · refine .inr ⟨now, ?_⟩
        by_contra hstop
        have hne : c ≠ .stop := fun he => hstop (he ▸ rfl)
        rw [hwriter', Outlet.stays_of_choose? hchoice hfails (hwriter ▸ hloop) hne hbeat] at hleft
        cases hleft

/-- A writer that has left its loop does not come back. -/
theorem Sound.loop_of_step (h : Sound n x o) (hx : (x.step t turn).broken = false)
    (hloop : (x.step t turn).writer.stage.hasLeft = false) : x.writer.stage.hasLeft = false := by
  by_contra hleft
  rw [Bool.not_eq_false, (outlet?_eq_some h.outlet).2.1] at hleft
  obtain ⟨o', h', hleft', -⟩ := h.step_left turn hx hleft
  rw [(outlet?_eq_some h'.outlet).2.1, hleft'] at hloop
  cases hloop

/-! ## Runs -/

/-- What a session's heartbeat has to do with the beats so far: the count is
below the limit, and while the writer is in its loop mark and count tell how
long the client has been silent. -/
structure Heard (x : Outflow) (beats : List Beat) : Prop where
  few : x.writer.heartbeat.missed < Heartbeat.limit
  tells : x.writer.stage.hasLeft = false → x.writer.heartbeat.Tells beats

theorem heard_start (hstart : x.writer.heartbeat = .start) : Heard x [] :=
  ⟨hstart ▸ by decide, fun _ => hstart ▸ Heartbeat.tells_start⟩

variable {beats : List Beat}

/-- A turn in which no write fails. -/
theorem Heard.step (hheard : Heard x beats) (h : Sound n x o) (turn : Turn n)
    (hx : (x.step t turn).broken = false) : Heard (x.step t turn)
    (beats ++ (x.beat? turn).toList) := by
  constructor
  case few =>
    rw [heartbeat_step h.outlet]
    cases x.beat? turn with
    | none => exact hheard.few
    | some b => exact Heartbeat.missed_beat hheard.few b
  case tells =>
    intro hloop
    have htells := hheard.tells (h.loop_of_step hx hloop)
    rw [heartbeat_step h.outlet]
    cases hbeat : x.beat? turn with
    | none => simpa using htells
    | some b =>
      cases b with
      | pong => exact Heartbeat.tells_pong _ _
      | tick =>
        -- the writer is still in its loop, so the tick has not dropped the client
        obtain ⟨now, rfl⟩ := eq_work_of_beat? hbeat
        rcases tick_step h.outlet hbeat hx with ⟨-, hleft, -⟩ | ⟨hstays, -⟩
        · rw [hleft] at hloop
          cases hloop
        · obtain ⟨k, hk⟩ := Option.ne_none_iff_exists'.1 hstays
          simp only [Option.elim_some, Heartbeat.beat, hk, Option.getD_some, Option.toList_some]
          exact htells.tick hk

theorem Heard.run (hheard : Heard x beats) (h : Sound n x o) (turns : List (Turn n))
    (hx : (x.run t turns).broken = false) : Heard (x.run t turns) (beats ++ x.beats t turns) := by
  induction turns generalizing x o beats with
  | nil => simpa [Outflow.run, Outflow.beats] using hheard
  | cons turn turns ih =>
    have hx' := broken_run turns hx
    obtain ⟨o', h', -⟩ := h.step turn hx'
    rw [Outflow.beats, ← List.append_assoc]
    exact ih (hheard.step h turn hx') h' hx

/-- A lively client is not dropped: its writer leaves its loop only when it is
told to stop or its queue has come to an end. -/
theorem Heard.lively_run (hheard : Heard x beats) (h : Sound n x o) (turns : List (Turn n))
    (hx : (x.run t turns).broken = false) (hlively : Lively (beats ++ x.beats t turns))
    (hloop : x.writer.stage.hasLeft = false) (hleft : (x.run t turns).writer.stage.hasLeft = true) :
    ∃ now, Turn.work now .stop ∈ turns := by
  induction turns generalizing x o beats with
  | nil =>
    rw [Outflow.run, List.foldl_nil, hloop] at hleft
    cases hleft
  | cons turn turns ih =>
    have hx' := broken_run turns hx
    rw [Outflow.beats, ← List.append_assoc] at hlively
    cases hloop' : (x.step t turn).writer.stage.hasLeft with
    | false =>
      obtain ⟨o', h', -⟩ := h.step turn hx'
      obtain ⟨now, hstop⟩ := ih (hheard.step h turn hx') h' hx hlively hloop' hleft
      exact ⟨now, List.mem_cons_of_mem _ hstop⟩
    | true =>
      rcases leaves_step h.outlet hloop hx' hloop' with hbeat | ⟨now, rfl⟩
      · obtain ⟨now, rfl⟩ := eq_work_of_beat? hbeat
        rw [hbeat] at hlively
        have hheld : ¬ Unheard beats := hlively.of_append.not_unheard
        rcases tick_step h.outlet hbeat hx' with ⟨hdropped, -⟩ | ⟨-, hstays, -⟩
        · exact absurd ((hheard.tells hloop).tick_eq_none_iff.1 hdropped) hheld
        · rw [hstays] at hloop'
          cases hloop'
      · exact ⟨now, List.mem_cons_self⟩

/-- A writer is not in its loop any more after three ticks without a Pong. -/
theorem Heard.ticks_le (hheard : Heard x beats) (hloop : x.writer.stage.hasLeft = false)
    (hpong : .pong ∉ beats) : ticks beats ≤ 2 := by
  have hfew := hheard.few
  have htells := hheard.tells hloop
  rw [← silence_of_no_pong hpong]
  unfold Heartbeat.limit at hfew
  cases hanswered : x.writer.heartbeat.answered with
  | true => rw [htells.answered.1 hanswered]; exact Nat.zero_le _
  | false => rw [← htells.missed hanswered]; omega

end

/-! ## The law -/

/-- What the heartbeat of a session does, after any turns in which no write
fails. -/
structure HeartbeatLaw (t : Timing) (start : Outflow) (turns : List (Turn n)) : Prop where
  /-- At a tick the writer leaves its loop exactly when no Pong has come since
  the last but one, and else it hands one Ping to the socket; -/
  tick : ∀ now, (start.run t turns).beat? (n := n) (.work now .tick) = some .tick →
    let next := (start.run t turns).step t (.work (n := n) now .tick)
    next.broken = false →
      (next.writer.stage.hasLeft = true ↔ Unheard (start.beats t turns)) ∧
        next.endpoint.accepted = (start.run t turns).endpoint.accepted ++
          if next.writer.stage.hasLeft then [] else [.ping []]
  /-- a client that has never answered is dropped at the third tick; -/
  silent : ∀ now, (start.run t turns).beat? (n := n) (.work now .tick) = some .tick →
    let next := (start.run t turns).step t (.work (n := n) now .tick)
    next.broken = false → .pong ∉ start.beats t turns →
      (next.writer.stage.hasLeft = true ↔ ticks (start.beats t turns) + 1 = 3)
  /-- no other turn makes the writer leave its loop, unless it is told to stop
  or its queue has ended; -/
  only : ∀ turn : Turn n, (start.run t turns).writer.stage.hasLeft = false →
    let next := (start.run t turns).step t turn
    next.broken = false → next.writer.stage.hasLeft = true →
      (start.run t turns).beat? turn = some .tick ∨ ∃ now, turn = .work now .stop
  /-- a client that answers within each two periods in a row is not dropped; -/
  lively : Lively (start.beats t turns) → (start.run t turns).writer.stage.hasLeft = true →
    ∃ now, Turn.work now .stop ∈ turns
  /-- and the answers that are missed are two at most, with the one for which it
  is dropped. -/
  missed : (start.run t turns).writer.heartbeat.missed + 1 ≤ 2

theorem Sound.heartbeatLaw {t : Timing} {x : Outflow} {o : Outlet} (h : Sound n x o)
    (hstart : x.writer.heartbeat = .start) (hloop : x.writer.stage.hasLeft = false)
    (turns : List (Turn n)) (hx : (x.run t turns).broken = false) : HeartbeatLaw t x turns := by
  obtain ⟨o', h'⟩ := h.run turns hx
  have hheard : Heard (x.run t turns) (x.beats t turns) := (heard_start hstart).run h turns hx
  have hdropped {now : Nat} (hbeat : (x.run t turns).beat? (n := n) (.work now .tick) =
    some .tick) :
      (x.run t turns).writer.heartbeat.tick = none ↔ Unheard (x.beats t turns) :=
    (hheard.tells (loop_of_beat? h'.outlet hbeat)).tick_eq_none_iff
  constructor
  case tick =>
    intro now hbeat next hnext
    rw [← hdropped hbeat]
    rcases tick_step h'.outlet hbeat hnext with ⟨htick, hleft, haccepted⟩ | ⟨htick, hleft,
      haccepted⟩ <;>
      simp [next, htick, hleft, haccepted]
  case silent =>
    intro now hbeat next hnext hpong
    have hle := hheard.ticks_le (loop_of_beat? h'.outlet hbeat) hpong
    have hthird : Unheard (x.beats t turns) ↔ 3 ≤ ticks (x.beats t turns) + 1 := by
      simp [Unheard, pongAfter_iff, hpong]
    rcases tick_step h'.outlet hbeat hnext with ⟨htick, hleft, -⟩ | ⟨htick, hleft, -⟩
    · have := hthird.1 ((hdropped hbeat).1 htick)
      exact ⟨fun _ => by omega, fun _ => hleft⟩
    · have := mt hthird.2 (mt (hdropped hbeat).2 htick)
      simp only [next, hleft, Bool.false_eq_true, false_iff]
      omega
  case only =>
    intro turn hin next hnext hleft
    exact leaves_step h'.outlet hin hnext hleft
  case lively =>
    intro hlively hleft
    exact (heard_start hstart).lively_run h turns hx hlively hloop hleft
  case missed => exact hheard.few

/-- **When a silent client is dropped.** For any turns of a session, whatever
came before it. -/
theorem heartbeat_law (t : Timing) (ht : t.heartbeat ≠ 0) (capacity : Nat) (before : List Traffic)
    (id userId : Uuid) (now : Nat) :
    let r := (Registry.empty capacity).run before
    ∀ turns : List (Turn r.links.length),
      ((opened t now r id userId).run t turns).broken = false →
        HeartbeatLaw t (opened t now r id userId) turns := by
  intro r turns hx
  have hwired : r.Wired := (Registry.wired_empty capacity).run before
  have hwaiting : (Writer.start t now).stage = .waiting := if_neg ht
  exact (sound_opened hwired ht now id userId).heartbeatLaw rfl (by rw [opened, hwaiting]; rfl) turns hx

/-- A client that answers before the first tick and then falls silent; between
two ticks a frame is written. -/
def fallsSilent : List (Turn 0) :=
  [.hear 100 (.ofKind .pong []), .work 1000 .tick, .work 1000 .tick, .offer (.ofNat 9) "a",
    .work 1500 .frame, .work 1500 .frame, .work 2000 .tick, .work 2000 .tick]

theorem heartbeat_law_sample :
    let t : Timing := ⟨1000, 1000⟩
    let start := opened t 0 ((Registry.empty 1).run []) (.ofNat 9) (.ofNat 1)
    let next := (start.run t fallsSilent).step t (.work (n := 0) 3000 .tick)
    (t.heartbeat ≠ 0 ∧ (start.run t fallsSilent).broken = false) ∧
      start.beats t fallsSilent = [.pong, .tick, .tick] ∧ next.broken = false ∧
      next.writer.stage.hasLeft = true ∧ HeartbeatLaw t start fallsSilent := by
  intro t start next
  have hbroken : (start.run t fallsSilent).broken = false := by decide +kernel
  exact ⟨⟨by decide, hbroken⟩, by decide +kernel, by decide +kernel, by decide +kernel,
    heartbeat_law t (by decide) 1 [] (.ofNat 9) (.ofNat 1) 0 fallsSilent hbroken⟩

end Outflow
end ChatServer.Connection

