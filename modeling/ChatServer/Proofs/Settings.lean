import ChatServer.Loopback.World
import ChatServer.Proofs.TokenLife
import ChatServer.Proofs.Workers

/-!
# What settings a server can run with

Reading the settings refuses texts that are no numbers of their words, and
periods of zero. What is computed from the settings later has narrower bounds of
its own: the life of tokens is held in milliseconds, the end of a token's life
is a date, a queue has a longest length, and a worker that leaves waits twice
the write timeout. So there are settings that are accepted and cannot be run
with.

* `unixSeconds_mem`: the moments of four-digit years.
* `issues_iff`, `registers_iff`, `concludes_iff`: for which settings each
  computation succeeds.
* `runs_iff_bounded`: which accepted settings a server runs with at every moment
  of those years.
* `accepted_without_running`: accepted settings with which it does not.
-/
namespace ChatServer.Time

/-! ## The moments of four-digit years -/

/-- The first moment of a year with four digits. -/
def firstMoment : Instant := (Instant.ofStored? "0000-01-01T00:00:00Z").get (by decide +kernel)

/-- The last second of a year with four digits. -/
def lastMoment : Instant := (Instant.ofStored? "9999-12-31T23:59:59Z").get (by decide +kernel)

theorem unixSeconds_firstMoment : firstMoment.unixSeconds = -62167219200 := by decide +kernel

theorem unixSeconds_lastMoment : lastMoment.unixSeconds = 253402300799 := by decide +kernel

theorem unixSeconds_mem {t : Instant} (h : t.hasFourDigitYear = true) :
    firstMoment.unixSeconds ≤ t.unixSeconds ∧ t.unixSeconds ≤ lastMoment.unixSeconds := by
  rw [unixSeconds_firstMoment, unixSeconds_lastMoment]
  have hmonth := t.date.month_mem
  have hday := t.date.day_mem.1
  have hlong := Nat.le_trans t.date.day_mem.2 (daysInMonth_le t.date.year t.date.month)
  have hsecond := t.second_lt
  simp only [Instant.hasFourDigitYear, Bool.and_eq_true, decide_eq_true_eq] at h
  unfold Instant.unixSeconds Date.epochDay Date.daysBeforeMonth
  unfold daySeconds at *
  split <;> dsimp only <;> omega

end ChatServer.Time

namespace ChatServer.Delivery.Registry

/-! ## The length of queues -/

/-- Nothing changes how many frames a queue holds. -/
theorem capacity_run (r : Registry) (traffic : List Traffic) :
    (r.run traffic).capacity = r.capacity := by
  induction traffic generalizing r with
  | nil => rfl
  | cons t traffic ih => exact (ih (r.step t)).trans (capacity_step r t)

end ChatServer.Delivery.Registry

namespace ChatServer.Loopback

open Account Connection Delivery Text Time

/-! ## What is computed from settings -/

/-- Nothing that a server computes from its settings fails at a moment: a token
is issued to everyone, a session is registered whatever the registry has been
through, a worker that leaves can wait for its writer, and a writer that starts
does not stop at once. -/
structure World.Runs (w : World) (now : Instant) : Prop where
  issues : ∀ owner, ∃ token,
    Token.issue w.setup.policy.secret owner w.setup.policy.tokenSeconds now = .ok token
  registers : ∀ traffic s, ∃ link sv,
    { w.server with registry := w.server.registry.run traffic }.register s = .ok (link, sv)
  concludes : ∀ reason worker, ∃ ended, Worker.conclude? w.setup.timing reason worker = some ended
  beats : ∀ start, (Writer.start w.setup.timing start).stage = .waiting

/-- The bounds of what is computed from settings: tokens that end within the
dates that can be held, from every moment of a year with four digits, queues
that can be made, and a wait that can be held. -/
structure Bounded (c : Config) : Prop where
  tokens : -2297898336 ≤ c.tokenHours ∧ c.tokenHours ≤ 2210240160
  queue : c.queueCapacity ≤ Registry.longestQueue
  wait : 2 * c.writeTimeoutSeconds ≤ 0xffffffffffffffff

/-- Settings that are accepted have periods that are not zero. -/
theorem positive_of_load {env : Environment} {c : Config} (h : Config.load env = .ok c) :
    0 < c.heartbeatSeconds ∧ 0 < c.writeTimeoutSeconds := by
  simp only [Config.load, Store.bind_eq_ok] at h
  obtain ⟨port, -, hours, -, bytes, -, queue, -, heartbeat, -, timeout, -, h⟩ := h
  split at h
  · cases h
  · next hheartbeat =>
    split at h
    · cases h
    · next htimeout =>
      cases h
      exact ⟨Nat.pos_of_ne_zero hheartbeat, Nat.pos_of_ne_zero htimeout⟩

/-- A life of so many hours ends within the dates that can be held, whenever it
begins in a year with four digits. -/
theorem issues_iff (secret : String) (hours : Int) :
    (∀ now, now.hasFourDigitYear = true → ∀ owner, ∃ token,
        Token.issue secret owner (hours * 3600) now = .ok token) ↔
      -2297898336 ≤ hours ∧ hours ≤ 2210240160 := by
  have hfirst : Instant.firstSecond = -8334601228800 := by decide
  have hlast : Instant.lastSecond = 8210266876799 := by decide
  have hbegin := unixSeconds_firstMoment
  have hend := unixSeconds_lastMoment
  constructor
  · -- the earliest and the latest moment are the ones that matter
    intro h
    obtain ⟨token, hearly⟩ := h firstMoment (by decide +kernel) ⟨.ofNat 0, ""⟩
    obtain ⟨token', hlate⟩ := h lastMoment (by decide +kernel) ⟨.ofNat 0, ""⟩
    have hlow := (issue_eq_ok.1 hearly).1.1
    have hhigh := (issue_eq_ok.1 hlate).1.2
    omega
  · rintro ⟨hlow, hhigh⟩ now hnow owner
    obtain ⟨hafter, hbefore⟩ := unixSeconds_mem hnow
    exact ⟨_, issue_eq_ok.2 ⟨⟨by omega, by omega⟩, rfl⟩⟩

/-- Sessions can be registered with a server that has started when queues of its
length can be made, and then whatever its registry has been through. -/
theorem registers_iff (database : Database) (capacity : Nat) :
    (∀ traffic s, ∃ link sv,
        Server.register ⟨database, (Registry.empty capacity).run traffic⟩ s = .ok (link, sv)) ↔
      capacity ≤ Registry.longestQueue := by
  have hcan (traffic : List Traffic) :
      ((Registry.empty capacity).run traffic).canRegister = true ↔
        capacity ≤ Registry.longestQueue := by
    rw [Registry.canRegister, Registry.capacity_run, decide_eq_true_eq, Registry.empty]
    exact Nat.max_le.trans (and_iff_left (by decide))
  constructor
  · intro h
    obtain ⟨link, sv, hregister⟩ := h [] ⟨.ofNat 0, .ofNat 0, "", .connecting⟩
    refine (hcan []).1 ?_
    by_contra hfull
    rw [Server.register, if_neg hfull] at hregister
    cases hregister
  · intro h traffic s
    exact ⟨_, _, by rw [Server.register, if_pos ((hcan traffic).2 h)]⟩

/-- A worker can wait for its writer when twice the write timeout can be
held. -/
theorem concludes_iff (c : Config) :
    (∀ reason worker, ∃ ended, Worker.conclude? (timingOf c) reason worker = some ended) ↔
      2 * c.writeTimeoutSeconds ≤ 0xffffffffffffffff := by
  have hwait : (timingOf c).closingWait?.isSome ↔
      2 * c.writeTimeoutSeconds ≤ 0xffffffffffffffff := by
    have hmillis : (timingOf c).writeTimeout = c.writeTimeoutSeconds * 1000 := rfl
    rw [Timing.closingWait?, Timing.longest, hmillis]
    split <;> simp <;> omega
  rw [← hwait]
  constructor
  · intro h
    obtain ⟨ended, hconclude⟩ := h .streamEnd ⟨⟨.ofNat 0, .ofNat 0, "", .connecting⟩, 0⟩
    by_contra hnone
    rw [Worker.conclude?, if_neg (by simpa using hnone)] at hconclude
    cases hconclude
  · intro h reason worker
    exact ⟨_, by rw [Worker.conclude?, if_pos (.inr h)]⟩

/-! ## Settings to run with -/

/-- A server is built when the life of its tokens can be held in
milliseconds. -/
theorem ofConfig?_eq_some {c : Config} {hasher : Hasher} {supply : Supply} {database : Database}
    {w : World} (h : World.ofConfig? c hasher supply database = some w) :
    c.tokenSeconds? = some (c.tokenHours * 3600) ∧
      w = .start ⟨⟨c.tokenSecret, c.tokenHours * 3600, hasher⟩, timingOf c,
        c.maxMessageBytes, supply⟩
        c.queueCapacity database := by
  simp only [World.ofConfig?, Setup.ofConfig?, Option.map_eq_some_iff] at h
  obtain ⟨setup, ⟨seconds, hseconds, rfl⟩, rfl⟩ := h
  obtain ⟨rfl, -⟩ := Config.tokenSeconds?_eq_some hseconds
  exact ⟨hseconds, rfl⟩

/-- **Which accepted settings a server runs with.** Of the settings that are
accepted, a server can be built with these and then never fails, at any moment
of a year with four digits, to issue a token, to register a session, to close
one and to start its writer: those where tokens live from -2297898336 to
2210240160 hours, queues hold at most 2^61 - 1 frames, and twice the write
timeout is a number of seconds below 2^64. -/
theorem runs_iff_bounded {env : Environment} {c : Config} (h : Config.load env = .ok c)
    (hasher : Hasher) (supply : Supply) (database : Database) :
    (∃ w, World.ofConfig? c hasher supply database = some w ∧
        ∀ now, now.hasFourDigitYear = true → w.Runs now) ↔ Bounded c := by
  constructor
  · rintro ⟨w, hw, hruns⟩
    obtain ⟨-, rfl⟩ := ofConfig?_eq_some hw
    have hearly := hruns firstMoment (by decide +kernel)
    refine ⟨(issues_iff c.tokenSecret _).1 fun now hnow => (hruns now hnow).issues,
      (registers_iff database _).1 hearly.registers, (concludes_iff c).1 hearly.concludes⟩
  · intro hb
    have hseconds : c.tokenSeconds? = some (c.tokenHours * 3600) := by
      obtain ⟨hlow, hhigh⟩ := hb.tokens
      have hheld : (c.tokenHours * 3600).natAbs ≤ Config.longestSeconds := by
        unfold Config.longestSeconds
        omega
      rw [Config.tokenSeconds?, if_pos hheld]
    refine ⟨_, by rw [World.ofConfig?, Setup.ofConfig?, hseconds]; rfl, fun now hnow => ?_⟩
    exact {
      issues := (issues_iff c.tokenSecret _).2 hb.tokens now hnow
      registers := (registers_iff database _).2 hb.queue
      concludes := (concludes_iff c).2 hb.wait
      beats := fun start => if_neg (Nat.mul_ne_zero (Nat.ne_of_gt (positive_of_load h).1) (by decide)) }

def defaults : Config :=
  ⟨"0.0.0.0", 8083, "connecthub.db", "dev-secret-change-me", 720, 10000, 256, 54, 10⟩

/-- A server runs with the default settings. -/
theorem runs_iff_bounded_defaults :
    ∃ w, World.ofConfig? defaults (.plain []) (fun _ => Store.sampleDraw 0) .empty = some w ∧
      ∀ now, now.hasFourDigitYear = true → w.Runs now :=
  (runs_iff_bounded Config.load_empty (.plain []) (fun _ => Store.sampleDraw 0) .empty).2
    ⟨by decide, by decide, by decide⟩

def setting (name value : String) : Environment := [(name, Utf8.encode value)]

/-- Settings that are accepted, and for each of them what fails: tokens whose
life cannot be held, tokens that end behind the last date, queues that cannot be
made, and a wait that cannot be held. -/
theorem accepted_without_running :
    (Config.load (setting "HUB_TOKEN_TTL_HOURS" "2562047788016") =
        .ok { defaults with tokenHours := 2562047788016 } ∧
      (World.ofConfig? { defaults with tokenHours := 2562047788016 } (.plain [])
        (fun _ => Store.sampleDraw 0) .empty).isNone) ∧
    (Config.load (setting "HUB_TOKEN_TTL_HOURS" "2210240161") =
        .ok { defaults with tokenHours := 2210240161 } ∧
      Token.issue defaults.tokenSecret ⟨.ofNat 0, ""⟩ (2210240161 * 3600) lastMoment =
        .error .tooFar) ∧
    (Config.load (setting "HUB_OUTBOUND_BUFFER" "2305843009213693952") =
        .ok { defaults with queueCapacity := 2305843009213693952 } ∧
      Server.register ⟨.empty, .empty 2305843009213693952⟩ ⟨.ofNat 0, .ofNat 0, "", .connecting⟩ =
        .error .queueTooLong) ∧
    (Config.load (setting "HUB_WRITE_TIMEOUT_SECS" "9223372036854775808") =
        .ok { defaults with writeTimeoutSeconds := 9223372036854775808 } ∧
      (timingOf { defaults with writeTimeoutSeconds := 9223372036854775808 }).closingWait? =
        none) := by
  refine ⟨⟨?_, ?_⟩, ⟨?_, ?_⟩, ⟨?_, ?_⟩, ⟨?_, ?_⟩⟩
  · decide +kernel
  · decide
  · decide +kernel
  · rfl
  · decide +kernel
  · rfl
  · decide +kernel
  · decide

end ChatServer.Loopback

