import ChatServer.Config
import ChatServer.Proofs.Numerals
import ChatServer.Proofs.Utf8
import ChatServer.Store.Error

/-!
# What settings are taken from

Nine variables are read, and each setting is taken from its own: from the text
that the variable's bytes are, and for a number from the number that this text
is a numeral of. A text that is no numeral of the setting's word is refused, and
so is a period of zero. A variable that is not set leaves its setting at the
default, and so, too, does one that is set to bytes that are no text.

* `Environment.number_eq_ok_iff`, `Environment.count_eq_ok_iff`,
  `Environment.getD_text?_iff`: where one setting is taken from.
* `Config.load_eq_ok_iff`: which environments are accepted, and with which
  settings.
* `Config.accepted_unreadable`: variables that are set and have no part in the
  settings.
-/
namespace ChatServer

open Text Integer

namespace Environment

/-! ## One variable -/

/-- The setting of a variable has this value. What a text denotes is the
setting's own matter. -/
inductive Gives {α : Type} (env : Environment) (name : String) (default : α)
    (Denotes : String → α → Prop) : α → Prop
  | used {text : String} {x : α} (hset : env.lookup name = some (Utf8.encode text))
      (hx : Denotes text x) :
    Gives env name default Denotes x
  | unset (hset : env.lookup name = none) : Gives env name default Denotes default
  | unreadable {bytes : List UInt8} (hset : env.lookup name = some bytes)
    (hbytes : ∀ text, bytes ≠ Utf8.encode text) : Gives env name default Denotes default

section
variable {env : Environment} {name : String}

theorem text?_eq_some_iff {text : String} :
    env.text? name = some text ↔ env.lookup name = some (Utf8.encode text) := by
  rw [text?, Option.bind_eq_some_iff]
  simp only [Utf8.decode?_eq_some_iff, exists_eq_right]

theorem text?_eq_none_iff : env.text? name = none ↔
    env.lookup name = none ∨ ∃ bytes, env.lookup name = some bytes ∧
      ∀ text, bytes ≠ Utf8.encode text := by
  rw [text?]
  cases env.lookup name with
  | none => simp
  | some bytes => simp [Utf8.decode?_eq_none_iff]

/-- A setting is given by the text of its variable, or is the default where
there is no text. -/
theorem gives_iff {α : Type} {default x : α} {Denotes : String → α → Prop} :
    env.Gives name default Denotes x ↔
      (∃ text, env.text? name = some text ∧ Denotes text x) ∨
      (env.text? name = none ∧ x = default) := by
  constructor
  · intro h
    cases h with
    | used hset hx => exact .inl ⟨_, text?_eq_some_iff.2 hset, hx⟩
    | unset hset => exact .inr ⟨text?_eq_none_iff.2 (.inl hset), rfl⟩
    | unreadable hset hbytes => exact .inr ⟨text?_eq_none_iff.2 (.inr ⟨_, hset, hbytes⟩), rfl⟩
  · rintro (⟨text, htext, hx⟩ | ⟨hnone, rfl⟩)
    · exact .used (text?_eq_some_iff.1 htext) hx
    · rcases text?_eq_none_iff.1 hnone with hset | ⟨bytes, hset, hbytes⟩
      · exact .unset hset
      · exact .unreadable hset hbytes

theorem getD_text?_iff {default x : String} :
    (env.text? name).getD default = x ↔ env.Gives name default Eq x := by
  rw [gives_iff]
  cases env.text? name with
  | none => simp [eq_comm]
  | some text => simp

theorem number_eq_ok_iff {r : Range} (hzero : r.Holds 0) {default n : Int} :
    env.number name r default = .ok n ↔
      env.Gives name default (fun text n => Numeral r text.toList n) n := by
  rw [gives_iff, number]
  cases env.text? name with
  | none => simp [eq_comm]
  | some text =>
    simp only [Option.some.injEq, exists_eq_left', reduceCtorEq, false_and, or_false,
      ← read_eq_ok_iff hzero]
    cases read r text.toList <;> simp [Except.mapError]

abbrev IsCount (bits : Nat) (text : String) (n : Nat) : Prop :=
    Numeral (.unsigned bits) text.toList n

theorem nonneg_of_numeral {bits : Nat} {cs : List Char} {n : Int}
    (h : Numeral (.unsigned bits) cs n) : 0 ≤ n := by
  cases h with
  | bare _ _ hr => exact hr.1
  | plus _ _ hr => exact hr.1
  | minus _ _ _ hr => exact hr.1

theorem count_eq_ok_iff {bits default n : Nat} :
    env.count name bits default = .ok n ↔ env.Gives name default (IsCount bits) n := by
  simp only [count, Store.map_eq_ok, number_eq_ok_iff (Range.holds_unsigned bits), gives_iff]
  constructor
  · rintro ⟨m, ⟨text, htext, hm⟩ | ⟨hnone, rfl⟩, rfl⟩
    · have hnat : (m.toNat : Int) = m := Int.toNat_of_nonneg (nonneg_of_numeral hm)
      exact .inl ⟨text, htext, hnat.symm ▸ hm⟩
    · exact .inr ⟨hnone, Int.toNat_natCast default⟩
  · rintro (⟨text, htext, hn⟩ | ⟨hnone, rfl⟩)
    · exact ⟨n, .inl ⟨text, htext, hn⟩, Int.toNat_natCast n⟩
    · exact ⟨_, .inr ⟨hnone, rfl⟩, Int.toNat_natCast _⟩

end
end Environment

namespace Config

open Environment

/-! ## All settings -/

/-- The settings are those of the environment, each from its own variable, and
periods are not zero. -/
structure TakenFrom (env : Environment) (c : Config) : Prop where
  host : env.Gives "HUB_HOST" "0.0.0.0" Eq c.host
  port : env.Gives "HUB_PORT" 8083 (IsCount 16) c.port
  databasePath : env.Gives "HUB_DB_PATH" "connecthub.db" Eq c.databasePath
  tokenSecret : env.Gives "HUB_JWT_SECRET" "dev-secret-change-me" Eq c.tokenSecret
  tokenHours : env.Gives "HUB_TOKEN_TTL_HOURS" 720 (fun text n =>
    Numeral (.signed 64) text.toList n) c.tokenHours
  maxMessageBytes : env.Gives "HUB_MAX_FRAME_BYTES" 10000 (IsCount 64) c.maxMessageBytes
  queueCapacity : env.Gives "HUB_OUTBOUND_BUFFER" 256 (IsCount 64) c.queueCapacity
  heartbeatSeconds : env.Gives "HUB_HEARTBEAT_SECS" 54 (IsCount 64) c.heartbeatSeconds
  writeTimeoutSeconds : env.Gives "HUB_WRITE_TIMEOUT_SECS" 10 (IsCount 64) c.writeTimeoutSeconds
  beats : 0 < c.heartbeatSeconds
  waits : 0 < c.writeTimeoutSeconds

/-- **A variable is used or refused, where it is a text.** An environment is
accepted, with some settings, exactly when each of them is the value that the
text of its variable denotes, or the default where the variable is not set or is
set to bytes that are no text, and neither period is zero. So a variable whose
text denotes nothing is refused. -/
theorem load_eq_ok_iff {env : Environment} {c : Config} : load env = .ok c ↔ c.TakenFrom env := by
  have hsigned : (Range.signed 64).Holds 0 := by constructor <;> decide
  simp only [load, Store.bind_eq_ok, count_eq_ok_iff, number_eq_ok_iff hsigned]
  constructor
  · rintro ⟨port, hport, hours, hhours, bytes, hbytes, queue, hqueue, heartbeat, hheartbeat,
      timeout, htimeout, h⟩
    split at h
    · cases h
    next hbeats =>
    split at h
    · cases h
    next hwaits =>
    cases h
    exact ⟨getD_text?_iff.1 rfl, hport, getD_text?_iff.1 rfl, getD_text?_iff.1 rfl, hhours,
      hbytes, hqueue,
      hheartbeat, htimeout, Nat.pos_of_ne_zero hbeats, Nat.pos_of_ne_zero hwaits⟩
  · intro h
    refine ⟨_, h.port, _, h.tokenHours, _, h.maxMessageBytes, _, h.queueCapacity, _,
      h.heartbeatSeconds, _,
      h.writeTimeoutSeconds, ?_⟩
    rw [if_neg (Nat.ne_of_gt h.beats), if_neg (Nat.ne_of_gt h.waits)]
    rw [getD_text?_iff.2 h.host, getD_text?_iff.2 h.databasePath, getD_text?_iff.2 h.tokenSecret]

/-- Variables that are set, to bytes that are no text, and are accepted with all
settings at their defaults: a secret, in place of which the public one is taken,
and a port, which is no numeral. -/
theorem accepted_unreadable :
    let env : Environment := [("HUB_JWT_SECRET", [0x61, 0xFF, 0x62]), ("HUB_PORT", [0x38, 0xFF])]
    (∀ text, [0x61, 0xFF, 0x62] ≠ Utf8.encode text) ∧ (∀ text, [0x38, 0xFF] ≠ Utf8.encode text) ∧
    load env = .ok ⟨"0.0.0.0", 8083, "connecthub.db", "dev-secret-change-me", 720, 10000, 256,
      54, 10⟩ := by
  intro env
  refine ⟨Utf8.decode?_eq_none_iff.1 (by decide), Utf8.decode?_eq_none_iff.1 (by decide), ?_⟩
  decide

end Config
end ChatServer

