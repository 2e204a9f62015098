import ChatServer.Text.Integer
import ChatServer.Text.Utf8

/-!
# Configuration

The settings of a server, taken from environment variables. A variable that is
not set, or whose value is not UTF-8, leaves its setting at the default; any
other value is used or refused.

* `load_empty`: without variables all settings have their defaults.
* `tokenSeconds?_eq_some`: the life of tokens in seconds, where it can be held
  at all.
-/
namespace ChatServer

open Text

structure Config where
  host : String
  port : Nat
  databasePath : String
  tokenSecret : String
  tokenHours : Int
  maxMessageBytes : Nat
  queueCapacity : Nat
  heartbeatSeconds : Nat
  writeTimeoutSeconds : Nat
deriving DecidableEq

/-- The values of environment variables that are set. -/
abbrev Environment := List (String × List UInt8)

inductive ConfigError
  | invalid (name : String) (fault : Integer.Fault)
  | notPositive (name : String)
deriving DecidableEq

def ConfigError.message : ConfigError → String
  | invalid name fault => "Invalid " ++ name ++ ": " ++ fault.message
  | notPositive name => name ++ " must be positive"

namespace Environment

/-- The text of a variable, if it is set and a text. -/
def text? (env : Environment) (name : String) : Option String :=
  (env.lookup name).bind Utf8.decode?

/-- The number of a variable, or a default. -/
def number (env : Environment) (name : String) (r : Integer.Range) (default : Int) :
    Except ConfigError Int :=
  match env.text? name with
  | none => .ok default
  | some s => (Integer.read r s.toList).mapError (.invalid name)

/-- The count of a variable, or a default. -/
def count (env : Environment) (name : String) (bits : Nat) (default : Nat) :
    Except ConfigError Nat :=
  (env.number name (.unsigned bits) default).map Int.toNat

end Environment

namespace Config

/-- Reads the settings. Numbers are read in the order of the fields, and only
then it is looked at whether those that have to be positive are. -/
def load (env : Environment) : Except ConfigError Config := do
  let port ← env.count "HUB_PORT" 16 8083
  let tokenHours ← env.number "HUB_TOKEN_TTL_HOURS" (.signed 64) 720
  let maxMessageBytes ← env.count "HUB_MAX_FRAME_BYTES" 64 10000
  let queueCapacity ← env.count "HUB_OUTBOUND_BUFFER" 64 256
  let heartbeatSeconds ← env.count "HUB_HEARTBEAT_SECS" 64 54
  let writeTimeoutSeconds ← env.count "HUB_WRITE_TIMEOUT_SECS" 64 10
  if heartbeatSeconds = 0 then .error (.notPositive "HUB_HEARTBEAT_SECS")
  else if writeTimeoutSeconds = 0 then .error (.notPositive "HUB_WRITE_TIMEOUT_SECS")
  else
    .ok {
      host := (env.text? "HUB_HOST").getD "0.0.0.0"
      port, tokenHours, maxMessageBytes, queueCapacity, heartbeatSeconds, writeTimeoutSeconds
      databasePath := (env.text? "HUB_DB_PATH").getD "connecthub.db"
      tokenSecret := (env.text? "HUB_JWT_SECRET").getD "dev-secret-change-me" }

/-- The longest time that can be held, in seconds: 2^63 - 1 milliseconds. -/
def longestSeconds : Nat := 0x7fffffffffffffff / 1000

/-- The life of tokens in seconds, unless it is too long to be held. -/
def tokenSeconds? (c : Config) : Option Int :=
  let seconds := c.tokenHours * 3600
  if seconds.natAbs ≤ longestSeconds then some seconds else none

theorem load_empty : load [] =
    .ok ⟨"0.0.0.0", 8083, "connecthub.db", "dev-secret-change-me", 720, 10000, 256, 54, 10⟩ := rfl

theorem tokenSeconds?_eq_some {c : Config} {n : Int} (h : c.tokenSeconds? = some n) :
    n = c.tokenHours * 3600 ∧ n.natAbs ≤ longestSeconds := by
  simp only [tokenSeconds?] at h
  split at h
  · cases h; exact ⟨rfl, by assumption⟩
  · cases h

end Config
end ChatServer

