/-!
# Heartbeats

How a silent client is found out. With every tick a Ping is sent, and a client
that has not been heard of between two ticks has missed one; who misses two in a
row is dropped.

* `missed_tick_le`: the count of missed answers stays below the limit.
-/
namespace ChatServer.Connection

structure Heartbeat where
  /-- The client has answered since the last tick. -/
  answered : Bool
  /-- Ticks in a row before which it had not. -/
  missed : Nat
deriving DecidableEq

namespace Heartbeat

/-- Missed answers for which a client is dropped. -/
def limit : Nat := 2

/-- A connection just opened counts as one that has answered: it has not been
asked anything yet. -/
def start : Heartbeat := ⟨true, 0⟩

def pong (h : Heartbeat) : Heartbeat := { h with answered := true }

/-- A tick; none when the client is to be dropped. An answer since the last tick
clears the count, so only answers that are missed in a row add up. -/
def tick (h : Heartbeat) : Option Heartbeat :=
  if h.answered then some ⟨false, 0⟩
  else if limit ≤ h.missed + 1 then none
  else some ⟨false, h.missed + 1⟩

theorem missed_tick_le {h k : Heartbeat} (ht : h.tick = some k) : k.missed < limit := by
  unfold tick at ht
  split at ht
  · cases ht; decide
  · split at ht
    · cases ht
    · cases ht; simp_all

end Heartbeat
end ChatServer.Connection

