import ChatServer.Store.Messages

/-!
# The store

Tables behind a lock. Every operation has the tables to itself, and an operation
that fails changes nothing. A failure inside an operation that holds the lock
poisons it, and then every operation fails.

* `write_poisoned`: a poisoned store takes no write.
-/
namespace ChatServer

open Store

structure Database where
  tables : Tables
  poisoned : Bool

namespace Database

def empty : Database := ⟨.empty, false⟩

/-- Opens a store on tables that may be of an older version. They are brought to
the current one before anything is asked of them. -/
def «open» (t : Tables) : Database := ⟨t.migrate, false⟩

def read {α : Type} (db : Database) (f : Tables → Except Store.Error α) : Except Store.Error α :=
  if db.poisoned then .error .poisoned else f db.tables

/-- Changes the tables. A change that fails leaves them as they were, also where
it had begun. -/
def write {α : Type} (db : Database) (f : Tables → Except Store.Error (α × Tables)) :
    Except Store.Error (α × Database) :=
  if db.poisoned then .error .poisoned
  else (f db.tables).map fun (x, t) => (x, { db with tables := t })

/-- The lock after a failure inside it. -/
def poison (db : Database) : Database := { db with poisoned := true }

theorem write_poisoned {α : Type} {db : Database} (h : db.poisoned = true)
    (f : Tables → Except Store.Error (α × Tables)) : db.write f = .error .poisoned := by
  simp [write, h]

end Database
end ChatServer

