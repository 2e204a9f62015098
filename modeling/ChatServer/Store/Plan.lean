import ChatServer.Store.Operation

/-!
# Plans

A plan is a course of store operations in which each may depend on the answers
to those before it. The store is free between two operations of a plan, so other
plans may run in between; a plan run alone is its operations one after the
other.

* `run_map`: what is made of a plan's result has no part in what happens to the
  store.
* `run_bind`: a plan behind another starts from the store that the first one
  leaves.
-/
namespace ChatServer.Store

/-- A course of store operations that ends in a result. What is asked next may
depend on every answer so far, failures among them. -/
inductive Plan (α : Type)
  | done (result : α)
  | ask (op : Operation) (next : Except Error op.Answer → Plan α)

namespace Plan

variable {α β : Type}

/-- Runs a plan alone: nothing else is done to the store between its operations.
All of them draw the same identifiers and see the same time. -/
def run (d : Draw) : Plan α → Database → α × Database
  | done x, db => (x, db)
  | ask op next, db => (next (db.perform op d).1).run d (db.perform op d).2

def map (f : α → β) : Plan α → Plan β
  | done x => done (f x)
  | ask op next => ask op fun answer => (next answer).map f

/-- A plan with another behind it that depends on its result. -/
def bind (p : Plan α) (f : α → Plan β) : Plan β :=
  match p with
  | done x => f x
  | ask op next => ask op fun answer => (next answer).bind f

theorem run_bind (f : α → Plan β) (d : Draw) (p : Plan α) (db : Database) :
    (p.bind f).run d db = (f (p.run d db).1).run d (p.run d db).2 := by
  induction p generalizing db with
  | done x => rfl
  | ask op next ih => simp [bind, run, ih]

theorem run_map (f : α → β) (d : Draw) (p : Plan α) (db : Database) :
    (p.map f).run d db = (f (p.run d db).1, (p.run d db).2) := by
  induction p generalizing db with
  | done x => rfl
  | ask op next ih => simp [map, run, ih]

end Plan
end ChatServer.Store

