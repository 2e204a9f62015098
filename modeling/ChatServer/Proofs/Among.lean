import ChatServer.Proofs.Ledger
import ChatServer.Store.Plan

/-!
# Plans among others

A plan has the store to itself only while it asks. Before each of its questions,
and behind the last one, any operations of other plans may run, and the store
may be opened anew. `Plan.Among` is how a plan ends then, and each way to build
a plan has its inversion.

* `Plan.Among.steps`: whatever happens meanwhile, the store comes to where a run
  would bring it.
* `Plan.among_run`: a plan that runs alone is one case.
* `Plan.Among.of_map`, `Plan.Among.of_bind`: how a plan that is built from
  others ends.
-/
namespace ChatServer.Store

/-- A plan that starts on one store ends in a result and on another store, with
steps of any kind between its own. Each of its questions has its own draw. -/
inductive Plan.Among {α : Type} : Plan α → Database → α → Database → Prop
  | done {x : α} {db : Database} (steps : List Step) : Among (.done x) db x (db.run steps)
  | ask {op : Operation} {next : Except Error op.Answer → Plan α} {db db' : Database} {x : α}
    (steps : List Step) (d : Draw)
    (h : Among (next ((db.run steps).perform op d).1) ((db.run steps).perform op d).2 x db') :
    Among (.ask op next) db x db'

namespace Plan

variable {α β : Type} {p : Plan α} {db db' : Database}

/-- What happens around a plan and in it is a run. -/
theorem Among.steps {x : α} (h : p.Among db x db') : ∃ steps, db' = db.run steps := by
  induction h with
  | done steps => exact ⟨steps, rfl⟩
  | @ask op next db db' x steps d _ ih =>
    obtain ⟨more, rfl⟩ := ih
    refine ⟨steps ++ .perform op d :: more, ?_⟩
    rw [Database.run, Database.run, Database.run, List.foldl_append, List.foldl_cons]
    rfl

theorem among_run (p : Plan α) (d : Draw) (db : Database) :
    p.Among db (p.run d db).1 (p.run d db).2 := by
  induction p generalizing db with
  | done x => exact .done []
  | ask op next ih => exact .ask [] d (ih _ _)

theorem Among.of_map {f : α → β} {y : β} (h : (p.map f).Among db y db') :
    ∃ x, p.Among db x db' ∧ f x = y := by
  induction p generalizing db with
  | done x =>
    cases h with
    | done steps => exact ⟨x, .done steps, rfl⟩
  | ask op next ih =>
    cases h with
    | ask steps d h =>
      obtain ⟨x, hx, hy⟩ := ih _ h
      exact ⟨x, .ask steps d hx, hy⟩

theorem Among.of_bind {f : α → Plan β} {y : β} (h : (p.bind f).Among db y db') :
    ∃ x middle, p.Among db x middle ∧ (f x).Among middle y db' := by
  induction p generalizing db with
  | done x => exact ⟨x, db, .done [], h⟩
  | ask op next ih =>
    cases h with
    | ask steps d h =>
      obtain ⟨x, middle, hx, hy⟩ := ih _ h
      exact ⟨x, middle, .ask steps d hx, hy⟩

end Plan
end ChatServer.Store

