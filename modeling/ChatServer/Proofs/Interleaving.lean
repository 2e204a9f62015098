import ChatServer.Proofs.Courses
import ChatServer.Server
import Mathlib.Data.List.Induction

/-!
# Requests side by side

Any number of requests are answered at once. Each is a task with a plan; at a
tick one task takes its turn, puts one question to the store or delivers its
reply, and all others stand still. A run is any sequence of ticks.

The tasks share the store, so what one of them finds between two of its
questions is the work of all. The invariant `Kept` ties the two views together:
the store holds what the log of all questions says, the log is made of the pasts
of the tasks in some order, and each task, by itself, is on a course.

* `System.step_cases`: what a tick can do.
* `handleText_alone`: a request that is alone is answered as the server answers
  a frame.
* `Kept.step`, `Kept.run`: the invariant.
* `exists_turn`: each thing that a task has done was done at one of its ticks.
-/
namespace ChatServer.Interleaving

open ChatServer.Action Delivery Protocol Store Time

/-! ## The system -/

structure Request where
  session : Session
  now : Instant
  text : String

inductive Progress
  /-- There are questions left, or a reply that has not been delivered. -/
  | working (left : Plan Reply)
  | answered (reply : Reply)

/-- A request that is being answered, with all that it has asked of the store so
far. What it has asked is kept because the reply is explained by it. -/
structure Task where
  request : Request
  past : List Performed
  progress : Progress

namespace Task

def start (r : Request) : Task := ⟨r, [], .working (respond r.session r.now r.text)⟩

def reply? (task : Task) : Option Reply :=
  match task.progress with
  | .working _ => none
  | .answered reply => some reply

/-- The task when it has asked something, with what is left to do. -/
def ask (task : Task) (e : Performed) (left : Plan Reply) : Task :=
  { task with past := task.past ++ [e], progress := .working left }

def answer (task : Task) (reply : Reply) : Task := { task with progress := .answered reply }

theorem reply?_ask (task : Task) (e : Performed) (left : Plan Reply) :
    (task.ask e left).reply? = none := rfl

theorem reply?_answer (task : Task) (reply : Reply) : (task.answer reply).reply? = some reply := rfl

theorem reply?_working {task : Task} {left : Plan Reply} (h : task.progress = .working left) :
    task.reply? = none := by
  rw [reply?, h]

end Task

/-- The server with the requests that it answers. The log has all that the store
was asked, and the list of replies those that were delivered, each in the order
in which it happened. -/
structure System where
  server : Server
  tasks : List Task
  log : List Performed
  delivered : List Reply

structure Tick where
  task : Nat
  draw : Draw

namespace System

def start (server : Server) (requests : List Request) : System :=
    ⟨server, requests.map .start, [], []⟩

/-- What comes of a question at a tick. -/
def event (y : System) (tick : Tick) (op : Operation) : Performed :=
  ⟨op, tick.draw, (y.server.database.perform op tick.draw).1⟩

/-- A task puts a question to the store. -/
def ask (y : System) (tick : Tick) (task : Task) (op : Operation)
    (next : Except Error op.Answer → Plan Reply) : System where
  server := { y.server with database := (y.server.database.perform op tick.draw).2 }
  tasks := y.tasks.set tick.task (task.ask (y.event tick op) (next (y.event tick op).answer))
  log := y.log ++ [y.event tick op]
  delivered := y.delivered

/-- A task delivers its reply. -/
def deliver (y : System) (tick : Tick) (task : Task) (reply : Reply) : System where
  server := (y.server.deliver reply).2
  tasks := y.tasks.set tick.task (task.answer reply)
  log := y.log
  delivered := y.delivered ++ [reply]

def step (y : System) (tick : Tick) : System :=
  match y.tasks[tick.task]? with
  | none => y
  | some task =>
    match task.progress with
    | .answered _ => y
    | .working (.done reply) => y.deliver tick task reply
    | .working (.ask op next) => y.ask tick task op next

def run (y : System) (ticks : List Tick) : System := ticks.foldl step y

theorem run_concat (y : System) (ticks : List Tick) (tick : Tick) :
    y.run (ticks ++ [tick]) = (y.run ticks).step tick := List.foldl_append

def Finished (y : System) : Prop := ∀ task ∈ y.tasks, task.reply?.isSome = true

instance (y : System) : Decidable y.Finished :=
  inferInstanceAs (Decidable (∀ task ∈ y.tasks, task.reply?.isSome = true))

def replies (y : System) : List Reply := y.tasks.filterMap Task.reply?

theorem replies_eq (y : System) : y.replies = y.tasks.flatMap fun task => task.reply?.toList :=
  List.filterMap_eq_flatMap_toList ..

/-- The channels that were created. -/
def rooms (y : System) : List Channel := y.log.filterMap Performed.created?

/-- The messages that were appended. -/
def posted (y : System) : List Message := y.log.filterMap Performed.appended?

def IsMember (y : System) (channelId userId : Uuid) : Prop :=
  y.server.database.tables.hasMember channelId.text userId.text = true

/-! ## One tick -/

/-- What a tick can do: nothing, ask, or deliver. It does nothing where the task
has been answered before or there is none. -/
inductive Stepped (y : System) (tick : Tick) : System → Prop
  | idle : Stepped y tick y
  | asked {task : Task} {op : Operation} {next : Except Error op.Answer → Plan Reply}
    (htask : y.tasks[tick.task]? = some task) (hleft : task.progress = .working (.ask op next)) :
    Stepped y tick (y.ask tick task op next)
  | delivered {task : Task} {reply : Reply} (htask : y.tasks[tick.task]? = some task)
    (hleft : task.progress = .working (.done reply)) : Stepped y tick (y.deliver tick task reply)

theorem step_cases (y : System) (tick : Tick) : Stepped y tick (y.step tick) := by
  unfold step
  cases htask : y.tasks[tick.task]? with
  | none => exact .idle
  | some task =>
    dsimp only
    cases hprogress : task.progress with
    | answered reply => exact .idle
    | working left =>
      cases left with
      | done reply => exact .delivered htask hprogress
      | ask op next => exact .asked htask hprogress

theorem step_ask {y : System} {tick : Tick} {task : Task} {op : Operation}
    {next : Except Error op.Answer → Plan Reply} (htask : y.tasks[tick.task]? = some task)
    (hleft : task.progress = .working (.ask op next)) : y.step tick = y.ask tick task op next := by
  rw [step, htask]
  dsimp only
  rw [hleft]

theorem step_done {y : System} {tick : Tick} {task : Task} {reply : Reply}
    (htask : y.tasks[tick.task]? = some task) (hleft : task.progress = .working (.done reply)) :
    y.step tick = y.deliver tick task reply := by
  rw [step, htask]
  dsimp only
  rw [hleft]

end System

/-! ## One request alone -/

/-- A task that takes all its turns in a row, with one draw, runs its plan and
delivers the result. -/
theorem run_alone {plan : Plan Reply} {y : System} {i : Nat} {task : Task}
    (htask : y.tasks[i]? = some task) (hleft : task.progress = .working plan) (d : Draw) :
    ∃ n, (y.run (List.replicate n ⟨i, d⟩)).server =
        (({ y.server with database := (plan.run d y.server.database).2 } : Server).deliver
          (plan.run d y.server.database).1).2 ∧
      (y.run (List.replicate n ⟨i, d⟩)).delivered =
        y.delivered ++ [(plan.run d y.server.database).1] := by
  induction plan generalizing y task with
  | done reply =>
    refine ⟨1, ?_⟩
    rw [List.replicate_one, System.run, List.foldl_cons, List.foldl_nil,
      System.step_done htask hleft]
    exact ⟨rfl, rfl⟩
  | ask op next ih =>
    have hi := (List.getElem?_eq_some_iff.1 htask).1
    have hnext : (y.ask ⟨i, d⟩ task op next).tasks[i]? = some (task.ask (y.event ⟨i, d⟩ op)
        (next (y.event ⟨i, d⟩ op).answer)) := List.getElem?_set_self hi
    obtain ⟨n, hrest⟩ := ih _ hnext rfl
    refine ⟨n + 1, ?_⟩
    rw [List.replicate_succ, System.run, List.foldl_cons, System.step_ask htask hleft]
    exact hrest

/-- The server answers a frame as a system answers a single request. -/
theorem handleText_alone (sv : Server) (s : Session) (d : Draw) (text : String) :
    ∃ n, ((System.start sv [⟨s, d.now, text⟩]).run (List.replicate n ⟨0, d⟩)).server =
        (sv.handleText s d text).2 ∧
      ((System.start sv [⟨s, d.now, text⟩]).run (List.replicate n ⟨0, d⟩)).delivered =
        [((respond s d.now text).run d sv.database).1] := by
  have htask : (System.start sv [⟨s, d.now, text⟩]).tasks[0]? =
    some (.start ⟨s, d.now, text⟩) := rfl
  exact run_alone htask rfl d

/-! ## The invariant -/

/-- All that a task has asked, and all that it may come to, is a course. -/
def Task.OnCourse (task : Task) : Prop :=
  match task.progress with
  | .working left => left.Yields (Course task.request.session) task.past
  | .answered reply => Course task.request.session task.past reply

/-- What holds of a server and the requests that it answers. `k` is the ledger
at the start, and with the log entered it is the ledger of the store. -/
structure Kept (k : Ledger) (before : Server) (requests : List Request) (y : System) : Prop where
  holds : y.server.database.Holds (y.log.foldl Ledger.enter k)
  requests : y.tasks.map Task.request = requests
  courses : ∀ task ∈ y.tasks, task.OnCourse
  log : y.log.Perm (y.tasks.flatMap Task.past)
  members : ∀ channelId userId : Uuid,
    y.server.database.tables.hasMember channelId.text userId.text =
      (y.log.filterMap (Performed.settles? channelId userId)).getLast?.getD
        (before.database.tables.hasMember channelId.text userId.text)
  delivered : y.delivered.Perm y.replies
  registry : y.server.registry =
    y.delivered.foldl (fun r reply => (r.deliver reply.audience reply.envelope.text).2) before.registry

theorem kept_start {k : Ledger} {before : Server} (h : before.database.Holds k)
    (requests : List Request) :
    Kept k before requests (.start before requests) where
  holds := h
  requests := by simp [System.start, Function.comp_def, Task.start]
  courses := by
    intro task htask
    obtain ⟨r, -, rfl⟩ := List.mem_map.1 htask
    exact respond_courses r.session r.now r.text
  log := by simp [System.start, Task.start]
  members _ _ := rfl
  delivered := by simp [System.start, System.replies, Task.start, Task.reply?, List.filterMap_map]
  registry := rfl

/-- A list with one element replaced, around it. -/
theorem exists_set {α : Type} {xs : List α} {i : Nat} {x : α} (h : xs[i]? = some x) :
    ∃ pre post, xs = pre ++ x :: post ∧ ∀ y, xs.set i y = pre ++ y :: post := by
  obtain ⟨hi, rfl⟩ := List.getElem?_eq_some_iff.1 h
  refine ⟨xs.take i, xs.drop (i + 1), ?_, fun y => ?_⟩
  · rw [List.getElem_cons_drop hi, List.take_append_drop]
  · rw [List.set_eq_take_append_cons_drop, if_pos hi]

section
variable {tasks : List Task} {i : Nat} {task task' : Task}

/-- What a task that moves on keeps is kept by all. -/
theorem map_set_same {α : Type} {f : Task → α} (h : tasks[i]? = some task)
    (hsame : f task' = f task) :
    (tasks.set i task').map f = tasks.map f := by
  obtain ⟨pre, post, hpre, hset⟩ := exists_set h
  rw [hset, hpre, List.map_append, List.map_append, List.map_cons, List.map_cons, hsame]

theorem flatMap_set_same {α : Type} {f : Task → List α} (h : tasks[i]? = some task)
    (hsame : f task' = f task) : (tasks.set i task').flatMap f = tasks.flatMap f := by
  rw [List.flatMap_def, List.flatMap_def, map_set_same h hsame]

/-- What a task that moves on adds is added to what is collected from all. -/
theorem perm_flatMap_set {α : Type} {f : Task → List α} {added : List α} (h : tasks[i]? = some task)
    (hpart : f task' = f task ++ added) :
    ((tasks.set i task').flatMap f).Perm (tasks.flatMap f ++ added) := by
  obtain ⟨pre, post, hpre, hset⟩ := exists_set h
  rw [hset, hpre, List.flatMap_append, List.flatMap_append, List.flatMap_cons,
    List.flatMap_cons, hpart,
    List.append_assoc, List.append_assoc, List.append_assoc]
  exact List.Perm.append_left _ (List.Perm.append_left _ List.perm_append_comm)

theorem onCourse_set (h : ∀ task ∈ tasks, task.OnCourse) (hcourse : task'.OnCourse) :
    ∀ task ∈ tasks.set i task', task.OnCourse := by
  intro t ht
  rcases List.mem_or_eq_of_mem_set ht with hmem | rfl
  · exact h t hmem
  · exact hcourse

end

namespace Kept

variable {k : Ledger} {before : Server} {requests : List Request} {y : System} {tick : Tick}
    {task : Task}

/-- What is left of a task stays on its course. -/
theorem yields (h : Kept k before requests y) {i : Nat} {left : Plan Reply}
    (htask : y.tasks[i]? = some task) (hleft : task.progress = .working left) :
    left.Yields (Course task.request.session) task.past := by
  have hcourse := h.courses task (List.mem_of_getElem? htask)
  rwa [Task.OnCourse, hleft] at hcourse

theorem ask (h : Kept k before requests y) {op : Operation}
    {next : Except Error op.Answer → Plan Reply}
    (htask : y.tasks[tick.task]? = some task) (hleft : task.progress = .working (.ask op next)) :
    Kept k before requests (y.ask tick task op next) := by
  have hreplies : (y.ask tick task op next).replies = y.replies := by
    rw [System.replies_eq, System.replies_eq]
    refine flatMap_set_same htask ?_
    rw [Task.reply?_working hleft, Task.reply?_ask]
  constructor
  · rw [System.ask, List.foldl_append]
    exact h.holds.perform op tick.draw
  · exact (map_set_same htask (by rfl)).trans h.requests
  · exact onCourse_set h.courses (h.yields htask hleft _ _ tick.draw h.holds)
  · exact (h.log.append_right _).trans (perm_flatMap_set htask (by rfl)).symm
  · intro channelId userId
    rw [System.ask, List.filterMap_append]
    refine (y.server.database.hasMember_perform op tick.draw channelId userId).trans ?_
    rw [h.members, ← System.event]
    cases hset : (y.event tick op).settles? channelId userId <;> simp [hset]
  · rw [hreplies]
    exact h.delivered
  · exact h.registry

theorem deliver (h : Kept k before requests y) {reply : Reply}
    (htask : y.tasks[tick.task]? = some task) (hleft : task.progress = .working (.done reply)) :
    Kept k before requests (y.deliver tick task reply) := by
  have hpast : (y.deliver tick task reply).tasks.flatMap Task.past = y.tasks.flatMap Task.past :=
    flatMap_set_same htask rfl
  have hreplies : ((y.deliver tick task reply).replies).Perm (y.replies ++ [reply]) := by
    rw [System.replies_eq, System.replies_eq]
    refine perm_flatMap_set htask ?_
    rw [Task.reply?_working hleft, Task.reply?_answer]
    rfl
  constructor
  · exact h.holds
  · exact (map_set_same htask (by rfl)).trans h.requests
  · exact onCourse_set h.courses (h.yields htask hleft)
  · rw [hpast]
    exact h.log
  · exact h.members
  · exact (h.delivered.append_right _).trans hreplies.symm
  · rw [System.deliver, List.foldl_append, ← h.registry]
    rfl

theorem step (h : Kept k before requests y) (tick : Tick) :
    Kept k before requests (y.step tick) := by
  have hstep := y.step_cases tick
  generalize y.step tick = y' at hstep
  cases hstep with
  | idle => exact h
  | asked htask hleft => exact h.ask htask hleft
  | delivered htask hleft => exact h.deliver htask hleft

theorem run (h : Kept k before requests y) (ticks : List Tick) :
    Kept k before requests (y.run ticks) := by
  induction ticks generalizing y with
  | nil => exact h
  | cons tick ticks ih => exact ih (h.step tick)

end Kept

/-! ## The turns of a task -/

structure System.Performs (y : System) (tick : Tick) (e : Performed) : Prop where
  draw : e.draw = tick.draw
  answer : e.answer = (y.server.database.perform e.op e.draw).1
  logged : (y.step tick).log = y.log ++ [e]

theorem System.performs_event {y : System} {tick : Tick} {task : Task} {op : Operation}
    {next : Except Error op.Answer → Plan Reply} (htask : y.tasks[tick.task]? = some task)
    (hleft : task.progress = .working (.ask op next)) : y.Performs tick (y.event tick op) where
  draw := rfl
  answer := rfl
  logged := by
    rw [System.step_ask htask hleft]
    rfl

/-- At a tick there is an event, or the log stays as it is. -/
theorem System.log_step (y : System) (tick : Tick) :
    (y.step tick).log = y.log ∨ ∃ e, y.Performs tick e := by
  have hstep := y.step_cases tick
  generalize y.step tick = y' at hstep
  cases hstep with
  | idle => exact .inl rfl
  | asked htask hleft => exact .inr ⟨_, performs_event htask hleft⟩
  | delivered htask hleft => exact .inl rfl

/-- What a tick makes of the past of a task. -/
theorem past_step {y : System} {tick : Tick} {i : Nat} {task : Task}
    (h : (y.step tick).tasks[i]? = some task) :
    ∃ old, y.tasks[i]? = some old ∧
      (task.past = old.past ∨ tick.task = i ∧ ∃ e, task.past = old.past ++ [e] ∧
        y.Performs tick e) := by
  have hstep := y.step_cases tick
  generalize y.step tick = y' at hstep h
  cases hstep with
  | idle => exact ⟨task, h, .inl rfl⟩
  | @asked old op next hold hleft =>
    rw [System.ask, List.getElem?_set] at h
    split at h
    · next hi =>
      split at h
      · obtain rfl := Option.some.inj h
        subst hi
        exact ⟨old, hold, .inr ⟨rfl, y.event tick op, rfl, System.performs_event hold hleft⟩⟩
      · cases h
    · exact ⟨task, h, .inl rfl⟩
  | @delivered old reply hold hleft =>
    rw [System.deliver, List.getElem?_set] at h
    split at h
    · next hi =>
      split at h
      · obtain rfl := Option.some.inj h
        subst hi
        exact ⟨old, hold, .inl rfl⟩
      · cases h
    · exact ⟨task, h, .inl rfl⟩

/-- The last thing that a task has done was done at a tick of its own, and
everything else before. -/
theorem exists_turn {y : System} (hstart : ∀ task ∈ y.tasks, task.past = [])
    {ticks : List Tick} {i : Nat} {task : Task} {past : List Performed} {e : Performed}
    (htask : (y.run ticks).tasks[i]? = some task) (hpast : task.past = past ++ [e]) :
    ∃ early late old, ticks = early ++ ⟨i, e.draw⟩ :: late ∧ (y.run early).Performs ⟨i, e.draw⟩ e ∧
      (y.run early).tasks[i]? = some old ∧ old.past = past := by
  induction ticks using List.reverseRecOn generalizing task with
  | nil =>
    rw [hstart task (List.mem_of_getElem? htask)] at hpast
    simp at hpast
  | append_singleton ticks tick ih =>
    rw [System.run_concat] at htask
    obtain ⟨old, hold, hsame | ⟨rfl, e', hnew, hperforms⟩⟩ := past_step htask
    · obtain ⟨early, late, old', hticks, hrest⟩ := ih hold (hsame.symm.trans hpast)
      refine ⟨early, late ++ [tick], old', ?_, hrest⟩
      rw [hticks, List.append_assoc, List.cons_append]
    · obtain ⟨hpasts, hlast⟩ := List.append_inj' (hnew.symm.trans hpast) rfl
      obtain rfl : e' = e := by simpa using hlast
      have htick : tick = ⟨tick.task, e'.draw⟩ := by rw [hperforms.draw]
      exact ⟨ticks, [], old, by rw [← htick], by rwa [← htick], hold, hpasts⟩

end ChatServer.Interleaving

