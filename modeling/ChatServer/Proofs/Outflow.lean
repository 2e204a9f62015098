import ChatServer.Connection.Line
import ChatServer.Proofs.Cancellation
import ChatServer.Proofs.Writing

/-!
# From the queue to the wire

Frames are queued for a session while its writer writes others, its client
answers and asks, ticks pass, and the session may be removed or replaced at any
moment. `Outflow` is one session's part in this, with a record of the frames
that deliveries counted for it; a run is any sequence of turns.

* `step_cases`: what a turn can do while no write fails. Nothing else takes a
  turn apart.
* `deliver_turns`, `tend_turns`, `read_turns`: a delivery, the writer that runs
  and the worker's reading are made of turns.
-/
namespace ChatServer.Delivery

/-- The link at whose receiving end something happens. -/
def Traffic.farEnd? : Traffic → Option Nat
  | .take n | .shut n | .abandon n => some n
  | .register .. | .unregister _ | .deliver .. | .closeAll => none

/-- Frames were added to the queue of a link, and none if it is closed. -/
structure Link.Fed (l l' : Link) (more : List String) : Prop where
  queue : l'.queue = l.queue ++ more
  isOpen : l'.isOpen = l.isOpen
  closed : l.isOpen = false → more = []

theorem Link.fed_of_same {l l' : Link} (hqueue : l'.queue = l.queue)
    (hopen : l'.isOpen = l.isOpen) : l.Fed l' [] :=
  ⟨by rw [hqueue, List.append_nil], hopen, fun _ => rfl⟩

theorem Link.fed_offer {l : Link} {capacity : Nat} (frame : String)
    (h : l.hasRoom capacity = true) :
    l.Fed (l.offer capacity frame) [frame] where
  queue := offer_accepted h
  isOpen := by rw [offer, if_pos h]
  closed hclosed := by simp [hasRoom, hclosed] at h

/-- Telling a worker to stop leaves its queue alone. -/
theorem Link.Fed.cancel {l l' : Link} {more : List String} (h : l.Fed l' more) :
    l.Fed l'.cancel more :=
  ⟨h.queue, h.isOpen, h.closed⟩

namespace Registry

/-- The frames that a delivery counts as queued on a link. -/
def counted (r : Registry) (n : Nat) : Traffic → List String
  | .deliver a frame => if n ∈ r.reached a then [frame] else []
  | .register .. | .unregister _ | .closeAll | .take _ | .shut _ | .abandon _ => []

/-- The frames that a delivery counts as queued on a link when it comes to one
session. -/
def countedFor (r : Registry) (n : Nat) (id : Uuid) (frame : String) : List String :=
  if r.linkOf? id = some n ∧ r.canTake id then [frame] else []

theorem link?_modifyLink (r : Registry) (m : Nat) (f : Link → Link) (n : Nat) :
    (r.modifyLink m f).link? n = (r.link? n).map fun l => if m = n then f l else l :=
  List.getElem?_modify ..

theorem canTake_of_linkOf? {r : Registry} {id : Uuid} {n : Nat} {l : Link}
    (hid : r.linkOf? id = some n)
    (hl : r.link? n = some l) : r.canTake id = l.hasRoom r.capacity := by
  obtain ⟨e, he, rfl⟩ := entryOf?_of_linkOf? hid
  simp [canTake, he, hl]

section
variable {r : Registry} {n : Nat} {l : Link}

/-- Whatever happens elsewhere, the queue of a link only grows by the frames
that are counted for it. -/
theorem Wired.fed_step (h : r.Wired) (hl : r.link? n = some l) {t : Traffic}
    (ht : t.farEnd? ≠ some n) :
    ∃ l', (r.step t).link? n = some l' ∧ l.Fed l' (r.counted n t) := by
  have hother {m : Nat} (f : Link → Link) (hm : some m ≠ some n) :
      (r.modifyLink m f).link? n = some l := by
    rw [link?_modifyLink, hl, Option.map_some, if_neg fun hmn => hm (congrArg some hmn)]
  cases t with
  | register id userId =>
    refine ⟨l, ?_, Link.fed_of_same rfl rfl⟩
    exact (List.getElem?_append_left (List.getElem?_eq_some_iff.1 hl).1).trans hl
  | unregister id =>
    refine ⟨_, by rw [Registry.step, link?_unregister, hl, Option.map_some], ?_⟩
    split
    · exact (Link.fed_of_same rfl rfl).cancel
    · exact Link.fed_of_same rfl rfl
  | deliver a frame =>
    refine ⟨_, by rw [Registry.step, h.link?_deliver, hl, Option.map_some], ?_⟩
    have hoffered : l.Fed (if n ∈ r.reached a then l.offer r.capacity frame else l)
        (r.counted n (.deliver a frame)) := by
      simp only [counted]
      by_cases hn : n ∈ r.reached a
      · obtain ⟨x, -, hroom, hx⟩ := mem_reached.1 hn
        rw [if_pos hn, if_pos hn]
        exact Link.fed_offer frame (canTake_of_linkOf? hx hl ▸ hroom)
      · rw [if_neg hn, if_neg hn]
        exact Link.fed_of_same rfl rfl
    dsimp only
    split
    · exact hoffered.cancel
    · exact hoffered
  | closeAll =>
    have hclosed : (r.step .closeAll).link? n = (r.link? n).map Link.cancel := List.getElem?_map ..
    exact ⟨l.cancel, by rw [hclosed, hl, Option.map_some], (Link.fed_of_same rfl rfl).cancel⟩
  | take m => exact ⟨l, hother _ ht, Link.fed_of_same rfl rfl⟩
  | shut m => exact ⟨l, hother _ ht, Link.fed_of_same rfl rfl⟩
  | abandon m => exact ⟨l, hother _ ht, Link.fed_of_same rfl rfl⟩

/-- The same, when a delivery comes to one session. -/
theorem fed_push (hl : r.link? n = some l) (id : Uuid) (frame : String) :
    ∃ l', (r.push frame id).link? n = some l' ∧ l.Fed l' (r.countedFor n id frame) := by
  unfold push countedFor
  cases he : r.entryOf? id with
  | none => exact ⟨l, hl, by rw [linkOf?, he, if_neg (by simp)]; exact Link.fed_of_same rfl rfl⟩
  | some e =>
    refine ⟨_, by dsimp only; rw [link?_modifyLink, hl, Option.map_some], ?_⟩
    have hlink := linkOf?_of_entryOf? he
    by_cases hn : e.link = n
    · have hid : r.linkOf? id = some n := hn ▸ hlink
      rw [if_pos hn, canTake_of_linkOf? hid hl]
      by_cases hroom : l.hasRoom r.capacity = true
      · rw [if_pos ⟨hid, hroom⟩]
        exact Link.fed_offer frame hroom
      · rw [if_neg fun hboth => hroom hboth.2, Link.offer, if_neg hroom]
        exact Link.fed_of_same rfl rfl
    · rw [if_neg hn, hlink, if_neg fun hboth => hn (Option.some.inj hboth.1)]
      exact Link.fed_of_same rfl rfl

theorem Wired.push (h : r.Wired) (id : Uuid) (frame : String) : (r.push frame id).Wired := by
  unfold Registry.push
  split
  · exact h
  · exact h.modifyLink _ _

end
end Registry
end ChatServer.Delivery

namespace ChatServer.Socket

def Incoming.ping? : Incoming → Option (List UInt8)
  | ping payload => some payload
  | text _ | binary _ | pong | close => none

end ChatServer.Socket

namespace ChatServer.Connection

open Delivery Socket

/-! ## The turns -/

structure Outflow where
  registry : Registry
  writer : Writer
  endpoint : Endpoint
  /-- The frames that deliveries have counted as queued for the session, oldest
  first. -/
  counted : List String
  /-- The payloads of the client's Pings. -/
  pinged : List (List UInt8)
  /-- A write has failed, or has been given up. -/
  broken : Bool

inductive Turn (n : Nat)
  /-- Anything that happens to the registry, and at the receiving ends of other
  links. -/
  | traffic (t : Traffic) (h : t.farEnd? ≠ some n)
  /-- A delivery comes to a session. -/
  | offer (id : Uuid) (frame : String)
  /-- The worker reads a frame of the client, of at most so many bytes. -/
  | hear (limit : Nat) (f : ClientFrame)
  /-- The worker writes what is outstanding, as it does before it reads. -/
  | flush
  | network (mode : WriteMode)
  /-- The writer goes on. -/
  | work (now : Nat) (c : Choice)
  /-- The worker has waited for the writer for too long. -/
  | abort

namespace Outflow

variable {n : Nat}

/-- The session is in the table, and has the link there. -/
def isFed (n : Nat) (x : Outflow) : Bool := x.registry.sessions.any (·.2.link = n)

/-- The writer with the link of a number. -/
def outlet? (n : Nat) (x : Outflow) : Option Outlet :=
    (x.registry.link? n).map (⟨x.writer, ·, x.endpoint⟩)

def move (n : Nat) (o : Outlet) (x : Outflow) : Outflow :=
  { x with
    registry := x.registry.modifyLink n fun _ => o.link
    writer := o.writer
    endpoint := o.endpoint }

/-- The writer goes on, if its choice is ready. -/
def work (t : Timing) (n now : Nat) (c : Choice) (x : Outflow) : Outflow :=
  match x.outlet? n with
  | none => x
  | some o =>
    match o.choose? t now (x.isFed n) c with
    | none => x
    | some o' => { x.move n o' with broken := x.broken || o.fails now c }

/-- The worker does not wait any longer. -/
def abort (n : Nat) (x : Outflow) : Outflow :=
  if x.writer.stage = .stopped then x
  else
    match x.outlet? n with
    | none => x
    | some o => { x.move n o.stop with broken := true }

/-- The client has sent a message, or part of one. -/
def hear (m : Option Incoming) (e : Endpoint) (x : Outflow) : Outflow where
  registry := x.registry
  writer := if m = some .pong then { x.writer with heartbeat := x.writer.heartbeat.pong }
    else x.writer
  endpoint := e
  counted := x.counted
  pinged := x.pinged ++ (m.bind Incoming.ping?).toList
  broken := x.broken

/-- One turn. -/
def step (t : Timing) (x : Outflow) : Turn n → Outflow
  | .traffic u _ =>
    { x with registry := x.registry.step u, counted := x.counted ++ x.registry.counted n u }
  | .offer id frame =>
    { x with
      registry := x.registry.push frame id
      counted := x.counted ++ x.registry.countedFor n id frame }
  | .hear limit f =>
    match x.endpoint.receive limit f with
    | .error _ => x
    | .ok (m, e) => x.hear m e
  | .flush =>
    match x.endpoint.flush with
    | .written e => { x with endpoint := e }
    | .blocked | .failed => x
  | .network mode => { x with endpoint := { x.endpoint with mode } }
  | .work now c => x.work t n now c
  | .abort => x.abort n

def run (t : Timing) (x : Outflow) (turns : List (Turn n)) : Outflow := turns.foldl (step t) x

/-- A session just registered, whose writer begins at a time. -/
def opened (t : Timing) (now : Nat) (r : Registry) (id userId : Uuid) : Outflow :=
  ⟨(r.register id userId).2, .start t now, .fresh, [], [], false⟩

theorem outlet?_of_link? {x : Outflow} {l : Link} (h : x.registry.link? n = some l) :
    x.outlet? n = some ⟨x.writer, l, x.endpoint⟩ := by
  rw [outlet?, h, Option.map_some]

theorem outlet?_eq_some {x : Outflow} {o : Outlet} (h : x.outlet? n = some o) :
    x.registry.link? n = some o.link ∧ x.writer = o.writer ∧ x.endpoint = o.endpoint := by
  obtain ⟨l, hl, rfl⟩ := Option.map_eq_some_iff.1 h
  exact ⟨hl, rfl, rfl⟩

theorem outlet?_move {x : Outflow} {o o' : Outlet} (h : x.outlet? n = some o) :
    (x.move n o').outlet? n = some o' := by
  have hlink : (x.move n o').registry.link? n = some o'.link := by
    rw [move, Registry.link?_modifyLink, (outlet?_eq_some h).1, Option.map_some, if_pos rfl]
  rw [outlet?_of_link? hlink]
  rfl

/-! ## What a turn can do -/

section
variable {t : Timing} {x : Outflow} {o : Outlet}

/-- What was broken stays so. -/
theorem broken_step (turn : Turn n) (h : (x.step t turn).broken = false) : x.broken = false := by
  cases turn with
  | traffic | offer | network => exact h
  | hear limit f =>
    unfold step at h
    dsimp only at h
    split at h <;> exact h
  | flush =>
    unfold step at h
    dsimp only at h
    split at h <;> exact h
  | work now c =>
    unfold step work at h
    dsimp only at h
    split at h
    · exact h
    · split at h
      · exact h
      · exact (Bool.or_eq_false_iff.1 h).1
  | abort =>
    unfold step abort at h
    dsimp only at h
    split at h
    · exact h
    · split at h
      · exact h
      · cases h

/-- A turn of the writer in which no write fails. -/
theorem work_cases (ho : x.outlet? n = some o) {now : Nat} {c : Choice}
    (h : (x.work t n now c).broken = false) :
    (o.choose? t now (x.isFed n) c = none ∧ x.work t n now c = x) ∨
      ∃ o', o.Wrote o' ∧ x.work t n now c = x.move n o' := by
  unfold work at h ⊢
  rw [ho] at h ⊢
  dsimp only at h ⊢
  cases hchoice : o.choose? t now (x.isFed n) c with
  | none => exact .inl ⟨rfl, rfl⟩
  | some o' =>
    rw [hchoice] at h
    obtain ⟨hbroken, hfails⟩ := Bool.or_eq_false_iff.1 h
    refine .inr ⟨o', Outlet.wrote_of_choose? hchoice hfails, ?_⟩
    dsimp only
    rw [hbroken, hfails]
    cases x
    simp_all [move]

/-- What a turn does while no write fails. Each case says what the invariants
below need, so that no turn is opened twice. -/
inductive Moved (x : Outflow) (o : Outlet) (x' : Outflow) (o' : Outlet) : Prop
  /-- Frames were queued, and counted. -/
  | fed {more : List String} (fed : o.link.Fed o'.link more)
      (stage : o'.writer.stage = o.writer.stage)
    (endpoint : o'.endpoint = o.endpoint) (counted : x'.counted = x.counted ++ more)
    (pinged : x'.pinged = x.pinged)
  /-- The worker has written or read: it answers Pings, and the client's closing
  frame. -/
  | grown {more : List Outgoing} (grown : o.endpoint.Grown o'.endpoint more)
    (answers : ∀ f ∈ more, f.isClose = true ∨ ∃ payload ∈ x'.pinged, f = .pong payload)
    (link : o'.link = o.link)
    (stage : o'.writer.stage = o.writer.stage) (counted : x'.counted = x.counted)
    (pinged : x.pinged ⊆ x'.pinged)
  /-- The writer has moved. -/
  | wrote (wrote : o.Wrote o') (counted : x'.counted = x.counted) (pinged : x'.pinged = x.pinged)

theorem moved_refl (x : Outflow) (o : Outlet) : Moved x o x o :=
  .fed (Link.fed_of_same rfl rfl) rfl rfl (List.append_nil _).symm rfl

/-- **Everything that a turn can do** to a session while no write fails. -/
theorem step_cases (hwired : x.registry.Wired) (ho : x.outlet? n = some o)
    (hcloses : o.endpoint.ClosesLast) (turn : Turn n) (h : (x.step t turn).broken = false) :
    ∃ o', (x.step t turn).outlet? n = some o' ∧ Moved x o (x.step t turn) o' := by
  obtain ⟨hlink, hwriter, hendpoint⟩ := outlet?_eq_some ho
  cases turn with
  | traffic u hu =>
    obtain ⟨l', hl', hfed⟩ := hwired.fed_step hlink hu
    exact ⟨_, outlet?_of_link? (x := x.step t (.traffic u hu)) hl',
      .fed hfed (congrArg Writer.stage hwriter) hendpoint rfl rfl⟩
  | offer id frame =>
    obtain ⟨l', hl', hfed⟩ := Registry.fed_push hlink id frame
    exact ⟨_, outlet?_of_link? (x := x.step t (.offer (n := n) id frame)) hl',
      .fed hfed (congrArg Writer.stage hwriter) hendpoint rfl rfl⟩
  | hear limit f =>
    unfold step
    dsimp only
    cases hr : x.endpoint.receive limit f with
    | error v => exact ⟨o, ho, moved_refl x o⟩
    | ok p =>
      obtain ⟨m, e⟩ := p
      obtain ⟨more, hgrown, hmore⟩ := hcloses.receive (hendpoint ▸ hr)
      refine ⟨_, outlet?_of_link? (x := x.hear m e) hlink, ?_⟩
      refine .grown hgrown ?_ rfl ?_ rfl (List.subset_append_left ..)
      · intro g hg
        rcases hmore with rfl | ⟨rfl, rfl⟩
        · cases hg
        · exact .inr ⟨f.payload, List.mem_append_right _ List.mem_cons_self,
            List.mem_singleton.1 hg⟩
      · rw [← hwriter]
        unfold hear
        dsimp only
        split <;> rfl
  | flush =>
    unfold step
    dsimp only
    cases hflush : x.endpoint.flush with
    | blocked => exact ⟨o, ho, moved_refl x o⟩
    | failed => exact ⟨o, ho, moved_refl x o⟩
    | written e =>
      obtain ⟨more, hgrown, hclose⟩ := hcloses.flush (hendpoint ▸ hflush)
      exact ⟨_, outlet?_of_link? (x := { x with endpoint := e }) hlink,
        .grown hgrown (fun f hf => .inl (hclose f hf)) rfl (congrArg Writer.stage hwriter) rfl
          (List.Subset.refl _)⟩
  | network mode =>
    have hgrown : o.endpoint.Grown { x.endpoint with mode } [] := by
      rw [hendpoint]
      exact hcloses.of_same rfl rfl rfl
    exact ⟨_, outlet?_of_link? (x := x.step t (.network (n := n) mode)) hlink,
      .grown hgrown (by simp) rfl (congrArg Writer.stage hwriter) rfl (List.Subset.refl _)⟩
  | work now c =>
    rcases work_cases ho h with ⟨-, hsame⟩ | ⟨o', hwrote, hmoved⟩
    · exact ⟨o, by rw [step, hsame, ho], by rw [step, hsame]; exact moved_refl x o⟩
    · exact ⟨o', by rw [step, hmoved, outlet?_move ho], by rw [step, hmoved]; exact .wrote hwrote rfl rfl⟩
  | abort =>
    unfold step abort at h ⊢
    dsimp only at h ⊢
    split
    · exact ⟨o, ho, moved_refl x o⟩
    · next hrunning =>
      rw [if_neg hrunning, ho] at h
      cases h

/-- No turn gives two sessions one link. -/
theorem wired_step (hwired : x.registry.Wired) (turn : Turn n) :
    (x.step t turn).registry.Wired := by
  cases turn with
  | traffic u hu => exact hwired.step u
  | offer id frame => exact hwired.push id frame
  | network mode => exact hwired
  | hear limit f =>
    unfold step
    dsimp only
    split <;> exact hwired
  | flush =>
    unfold step
    dsimp only
    split <;> exact hwired
  | work now c =>
    unfold step work
    dsimp only
    split
    · exact hwired
    · split
      · exact hwired
      · exact hwired.modifyLink n _
  | abort =>
    unfold step abort
    dsimp only
    split
    · exact hwired
    · split
      · exact hwired
      · exact hwired.modifyLink n _

end

/-! ## The parts that run -/

section
variable {t : Timing} {x : Outflow} {o : Outlet}

theorem run_append (turns more : List (Turn n)) :
    x.run t (turns ++ more) = (x.run t turns).run t more :=
  List.foldl_append

/-- Offers to sessions fill the queue with what they count. -/
theorem offer_turns {l : Link} (hl : x.registry.link? n = some l) (frame : String)
    (ids : List Uuid) :
    ∃ more, x.run t (ids.map (.offer (n := n) · frame)) = { x with
        registry := ids.foldl (Registry.push frame) x.registry
        counted := x.counted ++ more } ∧
      (ids.foldl (Registry.push frame) x.registry).queue? n = some (l.queue ++ more) := by
  induction ids generalizing x l with
  | nil =>
    refine ⟨[], by rw [List.append_nil]; rfl, ?_⟩
    rw [Registry.queue?, List.foldl_nil, hl, List.append_nil]
    rfl
  | cons id ids ih =>
    obtain ⟨l', hl', hfed⟩ := Registry.fed_push hl id frame
    obtain ⟨more, hrun, hqueue⟩ := ih (x := x.step t (.offer (n := n) id frame)) hl'
    refine ⟨x.registry.countedFor n id frame ++ more, ?_, ?_⟩
    · rw [← List.append_assoc]
      exact hrun
    · rw [← List.append_assoc, ← hfed.queue]
      exact hqueue

theorem unregister_turns (ids : List Uuid) :
    x.run t (ids.map fun id => .traffic (n := n) (.unregister id) nofun) =
      { x with registry := ids.foldl (fun r id => (r.unregister id).2) x.registry } := by
  induction ids generalizing x with
  | nil => rfl
  | cons id ids ih =>
    have hstep : x.step t (.traffic (n := n) (.unregister id) nofun) =
        { x with registry := (x.registry.unregister id).2 } := by
      simp only [step, Registry.counted, List.append_nil]
      rfl
    rw [List.map_cons, run, List.foldl_cons, hstep]
    exact ih

/-- **A delivery is made of its parts**: offers to those whose queue has room,
and then the removal of all others. Other turns may come between them. -/
theorem deliver_turns (hwired : x.registry.Wired) (ho : x.outlet? n = some o) (a : Audience)
    (frame : String) :
    x.step t (.traffic (n := n) (.deliver a frame) nofun) =
      x.run t (((x.registry.resolve a).filter x.registry.canTake).map (.offer (n := n) · frame) ++
        ((x.registry.resolve a).filter fun id => !x.registry.canTake id).map fun id =>
          .traffic (n := n) (.unregister id) nofun) := by
  have hlink := (outlet?_eq_some ho).1
  obtain ⟨more, hrun, hqueue⟩ :=
    offer_turns (t := t) hlink frame ((x.registry.resolve a).filter x.registry.canTake)
  rw [run_append, hrun, unregister_turns]
  -- both ways lead to the same queue, so they have counted the same
  obtain ⟨l', hl', hfed⟩ := hwired.fed_step hlink (t := .deliver a frame) nofun
  have hsame : some l'.queue = some (o.link.queue ++ more) := by
    rw [← hqueue, ← Registry.queue?_foldl_unregister ((x.registry.resolve a).filter fun id =>
      !x.registry.canTake id)]
    exact (congrArg (Option.map Link.queue) hl').symm
  rw [hfed.queue, Option.some.injEq, List.append_cancel_left_eq] at hsame
  simp only [step, hsame]
  rfl

/-- The writer that runs takes turns of the writer. -/
theorem run_turns (ho : x.outlet? n = some o) (now fuel : Nat) :
    ∃ choices : List Choice, (x.run t (choices.map (.work (n := n) now))).outlet? n =
      some (o.run t now fuel) := by
  induction fuel generalizing x o with
  | zero => exact ⟨[], ho⟩
  | succ fuel ih =>
    unfold Outlet.run
    cases hstep : o.step? t now with
    | none => exact ⟨[], ho⟩
    | some o' =>
      obtain ⟨c, hc⟩ := Outlet.exists_choose? hstep (x.isFed n)
      have hwork : (x.work t n now c).outlet? n = some o' := by
        rw [work, ho]
        dsimp only
        rw [hc]
        exact outlet?_move ho
      obtain ⟨choices, hchoices⟩ := ih hwork
      exact ⟨c :: choices, hchoices⟩

/-- A connection that is tended lets its writer take turns. -/
theorem tend_turns {l : Line} {link : Link} (hlink : x.registry.link? n = some link)
    (hwriter : x.writer = l.writer) (hendpoint : x.endpoint = l.endpoint) (now : Nat) :
    ∃ choices : List Choice, (x.run t (choices.map (.work (n := n) now))).outlet? n =
      some ⟨(l.tend t now link).2.writer, (l.tend t now link).1,
        (l.tend t now link).2.endpoint⟩ := by
  obtain ⟨choices, h⟩ := run_turns (t := t) (outlet?_of_link? hlink) now (2 * link.queue.length + 16)
  refine ⟨choices, h.trans ?_⟩
  rw [hwriter, hendpoint]
  unfold Line.tend Outlet.settle
  dsimp only
  split <;> rfl

/-- A writer whose worker has seen an event, or nothing. -/
def told (w : Writer) (event : Option Event) : Writer :=
  if event = some .pong then { w with heartbeat := w.heartbeat.pong } else w

/-- It is the writer of a line that has heard the event. -/
theorem heard_writer (l : Line) (event : Event) :
    (l.heard event).writer = told l.writer (some event) := by
  unfold Line.heard told
  by_cases hpong : event = .pong
  · rw [if_pos hpong, if_pos (congrArg some hpong)]
  · rw [if_neg hpong, if_neg fun h => hpong (Option.some.inj h)]
    split <;> rfl

/-- Frames that are read up to the next event are heard one by one. -/
theorem readFrames_turns (limit : Nat) (frames : List ClientFrame) :
    ∃ turns : List (Turn n), x.run t turns = { x with
      endpoint := (Line.readFrames limit frames x.endpoint).2.2
      writer := told x.writer (Line.readFrames limit frames x.endpoint).1
      pinged := (x.run t turns).pinged } := by
  induction frames generalizing x with
  | nil => exact ⟨[], rfl⟩
  | cons f rest ih =>
    unfold Line.readFrames
    cases hr : x.endpoint.receive limit f with
    | error v => exact ⟨[], rfl⟩
    | ok p =>
      obtain ⟨m, e⟩ := p
      have hheard : x.step t (.hear (n := n) limit f) = x.hear m e := by rw [step, hr]
      cases m with
      | none =>
        obtain ⟨turns, h⟩ := ih (x := x.hear none e)
        refine ⟨.hear limit f :: turns, ?_⟩
        rw [run, List.foldl_cons, hheard]
        exact h
      | some m =>
        refine ⟨[.hear limit f], ?_⟩
        rw [run, List.foldl_cons, hheard]
        cases m <;> rfl

/-- What the worker of a connection reads, and writes before it reads, are
turns. -/
theorem read_turns {l : Line} (hwriter : x.writer = l.writer) (hendpoint : x.endpoint = l.endpoint)
    (limit : Nat) (cancelled : Bool) :
    ∃ turns : List (Turn n), x.run t turns = { x with
      endpoint := (l.read limit cancelled).2.endpoint
      writer := told l.writer (l.read limit cancelled).1
      pinged := (x.run t turns).pinged } := by
  have hstill (event : Option Event) (hevent : event ≠ some .pong) :
      ∃ turns : List (Turn n), x.run t turns = { x with
        endpoint := l.endpoint
        writer := told l.writer event
        pinged := (x.run t turns).pinged } := by
    refine ⟨[], ?_⟩
    rw [told, if_neg hevent, ← hwriter, ← hendpoint]
    rfl
  have hreadOn {x : Outflow} {l : Line} (hwriter : x.writer = l.writer) (hendpoint : x.endpoint =
    l.endpoint) :
      ∃ turns : List (Turn n), x.run t turns = { x with
        endpoint := (l.readOn limit).2.endpoint
        writer := told l.writer (l.readOn limit).1
        pinged := (x.run t turns).pinged } := by
    obtain ⟨turns, h⟩ := readFrames_turns (t := t) (n := n) (x := x) limit l.inbox
    refine ⟨turns, h.trans ?_⟩
    rw [hwriter, hendpoint]
    unfold Line.readOn
    split
    · next heq => rw [heq]
    · next heq =>
      rw [heq]
      dsimp only
      split <;> rfl
  unfold Line.read
  split
  · exact hstill none nofun
  · split
    · exact hstill (some .cancelled) nofun
    · split
      · exact hstill (some .writerStopped) nofun
      · split
        · exact hreadOn hwriter hendpoint
        · cases hflush : l.endpoint.flush with
          | blocked => exact hreadOn hwriter hendpoint
          | failed => exact hstill (some .readError) nofun
          | written e =>
            obtain ⟨turns, h⟩ := hreadOn (x := { x with endpoint := e })
              (l := { l with endpoint := e }) hwriter rfl
            have hstep : x.step t (.flush (n := n)) =
              { x with endpoint := e } := by rw [step, hendpoint, hflush]
            refine ⟨.flush :: turns, ?_⟩
            rw [run, List.foldl_cons, hstep]
            exact h

end

end Outflow
end ChatServer.Connection

