import ChatServer.Delivery.Registry
import Mathlib.Data.List.Nodup
import Mathlib.Data.List.Perm.Basic

/-!
# Runs of the registry

Everything that happens to the registry and to the links it hands out:
registrations and removals, deliveries, the closing of the server, and what
workers do at their end of a link.

* `Wired.run`: no two sessions ever share a link.
* `Indexed.run`: the sessions of a user are those registered for the user, as
  long as a session is always registered for the same one.
* `deliver_queue`, `deliver_count`: a delivery adds its frame to the queues of
  the sessions it can reach, once to each, and counts them.
-/
namespace ChatServer.Delivery

inductive Traffic
  | register (id userId : Uuid)
  | unregister (id : Uuid)
  | deliver (audience : Audience) (frame : String)
  | closeAll
  /-- A worker takes the oldest frame of its link. -/
  | take (link : Nat)
  /-- A worker takes no more frames but those in the queue. -/
  | shut (link : Nat)
  /-- A worker drops its end of the link. -/
  | abandon (link : Nat)

namespace Registry

/-- The registry after something happened. -/
def step (r : Registry) : Traffic → Registry
  | .register id userId => (r.register id userId).2
  | .unregister id => (r.unregister id).2
  | .deliver audience frame => (r.deliver audience frame).2
  | .closeAll => r.closeAll
  | .take n => r.modifyLink n fun l => (l.take?.map Prod.snd).getD l
  | .shut n => r.modifyLink n Link.shut
  | .abandon n => r.modifyLink n Link.abandon

def run (r : Registry) (traffic : List Traffic) : Registry := traffic.foldl step r

def queue? (r : Registry) (n : Nat) : Option (List String) := (r.link? n).map Link.queue

/-! ## Lists of pairs -/

section
variable {α : Type}

theorem lookup_cons_ite (k key : Uuid) (x : α) (xs : List (Uuid × α)) :
    ((key, x) :: xs).lookup k = if k = key then some x else xs.lookup k := by
  by_cases h : k = key
  · subst h
    simp
  · have hne : (k == key) = false := by simpa using h
    rw [List.lookup_cons, hne, if_neg h]

theorem lookup_put (key : Uuid) (x : α) (xs : List (Uuid × α)) (k : Uuid) :
    (put key x xs).lookup k = if k = key then some x else xs.lookup k := by
  induction xs with
  | nil => exact lookup_cons_ite k key x []
  | cons p xs ih =>
    obtain ⟨key', y⟩ := p
    by_cases hkey : key' = key
    · subst hkey
      rw [put, if_pos rfl, lookup_cons_ite, lookup_cons_ite]
      by_cases h : k = key' <;> simp [h]
    · rw [put, if_neg hkey, lookup_cons_ite, lookup_cons_ite, ih]
      by_cases h : k = key'
      · subst h
        simp [hkey]
      · simp [h]

theorem lookup_remove (key : Uuid) (xs : List (Uuid × α)) (k : Uuid) :
    (remove key xs).lookup k = if k = key then none else xs.lookup k := by
  induction xs with
  | nil => simp [remove]
  | cons p xs ih =>
    obtain ⟨key', y⟩ := p
    rw [remove, List.filter_cons, ← remove, lookup_cons_ite]
    by_cases hkey : key' = key
    · subst hkey
      rw [if_neg (by simp), ih]
      by_cases h : k = key' <;> simp [h]
    · rw [if_pos (by simpa using hkey), lookup_cons_ite, ih]
      by_cases h : k = key'
      · subst h
        simp [hkey]
      · simp [h]

end

/-! ## One change -/

@[simp] theorem entryOf?_register (r : Registry) (id userId x : Uuid) :
    (r.register id userId).2.entryOf? x =
      if x = id then some ⟨userId, r.links.length⟩ else r.entryOf? x :=
  lookup_put ..

@[simp] theorem entryOf?_removeEntry (r : Registry) (id : Uuid) (e : Entry) (x : Uuid) :
    (r.removeEntry id e).entryOf? x = if x = id then none else r.entryOf? x :=
  lookup_remove ..

theorem mem_sessionsOf_register (r : Registry) (id userId u x : Uuid) :
    x ∈ (r.register id userId).2.sessionsOf u ↔
      x ∈ r.sessionsOf u ∨ (u = userId ∧ x = id) := by
  rw [register, sessionsOf, lookup_put]
  by_cases hu : u = userId
  · subst hu
    rw [if_pos rfl, Option.getD_some]
    by_cases hid : id ∈ r.sessionsOf u
    · rw [if_pos hid]
      constructor
      · exact .inl
      · rintro (h | ⟨-, rfl⟩)
        · exact h
        · exact hid
    · rw [if_neg hid]
      simp
  · rw [if_neg hu, ← sessionsOf]
    simp [hu]

theorem mem_sessionsOf_removeEntry (r : Registry) (id : Uuid) (e : Entry) (u x : Uuid) :
    x ∈ (r.removeEntry id e).sessionsOf u ↔ x ∈ r.sessionsOf u ∧ ¬ (u = e.userId ∧ x = id) := by
  have hput : x ∈ (r.removeEntry id e).sessionsOf u ↔
      x ∈ if u = e.userId then (r.sessionsOf u).filter (· ≠ id) else r.sessionsOf u := by
    by_cases hempty : ((r.sessionsOf e.userId).filter (· ≠ id)).isEmpty = true
    · rw [removeEntry, sessionsOf, if_pos hempty, lookup_remove]
      by_cases hu : u = e.userId
      · subst hu
        rw [if_pos rfl, if_pos rfl, List.isEmpty_iff.1 hempty]
        simp
      · rw [if_neg hu, if_neg hu, ← sessionsOf]
    · rw [removeEntry, sessionsOf, if_neg hempty, lookup_put]
      by_cases hu : u = e.userId
      · subst hu
        rw [if_pos rfl, if_pos rfl, Option.getD_some]
      · rw [if_neg hu, if_neg hu, ← sessionsOf]
  rw [hput]
  by_cases hu : u = e.userId <;> simp [hu]

/-- The number of a session's link. -/
def linkOf? (r : Registry) (id : Uuid) : Option Nat := (r.entryOf? id).map Entry.link

theorem entryOf?_unregister (r : Registry) (id x : Uuid) :
    (r.unregister id).2.entryOf? x = if x = id then none else r.entryOf? x := by
  unfold unregister
  cases h : r.entryOf? id with
  | none =>
    by_cases hx : x = id
    · subst hx
      simp [h]
    · simp [hx]
  | some e => exact entryOf?_removeEntry r id e x

theorem length_links_unregister (r : Registry) (id : Uuid) :
    (r.unregister id).2.links.length = r.links.length := by
  unfold unregister
  cases r.entryOf? id with
  | none => rfl
  | some e => exact List.length_modify ..

/-- A queue outlives its registration. -/
theorem queue?_unregister (r : Registry) (id : Uuid) (n : Nat) :
    (r.unregister id).2.queue? n = r.queue? n := by
  unfold unregister
  cases r.entryOf? id with
  | none => rfl
  | some e =>
    have hlink : (r.removeEntry id e).link? n =
        (r.link? n).map fun l => if e.link = n then l.cancel else l := List.getElem?_modify ..
    rw [queue?, queue?, hlink, Option.map_map]
    congr 1
    funext l
    by_cases he : e.link = n <;> simp [he, Link.cancel]

/-! ## Many changes -/

theorem entryOf?_foldl_unregister (ids : List Uuid) (r : Registry) (x : Uuid) :
    (ids.foldl (fun r id => (r.unregister id).2) r).entryOf? x =
      if x ∈ ids then none else r.entryOf? x := by
  induction ids generalizing r with
  | nil => simp
  | cons id ids ih =>
    rw [List.foldl_cons, ih, entryOf?_unregister]
    by_cases hid : x = id <;> by_cases hids : x ∈ ids <;> simp [hid, hids]

theorem length_links_foldl_unregister (ids : List Uuid) (r : Registry) :
    (ids.foldl (fun r id => (r.unregister id).2) r).links.length = r.links.length := by
  induction ids generalizing r with
  | nil => rfl
  | cons id ids ih => rw [List.foldl_cons, ih, length_links_unregister]

theorem queue?_foldl_unregister (ids : List Uuid) (r : Registry) (n : Nat) :
    (ids.foldl (fun r id => (r.unregister id).2) r).queue? n = r.queue? n := by
  induction ids generalizing r with
  | nil => rfl
  | cons id ids ih => rw [List.foldl_cons, ih, queue?_unregister]

/-- Pushing to sessions changes the links of their entries and nothing else. -/
theorem foldl_push (frame : String) (ids : List Uuid) (r : Registry) :
    ids.foldl (push frame) r =
      { r with
        links := (ids.filterMap r.linkOf?).foldl
          (fun links n => links.modify n (Link.offer r.capacity frame)) r.links } := by
  induction ids generalizing r with
  | nil => rfl
  | cons id ids ih =>
    rw [List.foldl_cons, ih]
    cases h : r.entryOf? id with
    | none =>
      have hlink : r.linkOf? id = none := by rw [linkOf?, h, Option.map_none]
      have hpush : push frame r id = r := by rw [push, h]
      rw [hpush, List.filterMap_cons_none hlink]
    | some e =>
      have hlink : r.linkOf? id = some e.link := by rw [linkOf?, h, Option.map_some]
      have hpush : push frame r id =
        r.modifyLink e.link (Link.offer r.capacity frame) := by rw [push, h]
      rw [hpush, List.filterMap_cons_some hlink]
      rfl

theorem getElem?_foldl_modify {α : Type} (f : α → α) {ns : List Nat} (h : ns.Nodup) (xs : List α)
    (m : Nat) : (ns.foldl (fun xs n => xs.modify n f) xs)[m]? =
      if m ∈ ns then xs[m]?.map f else xs[m]? := by
  induction ns generalizing xs with
  | nil => simp
  | cons n ns ih =>
    obtain ⟨hn, hns⟩ := List.nodup_cons.1 h
    rw [List.foldl_cons, ih hns, List.getElem?_modify]
    by_cases hm : n = m
    · subst hm
      simp [hn]
    · have hm' : m ≠ n := fun he => hm he.symm
      by_cases hin : m ∈ ns <;> simp [hm, hm', hin]

theorem length_foldl_modify {α : Type} (f : α → α) (ns : List Nat) (xs : List α) :
    (ns.foldl (fun xs n => xs.modify n f) xs).length = xs.length := by
  induction ns generalizing xs with
  | nil => rfl
  | cons n ns ih => rw [List.foldl_cons, ih, List.length_modify]

/-! ## Links of sessions -/

/-- Every session has a link of its own. -/
structure Wired (r : Registry) : Prop where
  bound : ∀ {x e}, r.entryOf? x = some e → e.link < r.links.length
  distinct : ∀ {x y e e'}, r.entryOf? x = some e → r.entryOf? y = some e' → e.link = e'.link → x = y

theorem wired_empty (capacity : Nat) : (empty capacity).Wired :=
  ⟨fun h => (by cases h), fun h => (by cases h)⟩

/-- What adds no session and loses no link keeps sessions on links of their
own. -/
theorem Wired.of_entries {r r' : Registry} (h : r.Wired)
    (hentries : ∀ x e, r'.entryOf? x = some e → r.entryOf? x = some e)
    (hlinks : r'.links.length = r.links.length) : r'.Wired where
  bound hx := hlinks ▸ h.bound (hentries _ _ hx)
  distinct hx hy := h.distinct (hentries _ _ hx) (hentries _ _ hy)

theorem Wired.register {r : Registry} (h : r.Wired) (id userId : Uuid) :
    (r.register id userId).2.Wired := by
  have hlinks : (r.register id userId).2.links.length = r.links.length + 1 := List.length_append
  constructor
  · intro x e hx
    rw [entryOf?_register] at hx
    rw [hlinks]
    by_cases hid : x = id
    · rw [if_pos hid] at hx
      cases hx
      exact Nat.lt_succ_self _
    · rw [if_neg hid] at hx
      exact Nat.lt_succ_of_lt (h.bound hx)
  · intro x y e e' hx hy hlink
    rw [entryOf?_register] at hx hy
    by_cases hid : x = id <;> by_cases hid' : y = id
    · rw [hid, hid']
    · -- the new link is above all earlier ones
      rw [if_pos hid] at hx
      rw [if_neg hid'] at hy
      cases hx
      exact absurd hlink.symm (Nat.ne_of_lt (h.bound hy))
    · rw [if_neg hid] at hx
      rw [if_pos hid'] at hy
      cases hy
      exact absurd hlink (Nat.ne_of_lt (h.bound hx))
    · rw [if_neg hid] at hx
      rw [if_neg hid'] at hy
      exact h.distinct hx hy hlink

theorem Wired.modifyLink {r : Registry} (h : r.Wired) (n : Nat) (f : Link → Link) :
    (r.modifyLink n f).Wired :=
  h.of_entries (fun _ _ hx => hx) (List.length_modify ..)

/-! ## Deliveries -/

/-- The links that a delivery reaches. -/
def reached (r : Registry) (a : Audience) : List Nat :=
  ((r.resolve a).filter r.canTake).filterMap r.linkOf?

theorem mem_reached {r : Registry} {a : Audience} {n : Nat} :
    n ∈ r.reached a ↔ ∃ x ∈ r.resolve a, r.canTake x = true ∧ r.linkOf? x = some n := by
  simp only [reached, List.mem_filterMap, List.mem_filter, and_assoc]

theorem entryOf?_of_linkOf? {r : Registry} {x : Uuid} {n : Nat} (h : r.linkOf? x = some n) :
    ∃ e, r.entryOf? x = some e ∧ e.link = n :=
  Option.map_eq_some_iff.1 h

/-- A session that can take a frame has a link with room. -/
theorem link_of_canTake {r : Registry} {x : Uuid} (h : r.canTake x = true) :
    ∃ n l, r.linkOf? x = some n ∧ r.link? n = some l ∧ l.hasRoom r.capacity = true := by
  unfold canTake at h
  cases hx : r.entryOf? x with
  | none => simp [hx] at h
  | some e =>
    obtain ⟨l, hl, hroom⟩ := (Option.any_eq_true _ _).1 (by simpa [hx] using h)
    exact ⟨e.link, l, by rw [linkOf?, hx, Option.map_some], hl, hroom⟩

theorem Wired.linkOf?_inj {r : Registry} (h : r.Wired) {x y : Uuid} {n : Nat}
    (hx : r.linkOf? x = some n) (hy : r.linkOf? y = some n) : x = y := by
  obtain ⟨e, he, rfl⟩ := entryOf?_of_linkOf? hx
  obtain ⟨e', he', hlink⟩ := entryOf?_of_linkOf? hy
  exact h.distinct he he' hlink.symm

theorem Wired.nodup_reached {r : Registry} (h : r.Wired) (a : Audience) : (r.reached a).Nodup := by
  refine ((r.resolve_nodup a).filter _).filterMap ?_
  intro x y n hx hy
  exact h.linkOf?_inj hx hy

theorem deliver_eq (r : Registry) (a : Audience) (frame : String) :
    (r.deliver a frame).2 =
      ((r.resolve a).filter fun id => !r.canTake id).foldl (fun r id => (r.unregister id).2)
        { r with
          links := (r.reached a).foldl
            (fun links n => links.modify n (Link.offer r.capacity frame)) r.links } := by
  rw [deliver, foldl_push]
  rfl

theorem entryOf?_deliver (r : Registry) (a : Audience) (frame : String) (x : Uuid) :
    (r.deliver a frame).2.entryOf? x =
      if x ∈ (r.resolve a).filter (fun id => !r.canTake id) then none else r.entryOf? x := by
  rw [deliver_eq, entryOf?_foldl_unregister]
  rfl

/-- The count of a delivery is the number of links it reaches. -/
theorem deliver_count (r : Registry) (a : Audience) (frame : String) :
    (r.deliver a frame).1 = (r.reached a).length := by
  have hall : ∀ x ∈ (r.resolve a).filter r.canTake, (r.linkOf? x).isSome = true := by
    intro x hx
    obtain ⟨n, l, hn, -⟩ := link_of_canTake (List.mem_filter.1 hx).2
    rw [hn, Option.isSome_some]
  rw [reached, List.filterMap_length_eq_length.2 hall]
  rfl

/-- **One frame at the tail.** The queues of the links that a delivery reaches
grow by its frame; all others stay as they are. -/
theorem Wired.deliver_queue {r : Registry} (h : r.Wired) (a : Audience) (frame : String) (n : Nat) :
    (r.deliver a frame).2.queue? n =
      (r.queue? n).map fun queue => if n ∈ r.reached a then queue ++ [frame] else queue := by
  rw [deliver_eq, queue?_foldl_unregister, queue?, link?,
    getElem?_foldl_modify _ (h.nodup_reached a),
    queue?, link?]
  by_cases hn : n ∈ r.reached a
  · obtain ⟨x, -, hroom, hx⟩ := mem_reached.1 hn
    obtain ⟨n', l, hx', hl, hroom⟩ := link_of_canTake hroom
    obtain rfl : n' = n := Option.some.inj (hx'.symm.trans hx)
    rw [link?] at hl
    simp [hn, hl, Link.offer_accepted hroom]
  · simp [hn, Function.comp_def]

theorem Wired.deliver {r : Registry} (h : r.Wired) (a : Audience) (frame : String) :
    (r.deliver a frame).2.Wired := by
  refine h.of_entries ?_ ?_
  · intro x e hx
    rw [entryOf?_deliver] at hx
    by_cases hf : x ∈ (r.resolve a).filter fun id => !r.canTake id
    · rw [if_pos hf] at hx
      cases hx
    · rwa [if_neg hf] at hx
  · rw [deliver_eq, length_links_foldl_unregister]
    exact length_foldl_modify _ _ _

/-- The count of a delivery is the number of queues that it changes. -/
theorem Wired.deliver_changed {r : Registry} (h : r.Wired) (a : Audience) (frame : String) :
    (r.deliver a frame).1 =
      ((List.range r.links.length).filter fun n => (r.deliver a frame).2.queue? n ≠ r.queue? n).length := by
  rw [deliver_count]
  refine ((List.perm_ext_iff_of_nodup (h.nodup_reached a) (List.nodup_range.filter _)).2 ?_).length_eq
  intro n
  rw [List.mem_filter, List.mem_range, h.deliver_queue, decide_eq_true_iff]
  constructor
  · intro hn
    obtain ⟨x, -, hroom, hx⟩ := mem_reached.1 hn
    obtain ⟨n', l, hx', hl, -⟩ := link_of_canTake hroom
    obtain rfl : n' = n := Option.some.inj (hx'.symm.trans hx)
    exact ⟨(List.getElem?_eq_some_iff.1 hl).1, by simp [queue?, hl, hn]⟩
  · rintro ⟨-, hne⟩
    by_contra hn
    exact hne (by simp [hn])

/-! ## Whole runs -/

theorem Wired.step {r : Registry} (h : r.Wired) (t : Traffic) : (r.step t).Wired := by
  cases t with
  | register id userId => exact h.register id userId
  | unregister id =>
    refine h.of_entries ?_ (length_links_unregister r id)
    intro x e hx
    rw [Registry.step, entryOf?_unregister] at hx
    by_cases hid : x = id
    · rw [if_pos hid] at hx
      cases hx
    · rwa [if_neg hid] at hx
  | deliver audience frame => exact h.deliver audience frame
  | closeAll => exact h.of_entries (fun _ _ hx => hx) (List.length_map ..)
  | take n => exact h.modifyLink n _
  | shut n => exact h.modifyLink n _
  | abandon n => exact h.modifyLink n _

theorem Wired.run {r : Registry} (h : r.Wired) (traffic : List Traffic) :
    (r.run traffic).Wired := by
  induction traffic generalizing r with
  | nil => exact h
  | cons t traffic ih => exact ih (h.step t)

/-! ## Sessions of users -/

/-- The sessions of a user are those that are registered for the user, where
each session has one owner. -/
structure Indexed (r : Registry) (owner : Uuid → Uuid) : Prop where
  owned : ∀ {x e}, r.entryOf? x = some e → e.userId = owner x
  listed : ∀ {x u}, x ∈ r.sessionsOf u ↔ ∃ e, r.entryOf? x = some e ∧ e.userId = u

theorem indexed_empty (capacity : Nat) (owner : Uuid → Uuid) : (empty capacity).Indexed owner where
  owned h := by cases h
  listed := by simp [empty, sessionsOf, entryOf?]

section
variable {r : Registry} {owner : Uuid → Uuid} (h : r.Indexed owner)
include h

theorem Indexed.register (id : Uuid) : (r.register id (owner id)).2.Indexed owner := by
  constructor
  · intro x e hx
    rw [entryOf?_register] at hx
    by_cases hid : x = id
    · rw [if_pos hid] at hx
      cases hx
      rw [hid]
    · rw [if_neg hid] at hx
      exact h.owned hx
  · intro x u
    rw [mem_sessionsOf_register, h.listed, entryOf?_register]
    by_cases hid : x = id
    · subst hid
      constructor
      · rintro (⟨e, he, rfl⟩ | ⟨rfl, -⟩)
        · exact ⟨_, if_pos rfl, (h.owned he).symm⟩
        · exact ⟨_, if_pos rfl, rfl⟩
      · rintro ⟨e, he, rfl⟩
        rw [if_pos rfl] at he
        cases he
        exact .inr ⟨rfl, rfl⟩
    · simp [hid]

theorem Indexed.removeEntry {id : Uuid} {e : Entry} (he : r.entryOf? id = some e) :
    (r.removeEntry id e).Indexed owner := by
  constructor
  · intro x e' hx
    rw [entryOf?_removeEntry] at hx
    by_cases hid : x = id
    · rw [if_pos hid] at hx
      cases hx
    · rw [if_neg hid] at hx
      exact h.owned hx
  · intro x u
    rw [mem_sessionsOf_removeEntry, h.listed, entryOf?_removeEntry]
    by_cases hid : x = id
    · subst hid
      simp only [he, if_pos, Option.some.injEq, exists_eq_left']
      constructor
      · rintro ⟨rfl, hne⟩
        exact (hne ⟨rfl, trivial⟩).elim
      · rintro ⟨e', hnone, -⟩
        cases hnone
    · simp [hid]

theorem Indexed.unregister (id : Uuid) : (r.unregister id).2.Indexed owner := by
  unfold Registry.unregister
  cases he : r.entryOf? id with
  | none => exact h
  | some e => exact h.removeEntry he

theorem Indexed.of_links (links : List Link) : ({ r with links } : Registry).Indexed owner :=
  ⟨h.owned, h.listed⟩

theorem Indexed.deliver (a : Audience) (frame : String) : (r.deliver a frame).2.Indexed owner := by
  rw [deliver_eq]
  have hfold (ids : List Uuid) : ∀ r : Registry, r.Indexed owner →
      (ids.foldl (fun r id => (r.unregister id).2) r).Indexed owner := by
    induction ids with
    | nil => exact fun r hr => hr
    | cons id ids ih => exact fun r hr => ih _ (hr.unregister id)
  exact hfold _ _ (h.of_links _)

theorem Indexed.step {t : Traffic} (ht : ∀ id u, t = .register id u → u = owner id) :
    (r.step t).Indexed owner := by
  cases t with
  | register id userId => obtain rfl := ht id userId rfl; exact h.register id
  | unregister id => exact h.unregister id
  | deliver audience frame => exact h.deliver audience frame
  | closeAll => exact ⟨h.owned, h.listed⟩
  | take n => exact h.of_links _
  | shut n => exact h.of_links _
  | abandon n => exact h.of_links _

end

theorem Indexed.run {r : Registry} {owner : Uuid → Uuid} (h : r.Indexed owner)
    {traffic : List Traffic}
    (ht : ∀ id u, .register id u ∈ traffic → u = owner id) : (r.run traffic).Indexed owner := by
  induction traffic generalizing r with
  | nil => exact h
  | cons t traffic ih =>
    refine ih (h.step ?_) fun id u hin => ht id u (List.mem_cons_of_mem t hin)
    rintro id u rfl
    exact ht id u List.mem_cons_self

end Registry
end ChatServer.Delivery

