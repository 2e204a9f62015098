import ChatServer.Proofs.Outflow
import ChatServer.Proofs.UserIndex
import ChatServer.Proofs.Workers

/-!
# What a delivery does, and what it does not depend on

A delivery goes through the sessions of its audience in the order in which maps
and sets happen to list them, puts its frame where there is room, and removes
the others when it is through. `deliverAlong` is this pass along any order, each
session as the ones before have left it. No two sessions share a link, so what a
session gets depends on its own queue alone: not on the order, and not on the
queues of others.

* `deliver_eq_deliverAlong`: a delivery is the pass along the order of its
  audience.
* `Wired.delivered`: what becomes of each session, of each link and of the
  index.
* `Same.same_deliverAlong`: registries that hold the same, gone through in any
  order, end up the same.
* `Wired.isolating`: whatever is changed about one link, all other sessions end
  up the same.
* `delivery_exact`: all of this after every run.
-/
namespace ChatServer.Delivery.Registry

/-! ## The sessions of an audience -/

/-- The session is registered, and the audience is for it: by its identifier, or
as one of a user. -/
def Denotes (r : Registry) (a : Audience) (x : Uuid) : Prop :=
  r.contains x = true ∧
    match a with
    | .session id => x = id
    | .users ids => ∃ u ∈ ids, x ∈ r.sessionsOf u
    | .channel members origin => x = origin ∨ ∃ u ∈ members, x ∈ r.sessionsOf u
    | .everyone => True

theorem contains_of_entryOf? {r : Registry} {x : Uuid} {e : Entry} (h : r.entryOf? x = some e) :
    r.contains x = true := by
  rw [contains, h, Option.isSome_some]

/-- An audience resolves to the sessions that it denotes, and to some that are
not registered. -/
theorem denotes_iff {r : Registry} {a : Audience} {x : Uuid} :
    r.Denotes a x ↔ r.contains x = true ∧ x ∈ r.resolve a := by
  refine and_congr_right fun hx => ?_
  cases a with
  | session id => simp [resolve]
  | users ids => simp [resolve]
  | channel members origin => simp [resolve]
  | everyone => exact (iff_true_intro (List.mem_eraseDups.2 (mem_keys_iff_lookup.2 hx))).symm

/-! ## One session after the other -/

/-- Where a pass over sessions stands: how many took the frame, and which had no
room. -/
structure Pass where
  count : Nat
  failed : List Uuid
  registry : Registry

/-- Tries to put a frame into the queue of a session as it is now. A session
that is not registered is passed over. -/
def Pass.attempt (frame : String) (p : Pass) (id : Uuid) : Pass :=
  if p.registry.canTake id then
    { p with count := p.count + 1, registry := p.registry.push frame id }
  else if p.registry.contains id then { p with failed := p.failed ++ [id] }
  else p

/-- Delivers a frame to sessions one after the other, and removes those without
room at the end. -/
def deliverAlong (r : Registry) (ids : List Uuid) (frame : String) : Nat × Registry :=
  let pass := ids.foldl (Pass.attempt frame) ⟨0, [], r⟩
  (pass.count, pass.failed.foldl (fun r id => (r.unregister id).2) pass.registry)

theorem entryOf?_push (r : Registry) (frame : String) (id x : Uuid) :
    (r.push frame id).entryOf? x = r.entryOf? x := by
  unfold push
  split <;> rfl

/-- A frame for one session takes no room from another. -/
theorem Wired.canTake_push {r : Registry} (h : r.Wired) (frame : String) {x y : Uuid}
    (hne : y ≠ x) :
    (r.push frame x).canTake y = r.canTake y := by
  cases hx : r.entryOf? x with
  | none => rw [Registry.push, hx]
  | some e =>
    have hpush : r.push frame x = r.modifyLink e.link (Link.offer r.capacity frame) := by
      rw [Registry.push, hx]
    cases hy : r.entryOf? y with
    | none => simp only [canTake, entryOf?_push, hy]
    | some e' =>
      have hlink : e.link ≠ e'.link := fun he => hne (h.distinct hx hy he).symm
      have hsame : (r.push frame x).link? e'.link = r.link? e'.link := by
        rw [hpush, link?_modifyLink]
        simp [hlink]
      have hcapacity : (r.push frame x).capacity = r.capacity := by rw [hpush]; rfl
      simp only [canTake, entryOf?_push, hy, hsame, hcapacity]

/-- What a pass finds at each session is what was there before the pass. -/
theorem Wired.foldl_attempt {r : Registry} (h : r.Wired) (frame : String) {ids : List Uuid}
    (hids : ids.Nodup) (count : Nat) (failed : List Uuid) :
    ids.foldl (Pass.attempt frame) ⟨count, failed, r⟩ =
      ⟨count + (ids.filter r.canTake).length,
        failed ++ ids.filter fun x => r.contains x && !r.canTake x,
        (ids.filter r.canTake).foldl (Registry.push frame) r⟩ := by
  induction ids generalizing r count failed with
  | nil => simp
  | cons id ids ih =>
    obtain ⟨hid, hids⟩ := List.nodup_cons.1 hids
    rw [List.foldl_cons, Pass.attempt]
    cases htake : r.canTake id with
    | true =>
      -- the sessions that follow are as they were, so the rest of the pass sorts them as before
      have hrest : ∀ x ∈ ids, (r.push frame id).canTake x = r.canTake x :=
        fun x hx => h.canTake_push frame fun he => hid (he ▸ hx)
      have hcontains (x : Uuid) : (r.push frame id).contains x = r.contains x := by
        rw [contains, entryOf?_push, contains]
      have htaken : ids.filter (r.push frame id).canTake = ids.filter r.canTake :=
        List.filter_congr hrest
      have hfailed : (ids.filter fun x => (r.push frame id).contains x && !(r.push frame id).canTake x) =
          ids.filter fun x => r.contains x && !r.canTake x :=
        List.filter_congr fun x hx => by rw [hcontains, hrest x hx]
      rw [if_pos rfl, ih (h.push id frame) hids, htaken, hfailed, List.filter_cons_of_pos htake,
        List.filter_cons_of_neg (by simp [htake]), List.length_cons, List.foldl_cons,
          Nat.add_right_comm]
      rfl
    | false =>
      rw [if_neg Bool.false_ne_true, List.filter_cons_of_neg (by simp [htake])]
      cases hin : r.contains id with
      | true =>
        rw [if_pos rfl, ih h hids, List.filter_cons_of_pos (by simp [htake, hin])]
        simp
      | false =>
        rw [if_neg Bool.false_ne_true, ih h hids, List.filter_cons_of_neg (by simp [hin])]

/-- To remove a session that is not registered is to do nothing. -/
theorem foldl_unregister_registered (r : Registry) (p : Uuid → Bool) (ids : List Uuid)
    (s : Registry) (hs : ∀ x, r.contains x = false → s.contains x = false) :
    (ids.filter fun x => r.contains x && p x).foldl (fun r id => (r.unregister id).2) s =
      (ids.filter p).foldl (fun r id => (r.unregister id).2) s := by
  induction ids generalizing s with
  | nil => rfl
  | cons id ids ih =>
    have hless (x : Uuid) (hx : r.contains x = false) : (s.unregister id).2.contains x = false := by
      have hsx := hs x hx
      rw [contains] at hsx ⊢
      rw [entryOf?_unregister]
      split
      · rfl
      · exact hsx
    cases hp : p id with
    | false => rw [List.filter_cons_of_neg (by simp [hp]), List.filter_cons_of_neg (by simp [hp]), ih s hs]
    | true =>
      rw [List.filter_cons_of_pos (p := p) hp, List.foldl_cons]
      cases hin : r.contains id with
      | true => rw [List.filter_cons_of_pos (by simp [hp, hin]), List.foldl_cons, ih _ hless]
      | false =>
        have hnone : s.entryOf? id = none := by
          have hout := hs id hin
          rwa [contains, Option.isSome_eq_false_iff, Option.isNone_iff_eq_none] at hout
        have hsame : (s.unregister id).2 = s := by rw [unregister, hnone]
        rw [List.filter_cons_of_neg (by simp [hin]), ih s hs, hsame]

/-- The pass in two parts: frames for all who have room, then the removal of all
others. -/
theorem Wired.deliverAlong_eq {r : Registry} (h : r.Wired) {ids : List Uuid} (hids : ids.Nodup)
    (frame : String) : r.deliverAlong ids frame =
      ((ids.filter r.canTake).length,
        (ids.filter (!r.canTake ·)).foldl (fun r id => (r.unregister id).2)
          ((ids.filter r.canTake).foldl (Registry.push frame) r)) := by
  have hpushed (x : Uuid) (hx : r.contains x = false) :
      ((ids.filter r.canTake).foldl (Registry.push frame) r).contains x = false := by
    rw [foldl_push]
    exact hx
  rw [deliverAlong, h.foldl_attempt frame hids, Nat.zero_add, List.nil_append,
    foldl_unregister_registered r (!r.canTake ·) _ _ hpushed]

/-- A delivery is the pass along the order in which its audience is listed. -/
theorem Wired.deliver_eq_deliverAlong {r : Registry} (h : r.Wired) (a : Audience) (frame : String) :
    r.deliver a frame = r.deliverAlong (r.resolve a) frame := by
  rw [h.deliverAlong_eq (r.resolve_nodup a)]
  rfl

/-! ## What a pass leaves behind -/

theorem mem_sessionsOf_unregister_iff (r : Registry) (id u x : Uuid) :
    x ∈ (r.unregister id).2.sessionsOf u ↔
      x ∈ r.sessionsOf u ∧ ¬ (x = id ∧ ∃ e, r.entryOf? x = some e ∧ e.userId = u) := by
  unfold unregister
  cases he : r.entryOf? id with
  | none =>
    refine (and_iff_left ?_).symm
    rintro ⟨rfl, e, hx, -⟩
    rw [he] at hx
    cases hx
  | some e =>
    rw [mem_sessionsOf_removeEntry]
    refine and_congr_right fun _ => not_congr ?_
    constructor
    · rintro ⟨rfl, rfl⟩
      exact ⟨rfl, e, he, rfl⟩
    · rintro ⟨rfl, e', hx, rfl⟩
      cases he.symm.trans hx
      exact ⟨rfl, rfl⟩

/-- Sessions that are removed are taken out of the index, each at its own
user. -/
theorem mem_sessionsOf_foldl_unregister (ids : List Uuid) (r : Registry) (u x : Uuid) :
    x ∈ (ids.foldl (fun r id => (r.unregister id).2) r).sessionsOf u ↔
      x ∈ r.sessionsOf u ∧ ¬ (x ∈ ids ∧ ∃ e, r.entryOf? x = some e ∧ e.userId = u) := by
  induction ids generalizing r with
  | nil => simp
  | cons id ids ih =>
    rw [List.foldl_cons, ih, mem_sessionsOf_unregister_iff, entryOf?_unregister, List.mem_cons,
      and_assoc]
    refine and_congr_right fun _ => ?_
    by_cases hid : x = id <;> simp [hid]

/-- What a pass over some sessions leaves behind, read off the registry before
it. The order of the pass does not show in it. -/
structure Passed (r : Registry) (ids : List Uuid) (frame : String) (after : Registry) : Prop where
  entry : ∀ x, after.entryOf? x = if x ∈ ids ∧ r.canTake x = false then none else r.entryOf? x
  link : ∀ n, after.link? n = (r.link? n).map fun l =>
    let offered :=
      if n ∈ (ids.filter r.canTake).filterMap r.linkOf? then l.offer r.capacity frame else l
    if n ∈ (ids.filter fun x => !r.canTake x).filterMap r.linkOf? then offered.cancel else offered
  listed : ∀ u x, x ∈ after.sessionsOf u ↔ x ∈ r.sessionsOf u ∧
    ¬ (x ∈ ids ∧ r.canTake x = false ∧ ∃ e, r.entryOf? x = some e ∧ e.userId = u)
  capacity : after.capacity = r.capacity
  closing : after.closing = r.closing
  links : after.links.length = r.links.length

theorem Wired.passed {r : Registry} (h : r.Wired) {ids : List Uuid} (hids : ids.Nodup)
    (frame : String) :
    r.Passed ids frame (r.deliverAlong ids frame).2 := by
  have htaken : ((ids.filter r.canTake).filterMap r.linkOf?).Nodup :=
    (hids.filter _).filterMap fun x y n hx hy => h.linkOf?_inj hx hy
  rw [h.deliverAlong_eq hids, foldl_push]
  constructor
  · intro x
    rw [entryOf?_foldl_unregister]
    simp only [List.mem_filter, Bool.not_eq_true']
    rfl
  · intro n
    rw [link?_foldl_unregister, link?, getElem?_foldl_modify _ htaken]
    by_cases hn : n ∈ (ids.filter r.canTake).filterMap r.linkOf?
    · simp only [if_pos hn, Option.map_map]
      rfl
    · simp only [if_neg hn]
      rfl
  · intro u x
    rw [mem_sessionsOf_foldl_unregister]
    simp only [List.mem_filter, Bool.not_eq_true', and_assoc]
    rfl
  · rw [capacity_foldl_unregister]
  · rw [closing_foldl_unregister]
  · rw [length_links_foldl_unregister]
    exact length_foldl_modify _ _ _

/-- The link of a session is among those of some sessions when the session is
among them. -/
theorem Wired.mem_links_iff {r : Registry} (h : r.Wired) {ids : List Uuid} {p : Uuid → Bool}
    {x : Uuid} {n : Nat}
    (hx : r.linkOf? x = some n) : n ∈ (ids.filter p).filterMap r.linkOf? ↔ x ∈ ids ∧
      p x = true := by
  simp only [List.mem_filterMap, List.mem_filter]
  constructor
  · rintro ⟨y, hy, hlink⟩
    obtain rfl := h.linkOf?_inj hlink hx
    exact hy
  · exact fun hin => ⟨x, hin, hx⟩

/-! ## The effect of a delivery -/

/-- The effect of a delivery: what becomes of the sessions that the audience
denotes, that nothing else changes, and what is counted. -/
structure Delivered (r : Registry) (a : Audience) (frame : String) (count : Nat)
    (after : Registry) :
    Prop where
  /-- A session of the audience with an open queue that has room has the frame
  once more, at the end; one without room is removed and told to stop, and its
  queue stays. -/
  target : ∀ x e, r.entryOf? x = some e → r.Denotes a x → ∃ l, r.link? e.link = some l ∧
    if l.hasRoom r.capacity then
      after.entryOf? x = some e ∧ after.link? e.link = some { l with queue := l.queue ++ [frame] }
    else after.entryOf? x = none ∧ after.link? e.link = some { l with cancelled := true }
  /-- The other sessions are registered as they were, -/
  entry : ∀ x, ¬ r.Denotes a x → after.entryOf? x = r.entryOf? x
  /-- and the links of all others are as they were. -/
  link : ∀ n, (∀ x, r.Denotes a x → r.linkOf? x ≠ some n) → after.link? n = r.link? n
  /-- Sessions are listed for users as they were, but for those that were
  removed, each at its user. -/
  listed : ∀ u x, x ∈ after.sessionsOf u ↔ x ∈ r.sessionsOf u ∧
    ¬ (r.Denotes a x ∧ r.canTake x = false ∧ ∃ e, r.entryOf? x = some e ∧ e.userId = u)
  capacity : after.capacity = r.capacity
  closing : after.closing = r.closing
  links : after.links.length = r.links.length
  /-- The queues that have grown are counted. -/
  count : count = ((List.range r.links.length).filter fun n => after.queue? n ≠ r.queue? n).length

theorem Wired.delivered {r : Registry} (h : r.Wired) (a : Audience) (frame : String) :
    r.Delivered a frame (r.deliver a frame).1 (r.deliver a frame).2 := by
  have hcount := h.deliver_changed a frame
  rw [h.deliver_eq_deliverAlong] at hcount ⊢
  have hpassed := h.passed (r.resolve_nodup a) frame
  refine ⟨?_, ?_, ?_, ?_, hpassed.capacity, hpassed.closing, hpassed.links, hcount⟩
  · intro x e he hdenotes
    obtain ⟨-, hx⟩ := denotes_iff.1 hdenotes
    have hlink := linkOf?_of_entryOf? he
    have hlt := h.bound he
    have hl : r.link? e.link = some r.links[e.link] := List.getElem?_eq_getElem hlt
    have hroom := canTake_of_linkOf? hlink hl
    refine ⟨_, hl, ?_⟩
    rw [hpassed.entry, hpassed.link, hl, Option.map_some, ← hroom]
    simp only [h.mem_links_iff hlink, hx, true_and]
    cases htake : r.canTake x with
    | true => simp [he, Link.offer, ← hroom, htake]
    | false => simp [Link.cancel]
  · intro x hnot
    rw [hpassed.entry]
    by_cases hx : x ∈ r.resolve a ∧ r.canTake x = false
    · -- the audience may list the session, but then it is not registered
      have hnone : r.contains x = false := by
        by_contra hin
        exact hnot (denotes_iff.2 ⟨by simpa using hin, hx.1⟩)
      rw [contains, Option.isSome_eq_false_iff, Option.isNone_iff_eq_none] at hnone
      rw [if_pos hx, hnone]
    · rw [if_neg hx]
  · intro n hother
    have hout (p : Uuid → Bool) : n ∉ ((r.resolve a).filter p).filterMap r.linkOf? := by
      intro hn
      obtain ⟨x, hx, hlink⟩ := List.mem_filterMap.1 hn
      obtain ⟨e, he, -⟩ := entryOf?_of_linkOf? hlink
      exact hother x (denotes_iff.2 ⟨contains_of_entryOf? he, (List.mem_filter.1 hx).1⟩) hlink
    rw [hpassed.link]
    simp only [hout, if_false, Option.map_id']
  · intro u x
    rw [hpassed.listed]
    refine and_congr_right fun _ => not_congr ?_
    constructor
    · rintro ⟨hx, htake, e, he, hu⟩
      exact ⟨denotes_iff.2 ⟨contains_of_entryOf? he, hx⟩, htake, e, he, hu⟩
    · rintro ⟨hdenotes, htake, hentry⟩
      exact ⟨(denotes_iff.1 hdenotes).2, htake, hentry⟩

/-! ## What it does not depend on -/

/-- Two registries hold the same, in whatever order their maps and sets are gone
through. -/
structure Same (r s : Registry) : Prop where
  entry : ∀ x, r.entryOf? x = s.entryOf? x
  listed : ∀ u x, x ∈ r.sessionsOf u ↔ x ∈ s.sessionsOf u
  links : r.links = s.links
  capacity : r.capacity = s.capacity
  closing : r.closing = s.closing

section
variable {r s : Registry} (h : r.Same s)
include h

theorem Same.linkOf? : r.linkOf? = s.linkOf? := by
  funext x
  rw [Registry.linkOf?, h.entry, Registry.linkOf?]

theorem Same.canTake : r.canTake = s.canTake := by
  funext x
  simp only [Registry.canTake, h.entry, link?, h.links, h.capacity]

theorem Same.mem_resolve (a : Audience) (x : Uuid) : x ∈ r.resolve a ↔ x ∈ s.resolve a := by
  have hkey : x ∈ r.sessions.map Prod.fst ↔ x ∈ s.sessions.map Prod.fst := by
    have hentry := h.entry x
    unfold entryOf? at hentry
    rw [mem_keys_iff_lookup, mem_keys_iff_lookup, hentry]
  cases a with
  | session id => exact Iff.rfl
  | users ids => simp only [resolve, List.mem_eraseDups, List.mem_flatMap, h.listed]
  | channel members origin =>
    simp only [resolve, List.mem_eraseDups, List.mem_cons, List.mem_flatMap, h.listed]
  | everyone => simpa only [resolve, List.mem_eraseDups] using hkey

theorem Same.wired (hr : r.Wired) : s.Wired :=
  hr.of_entries (fun x e he => (h.entry x).trans he) (by rw [h.links])

/-- Registries that hold the same, gone through in any order of the same
sessions, come to the same. -/
theorem Same.same_deliverAlong (hr : r.Wired) {ids order : List Uuid} (hids : ids.Nodup)
    (horder : order.Nodup) (hmem : ∀ x, x ∈ ids ↔ x ∈ order) (frame : String) :
    (r.deliverAlong ids frame).1 = (s.deliverAlong order frame).1 ∧
      (r.deliverAlong ids frame).2.Same (s.deliverAlong order frame).2 := by
  have hperm : ids.Perm order := (List.perm_ext_iff_of_nodup hids horder).2 hmem
  have hleft := hr.passed hids frame
  have hright := (h.wired hr).passed horder frame
  -- links are taken and given up by number, whatever the order in which the numbers come up
  have hlinks (p : Uuid → Bool) (n : Nat) :
      n ∈ (ids.filter p).filterMap s.linkOf? ↔ n ∈ (order.filter p).filterMap s.linkOf? :=
    ((hperm.filter p).filterMap _).mem_iff
  refine ⟨?_, ?_, ?_, ?_, ?_, ?_⟩
  · rw [hr.deliverAlong_eq hids, (h.wired hr).deliverAlong_eq horder, h.canTake]
    exact (hperm.filter _).length_eq
  · intro x
    simp only [hleft.entry, hright.entry, hmem, h.canTake, h.entry]
  · intro u x
    simp only [hleft.listed, hright.listed, hmem, h.canTake, h.entry, h.listed]
  · refine List.ext_getElem? fun n => ?_
    have hl := hleft.link n
    have hl' := hright.link n
    simp only [h.canTake, h.linkOf?, hlinks, h.capacity, link?, h.links] at hl hl'
    rw [hl, hl']
  · rw [hleft.capacity, hright.capacity, h.capacity]
  · rw [hleft.closing, hright.closing, h.closing]

end

/-- A delivery comes to the same whatever the order in which maps and sets are
gone through: in every registry that holds the same it is the pass over the
sessions as they are listed there, and every pass over these sessions, in any
order, comes to the same. -/
def OrderFree (r : Registry) (a : Audience) (frame : String) : Prop :=
  ∀ s, r.Same s → s.deliver a frame = s.deliverAlong (s.resolve a) frame ∧
    ∀ order : List Uuid, order.Nodup → (∀ x, x ∈ order ↔ x ∈ s.resolve a) →
      (r.deliver a frame).1 = (s.deliverAlong order frame).1 ∧
        (r.deliver a frame).2.Same (s.deliverAlong order frame).2

theorem Wired.orderFree {r : Registry} (h : r.Wired) (a : Audience) (frame : String) :
    r.OrderFree a frame := by
  intro s hsame
  refine ⟨(hsame.wired h).deliver_eq_deliverAlong a frame, fun order horder hmem => ?_⟩
  rw [h.deliver_eq_deliverAlong]
  exact hsame.same_deliverAlong h (r.resolve_nodup a) horder
    (fun x => (hsame.mem_resolve a x).trans (hmem x).symm) frame

/-- Whatever is changed about one link, how full it is or whether it is open, a
delivery leaves the sessions with other links, and all other links, as it would
have without the change. -/
def Isolating (r : Registry) (a : Audience) (frame : String) : Prop :=
  ∀ n f,
    let changed := r.modifyLink n f
    (∀ x, r.linkOf? x ≠ some n →
      (changed.deliver a frame).2.entryOf? x = (r.deliver a frame).2.entryOf? x ∧
        ∀ u, x ∈ (changed.deliver a frame).2.sessionsOf u ↔
          x ∈ (r.deliver a frame).2.sessionsOf u) ∧
      ∀ m, m ≠ n → (changed.deliver a frame).2.link? m = (r.deliver a frame).2.link? m

theorem Wired.isolating {r : Registry} (h : r.Wired) (a : Audience) (frame : String) :
    r.Isolating a frame := by
  intro n f
  have hwired := h.modifyLink n f
  have hlink {m : Nat} (hm : m ≠ n) : (r.modifyLink n f).link? m = r.link? m := by
    rw [link?_modifyLink]
    simp [hm.symm]
  have htake {x : Uuid} (hx : r.linkOf? x ≠ some n) :
      (r.modifyLink n f).canTake x = r.canTake x := by
    have hentry : (r.modifyLink n f).entryOf? x = r.entryOf? x := rfl
    have hcapacity : (r.modifyLink n f).capacity = r.capacity := rfl
    cases he : r.entryOf? x with
    | none => simp only [canTake, hentry, he]
    | some e =>
      have hne : e.link ≠ n := fun hn => hx (hn ▸ linkOf?_of_entryOf? he)
      simp only [canTake, hentry, hcapacity, he, hlink hne]
  dsimp only
  rw [h.deliver_eq_deliverAlong, hwired.deliver_eq_deliverAlong]
  have hleft := hwired.passed (r.resolve_nodup a) frame
  have hright := h.passed (r.resolve_nodup a) frame
  refine ⟨fun x hx => ⟨?_, fun u => ?_⟩, fun m hm => ?_⟩
  · rw [hright.entry, ← htake hx]
    exact hleft.entry x
  · rw [hright.listed, ← htake hx]
    exact hleft.listed u x
  · -- a session with another link has room after the change when it had before
    have hsame {p q : Uuid → Bool} (hpq : ∀ x, r.linkOf? x ≠ some n → p x = q x) :
        m ∈ ((r.resolve a).filter p).filterMap r.linkOf? ↔
          m ∈ ((r.resolve a).filter q).filterMap r.linkOf? := by
      simp only [List.mem_filterMap, List.mem_filter]
      refine exists_congr fun x => and_congr_left fun hxm => and_congr_right fun _ => ?_
      rw [hpq x fun hxn => hm (Option.some.inj (hxm.symm.trans hxn))]
    rw [hright.link, ← hlink hm]
    refine (hleft.link m).trans ?_
    congr 1
    funext l
    have htaken := hsame fun x => htake (x := x)
    have hfailed := hsame fun x hx => congrArg (!·) (htake (x := x) hx)
    simp only [← htaken, ← hfailed]
    rfl

end Registry

/-! ## Every delivery -/

def Audience.Includes (a : Audience) (x userId : Uuid) : Prop :=
  match a with
  | .session id => x = id
  | .users ids => userId ∈ ids
  | .channel members origin => x = origin ∨ userId ∈ members
  | .everyone => True

namespace Registry

/-- Where each session is always registered for the same user, an audience
denotes the sessions of its users. -/
theorem Indexed.denotes_iff {r : Registry} {owner : Uuid → Uuid} (h : r.Indexed owner)
    (a : Audience)
    (x : Uuid) : r.Denotes a x ↔ ∃ e, r.entryOf? x = some e ∧ a.Includes x e.userId := by
  -- a session that is registered is listed for the users that it is registered for, which is one
  have hlisted (e : Entry) (he : r.entryOf? x = some e) (ids : List Uuid) :
      (∃ u ∈ ids, x ∈ r.sessionsOf u) ↔ e.userId ∈ ids := by
    constructor
    · rintro ⟨u, hu, hx⟩
      obtain ⟨e', he', rfl⟩ := h.listed.1 hx
      cases he.symm.trans he'
      exact hu
    · exact fun hin => ⟨_, hin, h.listed.2 ⟨e, he, rfl⟩⟩
  unfold Denotes contains Audience.Includes
  rw [Option.isSome_iff_exists]
  constructor
  · rintro ⟨⟨e, he⟩, ha⟩
    refine ⟨e, he, ?_⟩
    cases a <;> simp_all
  · rintro ⟨e, he, ha⟩
    refine ⟨⟨e, he⟩, ?_⟩
    cases a <;> simp_all

/-- **What a delivery does, exactly.** In every registry that can come about,
for every audience, with repetitions and with sessions and users that are not
there, and every frame: the sessions that the audience denotes get the frame
once where their queue is open and has room, and are removed and told to stop
where not; nothing else changes, and those who got it are counted. The order in
which maps and sets are gone through plays no part, and how full or closed one
queue is makes no difference to other sessions. The sessions that are denoted
are those registered for the users of the audience, where each session is always
registered for the same user. -/
theorem delivery_exact (capacity : Nat) (traffic : List Traffic) (a : Audience) (frame : String) :
    let r := (empty capacity).run traffic
    r.Delivered a frame (r.deliver a frame).1 (r.deliver a frame).2 ∧ r.OrderFree a frame ∧
      r.Isolating a frame ∧
      ∀ owner : Uuid → Uuid, (∀ id u, .register id u ∈ traffic → u = owner id) →
        ∀ x, r.Denotes a x ↔ ∃ e, r.entryOf? x = some e ∧ a.Includes x e.userId := by
  intro r
  have hwired : r.Wired := (wired_empty capacity).run traffic
  refine ⟨hwired.delivered a frame, hwired.orderFree a frame, hwired.isolating a frame, ?_⟩
  intro owner howner x
  have hindexed : r.Indexed owner := (indexed_empty capacity owner).run howner
  exact hindexed.denotes_iff a x

/-- Of two users, one named twice, and one that is not there: two sessions have
room, the third falls behind. -/
example :
    let r := (empty 1).run [.register (.ofNat 7) (.ofNat 1), .register (.ofNat 8) (.ofNat 1),
      .register (.ofNat 9) (.ofNat 2), .deliver (.session (.ofNat 9)) "a"]
    let d := r.deliver (.users [.ofNat 1, .ofNat 2, .ofNat 1, .ofNat 5]) "b"
    d.1 = 2 ∧ [0, 1, 2].map d.2.queue? = [some ["b"], some ["b"], some ["a"]] ∧
      d.2.contains (.ofNat 9) = false := by
  decide +kernel

end ChatServer.Delivery.Registry

