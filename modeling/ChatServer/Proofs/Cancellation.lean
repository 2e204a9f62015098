import ChatServer.Proofs.Registry
import Mathlib.Data.List.Induction

/-!
# Who is told to stop

A worker is told to stop when the server closes, or when the registration that
its link belongs to is removed from the table. A registration that was only
replaced lives on outside the table: nothing but the closing of the server
reaches its link any more.

* `Wired.link?_deliver`: what a delivery does to every link.
* `Wired.cancelled_step`: what one step does to the mark of a link.
* `cancellation_law`: over whole runs, a link is cancelled exactly when the
  server has been closed or the link's own registration was removed.
-/
namespace ChatServer.Delivery.Registry

/-- The mark of a link; none when no such link was handed out. -/
def cancelled? (r : Registry) (n : Nat) : Option Bool := (r.link? n).map Link.cancelled

/-- The links of the sessions that a delivery removes. -/
def evicted (r : Registry) (a : Audience) : List Nat :=
  ((r.resolve a).filter fun id => !r.canTake id).filterMap r.linkOf?

theorem linkOf?_of_entryOf? {r : Registry} {x : Uuid} {e : Entry} (h : r.entryOf? x = some e) :
    r.linkOf? x = some e.link := by
  rw [linkOf?, h, Option.map_some]

theorem Wired.lt_of_linkOf? {r : Registry} (h : r.Wired) {x : Uuid} {n : Nat}
    (hx : r.linkOf? x = some n) : n < r.links.length := by
  obtain ⟨e, he, rfl⟩ := entryOf?_of_linkOf? hx
  exact h.bound he

/-! ## Links along one change -/

theorem linkOf?_unregister (r : Registry) (id x : Uuid) :
    (r.unregister id).2.linkOf? x = if x = id then none else r.linkOf? x := by
  rw [linkOf?, entryOf?_unregister, linkOf?]
  split <;> rfl

theorem link?_unregister (r : Registry) (id : Uuid) (n : Nat) :
    (r.unregister id).2.link? n =
      (r.link? n).map fun l => if r.linkOf? id = some n then l.cancel else l := by
  unfold unregister linkOf?
  cases he : r.entryOf? id with
  | none => simp
  | some e =>
    refine (List.getElem?_modify ..).trans ?_
    simp only [link?, Option.map_some, Option.some.injEq]
    rfl

theorem link?_foldl_unregister (ids : List Uuid) (r : Registry) (n : Nat) :
    (ids.foldl (fun r id => (r.unregister id).2) r).link? n =
      (r.link? n).map fun l => if n ∈ ids.filterMap r.linkOf? then l.cancel else l := by
  induction ids generalizing r with
  | nil => simp
  | cons id ids ih =>
    -- a session that is removed has no link left to remove it by again
    have hmem : n ∈ (id :: ids).filterMap r.linkOf? ↔
        r.linkOf? id = some n ∨ n ∈ ids.filterMap (r.unregister id).2.linkOf? := by
      simp only [List.mem_filterMap, List.mem_cons, linkOf?_unregister]
      constructor
      · rintro ⟨x, rfl | hx, hn⟩
        · exact .inl hn
        · by_cases hid : x = id
          · exact .inl (hid ▸ hn)
          · exact .inr ⟨x, hx, by rwa [if_neg hid]⟩
      · rintro (hn | ⟨x, hx, hn⟩)
        · exact ⟨id, .inl rfl, hn⟩
        · by_cases hid : x = id
          · rw [if_pos hid] at hn
            cases hn
          · exact ⟨x, .inr hx, by rwa [if_neg hid] at hn⟩
    rw [List.foldl_cons, ih, link?_unregister, Option.map_map]
    congr 1
    funext l
    by_cases hhead : r.linkOf? id = some n <;>
      by_cases htail : n ∈ ids.filterMap (r.unregister id).2.linkOf? <;>
      simp [hmem, hhead, htail, Link.cancel]

/-- **What a delivery does to a link.** Links that it reaches have the frame
offered, and links of the sessions that it removes are cancelled. -/
theorem Wired.link?_deliver {r : Registry} (h : r.Wired) (a : Audience) (frame : String) (n : Nat) :
    (r.deliver a frame).2.link? n = (r.link? n).map fun l =>
      let offered := if n ∈ r.reached a then l.offer r.capacity frame else l
      if n ∈ r.evicted a then offered.cancel else offered := by
  have hoffered : ({ r with
      links := (r.reached a).foldl (fun links n => links.modify n (Link.offer r.capacity frame)) r.links
      } : Registry).link? n =
        (r.link? n).map fun l => if n ∈ r.reached a then l.offer r.capacity frame else l := by
    refine (getElem?_foldl_modify _ (h.nodup_reached a) _ n).trans ?_
    by_cases hn : n ∈ r.reached a <;> simp [hn, link?]
  rw [deliver_eq, link?_foldl_unregister, hoffered, Option.map_map]
  rfl

theorem mem_evicted {r : Registry} {a : Audience} {n : Nat} :
    n ∈ r.evicted a ↔ ∃ x ∈ r.resolve a, r.canTake x = false ∧ r.linkOf? x = some n := by
  simp only [evicted, List.mem_filterMap, List.mem_filter, Bool.not_eq_true', and_assoc]

theorem offer_cancelled (capacity : Nat) (frame : String) (l : Link) :
    (l.offer capacity frame).cancelled = l.cancelled := by
  unfold Link.offer
  split <;> rfl

/-! ## Removals -/

/-- What happens removes the registration that a link belongs to from the
table. -/
inductive Removal (r : Registry) (n : Nat) : Traffic → Prop
  | unregistered {id : Uuid} (hid : r.linkOf? id = some n) : Removal r n (.unregister id)
  /-- The session has no entry after a delivery. -/
  | evicted {a : Audience} {frame : String} {x : Uuid} (hx : r.linkOf? x = some n)
    (hgone : (r.deliver a frame).2.contains x = false) : Removal r n (.deliver a frame)

theorem Removal.linked {r : Registry} {n : Nat} {t : Traffic} (h : Removal r n t) :
    ∃ x, r.linkOf? x = some n := by
  cases h with
  | unregistered hid => exact ⟨_, hid⟩
  | evicted hx _ => exact ⟨_, hx⟩

theorem removal_deliver_iff {r : Registry} {a : Audience} {frame : String} {n : Nat} :
    Removal r n (.deliver a frame) ↔ n ∈ r.evicted a := by
  have hgone {x : Uuid} (hx : r.linkOf? x = some n) :
      (r.deliver a frame).2.contains x = false ↔ x ∈ r.resolve a ∧ r.canTake x = false := by
    obtain ⟨e, he, -⟩ := entryOf?_of_linkOf? hx
    rw [contains, entryOf?_deliver, he]
    simp only [List.mem_filter, Bool.not_eq_true']
    by_cases hout : x ∈ r.resolve a ∧ r.canTake x = false <;> simp [hout]
  rw [mem_evicted]
  constructor
  · intro hremoval
    cases hremoval with
    | evicted hx hno =>
      obtain ⟨hin, hfull⟩ := (hgone hx).1 hno
      exact ⟨_, hin, hfull, hx⟩
  · rintro ⟨x, hin, hfull, hx⟩
    exact .evicted hx ((hgone hx).2 ⟨hin, hfull⟩)

/-! ## One step -/

theorem length_links_deliver (r : Registry) (a : Audience) (frame : String) :
    (r.deliver a frame).2.links.length = r.links.length := by
  rw [deliver_eq, length_links_foldl_unregister]
  exact length_foldl_modify _ _ _

theorem length_links_register (r : Registry) (id userId : Uuid) :
    (r.register id userId).2.links.length = r.links.length + 1 :=
  List.length_append

/-- Only registrations hand out links. -/
theorem length_links_step (r : Registry) (t : Traffic) :
    (∃ id userId, t = .register id userId) ∨ (r.step t).links.length = r.links.length := by
  cases t with
  | register id userId => exact .inl ⟨id, userId, rfl⟩
  | unregister id => exact .inr (length_links_unregister r id)
  | deliver a frame => exact .inr (length_links_deliver r a frame)
  | closeAll => exact .inr (List.length_map ..)
  | take n => exact .inr (List.length_modify ..)
  | shut n => exact .inr (List.length_modify ..)
  | abandon n => exact .inr (List.length_modify ..)

theorem length_links_step_le (r : Registry) (t : Traffic) :
    r.links.length ≤ (r.step t).links.length := by
  rcases length_links_step r t with ⟨id, userId, rfl⟩ | hsame
  · rw [step, length_links_register]
    exact Nat.le_succ _
  · exact Nat.le_of_eq hsame.symm

theorem length_links_run_le (r : Registry) (traffic : List Traffic) :
    r.links.length ≤ (r.run traffic).links.length := by
  induction traffic generalizing r with
  | nil => exact Nat.le_refl _
  | cons t traffic ih => exact Nat.le_trans (length_links_step_le r t) (ih (r.step t))

/-- What a worker does at its end leaves every mark alone. -/
theorem cancelled?_modifyLink (r : Registry) (m : Nat) {f : Link → Link}
    (hf : ∀ l, (f l).cancelled = l.cancelled) (n : Nat) :
    (r.modifyLink m f).cancelled? n = r.cancelled? n := by
  have hlink : (r.modifyLink m f).link? n = (r.link? n).map fun l => if m = n then f l else l :=
    List.getElem?_modify ..
  rw [cancelled?, hlink, Option.map_map, cancelled?]
  congr 1
  funext l
  by_cases hm : m = n <;> simp [hm, hf]

theorem take_cancelled (l : Link) : ((l.take?.map Prod.snd).getD l).cancelled = l.cancelled := by
  unfold Link.take?
  split <;> rfl

/-- **One step of the law.** A link that was handed out is cancelled after a
step exactly when it was before, or the server closes, or its registration is
removed. -/
theorem Wired.cancelled_step {r : Registry} (h : r.Wired) (t : Traffic) {n : Nat}
    (hn : n < r.links.length) :
    (r.step t).cancelled? n = some true ↔
      r.cancelled? n = some true ∨ t = .closeAll ∨ Removal r n t := by
  have hlink : r.link? n = some r.links[n] := List.getElem?_eq_getElem hn
  -- what does nothing to marks is neither a closing nor a removal
  have quiet {t : Traffic} (hsame : (r.step t).cancelled? n =
    r.cancelled? n) (hclose : t ≠ .closeAll)
      (hremoval : ¬ Removal r n t) : (r.step t).cancelled? n = some true ↔
        r.cancelled? n = some true ∨ t = .closeAll ∨ Removal r n t := by
    simp [hsame, hclose, hremoval]
  cases t with
  | register id userId =>
    refine quiet ?_ (by simp) (fun hr => by cases hr)
    exact congrArg (Option.map Link.cancelled) (List.getElem?_append_left hn)
  | unregister id =>
    have hstep : (r.step (.unregister id)).cancelled? n =
        some (r.links[n].cancelled || decide (r.linkOf? id = some n)) := by
      rw [cancelled?, Registry.step, link?_unregister, hlink]
      by_cases hid : r.linkOf? id = some n <;> simp [hid, Link.cancel]
    have hremoval : Removal r n (.unregister id) ↔ r.linkOf? id = some n :=
      ⟨fun hr => by cases hr; assumption, .unregistered⟩
    rw [hstep, hremoval, cancelled?, hlink]
    simp
  | deliver a frame =>
    have hstep : (r.step (.deliver a frame)).cancelled? n =
        some (r.links[n].cancelled || decide (n ∈ r.evicted a)) := by
      rw [cancelled?, Registry.step, h.link?_deliver, hlink]
      by_cases hout : n ∈ r.evicted a <;> by_cases hin : n ∈ r.reached a <;>
        simp [hout, hin, Link.cancel, offer_cancelled]
    rw [hstep, removal_deliver_iff, cancelled?, hlink]
    simp
  | closeAll =>
    have hstep : (r.step .closeAll).cancelled? n = some true := by
      have : (r.step .closeAll).link? n = (r.link? n).map Link.cancel := List.getElem?_map ..
      rw [cancelled?, this, hlink]
      rfl
    simp [hstep]
  | take m => exact quiet (cancelled?_modifyLink r m take_cancelled n) (by simp) (fun hr => by cases hr)
  | shut m =>
    exact quiet (cancelled?_modifyLink r m (f := Link.shut) (fun _ => rfl) n) (by simp)
      (fun hr => by cases hr)
  | abandon m =>
    exact quiet (cancelled?_modifyLink r m (f := Link.abandon) (fun _ => rfl) n) (by simp)
      (fun hr => by cases hr)

/-- What the removal of one session leaves alone, so do the removals of many. -/
theorem foldl_unregister_of_removeEntry {α : Type} {f : Registry → α}
    (hf : ∀ (r : Registry) (id : Uuid) (e : Entry), f (r.removeEntry id e) = f r) (ids : List Uuid)
    (r : Registry) :
    f (ids.foldl (fun r id => (r.unregister id).2) r) = f r := by
  induction ids generalizing r with
  | nil => rfl
  | cons id ids ih =>
    rw [List.foldl_cons, ih, unregister]
    split
    · rfl
    · exact hf r id _

theorem closing_foldl_unregister (ids : List Uuid) (r : Registry) :
    (ids.foldl (fun r id => (r.unregister id).2) r).closing = r.closing :=
  foldl_unregister_of_removeEntry (f := Registry.closing) (fun _ _ _ => rfl) ids r

/-- Only the closing of the server changes whether it is closing. -/
theorem closing_step (r : Registry) (t : Traffic) :
    (r.step t).closing = true ↔ r.closing = true ∨ t = .closeAll := by
  cases t with
  | unregister id =>
    have : (r.unregister id).2.closing = r.closing := closing_foldl_unregister [id] r
    simp [step, this]
  | deliver a frame => simp [step, deliver_eq, closing_foldl_unregister]
  | closeAll => simp [step, closeAll]
  | register id userId => simp [step, register]
  | take n => simp [step, modifyLink]
  | shut n => simp [step, modifyLink]
  | abandon n => simp [step, modifyLink]

/-! ## Whole runs -/

theorem run_append (r : Registry) (traffic more : List Traffic) :
    r.run (traffic ++ more) = (r.run traffic).run more :=
  List.foldl_append

theorem run_concat (r : Registry) (traffic : List Traffic) (t : Traffic) :
    r.run (traffic ++ [t]) = (r.run traffic).step t :=
  run_append r traffic [t]

theorem closing_run (capacity : Nat) (traffic : List Traffic) :
    ((empty capacity).run traffic).closing = true ↔ .closeAll ∈ traffic := by
  induction traffic using List.reverseRecOn with
  | nil => simp [run, empty]
  | append_singleton traffic t ih =>
    rw [run_concat, closing_step, ih, List.mem_append, List.mem_singleton]
    exact or_congr_right eq_comm

/-- The registration of a link has been removed at some point of a run. -/
def Removed (capacity : Nat) (traffic : List Traffic) (n : Nat) : Prop :=
  ∃ before t, before ++ [t] <+: traffic ∧ Removal ((empty capacity).run before) n t

theorem removed_concat_iff {capacity : Nat} {traffic : List Traffic} {t : Traffic} {n : Nat} :
    Removed capacity (traffic ++ [t]) n ↔
      Removed capacity traffic n ∨ Removal ((empty capacity).run traffic) n t := by
  constructor
  · rintro ⟨before, t', hprefix, hremoval⟩
    rcases List.prefix_concat_iff.1 hprefix with heq | hprefix
    · obtain ⟨rfl, rfl⟩ := List.append_singleton_inj.1 heq
      exact .inr hremoval
    · exact .inl ⟨before, t', hprefix, hremoval⟩
  · rintro (⟨before, t', hprefix, hremoval⟩ | hremoval)
    · exact ⟨before, t', hprefix.trans (List.prefix_append ..), hremoval⟩
    · exact ⟨traffic, t, List.prefix_rfl, hremoval⟩

/-- What was removed had been handed out. -/
theorem Removed.lt {capacity : Nat} {traffic : List Traffic} {n : Nat}
    (h : Removed capacity traffic n) :
    n < ((empty capacity).run traffic).links.length := by
  obtain ⟨before, t, ⟨after, rfl⟩, hremoval⟩ := h
  obtain ⟨x, hx⟩ := hremoval.linked
  have hlt := ((wired_empty capacity).run before).lt_of_linkOf? hx
  rw [List.append_assoc, run_append]
  exact Nat.lt_of_lt_of_le hlt (length_links_run_le _ _)

/-- A link is cancelled exactly when the server has been closed, before or after
it was handed out, or its registration was removed. -/
theorem cancelled_run (capacity : Nat) (traffic : List Traffic) {n : Nat}
    (hn : n < ((empty capacity).run traffic).links.length) :
    ((empty capacity).run traffic).cancelled? n = some true ↔
      .closeAll ∈ traffic ∨ Removed capacity traffic n := by
  induction traffic using List.reverseRecOn with
  | nil => simp [run, empty] at hn
  | append_singleton traffic t ih =>
    have hwired := (wired_empty capacity).run traffic
    rw [run_concat] at hn ⊢
    rw [removed_concat_iff, List.mem_append, List.mem_singleton]
    by_cases hold : n < ((empty capacity).run traffic).links.length
    · rw [hwired.cancelled_step t hold, ih hold, eq_comm (a := t)]
      tauto
    · -- a link that is new was handed out by this step, and is cancelled if the server is closing
      have hnever : ¬ Removed capacity traffic n := fun hr => hold hr.lt
      have hnot : ¬ Removal ((empty capacity).run traffic) n t := fun hr =>
        hold (hwired.lt_of_linkOf? hr.linked.choose_spec)
      rcases length_links_step ((empty capacity).run traffic) t with ⟨id, userId, rfl⟩ | hsame
      · rw [Registry.step, length_links_register] at hn
        obtain rfl : n = ((empty capacity).run traffic).links.length := by omega
        have hfresh : (((empty capacity).run traffic).step (.register id userId)).cancelled?
            ((empty capacity).run traffic).links.length =
              some ((empty capacity).run traffic).closing :=
          congrArg (Option.map Link.cancelled) List.getElem?_concat_length
        simp [hfresh, closing_run, hnever, hnot]
      · omega

/-! ## Registrations outside the table -/

/-- The sessions after a step have the entries they had, or the one that the
step has made. -/
theorem entryOf?_step {r : Registry} {t : Traffic} {x : Uuid} {e : Entry}
    (h : (r.step t).entryOf? x = some e) :
    r.entryOf? x = some e ∨ ∃ userId, t = .register x userId ∧ e = ⟨userId, r.links.length⟩ := by
  cases t with
  | register id userId =>
    rw [Registry.step, entryOf?_register] at h
    split at h
    · next hid =>
      cases h
      exact .inr ⟨userId, by rw [hid], rfl⟩
    · exact .inl h
  | unregister id =>
    rw [Registry.step, entryOf?_unregister] at h
    split at h
    · cases h
    · exact .inl h
  | deliver a frame =>
    rw [Registry.step, entryOf?_deliver] at h
    split at h
    · cases h
    · exact .inl h
  | closeAll => exact .inl h
  | take m => exact .inl h
  | shut m => exact .inl h
  | abandon m => exact .inl h

def Unlinked (r : Registry) (n : Nat) : Prop := ∀ x, r.linkOf? x ≠ some n

/-- A registration that is replaced leaves its link to no session. -/
theorem Wired.unlinked_register {r : Registry} (h : r.Wired) {id : Uuid} {n : Nat}
    (hid : r.linkOf? id = some n) (userId : Uuid) : (r.register id userId).2.Unlinked n := by
  intro x hx
  obtain ⟨e, he, hlink⟩ := entryOf?_of_linkOf? hx
  rw [entryOf?_register] at he
  by_cases hx : x = id
  · rw [if_pos hx] at he
    cases he
    exact Nat.ne_of_gt (h.lt_of_linkOf? hid) hlink
  · rw [if_neg hx] at he
    exact hx (h.linkOf?_inj (by rw [linkOf?_of_entryOf? he, hlink]) hid)

/-- No step gives a link that was handed out to a session again. -/
theorem Unlinked.step {r : Registry} {n : Nat} (h : r.Unlinked n) (hn : n < r.links.length)
    (t : Traffic) : (r.step t).Unlinked n := by
  intro x hx
  obtain ⟨e, he, hlink⟩ := entryOf?_of_linkOf? hx
  rcases entryOf?_step he with hold | ⟨userId, -, rfl⟩
  · exact h x (by rw [linkOf?_of_entryOf? hold, hlink])
  · exact Nat.ne_of_gt hn hlink

theorem Unlinked.run {r : Registry} {n : Nat} (h : r.Unlinked n) (hn : n < r.links.length)
    (traffic : List Traffic) : (r.run traffic).Unlinked n := by
  induction traffic generalizing r with
  | nil => exact h
  | cons t traffic ih =>
    exact ih (h.step hn t) (Nat.lt_of_lt_of_le hn (length_links_step_le r t))

/-- Only the closing of the server reaches a link that is no session's. -/
theorem Unlinked.cancelled_run {r : Registry} {n : Nat} (h : r.Unlinked n) (hr : r.Wired)
    (hn : n < r.links.length) (traffic : List Traffic) :
    (r.run traffic).cancelled? n = some true ↔ r.cancelled? n = some true ∨
      .closeAll ∈ traffic := by
  induction traffic generalizing r with
  | nil => simp [Registry.run]
  | cons t traffic ih =>
    have hnot : ¬ Removal r n t := by
      intro hremoval
      obtain ⟨x, hx⟩ := hremoval.linked
      exact h x hx
    have hrest := ih (h.step hn t) (hr.step t) (Nat.lt_of_lt_of_le hn (length_links_step_le r t))
    rw [Registry.run, List.foldl_cons, ← Registry.run, hrest, hr.cancelled_step t hn, List.mem_cons,
      eq_comm (a := t)]
    tauto

/-- No delivery adds to the queue of a link that is no session's. -/
theorem Unlinked.queue?_deliver {r : Registry} {n : Nat} (h : r.Unlinked n) (hr : r.Wired)
    (a : Audience) (frame : String) : (r.deliver a frame).2.queue? n = r.queue? n := by
  have hmissed : n ∉ r.reached a := by
    intro hin
    obtain ⟨x, -, -, hx⟩ := mem_reached.1 hin
    exact h x hx
  rw [hr.deliver_queue]
  simp [hmissed]

theorem Wired.cancelled_mono {r : Registry} (h : r.Wired) (traffic : List Traffic) {n : Nat}
    (hn : r.cancelled? n = some true) : (r.run traffic).cancelled? n = some true := by
  induction traffic generalizing r with
  | nil => exact hn
  | cons t traffic ih =>
    have hlt : n < r.links.length := by
      obtain ⟨l, hl, -⟩ := Option.map_eq_some_iff.1 hn
      exact (List.getElem?_eq_some_iff.1 hl).1
    exact ih (h.step t) ((h.cancelled_step t hlt).2 (.inl hn))

/-! ## The law -/

/-- When links are cancelled, and what becomes of replaced registrations, at the
end of a run. -/
structure CancellationLaw (capacity : Nat) (traffic : List Traffic) : Prop where
  /-- A link that was handed out is cancelled when the server has been closed at
  any time, or the link's own registration was removed. -/
  cancelled : ∀ n < ((empty capacity).run traffic).links.length,
    ((empty capacity).run traffic).cancelled? n = some true ↔
      .closeAll ∈ traffic ∨ Removed capacity traffic n
  /-- Once a registration is replaced, only the closing of the server cancels
  its link, -/
  replaced : ∀ before id userId after n, before ++ .register id userId :: after = traffic →
    ((empty capacity).run before).linkOf? id = some n →
    (((empty capacity).run traffic).cancelled? n = some true ↔
      ((empty capacity).run before).cancelled? n = some true ∨ .closeAll ∈ after)
  /-- and its queue takes no further frame. -/
  silent : ∀ before id userId after n, before ++ .register id userId :: after = traffic →
    ((empty capacity).run before).linkOf? id = some n → ∀ a frame,
    (((empty capacity).run traffic).deliver a frame).2.queue? n =
      ((empty capacity).run traffic).queue? n
  /-- A link that is cancelled stays so. -/
  lasting : ∀ before n, before <+: traffic → ((empty capacity).run before).cancelled? n =
    some true →
    ((empty capacity).run traffic).cancelled? n = some true

/-- **The law of cancellation**, for every run of registrations, removals,
deliveries and closings, with the workers at their ends of the links. -/
theorem cancellation_law (capacity : Nat) (traffic : List Traffic) :
    CancellationLaw capacity traffic := by
  have hwired (traffic : List Traffic) : ((empty capacity).run traffic).Wired :=
    (wired_empty capacity).run traffic
  refine ⟨fun n hn => cancelled_run capacity traffic hn, ?_, ?_, ?_⟩
  · rintro before id userId after n rfl hid
    have hlt := (hwired before).lt_of_linkOf? hid
    have hsame : (((empty capacity).run before).register id userId).2.cancelled? n =
        ((empty capacity).run before).cancelled? n :=
      congrArg (Option.map Link.cancelled) (List.getElem?_append_left hlt)
    rw [run_append, ← hsame]
    exact ((hwired before).unlinked_register hid userId).cancelled_run
      ((hwired before).register id userId)
      (Nat.lt_of_lt_of_le hlt (length_links_step_le _ (.register id userId))) after
  · rintro before id userId after n rfl hid a frame
    have hlt := (hwired before).lt_of_linkOf? hid
    rw [run_append]
    refine Unlinked.queue?_deliver ?_ (run_append _ _ _ ▸ hwired _) a frame
    exact ((hwired before).unlinked_register hid userId).run
      (Nat.lt_of_lt_of_le hlt (length_links_step_le _ (.register id userId))) after
  · rintro before n ⟨after, rfl⟩ hn
    rw [run_append]
    exact (hwired before).cancelled_mono after hn

/-- Three registrations of two sessions of one user, with room for one frame
each; the first session is registered twice, and the second falls behind. -/
def sampleChurn : List Traffic :=
  [.register (.ofNat 8) (.ofNat 1), .register (.ofNat 9) (.ofNat 1),
    .register (.ofNat 8) (.ofNat 1),
    .deliver .everyone "a", .deliver (.session (.ofNat 9)) "b", .unregister (.ofNat 8),
    .register (.ofNat 7) (.ofNat 2)]

/-- The link of the registration that was replaced is not cancelled, those of
the session that fell behind and of the one that was unregistered are. -/
theorem cancellation_law_sample :
    CancellationLaw 1 sampleChurn ∧
      [0, 1, 2, 3].map ((empty 1).run sampleChurn).cancelled? =
        [some false, some true, some true, some false] :=
  ⟨cancellation_law 1 sampleChurn, by decide +kernel⟩

end ChatServer.Delivery.Registry

