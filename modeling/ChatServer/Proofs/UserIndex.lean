import ChatServer.Proofs.Cancellation

/-!
# The index of sessions by user

The registry keeps its sessions twice, by identifier and by user, and three
pieces of code write to both: a registration, a removal, and the removals at the
end of a delivery. The two agree in every state, as long as a session is always
registered for the same user.

* `Tidy.run`: each key stands once in either map, and no user is listed without
  a session.
* `Indexed.perm_sessions`: the sessions of all users are the sessions of the
  registry, each once.
* `indexConsistent_run`: all of this after every run.
-/
namespace ChatServer.Delivery.Registry

/-! ## Lists of pairs with distinct keys -/

section
variable {α : Type} {key : Uuid} {x : α} {xs : List (Uuid × α)}

theorem keys_put (key : Uuid) (x : α) (xs : List (Uuid × α)) :
    (put key x xs).map Prod.fst =
      if key ∈ xs.map Prod.fst then xs.map Prod.fst else xs.map Prod.fst ++ [key] := by
  induction xs with
  | nil => rfl
  | cons p xs ih =>
    obtain ⟨k, y⟩ := p
    by_cases hk : k = key
    · simp [put, hk]
    · have hne : ¬ key = k := fun h => hk h.symm
      by_cases hin : key ∈ xs.map Prod.fst
      · rw [if_pos hin] at ih
        simp [put, hk, ih, List.mem_cons_of_mem k hin]
      · rw [if_neg hin] at ih
        have hout : key ∉ k :: xs.map Prod.fst := List.not_mem_cons_of_ne_of_not_mem hne hin
        simp only [List.map_cons, put, if_neg hk, ih, if_neg hout, List.cons_append]

theorem nodup_keys_put (h : (xs.map Prod.fst).Nodup) : ((put key x xs).map Prod.fst).Nodup := by
  rw [keys_put]
  split
  · exact h
  · next hin => exact List.nodup_append.2 ⟨h, by simp, by rintro a ha b hb rfl; simp_all⟩

theorem nodup_keys_remove (h : (xs.map Prod.fst).Nodup) : ((remove key xs).map Prod.fst).Nodup :=
  (List.filter_sublist.map _).nodup h

theorem mem_put {p : Uuid × α} (h : p ∈ put key x xs) : p = (key, x) ∨ p ∈ xs := by
  induction xs with
  | nil => exact .inl (List.mem_singleton.1 h)
  | cons q xs ih =>
    obtain ⟨k, y⟩ := q
    rw [put] at h
    split at h
    · next hk =>
      subst hk
      rcases List.mem_cons.1 h with h | h
      · exact .inl h
      · exact .inr (List.mem_cons_of_mem _ h)
    · rcases List.mem_cons.1 h with h | h
      · exact .inr (h ▸ List.mem_cons_self)
      · exact (ih h).imp_right (List.mem_cons_of_mem _)

theorem mem_of_lookup (h : xs.lookup key = some x) : (key, x) ∈ xs := by
  obtain ⟨before, after, rfl, -⟩ := List.lookup_eq_some_iff.1 h
  exact List.mem_append_right _ List.mem_cons_self

theorem mem_keys_iff_lookup : key ∈ xs.map Prod.fst ↔ (xs.lookup key).isSome = true := by
  rw [List.lookup_isSome_iff, List.mem_map]
  constructor
  · rintro ⟨p, hp, rfl⟩
    exact ⟨p, hp, by simp⟩
  · rintro ⟨p, hp, hk⟩
    exact ⟨p, hp, (by simpa using hk : key = p.1).symm⟩

end

/-! ## The shape of the maps -/

/-- Either map has each key once; no user is listed without a session, or with
one twice. -/
structure Tidy (r : Registry) : Prop where
  sessions : (r.sessions.map Prod.fst).Nodup
  users : (r.byUser.map Prod.fst).Nodup
  listed : ∀ p ∈ r.byUser, p.2 ≠ [] ∧ p.2.Nodup

theorem tidy_empty (capacity : Nat) : (empty capacity).Tidy := by
  constructor <;> simp [empty]

section
variable {r : Registry} (h : r.Tidy)
include h

theorem Tidy.nodup_sessionsOf (u : Uuid) : (r.sessionsOf u).Nodup := by
  unfold sessionsOf
  cases hu : r.byUser.lookup u with
  | none => exact List.nodup_nil
  | some ids => exact (h.listed _ (mem_of_lookup hu)).2

theorem Tidy.register (id userId : Uuid) : (r.register id userId).2.Tidy := by
  refine ⟨nodup_keys_put h.sessions, nodup_keys_put h.users, fun p hp => ?_⟩
  rcases mem_put hp with rfl | hp
  · have hids := h.nodup_sessionsOf userId
    dsimp only
    split
    · next hin => exact ⟨List.ne_nil_of_mem hin, hids⟩
    · next hout => exact ⟨by simp, hids.append (by simp) (by simpa using hout)⟩
  · exact h.listed p hp

theorem Tidy.removeEntry (id : Uuid) (e : Entry) : (r.removeEntry id e).Tidy := by
  have hids : ((r.sessionsOf e.userId).filter (· ≠ id)).Nodup :=
    (h.nodup_sessionsOf e.userId).filter _
  refine ⟨nodup_keys_remove h.sessions, ?_, ?_⟩
  · simp only [Registry.removeEntry]
    split
    · exact nodup_keys_remove h.users
    · exact nodup_keys_put h.users
  · intro p hp
    simp only [Registry.removeEntry] at hp
    split at hp
    · exact h.listed p (List.mem_filter.1 hp).1
    · next hne =>
      rcases mem_put hp with rfl | hp
      · exact ⟨by simpa using hne, hids⟩
      · exact h.listed p hp

theorem Tidy.unregister (id : Uuid) : (r.unregister id).2.Tidy := by
  unfold Registry.unregister
  cases r.entryOf? id with
  | none => exact h
  | some e => exact h.removeEntry id e

theorem Tidy.of_links (links : List Link) : ({ r with links } : Registry).Tidy :=
  ⟨h.sessions, h.users, h.listed⟩

theorem Tidy.foldl_unregister (ids : List Uuid) :
    (ids.foldl (fun r id => (r.unregister id).2) r).Tidy := by
  induction ids generalizing r with
  | nil => exact h
  | cons id ids ih => exact ih (h.unregister id)

theorem Tidy.step (t : Traffic) : (r.step t).Tidy := by
  cases t with
  | register id userId => exact h.register id userId
  | unregister id => exact h.unregister id
  | deliver a frame =>
    rw [Registry.step, deliver_eq]
    exact (h.of_links _).foldl_unregister _
  | closeAll => exact ⟨h.sessions, h.users, h.listed⟩
  | take n => exact h.of_links _
  | shut n => exact h.of_links _
  | abandon n => exact h.of_links _

end

theorem Tidy.run {r : Registry} (h : r.Tidy) (traffic : List Traffic) : (r.run traffic).Tidy := by
  induction traffic generalizing r with
  | nil => exact h
  | cons t traffic ih => exact ih (h.step t)

/-! ## The two maps together -/

def Covers (r : Registry) (users : List Uuid) : Prop := ∀ u, r.sessionsOf u ≠ [] → u ∈ users

section
variable {r : Registry} {owner : Uuid → Uuid} (h : r.Indexed owner)
include h

theorem Indexed.contains_iff (x : Uuid) : r.contains x = true ↔ ∃ u, x ∈ r.sessionsOf u := by
  rw [contains, Option.isSome_iff_exists]
  constructor
  · rintro ⟨e, he⟩
    exact ⟨e.userId, h.listed.2 ⟨e, he, rfl⟩⟩
  · rintro ⟨u, hu⟩
    obtain ⟨e, he, -⟩ := h.listed.1 hu
    exact ⟨e, he⟩

/-- A session is listed for one user only. -/
theorem Indexed.user_unique {x u v : Uuid} (hu : x ∈ r.sessionsOf u) (hv : x ∈ r.sessionsOf v) :
    u = v := by
  obtain ⟨e, he, rfl⟩ := h.listed.1 hu
  obtain ⟨e', he', rfl⟩ := h.listed.1 hv
  rw [h.owned he, h.owned he']

theorem Indexed.mem_flatMap_iff {users : List Uuid} (hall : r.Covers users) (x : Uuid) :
    x ∈ users.flatMap r.sessionsOf ↔ x ∈ r.sessions.map Prod.fst := by
  have hkey : x ∈ r.sessions.map Prod.fst ↔ r.contains x = true := mem_keys_iff_lookup
  rw [hkey, h.contains_iff, List.mem_flatMap]
  constructor
  · rintro ⟨u, -, hx⟩
    exact ⟨u, hx⟩
  · rintro ⟨u, hx⟩
    exact ⟨u, hall u (List.ne_nil_of_mem hx), hx⟩

/-- The sessions of all users are the sessions of the registry. -/
theorem Indexed.perm_sessions (ht : r.Tidy) {users : List Uuid} (hnodup : users.Nodup)
    (hall : r.Covers users) : (users.flatMap r.sessionsOf).Perm (r.sessions.map Prod.fst) := by
  refine (List.perm_ext_iff_of_nodup ?_ ht.sessions).2 (h.mem_flatMap_iff hall)
  refine List.nodup_flatMap.2 ⟨fun u _ => ht.nodup_sessionsOf u, hnodup.imp ?_⟩
  intro u v hne x hu hv
  exact hne (h.user_unique hu hv)

theorem Indexed.mem_resolve_everyone {users : List Uuid} (hall : r.Covers users) (x : Uuid) :
    x ∈ r.resolve .everyone ↔ x ∈ r.resolve (.users users) := by
  simp only [resolve, List.mem_eraseDups]
  exact (h.mem_flatMap_iff hall x).symm

end

/-! ## Audiences of the same sessions -/

/-- Two deliveries of a frame come to the same: the same count, the same links
and the same sessions afterwards. -/
structure SameDelivery (r : Registry) (a b : Audience) (frame : String) : Prop where
  count : (r.deliver a frame).1 = (r.deliver b frame).1
  links : ∀ n, (r.deliver a frame).2.link? n = (r.deliver b frame).2.link? n
  entries : ∀ x, (r.deliver a frame).2.entryOf? x = (r.deliver b frame).2.entryOf? x

/-- Audiences that resolve to the same sessions have the same deliveries, in
whatever order the sessions are reached. -/
theorem Wired.sameDelivery {r : Registry} (h : r.Wired) {a b : Audience}
    (hab : ∀ x, x ∈ r.resolve a ↔ x ∈ r.resolve b) (frame : String) : r.SameDelivery a b frame := by
  have hreached (n : Nat) : n ∈ r.reached a ↔ n ∈ r.reached b := by
    simp only [mem_reached, hab]
  have hevicted (n : Nat) : n ∈ r.evicted a ↔ n ∈ r.evicted b := by
    simp only [mem_evicted, hab]
  refine ⟨?_, fun n => ?_, fun x => ?_⟩
  · rw [deliver_count, deliver_count]
    exact ((List.perm_ext_iff_of_nodup (h.nodup_reached a) (h.nodup_reached b)).2 hreached).length_eq
  · simp only [h.link?_deliver, hreached, hevicted]
  · simp only [entryOf?_deliver, List.mem_filter, hab]

/-! ## The index -/

/-- The index by user agrees with the sessions. -/
structure IndexConsistent (r : Registry) : Prop where
  /-- A session is listed for a user exactly when it is registered for the
  user. -/
  listed : ∀ x u, x ∈ r.sessionsOf u ↔ ∃ e, r.entryOf? x = some e ∧ e.userId = u
  /-- No user is listed without a session. -/
  nonempty : ∀ u ids, (u, ids) ∈ r.byUser → ids ≠ []
  /-- No session is listed for two users. -/
  single : ∀ x u v, x ∈ r.sessionsOf u → x ∈ r.sessionsOf v → u = v
  /-- The sessions that are live are those that are listed, -/
  contains : ∀ x, r.contains x = true ↔ ∃ u, x ∈ r.sessionsOf u
  /-- and there are as many. -/
  size : ∀ users : List Uuid, users.Nodup → r.Covers users →
    (users.flatMap r.sessionsOf).length = r.size
  /-- A frame for everyone is a frame for all users. -/
  everyone : ∀ users : List Uuid, r.Covers users → ∀ frame,
    r.SameDelivery .everyone (.users users) frame

/-- **The index is right after every run** in which each session is always
registered for the same user. -/
theorem indexConsistent_run (capacity : Nat) (traffic : List Traffic) (owner : Uuid → Uuid)
    (howner : ∀ id u, .register id u ∈ traffic → u = owner id) :
    ((empty capacity).run traffic).IndexConsistent := by
  have hwired : ((empty capacity).run traffic).Wired := (wired_empty capacity).run traffic
  have htidy : ((empty capacity).run traffic).Tidy := (tidy_empty capacity).run traffic
  have hindexed : ((empty capacity).run traffic).Indexed owner :=
    (indexed_empty capacity owner).run howner
  refine ⟨fun x u => hindexed.listed, fun u ids hin => (htidy.listed _ hin).1,
    fun x u v => hindexed.user_unique, hindexed.contains_iff, ?_, ?_⟩
  · intro users hnodup hall
    rw [(hindexed.perm_sessions htidy hnodup hall).length_eq, List.length_map]
    rfl
  · intro users hall frame
    exact hwired.sameDelivery (hindexed.mem_resolve_everyone hall) frame

/-- One of two sessions of a user falls behind and is removed, the other is
replaced and removed. -/
theorem indexConsistent_run_sample :
    ((empty 1).run sampleChurn).IndexConsistent ∧
      [.ofNat 1, .ofNat 2].map ((empty 1).run sampleChurn).sessionsOf = [[], [.ofNat 7]] := by
  refine ⟨indexConsistent_run 1 sampleChurn (fun id => if id = .ofNat 7 then .ofNat 2 else .ofNat 1) ?_,
    by decide +kernel⟩
  intro id u h
  simp only [sampleChurn, List.mem_cons, List.not_mem_nil, or_false, Traffic.register.injEq,
    reduceCtorEq, false_or] at h
  rcases h with ⟨rfl, rfl⟩ | ⟨rfl, rfl⟩ | ⟨rfl, rfl⟩ | ⟨rfl, rfl⟩ <;> decide +kernel

end ChatServer.Delivery.Registry

