import ChatServer.Proofs.Ledger
import ChatServer.Proofs.TimeOrder

/-!
# Timelines

The messages of a channel in order: by the instant of their time and, of one
instant, as they were appended. The store finds this order in a text column; the
invariant that ties the column to the instants is that the tables are written
from a sound ledger.

* `Ledger.listMessages_written`: on the tables of a sound ledger, a page is read
  from the ledger.
* `log_run`: the log of a channel in the ledger of a run holds what the run
  appended.
* `listMessages_latest`: after every run, a listing without a cursor is the end
  of the timeline of all messages that were appended to the channel, each as it
  was answered then.
-/
namespace ChatServer.Store

open Time

/-! ## The order of a channel -/

def Performed.posted? (channelId : Uuid) : Performed → Option Message
  | ⟨.appendMessage new, _, .ok (some message)⟩ =>
    if new.channelId = channelId then some message else none
  | _ => none

/-- The messages that were appended to a channel, as the answers gave them. -/
def posted (channelId : Uuid) (events : List Performed) : List Message :=
  events.filterMap (Performed.posted? channelId)

theorem posted_append (channelId : Uuid) (xs ys : List Performed) :
    posted channelId (xs ++ ys) = posted channelId xs ++ posted channelId ys :=
  List.filterMap_append

/-- In a log of messages, one comes before another: its time is earlier, or its
time is the same and it was appended first. -/
def Precedes (log : List Message) (a b : Message) : Prop :=
  ∃ i j : Nat, log[i]? = some a ∧ log[j]? = some b ∧
    (a.createdAt.instant.cmp b.createdAt.instant).then (compare i j) = .lt

/-- The messages of a log in the order of time and place. -/
structure IsTimeline (log listed : List Message) : Prop where
  perm : listed.Perm log
  ascending : listed.Pairwise (Precedes log)

/-- Messages keep their order when others are appended. -/
theorem Precedes.grow {log log' : List Message} {a b : Message} (h : Precedes log a b)
    (hlog : log <+: log') : Precedes log' a b := by
  obtain ⟨more, rfl⟩ := hlog
  obtain ⟨i, j, hi, hj, hlt⟩ := h
  exact ⟨i, j, by rw [List.getElem?_append_left (List.getElem?_eq_some_iff.1 hi).1, hi],
    by rw [List.getElem?_append_left (List.getElem?_eq_some_iff.1 hj).1, hj], hlt⟩

theorem Precedes.mem_left {log : List Message} {a b : Message} (h : Precedes log a b) :
    a ∈ log := by
  obtain ⟨i, -, hi, -⟩ := h
  exact List.mem_of_getElem? hi

section
variable {log : List Message} (hlog : log.Nodup)
include hlog

theorem place_unique {i j : Nat} {a : Message} (hi : log[i]? = some a) (hj : log[j]? = some a) :
    i = j :=
  (List.getElem?_inj (List.getElem?_eq_some_iff.1 hi).1 hlog).1 (hi.trans hj.symm)

theorem Precedes.asymm {a b : Message} (h : Precedes log a b) : ¬ Precedes log b a := by
  rintro ⟨j', i', hj', hi', hgt⟩
  obtain ⟨i, j, hi, hj, hlt⟩ := h
  obtain rfl := place_unique hlog hi hi'
  obtain rfl := place_unique hlog hj hj'
  rw [cmp_swap a.createdAt.instant, ← Nat.compare_swap i j, ← Ordering.swap_then, hlt] at hgt
  cases hgt

theorem Precedes.irrefl (a : Message) : ¬ Precedes log a a :=
  fun h => h.asymm hlog h

theorem Precedes.trans {a b c : Message} (hab : Precedes log a b) (hbc : Precedes log b c) :
    Precedes log a c := by
  obtain ⟨i, j, hi, hj, hlt⟩ := hab
  obtain ⟨j', l, hj', hl, hlt'⟩ := hbc
  obtain rfl := place_unique hlog hj hj'
  refine ⟨i, l, hi, hl, ?_⟩
  rw [Ordering.then_eq_lt, Nat.compare_eq_lt] at hlt hlt' ⊢
  rcases hlt with hlt | ⟨heq, hij⟩
  · rcases hlt' with hlt' | ⟨heq', -⟩
    · exact .inl (Std.TransCmp.lt_trans hlt hlt')
    · exact .inl (Std.TransCmp.lt_of_lt_of_eq hlt heq')
  · rcases hlt' with hlt' | ⟨heq', hjl⟩
    · exact .inl (Std.TransCmp.lt_of_eq_of_lt heq hlt')
    · exact .inr ⟨Std.TransCmp.eq_trans heq heq', by omega⟩

/-- A log of distinct messages has one timeline. -/
theorem IsTimeline.unique {xs ys : List Message} (hx : IsTimeline log xs) (hy : IsTimeline log ys) :
    xs = ys :=
  (hx.perm.trans hy.perm.symm).eq_of_pairwise (fun _ _ _ _ h h' => (h.asymm hlog h').elim)
    hx.ascending hy.ascending

end

/-! ## Sorting by time -/

/-- A message is not later than another one. -/
def notLater (a b : Message) : Bool := (a.createdAt.instant.cmp b.createdAt.instant).isLE

theorem notLater_trans (a b c : Message) (hab : notLater a b = true) (hbc : notLater b c = true) :
    notLater a c = true :=
  Std.TransCmp.isLE_trans hab hbc

theorem notLater_total (a b : Message) : (notLater a b || notLater b a) = true :=
  isLE_cmp_total a.createdAt.instant b.createdAt.instant

theorem precedes_of_zipIdxLE {log : List Message} {a b : Message × Nat} (ha : a ∈ log.zipIdx)
    (hb : b ∈ log.zipIdx) (h : List.zipIdxLE notLater a b = true) (hne : a.2 ≠ b.2) :
    Precedes log a.1 b.1 := by
  refine ⟨a.2, b.2, List.mem_zipIdx_iff_getElem?.1 ha, List.mem_zipIdx_iff_getElem?.1 hb, ?_⟩
  unfold List.zipIdxLE notLater at h
  rw [cmp_swap a.1.createdAt.instant] at h
  cases hc : a.1.createdAt.instant.cmp b.1.createdAt.instant with
  | lt => rfl
  | eq =>
    have hle : a.2 ≤ b.2 := by simpa [hc] using h
    rw [Ordering.eq_then, Nat.compare_eq_lt]
    omega
  | gt => simp [hc] at h

/-- A stable sort by time gives the timeline. -/
theorem isTimeline_mergeSort (log : List Message) : IsTimeline log (log.mergeSort notLater) := by
  refine ⟨List.mergeSort_perm _ _, ?_⟩
  -- the sort with places beside the messages: it is the same sort, and places are distinct
  have hperm := List.mergeSort_perm log.zipIdx (List.zipIdxLE notLater)
  have hsorted := List.pairwise_mergeSort (List.zipIdxLE_trans notLater_trans)
    (List.zipIdxLE_total notLater_total) log.zipIdx
  have hplaces : ((log.zipIdx.mergeSort (List.zipIdxLE notLater)).map Prod.snd).Nodup := by
    rw [(hperm.map Prod.snd).nodup_iff, List.zipIdx_map_snd]
    exact List.nodup_range'
  rw [← List.mergeSort_zipIdx, List.pairwise_map]
  refine (hsorted.and (List.pairwise_map.1 hplaces)).imp_of_mem ?_
  intro a b ha hb hab
  exact precedes_of_zipIdxLE (hperm.mem_iff.1 ha) (hperm.mem_iff.1 hb) hab.1 hab.2

/-! ## The written order -/

namespace Ledger

def log (k : Ledger) (channelId : Uuid) : List Message :=
    k.messages.filter (·.channelId == channelId)

/-- The messages of a channel in order. -/
def timeline (k : Ledger) (channelId : Uuid) : List Message := (k.log channelId).mergeSort notLater

theorem Sound.log_ids_nodup {k : Ledger} (hk : k.Sound) (channelId : Uuid) :
    ((k.log channelId).map Message.id).Nodup :=
  (List.filter_sublist.map Message.id).nodup hk.ids_nodup

theorem Sound.log_nodup {k : Ledger} (hk : k.Sound) (channelId : Uuid) : (k.log channelId).Nodup :=
  .of_map Message.id (hk.log_ids_nodup channelId)

theorem isTimeline_timeline (k : Ledger) (channelId : Uuid) :
    IsTimeline (k.log channelId) (k.timeline channelId) :=
  isTimeline_mergeSort _

/-- The messages of a channel before a cursor. -/
def earlier (k : Ledger) (channelId : Uuid) : Option Uuid → List Message
  | none => k.timeline channelId
  | some id =>
    if (k.timeline channelId).any (·.id == id) then (k.timeline channelId).takeWhile (·.id != id)
      else []

theorem filter_written (k : Ledger) (channelId : Uuid) :
    k.written.messages.filter (·.channelId == channelId.text) =
      (k.log channelId).map MessageRow.ofMessage := by
  simp [written, log, List.filter_map, Function.comp_def, MessageRow.ofMessage]

theorem history_written {k : Ledger} (hk : k.Sound) (channelId : Uuid) :
    k.written.history channelId.text = (k.timeline channelId).map MessageRow.ofMessage := by
  rw [Tables.history, filter_written, timeline]
  refine (List.map_mergeSort ?_).symm
  intro a ha b hb
  have hsa := (hk.messages a (List.mem_filter.1 ha).1).1
  have hsb := (hk.messages b (List.mem_filter.1 hb).1).1
  rw [Bool.eq_iff_iff, decide_eq_true_iff]
  exact (stored_le_iff hsa hsb).symm

theorem earlier_written {k : Ledger} (hk : k.Sound) (channelId : Uuid) (before : Option Uuid) :
    k.written.earlier channelId.text (before.map Uuid.text) =
      (k.earlier channelId before).map MessageRow.ofMessage := by
  have hid (m : Message) (id : Uuid) :
      ((MessageRow.ofMessage m).id == some id.text) = (m.id == id) := by
    simp [MessageRow.ofMessage]
  cases before with
  | none => exact history_written hk channelId
  | some id =>
    simp only [Option.map_some, Tables.earlier, history_written hk, earlier, List.any_map,
      Function.comp_def, hid, List.takeWhile_map, bne]
    split <;> rfl

theorem mem_timeline {k : Ledger} {channelId : Uuid} {m : Message} :
    m ∈ k.timeline channelId ↔ m ∈ k.log channelId :=
  List.mem_mergeSort

theorem mem_messages_of_mem_log {k : Ledger} {channelId : Uuid} {m : Message}
    (h : m ∈ k.log channelId) : m ∈ k.messages :=
  (List.mem_filter.1 h).1

theorem earlier_prefix_timeline (k : Ledger) (channelId : Uuid) (before : Option Uuid) :
    k.earlier channelId before <+: k.timeline channelId := by
  cases before with
  | none => exact List.prefix_rfl
  | some id =>
    simp only [earlier]
    split
    · exact List.takeWhile_prefix _
    · exact List.nil_prefix

theorem mem_of_mem_earlier {k : Ledger} {channelId : Uuid} {before : Option Uuid} {m : Message}
    (h : m ∈ k.earlier channelId before) : m ∈ k.timeline channelId :=
  (k.earlier_prefix_timeline channelId before).subset h

/-- A page whose rows are written for messages is answered with what each row is
read as. -/
theorem listMessages_of_page {t : Tables} {channelId : Uuid} {limit : Nat} {before : Option Uuid}
    {ms : List Message} {row : Message → MessageRow} {f : Message → Message}
    (hpage : t.page channelId.text limit (before.map Uuid.text) = ms.map row)
    (hread : ∀ m ∈ ms, (row m).read = .ok (f m)) :
    t.listMessages channelId limit before = .ok (ms.map f) := by
  have hnamed : ∀ m ∈ ms, named (row m).id = .ok ((row m).id.getD "") := by
    intro m hm
    obtain ⟨text, htext, -⟩ := bind_eq_ok.1 (hread m hm)
    cases hid : (row m).id with
    | none => rw [hid] at htext; cases htext
    | some text => rfl
  have hids : (ms.map row).mapM (fun r => named r.id) = .ok (ms.map fun m => (row m).id.getD "") :=
    mapM_map_ok hnamed
  simp only [Tables.listMessages, hpage, hids, mapM_map_ok hread, bind, Except.bind]

theorem page_written {k : Ledger} (hk : k.Sound) (channelId : Uuid) (limit : Nat)
    (before : Option Uuid) :
    k.written.page channelId.text limit (before.map Uuid.text) =
      (lastItems limit (k.earlier channelId before)).map MessageRow.ofMessage := by
  simp only [Tables.page, earlier_written hk, lastItems, List.length_map, List.map_drop]

theorem mem_messages_of_mem_page {k : Ledger} {channelId : Uuid} {limit : Nat}
    {before : Option Uuid}
    {m : Message} (h : m ∈ lastItems limit (k.earlier channelId before)) : m ∈ k.messages :=
  mem_messages_of_mem_log (mem_timeline.1 (mem_of_mem_earlier (List.mem_of_mem_drop h)))

/-- On the tables of a sound ledger, a page is the end of what the ledger has
before the cursor. -/
theorem listMessages_written {k : Ledger} (hk : k.Sound) (channelId : Uuid) (limit : Nat)
    (before : Option Uuid) : k.written.listMessages channelId limit before =
      .ok (lastItems limit (k.earlier channelId before)) := by
  have hread : ∀ m ∈ lastItems limit (k.earlier channelId before), (MessageRow.ofMessage m).read =
      .ok m := by
    intro m hm
    exact MessageRow.read_ofMessage (hk.messages m (mem_messages_of_mem_page hm)).2
  rw [listMessages_of_page (f := id) (page_written hk channelId limit before) hread, List.map_id]

end Ledger

/-! ## Runs -/

/-- What an operation enters into the log of a channel is what it appended to
it. -/
theorem log_enter {k : Ledger} {op : Operation} {d : Draw} {answer : op.Answer} {t : Tables}
    (h : op.apply d k.written = .ok (answer, t)) (channelId : Uuid) :
    (k.enter ⟨op, d, .ok answer⟩).log channelId =
      k.log channelId ++ posted channelId [⟨op, d, .ok answer⟩] := by
  have other (hmessages : (k.enter ⟨op, d, .ok answer⟩).messages = k.messages)
      (hnone : Performed.posted? channelId ⟨op, d, .ok answer⟩ = none) :
      (k.enter ⟨op, d, .ok answer⟩).log channelId =
        k.log channelId ++ posted channelId [⟨op, d, .ok answer⟩] := by
    simp [Ledger.log, hmessages, posted, hnone]
  cases op with
  | appendMessage new =>
    rcases Tables.appendMessage_eq_ok h with ⟨-, rfl, -⟩ | ⟨-, rfl, -⟩
    · exact other rfl rfl
    · by_cases hc : new.channelId = channelId <;>
        simp [Ledger.log, Ledger.enter, posted, Performed.posted?, NewMessage.toMessage, hc]
  | createUser email password => cases answer <;> exact other rfl rfl
  | addMember channelId userId => cases answer <;> exact other rfl rfl
  | createChannel kind name creatorId => exact other rfl rfl
  | removeMember channelId userId => exact other rfl rfl
  | getUser id => exact other rfl rfl
  | getCredentials email => exact other rfl rfl
  | getChannel id => exact other rfl rfl
  | listChannels => exact other rfl rfl
  | listMembers channelId => exact other rfl rfl
  | listMessages channelId limit before => exact other rfl rfl

theorem log_stepEvents {db : Database} {k : Ledger} (h : db.Holds k) (channelId : Uuid) (s : Step) :
    ((db.stepEvents s).foldl Ledger.enter k).log channelId =
      k.log channelId ++ posted channelId (db.stepEvents s) := by
  cases s with
  | reopen => simp [Database.stepEvents, posted]
  | perform op d =>
    simp only [Database.stepEvents, List.foldl_cons, List.foldl_nil]
    rw [Database.perform_healthy h.healthy, h.tables]
    cases ha : op.apply d k.written with
    | error e =>
      have hnone : Performed.posted? channelId ⟨op, d, .error e⟩ = none := by cases op <;> rfl
      simp [Ledger.enter_error, posted, hnone]
    | ok r => exact log_enter ha channelId

/-- A run appends to the log of a channel what its answers say. -/
theorem log_run {db : Database} {k : Ledger} (h : db.Holds k) (channelId : Uuid)
    (steps : List Step) :
    ((db.events steps).foldl Ledger.enter k).log channelId =
      k.log channelId ++ posted channelId (db.events steps) := by
  induction steps generalizing db k with
  | nil => simp [Database.events, posted]
  | cons s steps ih =>
    rw [Database.events, List.foldl_append, ih (h.step s), log_stepEvents h, List.append_assoc,
      posted_append]

theorem log_ledgerOf (steps : List Step) (channelId : Uuid) :
    (ledgerOf steps).log channelId = posted channelId (Database.empty.events steps) := by
  rw [ledgerOf, log_run Database.holds_empty]
  rfl

/-- What a store that holds a ledger answers to a question about a page. -/
theorem answer_listMessages {db : Database} {k : Ledger} (h : db.Holds k) (channelId : Uuid)
    (limit : Nat) (before : Option Uuid) (d : Draw) :
    db.answer (.listMessages channelId limit before) d =
      .ok (lastItems limit (k.earlier channelId before)) := by
  rw [Database.answer, Database.perform_asking h.healthy rfl, h.tables]
  exact Ledger.listMessages_written h.sound channelId limit before

/-- **The newest messages.** After every run, a listing without a cursor is the
end of the one timeline of all messages that were appended to the channel, each
as it was answered then. -/
theorem listMessages_latest (steps : List Step) (channelId : Uuid) (limit : Nat) (d : Draw) :
    let appended := posted channelId (Database.empty.events steps)
    ∃ older page, (∀ listed, IsTimeline appended listed ↔ listed = older ++ page) ∧
      page.length = min limit appended.length ∧
      (Database.empty.run steps).answer (.listMessages channelId limit none) d = .ok page ∧
      ∀ m ∈ page, m.updatedAt = none := by
  intro appended
  have hrun := holds_ledgerOf steps
  have hlog : (ledgerOf steps).log channelId = appended := log_ledgerOf steps channelId
  have hnodup : appended.Nodup := hlog ▸ hrun.sound.log_nodup channelId
  have htimeline : IsTimeline appended ((ledgerOf steps).timeline channelId) :=
    hlog ▸ (ledgerOf steps).isTimeline_timeline channelId
  have hlength := htimeline.perm.length_eq
  refine ⟨((ledgerOf steps).timeline channelId).take (appended.length - limit),
    lastItems limit ((ledgerOf steps).timeline channelId), ?_, ?_, answer_listMessages hrun .., ?_⟩
  · intro listed
    rw [lastItems, hlength, List.take_append_drop]
    exact ⟨fun h => h.unique hnodup htimeline, fun h => h ▸ htimeline⟩
  · rw [lastItems, List.length_drop, hlength]
    omega
  · intro m hm
    have hmem := Ledger.mem_timeline.1 (List.mem_of_mem_drop hm)
    exact (hrun.sound.messages m (Ledger.mem_messages_of_mem_log hmem)).2

end ChatServer.Store

