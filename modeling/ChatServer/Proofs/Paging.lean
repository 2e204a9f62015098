import ChatServer.Proofs.Timeline
import ChatServer.Web.History

/-!
# Reading a channel page by page

A reader asks for the newest page of a channel, and then for the page before the
first message of the page at hand, until a page is empty. Between two pages
anything may happen in the store.

The invariant of a walk is on its cursor: the messages still to be read are
those of the log that precede the cursor's message. Messages appended in between
leave the order of the others alone (`Precedes.grow`), so what a later page
finds before the cursor are the messages that were there, together with new ones
that are older than the cursor.

* `mem_earlier_iff`: what the store has before a cursor.
* `walk_under`: what a walk that starts below a cursor reads.
* `walk_paginated`: no walk repeats a message or leaves one out, over the store
  or over HTTP.
-/
namespace ChatServer.Store

/-! ## Walks -/

/-- A page that a reader asks for, and what happens in the store before the next
one. -/
structure Turn where
  limit : Nat
  draw : Draw
  after : List Step

/-- Reads pages, each before the first message of the one before it, until one
is empty or no turn is left. -/
def walk (channelId : Uuid) : Database → Option Message → List Turn →
    Except Error (List (List Message))
  | _, _, [] => .ok []
  | db, cursor, turn :: turns => do
    let page ← db.answer (.listMessages channelId turn.limit (cursor.map Message.id)) turn.draw
    match page with
    | [] => return [page]
    | first :: _ =>
      let pages ← walk channelId (db.run turn.after) (some first) turns
      return page :: pages

/-- The pages of a walk. `present` are the messages of the channel at the first
page, `log` those at the end of all turns. -/
structure Paginated (present log : List Message) (turns : Nat) (pages : List (List Message)) :
    Prop where
  genuine : ∀ m ∈ pages.flatten, m ∈ log
  distinct : (pages.flatten.map Message.id).Nodup
  ascending : pages.reverse.flatten.Pairwise (Precedes log)
  /-- After a walk to the end, every message that was there has been on one
  page. -/
  complete : pages.getLast? = some [] →
    ∀ m ∈ present, ∃! i : Nat, ∃ page, pages[i]? = some page ∧ m ∈ page
  /-- A walk with enough turns comes to the end when nothing is added. -/
  ends : log = present → present.length < turns → pages.getLast? = some []

/-! ## Before a cursor -/

/-- A message of a log that is before a cursor, or any without one. -/
def Under (log : List Message) (cursor : Option Message) (m : Message) : Prop :=
  m ∈ log ∧ ∀ c ∈ cursor, Precedes log m c

theorem Under.grow {log log' : List Message} {cursor : Option Message} {m : Message}
    (h : Under log cursor m) (hlog : log <+: log') : Under log' cursor m :=
  ⟨hlog.subset h.1, fun c hc => (h.2 c hc).grow hlog⟩

theorem takeWhile_ne_split {pre post : List Message} {c : Message} (h : c.id ∉ pre.map Message.id) :
    (pre ++ c :: post).takeWhile (·.id != c.id) = pre := by
  rw [List.takeWhile_append_of_pos]
  · simp
  · intro m hm
    have hne : m.id ≠ c.id := fun he => h (he ▸ List.mem_map_of_mem hm)
    simpa using hne

theorem earlier_ascending (k : Ledger) (channelId : Uuid) (before : Option Uuid) :
    (k.earlier channelId before).Pairwise (Precedes (k.log channelId)) :=
  (k.isTimeline_timeline channelId).ascending.sublist
    (k.earlier_prefix_timeline channelId before).sublist

theorem earlier_congr {k k' : Ledger} {channelId : Uuid} (h : k'.log channelId = k.log channelId)
    (before : Option Uuid) : k'.earlier channelId before = k.earlier channelId before := by
  have htimeline : k'.timeline channelId = k.timeline channelId := by
    rw [Ledger.timeline, Ledger.timeline, h]
  cases before with
  | none => exact htimeline
  | some id => rw [Ledger.earlier, Ledger.earlier, htimeline]

section
variable {k : Ledger} (hk : k.Sound) {channelId : Uuid}
include hk

/-- Before a message stands what comes before it in the timeline. -/
theorem earlier_of_split {pre post : List Message} {c : Message}
    (h : k.timeline channelId = pre ++ c :: post) : k.earlier channelId (some c.id) = pre := by
  have hids : ((k.timeline channelId).map Message.id).Nodup :=
    ((k.isTimeline_timeline channelId).perm.map Message.id).nodup_iff.2 (hk.log_ids_nodup channelId)
  rw [h, List.map_append, List.map_cons, List.nodup_append] at hids
  have hnew : c.id ∉ pre.map Message.id := fun hc => hids.2.2 _ hc _ List.mem_cons_self rfl
  have hfound : (k.timeline channelId).any (·.id == c.id) = true := by
    rw [h]
    simp
  rw [Ledger.earlier, if_pos hfound, h, takeWhile_ne_split hnew]

/-- What a page leaves out is what stands before its first message. -/
theorem earlier_of_page {before : Option Uuid} {older rest : List Message} {first : Message}
    (h : k.earlier channelId before = older ++ first :: rest) :
    k.earlier channelId (some first.id) = older := by
  obtain ⟨post, hpost⟩ := k.earlier_prefix_timeline channelId before
  rw [h, List.append_assoc, List.cons_append] at hpost
  exact earlier_of_split hk hpost.symm

theorem mem_earlier_iff {cursor : Option Message} (hc : ∀ c ∈ cursor, c ∈ k.log channelId)
    {m : Message} :
    m ∈ k.earlier channelId (cursor.map Message.id) ↔ Under (k.log channelId) cursor m := by
  have hlog := hk.log_nodup channelId
  cases cursor with
  | none => simp [Ledger.earlier, Under, Ledger.mem_timeline]
  | some c =>
    obtain ⟨pre, post, hsplit⟩ := List.append_of_mem (Ledger.mem_timeline.2 (hc c rfl))
    have hascending := (k.isTimeline_timeline channelId).ascending
    rw [hsplit, List.pairwise_append, List.pairwise_cons] at hascending
    obtain ⟨-, ⟨hafter, -⟩, hbefore⟩ := hascending
    simp only [Option.map_some, earlier_of_split hk hsplit, Under, Option.mem_some_iff, forall_eq']
    constructor
    · intro hm
      have hprecedes := hbefore m hm c List.mem_cons_self
      exact ⟨hprecedes.mem_left, hprecedes⟩
    · rintro ⟨hm, hprecedes⟩
      rw [← Ledger.mem_timeline, hsplit, List.mem_append, List.mem_cons] at hm
      rcases hm with hm | rfl | hm
      · exact hm
      · exact (hprecedes.irrefl hlog _).elim
      · exact (hprecedes.asymm hlog (hafter m hm)).elim

/-- What a page leaves out is still before its first message when the log has
grown. -/
theorem mem_earlier_of_older {k' : Ledger} (hk' : k'.Sound)
    (hmore : k.log channelId <+: k'.log channelId) {before : Option Uuid}
    {older rest : List Message}
    {first : Message} (h : k.earlier channelId before = older ++ first :: rest) {m : Message}
    (hm : m ∈ older) : m ∈ k'.earlier channelId (some first.id) := by
  have hin : first ∈ k.log channelId := by
    have hfirst : first ∈ k.earlier channelId before := by simp [h]
    exact Ledger.mem_timeline.1 (Ledger.mem_of_mem_earlier hfirst)
  have hunder : Under (k.log channelId) (some first) m := by
    rw [← mem_earlier_iff hk (by simpa using hin), Option.map_some, earlier_of_page hk h]
    exact hm
  exact (mem_earlier_iff hk' (by simpa using hmore.subset hin)).2 (hunder.grow hmore)

end

/-! ## The invariant of a walk -/

/-- What a walk reads that starts below a cursor, in a store whose ledger is `k`
at the start and whose log is `log` at the end. -/
structure ReadsUnder (k : Ledger) (channelId : Uuid) (cursor : Option Message) (log : List Message)
    (turns : Nat) (pages : List (List Message)) : Prop where
  under : ∀ m ∈ pages.flatten, Under log cursor m
  ascending : pages.reverse.flatten.Pairwise (Precedes log)
  complete : pages.getLast? = some [] →
    ∀ m ∈ k.earlier channelId (cursor.map Message.id), m ∈ pages.flatten
  ends : log = k.log channelId → (k.earlier channelId (cursor.map Message.id)).length < turns →
    pages.getLast? = some []

theorem lastItems_eq_nil {α : Type} {n : Nat} (hn : 1 ≤ n) {xs : List α} (h : lastItems n xs = []) :
    xs = [] := by
  rw [lastItems, List.drop_eq_nil_iff] at h
  have hlength : xs.length = 0 := by omega
  exact List.eq_nil_of_length_eq_zero hlength

/-- Nothing stands before the cursor of an empty page, and a walk ends there. -/
theorem ReadsUnder.last {k : Ledger} {channelId : Uuid} {cursor : Option Message}
    (h : k.earlier channelId (cursor.map Message.id) = []) (log : List Message) (turns : Nat) :
    ReadsUnder k channelId cursor log turns [[]] where
  under := by simp
  ascending := by simp
  complete := by simp [h]
  ends := by simp

/-- A page that is not empty goes before the pages that are read below its first
message. -/
theorem ReadsUnder.cons {k k' : Ledger} (hk : k.Sound) (hk' : k'.Sound) {channelId : Uuid}
    {cursor : Option Message} (hc : ∀ c ∈ cursor, c ∈ k.log channelId) {log : List Message}
    (hlog : log.Nodup) (hmore : k.log channelId <+: k'.log channelId)
    (hend : k'.log channelId <+: log) {older rest : List Message} {first : Message}
    (hsplit : k.earlier channelId (cursor.map Message.id) = older ++ first :: rest) {turns : Nat}
    {pages : List (List Message)} (h : ReadsUnder k' channelId (some first) log turns pages) :
    ReadsUnder k channelId cursor log (turns + 1) ((first :: rest) :: pages) := by
  have hpage : ∀ m ∈ first :: rest, Under log cursor m := by
    intro m hm
    have hin : m ∈ k.earlier channelId (cursor.map Message.id) := by
      rw [hsplit]
      exact List.mem_append_right older hm
    exact ((mem_earlier_iff hk hc).1 hin).grow (hmore.trans hend)
  have hascending : (first :: rest).Pairwise (Precedes log) := by
    have hall := earlier_ascending k channelId (cursor.map Message.id)
    rw [hsplit, List.pairwise_append] at hall
    exact hall.2.1.imp fun hp => hp.grow (hmore.trans hend)
  have hbelow : ∀ m ∈ pages.flatten, Precedes log m first := fun m hm => (h.under m hm).2 first rfl
  have hlast : ((first :: rest) :: pages).getLast? = some [] ↔ pages.getLast? = some [] := by
    cases pages <;> simp
  refine ⟨?_, ?_, ?_, ?_⟩
  · intro m hm
    rw [List.flatten_cons, List.mem_append] at hm
    rcases hm with hm | hm
    · exact hpage m hm
    · have hfirst := hpage first List.mem_cons_self
      exact ⟨(hbelow m hm).mem_left, fun c hcur => (hbelow m hm).trans hlog (hfirst.2 c hcur)⟩
  · rw [List.reverse_cons, List.flatten_append, List.flatten_singleton, List.pairwise_append]
    refine ⟨h.ascending, hascending, ?_⟩
    intro m hm m' hm'
    have hprecedes : Precedes log m first := hbelow m (by simpa using hm)
    rcases List.mem_cons.1 hm' with rfl | hm'
    · exact hprecedes
    · exact hprecedes.trans hlog ((List.pairwise_cons.1 hascending).1 m' hm')
  · intro hdone m hm
    rw [hsplit, List.mem_append] at hm
    rw [List.flatten_cons, List.mem_append]
    rcases hm with hm | hm
    · exact .inr (h.complete (hlast.1 hdone) m (mem_earlier_of_older hk hk' hmore hsplit hm))
    · exact .inl hm
  · intro hquiet hlength
    -- a log that ends as it began has not grown in between
    have hsame : k.log channelId = k'.log channelId :=
      hmore.eq_of_length_le (hquiet ▸ hend.length_le)
    refine hlast.2 (h.ends (hquiet.trans hsame) ?_)
    rw [hsplit, List.length_append, List.length_cons] at hlength
    rw [Option.map_some, earlier_congr hsame.symm, earlier_of_page hk hsplit]
    omega

/-- What a walk reads that starts at a cursor of the channel: no page fails, and
every page of the walk is below the one before it. -/
theorem walk_under {db : Database} {k : Ledger} (h : db.Holds k) {channelId : Uuid}
    (cursor : Option Message) (hc : ∀ c ∈ cursor, c ∈ k.log channelId) {turns : List Turn}
    (hlimit : ∀ turn ∈ turns, 1 ≤ turn.limit) {log : List Message}
    (hlog : k.log channelId ++ posted channelId (db.events (turns.flatMap Turn.after)) = log) :
    ∃ pages, walk channelId db cursor turns = .ok pages ∧
      ReadsUnder k channelId cursor log turns.length pages := by
  induction turns generalizing db k cursor with
  | nil => exact ⟨[], rfl, by simp, by simp, by simp, by simp⟩
  | cons turn turns ih =>
    rw [List.flatMap_cons, Database.events_append] at hlog
    rw [walk, answer_listMessages h]
    cases hpage : lastItems turn.limit (k.earlier channelId (cursor.map Message.id)) with
    | nil =>
      have hnone := lastItems_eq_nil (hlimit turn List.mem_cons_self) hpage
      exact ⟨[[]], rfl, .last hnone log (turns.length + 1)⟩
    | cons first rest =>
      have hsplit := List.take_append_drop
        ((k.earlier channelId (cursor.map Message.id)).length - turn.limit)
        (k.earlier channelId (cursor.map Message.id))
      rw [← lastItems, hpage] at hsplit
      have hafter := h.run turn.after
      have hgrown := log_run h channelId turn.after
      have hfirst : first ∈ k.log channelId := by
        have hmem : first ∈ k.earlier channelId (cursor.map Message.id) := by
          rw [← hsplit]
          simp
        exact ((mem_earlier_iff h.sound hc).1 hmem).1
      have htail : ((db.events turn.after).foldl Ledger.enter k).log channelId ++
          posted channelId ((db.run turn.after).events (turns.flatMap Turn.after)) = log := by
        rw [hgrown, ← hlog, List.append_assoc, posted_append]
      obtain ⟨pages, hwalk, hreads⟩ := ih hafter (some first)
        (by simpa [hgrown] using .inl hfirst) (fun t ht => hlimit t (List.mem_cons_of_mem turn ht)) htail
      have hnodup : log.Nodup := by
        have hend := (hafter.run (turns.flatMap Turn.after)).sound.log_nodup channelId
        rwa [log_run hafter, htail] at hend
      refine ⟨(first :: rest) :: pages, ?_, ?_⟩
      · simp only [bind, Except.bind, pure, Except.pure, hwalk]
      · exact hreads.cons h.sound hafter.sound hc hnodup ⟨_, hgrown.symm⟩ ⟨_, htail⟩ hsplit.symm

/-! ## Whole walks -/

/-- In pages that repeat nothing, a message that is on some page is on one. -/
theorem existsUnique_page {pages : List (List Message)} (h : pages.flatten.Nodup) {m : Message}
    (hm : m ∈ pages.flatten) : ∃! i : Nat, ∃ page, pages[i]? = some page ∧ m ∈ page := by
  obtain ⟨page, hpage, hin⟩ := List.mem_flatten.1 hm
  obtain ⟨i, hi⟩ := List.getElem?_of_mem hpage
  refine ⟨i, ⟨page, hi, hin⟩, ?_⟩
  rintro j ⟨page', hj, hin'⟩
  have hdisjoint := List.pairwise_iff_getElem.1 (List.nodup_flatten.1 h).2
  obtain ⟨hilt, rfl⟩ := List.getElem?_eq_some_iff.1 hi
  obtain ⟨hjlt, rfl⟩ := List.getElem?_eq_some_iff.1 hj
  rcases Nat.lt_trichotomy j i with hlt | heq | hgt
  · exact (hdisjoint j i hjlt hilt hlt hin' hin).elim
  · exact heq
  · exact (hdisjoint i j hilt hjlt hgt hin hin').elim

theorem nodup_of_ascending {log xs : List Message} (hlog : log.Nodup)
    (h : xs.Pairwise (Precedes log)) : xs.Nodup :=
  h.imp fun hp he => by
    subst he
    exact hp.irrefl hlog _

/-- A walk from the newest message on. -/
theorem ReadsUnder.paginated {k : Ledger} {channelId : Uuid} {log : List Message} {turns : Nat}
    {pages : List (List Message)} (hlog : (log.map Message.id).Nodup)
    (h : ReadsUnder k channelId none log turns pages) :
    Paginated (k.log channelId) log turns pages := by
  have hperm : pages.reverse.flatten.Perm pages.flatten := (List.reverse_perm pages).flatten
  have hnodup : pages.flatten.Nodup :=
    hperm.nodup_iff.1 (nodup_of_ascending hlog.of_map h.ascending)
  refine ⟨fun m hm => (h.under m hm).1, ?_, h.ascending, ?_, ?_⟩
  · refine hnodup.map_on ?_
    intro m hm m' hm' hid
    exact List.inj_on_of_nodup_map hlog (h.under m hm).1 (h.under m' hm').1 hid
  · intro hdone m hm
    exact existsUnique_page hnodup (h.complete hdone m (Ledger.mem_timeline.2 hm))
  · intro hquiet hlength
    exact h.ends hquiet ((k.isTimeline_timeline channelId).perm.length_eq ▸ hlength)

/-- A walk after a run, with what comes to be posted until its end. -/
theorem walk_after_run (steps : List Step) (channelId : Uuid) {turns : List Turn}
    (hlimit : ∀ turn ∈ turns, 1 ≤ turn.limit) :
    ∃ pages, walk channelId (Database.empty.run steps) none turns = .ok pages ∧
      Paginated (posted channelId (Database.empty.events steps))
        (posted channelId (Database.empty.events (steps ++ turns.flatMap Turn.after)))
        turns.length pages := by
  have hrun := holds_ledgerOf steps
  have hlog := log_ledgerOf (steps ++ turns.flatMap Turn.after) channelId
  have hids := (holds_ledgerOf (steps ++ turns.flatMap Turn.after)).sound.log_ids_nodup channelId
  have hgrown : (ledgerOf steps).log channelId ++
      posted channelId ((Database.empty.run steps).events (turns.flatMap Turn.after)) =
        posted channelId (Database.empty.events (steps ++ turns.flatMap Turn.after)) := by
    rw [log_ledgerOf, Database.events_append, posted_append]
  rw [hlog] at hids
  rw [← log_ledgerOf steps]
  obtain ⟨pages, hwalk, hreads⟩ := walk_under hrun none (by simp) hlimit hgrown
  exact ⟨pages, hwalk, hreads.paginated hids⟩

/-! ## Over HTTP -/

/-- The answers to a reader over HTTP are these pages, with the limits that are
asked for. -/
inductive Serves (channelId : Uuid) :
    Database → Option Message → List Turn → List (List Message) → Prop
  | stop (db : Database) (cursor : Option Message) : Serves channelId db cursor [] []
  | last {db : Database} {cursor : Option Message} {turn : Turn} (turns : List Turn)
    (answer : ((Web.readPage channelId ⟨turn.limit, cursor.map Message.id⟩).run turn.draw db).1 =
      .ok (.json (Message.codec.list.write []))) :
    Serves channelId db cursor (turn :: turns) [[]]
  | next {db : Database} {cursor : Option Message} {turn : Turn} {turns : List Turn}
      {first : Message}
    {rest : List Message} {pages : List (List Message)}
    (answer : ((Web.readPage channelId ⟨turn.limit, cursor.map Message.id⟩).run turn.draw db).1 =
      .ok (.json (Message.codec.list.write (first :: rest))))
    (below : Serves channelId (db.run turn.after) (some first) turns pages) :
    Serves channelId db cursor (turn :: turns) ((first :: rest) :: pages)

/-- The turn as the store sees it. -/
def Turn.clamped (turn : Turn) : Turn := { turn with limit := Web.clampLimit turn.limit }

theorem getChannel_of_prefix {t u : Tables} (h : t.channels <+: u.channels) {id : Uuid}
    {c : Channel} (hc : t.getChannel id = .ok (some c)) : u.getChannel id = .ok (some c) := by
  unfold Tables.getChannel Tables.channelById? at hc ⊢
  cases hrow : t.channels.find? (·.id == some id.text) with
  | none => simp [hrow] at hc
  | some row =>
    rw [hrow] at hc
    rw [h.find?_eq_some hrow]
    exact hc

/-- A channel that is found is found in every later store. -/
theorem getChannel_run {db : Database} {k : Ledger} (h : db.Holds k) {id : Uuid} {c : Channel}
    (hc : db.tables.getChannel id = .ok (some c)) (steps : List Step) :
    (db.run steps).tables.getChannel id = .ok (some c) := by
  refine getChannel_of_prefix ?_ hc
  rw [h.tables, (h.run steps).tables]
  exact (Ledger.channels_foldl k _).map ChannelRow.ofChannel

/-- The answer to a page of a channel that is found. -/
theorem run_readPage {db : Database} (h : db.poisoned = false) {channelId : Uuid} {c : Channel}
    (hc : db.tables.getChannel channelId = .ok (some c)) (q : Web.PageQuery) (d : Draw)
    {page : List Message}
    (hpage : db.answer (.listMessages channelId (Web.clampLimit q.limit) q.before) d = .ok page) :
    ((Web.readPage channelId q).run d db).1 = .ok (.json (Message.codec.list.write page)) := by
  have hasked : db.perform (.getChannel channelId) d = (.ok (some c), db) := by
    rw [Database.perform_asking h rfl, hc]
  have hanswer : (db.perform (.listMessages channelId (Web.clampLimit q.limit) q.before) d).1 =
      .ok page := hpage
  simp only [Web.readPage, Plan.run, hasked, hanswer]

/-- Over HTTP, a reader of a channel that is found walks as over the store, with
limits in bounds. -/
theorem serves_of_walk {db : Database} {k : Ledger} (h : db.Holds k) {channelId : Uuid}
    {c : Channel} (hc : db.tables.getChannel channelId = .ok (some c)) {cursor : Option Message}
    {turns : List Turn} {pages : List (List Message)}
    (hwalk : walk channelId db cursor (turns.map Turn.clamped) = .ok pages) :
    Serves channelId db cursor turns pages := by
  induction turns generalizing db k cursor pages with
  | nil =>
    cases hwalk
    exact .stop db cursor
  | cons turn turns ih =>
    rw [List.map_cons, walk] at hwalk
    obtain ⟨page, hpage, hwalk⟩ := bind_eq_ok.1 hwalk
    have hanswer := run_readPage h.healthy hc ⟨turn.limit, cursor.map Message.id⟩ turn.draw hpage
    cases page with
    | nil =>
      cases hwalk
      exact .last turns hanswer
    | cons first rest =>
      obtain ⟨below, hbelow, hpages⟩ := bind_eq_ok.1 hwalk
      cases hpages
      exact .next hanswer (ih (h.run turn.after) (getChannel_run h hc turn.after) hbelow)

/-- **Pages lose and repeat nothing.** A reader who asks for at least one
message at a time, over the store, or for any number over HTTP, is answered page
after page, whatever happens in the store between two pages; no message comes
twice, and after a walk to the end every message that was there at the first
page has been on one. -/
theorem walk_paginated (steps : List Step) (channelId : Uuid) (turns : List Turn) :
    let db := Database.empty.run steps
    let present := posted channelId (Database.empty.events steps)
    let log := posted channelId (Database.empty.events (steps ++ turns.flatMap Turn.after))
    ((∀ turn ∈ turns, 1 ≤ turn.limit) →
      ∃ pages, walk channelId db none turns = .ok pages ∧
        Paginated present log turns.length pages) ∧
    (∀ c d, db.answer (.getChannel channelId) d = .ok (some c) →
      ∃ pages, Serves channelId db none turns pages ∧
        Paginated present log turns.length pages) := by
  intro db present log
  refine ⟨walk_after_run steps channelId, ?_⟩
  intro c d hc
  have hrun := holds_ledgerOf steps
  have hchannel : db.tables.getChannel channelId = .ok (some c) := by
    rwa [Database.answer, Database.perform_asking hrun.healthy rfl] at hc
  have hlimit : ∀ turn ∈ turns.map Turn.clamped, 1 ≤ turn.limit := by
    simp [Turn.clamped, Web.clampLimit_mem]
  have hafter : (turns.map Turn.clamped).flatMap Turn.after = turns.flatMap Turn.after := by
    rw [List.flatMap_map]
    rfl
  obtain ⟨pages, hwalk, hpages⟩ := walk_after_run steps channelId hlimit
  rw [hafter, List.length_map] at hpages
  exact ⟨pages, serves_of_walk hrun hchannel hwalk, hpages⟩

/-- Four turns of one message each, with another message of the same time after
the first page. -/
def sampleTurns : List Turn :=
  [⟨1, sampleDraw 0, [samplePost 5]⟩, ⟨1, sampleDraw 0, []⟩, ⟨1, sampleDraw 0, []⟩,
    ⟨1, sampleDraw 0, []⟩]

theorem walk_paginated_sample :
    let db := Database.empty.run sampleSteps
    let present := posted (sampleId 2) (Database.empty.events sampleSteps)
    let log := posted (sampleId 2)
      (Database.empty.events (sampleSteps ++ sampleTurns.flatMap Turn.after))
    (∃ pages, walk (sampleId 2) db none sampleTurns = .ok pages ∧ Paginated present log 4 pages) ∧
      ∃ pages, Serves (sampleId 2) db none sampleTurns pages ∧ Paginated present log 4 pages := by
  have hlimit : ∀ turn ∈ sampleTurns, 1 ≤ turn.limit := by decide
  have hfound : (Database.empty.run sampleSteps).answer (.getChannel (sampleId 2)) (sampleDraw 0) =
      .ok (some ⟨sampleId 2, .publicRoom, "room", sampleId 1, sampleNoon, none⟩) := by decide +kernel
  obtain ⟨hwalk, hserves⟩ := walk_paginated sampleSteps (sampleId 2) sampleTurns
  exact ⟨hwalk hlimit, hserves _ _ hfound⟩

end ChatServer.Store

