import ChatServer.Proofs.Timeline

/-!
# Messages without a submitted time

A message that was written before its submitted time was kept is read with its
stored time instead. Where the submitted times of messages are taken away,
nothing moves: pages are cut from the order of stored times, which stays, and
the stored time of a message is read as the very instant that its submitted time
was read as. What changes is the text of the times that are gone, which is now
the short text of the instant.

* `clearSubmittedTimes_eq`: what is taken away from the rows.
* `page_map`: the rows of a page change as the rows of the table do, where keys
  and stored times stay.
* `read_withoutSubmittedTime`: what a message's row is read as when its
  submitted time is gone.
* `listMessages_clearSubmittedTimes`: every page, before and after.
-/
namespace ChatServer

open Time

/-- The message with the time that the server shows when the submitted one is
gone. -/
def Message.retimed (m : Message) : Message :=
    { m with createdAt := .ofInstant m.createdAt.instant }

end ChatServer

namespace ChatServer.Store

open Time

/-! ## Rows that lose a column -/

/-- A row without its submitted time. -/
def MessageRow.withoutSubmittedTime (row : MessageRow) : MessageRow :=
    { row with createdAtText := none }

/-- The rows of these messages lose their submitted times. -/
def MessageRow.cleared (ids : List Uuid) (row : MessageRow) : MessageRow :=
  if ids.any fun id => row.id == some id.text then row.withoutSubmittedTime else row

namespace Tables

/-- Takes away the submitted times of messages, one after the other. -/
def clearSubmittedTimes (t : Tables) (ids : List Uuid) : Tables :=
  ids.foldl (fun t id => (t.clearSubmittedTime id.text).2) t

theorem clearSubmittedTimes_eq (t : Tables) (ids : List Uuid) :
    t.clearSubmittedTimes ids = { t with messages := t.messages.map (MessageRow.cleared ids) } := by
  unfold clearSubmittedTimes
  induction ids generalizing t with
  | nil =>
    have hnone : MessageRow.cleared [] = id := by
      funext row
      simp [MessageRow.cleared]
    simp [hnone]
  | cons id ids ih =>
    have hfirst : ∀ row : MessageRow, MessageRow.cleared (id :: ids) row =
        MessageRow.cleared ids (if row.id == some id.text then
          { row with createdAtText := none } else row) := by
      intro row
      by_cases hid : row.id = some id.text <;>
        simp [MessageRow.cleared, MessageRow.withoutSubmittedTime, hid]
    rw [List.foldl_cons, ih]
    simp only [clearSubmittedTime, List.map_map, Function.comp_def, ← hfirst]

/-! ## Pages -/

section
variable {f : MessageRow → MessageRow} (hid : ∀ row, (f row).id = row.id)
  (hchannel : ∀ row, (f row).channelId = row.channelId)
  (hstored : ∀ row, (f row).createdAt = row.createdAt)
include hid hchannel hstored

/-- Rows that keep their keys and stored times stand on the same pages, in the
same places. -/
theorem page_map (t : Tables) (channelId : String) (limit : Nat) (before : Option String) :
    { t with messages := t.messages.map f }.page channelId limit before =
      (t.page channelId limit before).map f := by
  have hhistory : { t with messages := t.messages.map f }.history channelId =
      (t.history channelId).map f := by
    simp only [history, List.filter_map, Function.comp_def, hchannel]
    refine (List.map_mergeSort ?_).symm
    intro a _ b _
    rw [hstored, hstored]
  have hearlier : { t with messages := t.messages.map f }.earlier channelId before =
      (t.earlier channelId before).map f := by
    cases before with
    | none => exact hhistory
    | some id =>
      simp only [earlier, hhistory, List.any_map, List.takeWhile_map, Function.comp_def, hid]
      split <;> rfl
  simp only [page, lastItems, hearlier, List.length_map, List.map_drop]

end

theorem page_clearSubmittedTimes (t : Tables) (ids : List Uuid) (channelId : String) (limit : Nat)
    (before : Option String) :
    (t.clearSubmittedTimes ids).page channelId limit before =
      (t.page channelId limit before).map (MessageRow.cleared ids) := by
  rw [clearSubmittedTimes_eq]
  refine page_map ?_ ?_ ?_ t channelId limit before <;> intro row <;>
    simp only [MessageRow.cleared, MessageRow.withoutSubmittedTime, apply_ite MessageRow.id,
      apply_ite MessageRow.channelId, apply_ite MessageRow.createdAt, ite_self]

end Tables

/-! ## What is read -/

/-- Without its submitted time, a message that can be stored is read with the
same instant. -/
theorem read_withoutSubmittedTime {m : Message} (hstorable : m.createdAt.isStorable = true)
    (hupdated : m.updatedAt = none) : (MessageRow.ofMessage m).withoutSubmittedTime.read =
      .ok m.retimed := by
  have htime : (MessageRow.ofMessage m).withoutSubmittedTime.readCreatedAt =
      .ok (.ofInstant m.createdAt.instant) := by
    simp [MessageRow.readCreatedAt, MessageRow.withoutSubmittedTime, MessageRow.ofMessage,
      readTime_stored hstorable, Except.map]
  unfold MessageRow.read
  rw [htime]
  simp [MessageRow.withoutSubmittedTime, MessageRow.ofMessage, Message.retimed, named, readId_text,
    readOptionalTime, hupdated, bind, Except.bind, pure, Except.pure]

theorem read_cleared {m : Message} (hstorable : m.createdAt.isStorable = true)
    (hupdated : m.updatedAt = none) (ids : List Uuid) :
    ((MessageRow.ofMessage m).cleared ids).read = .ok (if m.id ∈ ids then m.retimed else m) := by
  have hmem : (ids.any fun id => (MessageRow.ofMessage m).id == some id.text) = true ↔
      m.id ∈ ids := by
    simp [MessageRow.ofMessage, Uuid.text_beq]
  by_cases hid : m.id ∈ ids
  · rw [MessageRow.cleared, if_pos (hmem.2 hid), if_pos hid]
    exact read_withoutSubmittedTime hstorable hupdated
  · rw [MessageRow.cleared, if_neg (mt hmem.1 hid), if_neg hid]
    exact MessageRow.read_ofMessage hupdated

end ChatServer.Store

namespace ChatServer.Database

def clearSubmittedTimes (db : Database) (ids : List Uuid) : Database :=
  { db with tables := db.tables.clearSubmittedTimes ids }

end ChatServer.Database

namespace ChatServer.Store

/-- **What is read without submitted times.** In every state that a run reaches,
whatever messages then lose their submitted times, each page of each channel has
the same messages in the same order as before, equal in all but this: a message
that lost its submitted time has the same instant under the text that the server
gives to it. -/
theorem listMessages_clearSubmittedTimes (steps : List Step) (ids : List Uuid) (channelId : Uuid)
    (limit : Nat) (before : Option Uuid) (d : Draw) :
    let db := Database.empty.run steps
    ∃ page, db.answer (.listMessages channelId limit before) d = .ok page ∧
      (db.clearSubmittedTimes ids).answer (.listMessages channelId limit before) d =
        .ok (page.map fun m => if m.id ∈ ids then m.retimed else m) := by
  intro db
  have hrun := holds_ledgerOf steps
  refine ⟨_, answer_listMessages hrun channelId limit before d, ?_⟩
  have hhealthy : (db.clearSubmittedTimes ids).poisoned = false := hrun.healthy
  have hpage : (db.clearSubmittedTimes ids).tables.page channelId.text limit (before.map Uuid.text) =
      (lastItems limit ((ledgerOf steps).earlier channelId before)).map fun m =>
        (MessageRow.ofMessage m).cleared ids := by
    rw [Database.clearSubmittedTimes, hrun.tables, Tables.page_clearSubmittedTimes,
      Ledger.page_written hrun.sound, List.map_map]
    rfl
  rw [Database.answer, Database.perform_asking hhealthy rfl]
  refine Ledger.listMessages_of_page hpage fun m hm => ?_
  obtain ⟨hstorable, hupdated⟩ := hrun.sound.messages m (Ledger.mem_messages_of_mem_page hm)
  exact read_cleared hstorable hupdated ids

end ChatServer.Store

