import ChatServer.Proofs.Answers
import ChatServer.Proofs.Events
import ChatServer.Proofs.TimeOrder
import ChatServer.Proofs.Users

/-!
# What is found again

Users and channels go into the store as texts, and are looked up by texts.
Whoever was registered and whatever was created along a run is found again as it
was answered then: by identifier, by email, and in the list of channels. Nothing
else is found.

The rows of a run whose clock showed years with four digits convert back; this
is what the assumption about the clock is for. The lookups come to one row at
most, as the keys are sound.

* `Holds.answer_listChannels`: the channels of the ledger, by the time of their
  creation.
* `finds_history`: after every run, users and channels are found as the history
  of the run tells.
-/
namespace ChatServer.Store

open Time

/-! ## The list of channels -/

/-- A channel was not created later than another one. -/
def notYounger (a b : Channel) : Bool := (a.createdAt.cmp b.createdAt).isLE

theorem pairwise_notYounger (channels : List Channel) :
    (channels.mergeSort notYounger).Pairwise fun a b => (a.createdAt.cmp b.createdAt).isLE =
      true := by
  refine List.pairwise_mergeSort ?_ ?_ channels
  · intro a b c hab hbc
    exact Std.TransCmp.isLE_trans hab hbc
  · exact fun a b => isLE_cmp_total a.createdAt b.createdAt

namespace Ledger

variable {k : Ledger}

theorem Dated.channelRows_written (hk : k.Dated) :
    k.written.channelRows = (k.channels.mergeSort notYounger).map .ofChannel := by
  refine (List.map_mergeSort ?_).symm
  intro a ha b hb
  rw [Bool.eq_iff_iff, notYounger, decide_eq_true_eq]
  exact (stored_le_iff (hk.channels a ha) (hk.channels b hb)).symm

theorem Sound.channelIds_nodup (hk : k.Sound) : (k.channels.map fun c => c.id.text).Nodup := by
  have h := hk.keyed.channelIds
  simpa only [written, List.filterMap_map, Function.comp_def, ChannelRow.ofChannel,
    List.filterMap_eq_map'] using h

/-- An identifier has one channel. -/
theorem Sound.channel?_eq_some (hk : k.Sound) {c : Channel} (hc : c ∈ k.channels) :
    k.channel? c.id = some c := by
  refine find?_of_unique hc (by simp) fun r hr hid =>
    List.inj_on_of_nodup_map hk.channelIds_nodup hr hc ?_
  rw [beq_iff_eq.1 hid]

end Ledger
end ChatServer.Store

namespace ChatServer.Database

open Store

theorem Holds.answer_listChannels {db : Database} {k : Ledger} (h : db.Holds k) (hk : k.Dated)
    (d : Draw) :
    db.answer .listChannels d = .ok (k.channels.mergeSort notYounger) := by
  have hnamed : ((k.channels.mergeSort notYounger).map ChannelRow.ofChannel).mapM (fun row =>
    named row.id) =
      .ok ((k.channels.mergeSort notYounger).map fun c => c.id.text) :=
    mapM_map_ok fun c _ => rfl
  have hread : ((k.channels.mergeSort notYounger).map ChannelRow.ofChannel).mapM ChannelRow.read =
      .ok ((k.channels.mergeSort notYounger).map id) := by
    refine mapM_map_ok fun c hc => ?_
    have hin := List.mem_mergeSort.1 hc
    exact ChannelRow.read_ofChannel (hk.channels c hin) (h.sound.channels c hin)
  rw [answer, perform_asking h.healthy rfl, h.tables, Tables.listChannels,
    hk.channelRows_written, hnamed]
  rw [List.map_id] at hread
  exact hread

end ChatServer.Database

namespace ChatServer.Store

/-! ## Every state of a run -/

/-- A store answers about users and channels as a history tells: with whom it
registered and what it created, as these were answered then, and with nobody and
nothing else. -/
structure FindsHistory (db : Database) (history : List Performed) (d : Draw) : Prop where
  user : ∀ q ∈ history.filterMap Performed.registered?, db.answer (.getUser q.1.id) d =
    .ok (some q.1)
  credentials : ∀ q ∈ history.filterMap Performed.registered?,
    db.answer (.getCredentials q.1.email) d = .ok (some q)
  noUser : ∀ id, (∀ q ∈ history.filterMap Performed.registered?, q.1.id ≠ id) →
    db.answer (.getUser id) d = .ok none
  noCredentials : ∀ email, (∀ q ∈ history.filterMap Performed.registered?, q.1.email ≠ email) →
    db.answer (.getCredentials email) d = .ok none
  channel : ∀ c ∈ history.filterMap Performed.created?, db.answer (.getChannel c.id) d =
    .ok (some c)
  noChannel : ∀ id, (∀ c ∈ history.filterMap Performed.created?, c.id ≠ id) →
    db.answer (.getChannel id) d = .ok none
  /-- Each channel is listed once, by the time of its creation. -/
  channels : ∃ listed, db.answer .listChannels d = .ok listed ∧ listed.Nodup ∧
    listed.Perm (history.filterMap Performed.created?) ∧
    listed.Pairwise fun a b => (a.createdAt.cmp b.createdAt).isLE = true

/-- **What was written is found again.** After any operations, successful or
not, and reopenings of the store, with a clock that shows years with four
digits, every user and channel is found as it was answered when it came to be,
the user also by the email and with the hashed password, and each channel once
in the list of channels; and there are no others. -/
theorem finds_history {steps : List Step} (hclock : ∀ s ∈ steps, s.Timely) (d : Draw) :
    FindsHistory (Database.empty.run steps) (Database.empty.events steps) d := by
  have h := holds_ledgerOf steps
  have hk : (ledgerOf steps).Dated := Ledger.dated_empty.run Database.holds_empty hclock
  have husers : (ledgerOf steps).users =
    (Database.empty.events steps).filterMap Performed.registered? :=
    Ledger.users_foldl .empty _
  have hchannels : (ledgerOf steps).channels =
    (Database.empty.events steps).filterMap Performed.created? :=
    Ledger.created_foldl .empty _
  generalize ledgerOf steps = k at *
  have huser : ∀ id, (Database.empty.run steps).answer (.getUser id) d =
    .ok ((k.user? id).map Prod.fst) :=
    fun id => h.answer_getUser id (fun q hq => hk.users q (List.mem_of_find?_eq_some hq)) d
  have hcredentials : ∀ email, (Database.empty.run steps).answer (.getCredentials email) d =
      .ok (k.account? email) :=
    fun email => h.answer_getCredentials email (fun q hq => hk.users q (List.mem_of_find?_eq_some hq)) d
  have hchannel : ∀ id, (Database.empty.run steps).answer (.getChannel id) d =
      .ok (k.channel? id) := by
    intro id
    rw [Database.answer, perform_getChannel_eq h hk]
  constructor
  · intro q hq
    rw [huser, h.sound.user?_eq_some (husers ▸ hq), Option.map_some]
  · intro q hq
    rw [hcredentials, h.sound.account?_eq_some (husers ▸ hq) rfl]
  · intro id hother
    have hnone : k.user? id = none :=
      List.find?_eq_none.2 fun q hq => by simpa using hother q (husers ▸ hq)
    rw [huser, hnone, Option.map_none]
  · intro email hother
    have hnone : k.account? email = none :=
      List.find?_eq_none.2 fun q hq => by simpa using hother q (husers ▸ hq)
    rw [hcredentials, hnone]
  · intro c hc
    rw [hchannel, h.sound.channel?_eq_some (hchannels ▸ hc)]
  · intro id hother
    have hnone : k.channel? id = none :=
      List.find?_eq_none.2 fun c hc => by simpa using hother c (hchannels ▸ hc)
    rw [hchannel, hnone]
  · refine ⟨_, h.answer_listChannels hk d, ?_, ?_, pairwise_notYounger k.channels⟩
    · exact (List.mergeSort_perm _ _).nodup_iff.2 (.of_map _ h.sound.channelIds_nodup)
    · rw [← hchannels]
      exact List.mergeSort_perm _ _

/-- The small run has one user and one channel to find. -/
theorem finds_history_sample :
    (∀ s ∈ sampleSteps, s.Timely) ∧
      (Database.empty.events sampleSteps).filterMap Performed.registered? =
        [(⟨sampleId 1, "a@test.com", sampleNoon⟩, "hash")] ∧
      (Database.empty.events sampleSteps).filterMap Performed.created? =
        [⟨sampleId 2, .publicRoom, "room", sampleId 1, sampleNoon, none⟩] ∧
      FindsHistory (Database.empty.run sampleSteps) (Database.empty.events sampleSteps)
      (sampleDraw 5) := by
  have hclock : ∀ s ∈ sampleSteps, s.Timely := by
    intro s hs
    simp only [sampleSteps, List.mem_cons, List.not_mem_nil, or_false] at hs
    rcases hs with rfl | rfl | rfl | rfl <;> exact rfl
  exact ⟨hclock, by decide +kernel, by decide +kernel, finds_history hclock (sampleDraw 5)⟩

end ChatServer.Store

