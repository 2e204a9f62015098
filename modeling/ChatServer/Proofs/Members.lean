import ChatServer.Proofs.Ledger

/-!
# Members of channels

What the store answers about the members of a channel, read from the ledger.

* `mem_membersOf_iff`, `listMembers_written`: the members that are listed are
  those whose membership has a row.
* `hasMember_created`: a new channel has its creator for a member, and no other.
-/
namespace ChatServer.Store

open Time

namespace Ledger

/-- The members of a channel as the store lists them. -/
def membersOf (k : Ledger) (channelId : Uuid) : List Uuid :=
  ((k.members.filter (·.channelId == channelId)).mergeSort fun a b =>
    Tables.joinedBefore (.ofMembership a) (.ofMembership b)).map Membership.userId

theorem hasMember_written (k : Ledger) (channelId userId : Uuid) :
    k.written.hasMember channelId.text userId.text =
      k.members.any fun m => m.channelId == channelId && m.userId == userId := by
  simp only [written, Tables.hasMember, List.any_map, Function.comp_def, MemberRow.ofMembership,
    Uuid.text_beq]

theorem mem_membersOf_iff {k : Ledger} {channelId userId : Uuid} :
    userId ∈ k.membersOf channelId ↔ k.written.hasMember channelId.text userId.text = true := by
  rw [hasMember_written, membersOf, List.mem_map, List.any_eq_true]
  simp only [List.mem_mergeSort, List.mem_filter, Bool.and_eq_true, beq_iff_eq]
  constructor
  · rintro ⟨m, ⟨hm, hc⟩, hu⟩
    exact ⟨m, hm, hc, hu⟩
  · rintro ⟨m, hm, hc, hu⟩
    exact ⟨m, ⟨hm, hc⟩, hu⟩

theorem listMembers_written (k : Ledger) (channelId : Uuid) :
    k.written.listMembers channelId = .ok (k.membersOf channelId) := by
  have hrows : k.written.memberRows channelId.text =
      ((k.members.filter (·.channelId == channelId)).mergeSort fun a b =>
        Tables.joinedBefore (.ofMembership a) (.ofMembership b)).map MemberRow.ofMembership := by
    have hfilter : k.written.members.filter (·.channelId == channelId.text) =
        (k.members.filter (·.channelId == channelId)).map MemberRow.ofMembership := by
      simp only [written, List.filter_map, Function.comp_def, MemberRow.ofMembership, Uuid.text_beq]
    rw [Tables.memberRows, hfilter]
    refine (List.map_mergeSort ?_).symm
    intro a _ b _
    rfl
  rw [Tables.listMembers, hrows, membersOf]
  exact mapM_map_ok fun m _ => readId_text m.userId

end Ledger

/-- What a store that holds a ledger answers to a question about members. -/
theorem perform_listMembers {db : Database} {k : Ledger} (h : db.Holds k) (channelId : Uuid)
    (d : Draw) :
    db.perform (.listMembers channelId) d = (.ok (k.membersOf channelId), db) := by
  rw [← Ledger.listMembers_written, ← h.tables]
  exact Database.perform_asking h.healthy rfl

/-- A membership names a channel and a user who are there. -/
theorem Tables.Keyed.named_of_hasMember {t : Tables} (ht : t.Keyed) {channelId userId : String}
    (h : t.hasMember channelId userId = true) : t.hasChannel channelId = true ∧
      t.hasUser userId = true := by
  obtain ⟨m, hin, hsame⟩ := List.any_eq_true.1 h
  obtain ⟨rfl, rfl⟩ : m.channelId = channelId ∧ m.userId = userId := by simpa using hsame
  exact ht.members m hin

/-- No membership names a channel that is not there. -/
theorem hasMember_of_absent {t : Tables} (ht : t.Keyed) {channelId : String}
    (h : t.hasChannel channelId = false) (userId : String) :
    t.hasMember channelId userId = false := by
  rw [Bool.eq_false_iff]
  intro hmember
  rw [(ht.named_of_hasMember hmember).1] at h
  cases h

/-- The creator of a channel is its only member at first. -/
theorem hasMember_created {t u : Tables} (ht : t.Keyed) {d : Draw} {kind : ChannelKind}
    {name : String}
    {creatorId : Uuid} {c : Channel} (h : t.createChannel d kind name creatorId = .ok (c, u))
    (userId : Uuid) : u.hasMember c.id.text userId.text = true ↔ userId = creatorId := by
  obtain ⟨id, v, hfresh, rfl, hc, hm⟩ := Tables.createChannel_eq_ok h
  obtain ⟨-, -, rfl⟩ := Tables.insertChannel_eq_ok.1 hc
  obtain ⟨-, -, -, rfl⟩ := Tables.insertMember_eq_ok.1 hm
  have hnone := hasMember_of_absent ht (Tables.freshChannelId?_unused hfresh) userId.text
  have hboth : ({ t with
      channels := t.channels ++ [.ofChannel ⟨id, kind, name, creatorId, d.now, none⟩]
      members := t.members ++ [⟨id.text, creatorId.text, d.now.stored⟩] } : Tables).hasMember
        id.text userId.text = (t.hasMember id.text userId.text || creatorId == userId) := by
    simp [Tables.hasMember]
  rw [hboth, hnone, Bool.false_or, beq_iff_eq]
  exact eq_comm

end ChatServer.Store

