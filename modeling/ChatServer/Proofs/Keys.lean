import ChatServer.Store.Operation

/-!
# Keys along operations

Every operation changes the tables by insertions and by ending memberships, and
each of these keeps what the keys promise (`Tables.Keyed`).

* `Tables.apply_induction`: what insertions and the end of a membership keep,
  every operation keeps.
* `Tables.Keyed.apply`: no operation breaks a key or a reference.
-/
namespace ChatServer.Store.Tables

variable {t u : Tables}

/-! ## One row more -/

/-- Keys stay distinct when a row is added whose key, if it has one, no row
has. -/
theorem nodup_keys_append {α : Type} {key : α → Option String} {rows : List α} {row : α}
    (h : (rows.filterMap key).Nodup)
    (hrow : ((key row).any fun id => rows.any (key · == some id)) = false) :
    ((rows ++ [row]).filterMap key).Nodup := by
  rw [List.filterMap_append, List.nodup_append]
  refine ⟨h, ?_, ?_⟩
  · cases hk : key row <;> simp [hk]
  · rintro a ha b hb rfl
    obtain ⟨r, hr, hra⟩ := List.mem_filterMap.1 ha
    have hk : key row = some a := by simpa [List.mem_filterMap] using hb
    simp only [hk, Option.any_some, List.any_eq_false, beq_iff_eq] at hrow
    exact hrow r hr hra

theorem hasUser_append {id : String} (h : t.hasUser id = true) (row : UserRow) :
    { t with users := t.users ++ [row] }.hasUser id = true := by
  simp only [hasUser, List.any_append, Bool.or_eq_true] at h ⊢
  exact .inl h

theorem hasChannel_append {id : String} (h : t.hasChannel id = true) (row : ChannelRow) :
    { t with channels := t.channels ++ [row] }.hasChannel id = true := by
  simp only [hasChannel, List.any_append, Bool.or_eq_true] at h ⊢
  exact .inl h

theorem Keyed.insertUser {row : UserRow} (hk : t.Keyed) (h : t.insertUser row = .ok u) :
    u.Keyed := by
  obtain ⟨hemail, hid, rfl⟩ := insertUser_eq_ok.1 h
  refine ⟨nodup_keys_append hk.userIds hid, ?_, hk.channelIds, hk.memberships, hk.messageIds,
    ?_, ?_, ?_⟩
  · simp only [List.any_eq_false, beq_iff_eq] at hemail
    simp only [List.map_append, List.map_cons, List.map_nil, List.nodup_append, List.mem_map,
      List.mem_singleton]
    refine ⟨hk.emails, by simp, ?_⟩
    rintro a ⟨r, hr, rfl⟩ b rfl
    exact hemail r hr
  · exact fun c hc => hasUser_append (hk.creators c hc) row
  · exact fun m hm => ⟨(hk.members m hm).1, hasUser_append (hk.members m hm).2 row⟩
  · exact fun m hm => ⟨(hk.messages m hm).1, hasUser_append (hk.messages m hm).2 row⟩

theorem Keyed.insertChannel {row : ChannelRow} (hk : t.Keyed) (h : t.insertChannel row = .ok u) :
    u.Keyed := by
  obtain ⟨hid, hcreator, rfl⟩ := insertChannel_eq_ok.1 h
  refine ⟨hk.userIds, hk.emails, nodup_keys_append hk.channelIds hid, hk.memberships, hk.messageIds,
    ?_, ?_, ?_⟩
  · intro c hc
    rcases List.mem_append.1 hc with hc | hc
    · exact hk.creators c hc
    · rw [List.mem_singleton.1 hc]; exact hcreator
  · exact fun m hm => ⟨hasChannel_append (hk.members m hm).1 row, (hk.members m hm).2⟩
  · exact fun m hm => ⟨hasChannel_append (hk.messages m hm).1 row, (hk.messages m hm).2⟩

theorem Keyed.insertMember {row : MemberRow} (hk : t.Keyed) (h : t.insertMember row = .ok u) :
    u.Keyed := by
  obtain ⟨hnew, hchannel, huser, rfl⟩ := insertMember_eq_ok.1 h
  refine ⟨hk.userIds, hk.emails, hk.channelIds, ?_, hk.messageIds, hk.creators, ?_, hk.messages⟩
  · simp only [hasMember, List.any_eq_false, Bool.and_eq_true, beq_iff_eq, not_and] at hnew
    simp only [List.map_append, List.map_cons, List.map_nil, List.nodup_append, List.mem_map,
      List.mem_singleton]
    refine ⟨hk.memberships, by simp, ?_⟩
    rintro a ⟨r, hr, rfl⟩ b rfl he
    obtain ⟨hc, hu⟩ := Prod.mk.inj he
    exact hnew r hr hc hu
  · intro m hm
    rcases List.mem_append.1 hm with hm | hm
    · exact hk.members m hm
    · rw [List.mem_singleton.1 hm]; exact ⟨hchannel, huser⟩

theorem Keyed.insertMessage {row : MessageRow} (hk : t.Keyed) (h : t.insertMessage row = .ok u) :
    u.Keyed := by
  obtain ⟨hid, hchannel, huser, rfl⟩ := insertMessage_eq_ok.1 h
  refine ⟨hk.userIds, hk.emails, hk.channelIds, hk.memberships, nodup_keys_append hk.messageIds hid,
    hk.creators, hk.members, ?_⟩
  intro m hm
  rcases List.mem_append.1 hm with hm | hm
  · exact hk.messages m hm
  · rw [List.mem_singleton.1 hm]; exact ⟨hchannel, huser⟩

theorem Keyed.eraseMember (hk : t.Keyed) (channelId userId : String) :
    (t.eraseMember channelId userId).Keyed := by
  refine ⟨hk.userIds, hk.emails, hk.channelIds, ?_, hk.messageIds, hk.creators, ?_, hk.messages⟩
  · exact (List.filter_sublist.map _).nodup hk.memberships
  · exact fun m hm => hk.members m (List.mem_filter.1 hm).1

/-! ## Operations -/

/-- What each insertion keeps, and the end of a membership, every operation
keeps. -/
theorem apply_induction {P : Tables → Prop} {op : Operation} {d : Draw} {answer : op.Answer}
    (user : ∀ t u row, P t → t.insertUser row = .ok u → P u)
    (channel : ∀ t u row, P t → t.insertChannel row = .ok u → P u)
    (member : ∀ t u row, P t → t.insertMember row = .ok u → P u)
    (message : ∀ t u row, P t → t.insertMessage row = .ok u → P u)
    (leave : ∀ t channelId userId, P t → P (t.eraseMember channelId userId))
    (ht : P t) (h : op.apply d t = .ok (answer, u)) : P u := by
  cases op with
  | createUser email password =>
    rcases createUser_eq_ok h with ⟨-, -, rfl⟩ | ⟨-, -, hi⟩
    · exact ht
    · exact user _ _ _ ht hi
  | createChannel kind name creatorId =>
    obtain ⟨id, v, -, -, hc, hm⟩ := createChannel_eq_ok h
    exact member _ _ _ (channel _ _ _ ht hc) hm
  | addMember channelId userId =>
    rcases addMember_eq_ok h with ⟨-, -, rfl⟩ | ⟨-, -, hi⟩
    · exact ht
    · exact member _ _ _ ht hi
  | removeMember channelId userId =>
    cases h
    exact leave _ _ _ ht
  | appendMessage new =>
    rcases appendMessage_eq_ok h with ⟨-, -, rfl⟩ | ⟨-, -, hi⟩
    · exact ht
    · exact message _ _ _ ht hi
  | getUser id => exact (Operation.asking_eq_ok.1 h).2 ▸ ht
  | getCredentials email => exact (Operation.asking_eq_ok.1 h).2 ▸ ht
  | getChannel id => exact (Operation.asking_eq_ok.1 h).2 ▸ ht
  | listChannels => exact (Operation.asking_eq_ok.1 h).2 ▸ ht
  | listMembers channelId => exact (Operation.asking_eq_ok.1 h).2 ▸ ht
  | listMessages channelId limit before => exact (Operation.asking_eq_ok.1 h).2 ▸ ht

theorem Keyed.apply {op : Operation} {d : Draw} {answer : op.Answer} (hk : t.Keyed)
    (h : op.apply d t = .ok (answer, u)) : u.Keyed :=
  apply_induction (fun _ _ _ => Keyed.insertUser) (fun _ _ _ => Keyed.insertChannel)
    (fun _ _ _ => Keyed.insertMember) (fun _ _ _ => Keyed.insertMessage)
    (fun _ channelId userId hk => hk.eraseMember channelId userId) hk h

end ChatServer.Store.Tables

