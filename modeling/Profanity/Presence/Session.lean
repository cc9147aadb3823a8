import Profanity.Presence.RoomRun

/-!
# A room session: the user's requests and the room's answers

The user's side of a room (`presence.c`, lines 201–273). `presence_join_room` sends the
join presence and enters the room in the registry. `presence_change_room_nick` and
`presence_leave_chat_room` only send a presence: the room's answer, which
`_room_presence_handler` takes, is what renames the user or takes the room out of the
registry. The presences carry the account's show, status, priority and capabilities
(`accounts.c`, `stanza.c`); the events here record where they go.

* `presenceJoinRoom`, `presenceChangeRoomNick`, `presenceLeaveChatRoom`;
* `room_session`: after a join and any run of the room's stanzas that keeps the user in
  it, the room is in the registry; a leave request sends the leave presence with the
  user's nickname and changes nothing else; the room's answer takes the room out;
* `self_rename_round_trip`: a rename request that the room answers renames the user once;
* `member_rename_round_trip`: after the burst, a member's rename announcement followed by
  the new nickname's presence moves the occupant and announces one rename.
-/

namespace Profanity

/-- `presence_join_room`: send the join presence to `room/nick`, then enter the room. The
asserts ask for a JID with a resource part; the model takes its two parts. -/
def presenceJoinRoom (room nick : String) (w : World) : World :=
  (w.emit (.roomJoin (createFulljid room nick))).mucJoinRoom room nick

/-- `presence_change_room_nick`: ask `room` for the nickname `nick`. -/
def presenceChangeRoomNick (room nick : String) (w : World) : World :=
  w.emit (.roomNewNick (createFulljid room nick))

/-- `presence_leave_chat_room`: send the leave presence with the user's nickname in `room`,
which `stanza_create_room_leave_presence` reads. -/
def presenceLeaveChatRoom (room : String) (w : World) : Except Fault World := do
  let nick ← arg (w.mucGetRoomNick room)
  return w.emit (.roomLeave room nick)

@[simp] theorem presenceJoinRoom_rooms_self (room nick : String) (w : World) :
    (presenceJoinRoom room nick w).rooms room = some (ChatRoom.fresh nick) := by
  simp [presenceJoinRoom, World.mucJoinRoom]

/-- **A room session.** After joining `r` and handling any run of its stanzas that keeps
the user in it, the room is in the registry. A leave request sends the leave presence with
the user's nickname there and changes nothing else; the room's answer, the user's own
`unavailable` presence without the rename status code, takes the room out of the registry
and reports it left. -/
theorem room_session (c : Conn) (r nick : String) (w : World) (ss : List Stanza) (w₁ : World)
    (hss : ∀ s ∈ ss, StaysIn r s) (hrun : runRoom c ss (presenceJoinRoom r nick w) = .ok w₁) :
    ∃ cr, w₁.rooms r = some cr ∧
      presenceLeaveChatRoom r w₁ = .ok (w₁.emit (.roomLeave r cr.nick)) ∧
      ∀ s, s.barejid = some r → s.mucSelf → s.isType stanzaTypeUnavailable →
        s.roomNickChange = false →
        roomPresenceHandler c s w₁ = .ok { w₁ with
          rooms := Function.update w₁.rooms r none
          out := w₁.out ++ [.leaveRoom r] } := by
  obtain ⟨cr, hcr, -, -⟩ := rosterComplete_run hss (presenceJoinRoom_rooms_self r nick w) hrun
  refine ⟨cr, hcr, by simp [presenceLeaveChatRoom, World.mucGetRoomNick, hcr, arg],
    fun s hr hself hu hn => ?_⟩
  rw [roomPresenceHandler_of_self hr (Stanza.not_error_of_unavailable hu) hself]
  simp [roomSelfPresence, hu, hn, World.profHandleLeaveRoom, World.mucLeaveRoom, World.emit]

theorem room_session_lobby :
    let c : Conn := ⟨⟨"me@example.com", some "laptop"⟩, []⟩
    let r := "lobby@conf.example"
    let ss : List Stanza :=
      [{ fromAttr := some "lobby@conf.example/alice", mucUser := true },
       { fromAttr := some "lobby@conf.example/me", mucUser := true, mucSelf := true }]
    let leave : Stanza :=
      { type := some "unavailable", fromAttr := some "lobby@conf.example/me", mucUser := true,
        mucSelf := true }
    ∃ w₁, runRoom c ss (presenceJoinRoom r "me" World.init) = .ok w₁ ∧ ∃ cr, w₁.rooms r = some cr ∧
      presenceLeaveChatRoom r w₁ = .ok (w₁.emit (.roomLeave r cr.nick)) ∧
      roomPresenceHandler c leave w₁ = .ok { w₁ with
        rooms := Function.update w₁.rooms r none
        out := w₁.out ++ [.leaveRoom r] } := by
  intro c r ss leave
  obtain ⟨cr, h₁, h₂, h₃⟩ := room_session c r "me" World.init ss _ (by decide) rfl
  exact ⟨_, rfl, cr, h₁, h₂, h₃ leave rfl rfl rfl rfl⟩

/-- **The user's rename.** Asking room `r` for the nickname `n` only sends the request.
The room answers with the user's own `unavailable` presence with the rename status code,
then the user's presence from `r/n`: the user's nickname in `r` becomes `n`, no rename is
pending any more, the rest of the registry is as it was, and the rename is reported once. -/
theorem self_rename_round_trip (c : Conn) (r n : String) (w : World) (cr : ChatRoom)
    (s₁ s₂ : Stanza) (hr : '/' ∉ r.toList) (hcr : w.rooms r = some cr)
    (h₁ : s₁.barejid = some r ∧ s₁.mucSelf ∧ s₁.isType stanzaTypeUnavailable ∧ s₁.roomNickChange)
    (h₂ : s₂.fromAttr = some (createFulljid r n) ∧ s₂.mucSelf ∧ ¬ s₂.isType stanzaTypeError ∧
      ¬ s₂.isType stanzaTypeUnavailable) :
    runRoom c [s₁, s₂] (presenceChangeRoomNick r n w) = .ok { w with
      rooms := Function.update w.rooms r (some { cr with nick := n, pendingNickChange := false })
      out := w.out ++ [.roomNewNick (createFulljid r n), .roomNickChange r n] } := by
  obtain ⟨hr₁, hself₁, hu₁, hn₁⟩ := h₁
  obtain ⟨hf₂, hself₂, he₂, hu₂⟩ := h₂
  have hj₂ : jidCreate s₂.fromAttr = some ⟨r, some n⟩ := by
    rw [hf₂, jidCreate_createFulljid _ _ hr]
  have hr₂ : s₂.barejid = some r := by simp [Stanza.barejid, hj₂]
  simp [runRoom, roomPresenceHandler_of_self hr₁ (Stanza.not_error_of_unavailable hu₁) hself₁,
    roomPresenceHandler_of_self hr₂ he₂ hself₂, roomSelfPresence, hu₁, hn₁, hu₂, Stanza.nick,
    hj₂, arg, World.mucSetRoomPendingNickChange,
    World.mucIsRoomPendingNickChange, World.mucCompleteRoomNickChange,
    World.profHandleRoomNickChange, presenceChangeRoomNick, World.modifyRoom, World.emit, hcr]

theorem self_rename_round_trip_lobby :
    let c : Conn := ⟨⟨"me@example.com", some "laptop"⟩, []⟩
    let r := "lobby@conf.example"
    let w := (presenceJoinRoom r "me" World.init).profHandleRoomRosterComplete r
    runRoom c
      [{ type := some "unavailable", fromAttr := some "lobby@conf.example/me", mucUser := true,
         mucSelf := true, roomNickChange := true },
       { fromAttr := some "lobby@conf.example/me2", mucUser := true, mucSelf := true }]
      (presenceChangeRoomNick r "me2" w) = .ok { w with
        rooms := Function.update w.rooms r
          (some { ChatRoom.fresh "me" with rosterReceived := true, nick := "me2" })
        out := w.out ++ [.roomNewNick (createFulljid r "me2"), .roomNickChange r "me2"] } := by
  intro c r w
  exact self_rename_round_trip c r "me2" w { ChatRoom.fresh "me" with rosterReceived := true }
    _ _ (by decide) rfl ⟨rfl, rfl, rfl, rfl⟩ ⟨by decide, rfl, by decide, by decide⟩

/-- **A member's rename.** After the burst, a member `old` announces a rename to `new`, and
`new` then sends its presence: `new` is an occupant, `old` is not, no rename to `new` is
pending, and besides the capability requests exactly one notification goes out, the
rename. -/
theorem member_rename_round_trip (c : Conn) (r old new : String) (w w' : World)
    (cr : ChatRoom) (s₁ s₂ : Stanza) (hcr : w.rooms r = some cr) (hrr : cr.rosterReceived)
    (hne : old ≠ new) (h₁ : jidCreate s₁.fromAttr = some ⟨r, some old⟩ ∧ s₁.AnnouncesRenameTo new)
    (h₂ : s₂.barejid = some r ∧ s₂.IsAvailableFrom new) (h : runRoom c [s₁, s₂] w = .ok w') :
    ∃ (cr' : ChatRoom) (iqs : List DiscoIq), w'.rooms r = some cr' ∧
      (cr'.roster new).isSome ∧ cr'.roster old = none ∧ cr'.nickChanges new = none ∧
      w'.out = w.out ++ iqs.map .disco ++ [.roomMemberNickChange r old new] := by
  obtain ⟨w₁, hw₁, h⟩ := runRoom_cons_ok.1 h
  obtain ⟨w₂, hw₂, h⟩ := runRoom_cons_ok.1 h
  cases h
  obtain ⟨iqs₁, rfl⟩ := roomPresenceHandler_announce h₁.1 h₁.2 hw₁
  have hcr₁ : ((w.sendAll iqs₁).mucSetRosterPendingNickChange r new old).rooms r =
      some { cr with nickChanges := Function.update cr.nickChanges new (some old) } := by
    simp [World.mucSetRosterPendingNickChange, hcr]
  obtain ⟨cr', iqs₂, hcr', hn, ho, hc, hout⟩ :=
    rename_applied h₂.1 h₂.2 hcr₁ hrr (Function.update_same new (some old) cr.nickChanges) hw₂
  exact ⟨cr', iqs₁ ++ iqs₂, hcr', hn, ho hne, hc,
    by simp [hout, World.mucSetRosterPendingNickChange]⟩

theorem member_rename_round_trip_alice :
    let c : Conn := ⟨⟨"me@example.com", some "laptop"⟩, []⟩
    let r := "lobby@conf.example"
    let w := (presenceJoinRoom r "me" World.init).profHandleRoomRosterComplete r
    let rename : Stanza :=
      { type := some "unavailable", fromAttr := some "lobby@conf.example/alice",
        mucUser := true, roomNickChange := true, newNick := some "alice2" }
    let alice2 : Stanza := { fromAttr := some "lobby@conf.example/alice2", mucUser := true }
    ∃ w', runRoom c [rename, alice2] w = .ok w' ∧
      ∃ (cr' : ChatRoom) (iqs : List DiscoIq), w'.rooms r = some cr' ∧
        (cr'.roster "alice2").isSome ∧ cr'.roster "alice" = none ∧
        cr'.nickChanges "alice2" = none ∧
        w'.out = w.out ++ iqs.map .disco ++ [.roomMemberNickChange r "alice" "alice2"] := by
  intro c r w rename alice2
  exact ⟨_, rfl, member_rename_round_trip c r "alice" "alice2" w _
    { ChatRoom.fresh "me" with rosterReceived := true } rename alice2 rfl rfl (by decide)
    ⟨by decide, by decide⟩ ⟨rfl, by decide⟩ rfl⟩

end Profanity
