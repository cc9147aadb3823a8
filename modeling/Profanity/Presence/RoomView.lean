import Profanity.Presence.RoomRun

/-!
# The room as its notifications describe it

The rest of the program hears of a room only through the `prof_handle_*` notifications.
`RoomView` is what they say: the user's nickname in the room and who is in it. A member
online or updated is in, a member offline is out, a member's rename moves it, the user's
rename changes the user's nickname, and nothing else changes the view. During the burst
members enter without a notification, so a client reads the roster once, at the
roster-complete notification; from then on, over every run of the room's stanzas that
keeps the user in it, the notifications are exactly the changes of the registry's record.

* `RoomView`, `RoomView.apply`, `ChatRoom.view`: the view, a notification's meaning, and
  the view of a record;
* `roomView_step`: one stanza after the burst changes the record's view as its
  notifications say;
* `roomView_run`, `notifications_track_room`: the same over every run.
-/

namespace Profanity

/-- What the notifications say about a room: the user's nickname and who is in it. -/
structure RoomView where
  nick : String
  members : String → Bool

/-- A room notification for the room, applied to the view. -/
def RoomView.apply (v : RoomView) : Event → RoomView
  | .roomNickChange _ nick => { v with nick := nick }
  | .roomMemberOnline _ nick _ _ _ | .roomMemberPresence _ nick _ _ _ =>
    { v with members := Function.update v.members nick true }
  | .roomMemberOffline _ nick _ _ => { v with members := Function.update v.members nick false }
  | .roomMemberNickChange _ old nick =>
    { v with members := Function.update (Function.update v.members old false) nick true }
  | _ => v

/-- The view a room's record gives. -/
def ChatRoom.view (cr : ChatRoom) : RoomView := ⟨cr.nick, Option.isSome ∘ cr.roster⟩

/-- A member's available presence after the burst with no rename pending for it: the
occupant is entered or updated, and announced online or updated. -/
theorem roomMemberOnline_of_not_pending {r n : String} {o : Occupant} {w : World}
    {cr : ChatRoom} (hcr : w.rooms r = some cr) (hn : cr.nickChanges n = none) :
    roomMemberOnline r n o w = (w.mucAddToRoster r n o).emit
      (if (cr.roster n).isSome then .roomMemberPresence r n o.showStr o.status o.capsStr
        else .roomMemberOnline r n o.showStr o.status o.capsStr) := by
  have hp : w.pendingRename r n = none := by simp [World.pendingRename, hcr, hn]
  unfold roomMemberOnline World.mucCompleteRosterNickChange
  simp only [hp]
  cases hin : (cr.roster n).isSome <;>
    simp [World.mucNickInRoster, hcr, hin, World.profHandleRoomMemberOnline,
      World.profHandleRoomMemberPresence]

section Step

variable {c : Conn} {r : String} {w w' : World} {cr : ChatRoom}

/-- One stanza of a room the user stays in, after the burst: the handler appends events,
the burst stays over, and the events about the room change the view of the record as
they say. -/
theorem roomView_step {s : Stanza} (hs : StaysIn r s) (hcr : w.rooms r = some cr)
    (hrr : cr.rosterReceived) (h : roomPresenceHandler c s w = .ok w') :
    ∃ evs, w'.out = w.out ++ evs ∧ ∃ cr', w'.rooms r = some cr' ∧ cr'.rosterReceived ∧
      cr'.view = (roomEvents r evs).foldl RoomView.apply cr.view := by
  rcases roomPresenceHandler_cases hs.1 h with ⟨-, rfl⟩ | ⟨-, hself, h⟩ | ⟨-, -, h⟩
  · exact ⟨[], by simp, cr, hcr, hrr, rfl⟩
  · rcases roomSelfPresence_cases h with ⟨-, -, rfl⟩ | ⟨hu, hn, rfl⟩ | ⟨-, -, n, -, rfl⟩ |
      ⟨-, -, hr, rfl⟩ | ⟨-, -, -, rfl⟩
    · exact ⟨[], by simp [World.mucSetRoomPendingNickChange],
        by simp [World.mucSetRoomPendingNickChange, hcr, hrr, ChatRoom.view]⟩
    · exact absurd ⟨hself, hu, hn⟩ hs.2
    · exact ⟨[.roomNickChange r n], by simp [World.profHandleRoomNickChange,
        World.mucCompleteRoomNickChange], by simp [World.mucCompleteRoomNickChange,
        World.profHandleRoomNickChange, hcr, hrr, Event.room?, RoomView.apply,
        ChatRoom.view]⟩
    · simp [World.mucGetRosterReceived, hcr, hrr] at hr
    · exact ⟨[], by simp, cr, hcr, hrr, rfl⟩
  · obtain ⟨key, iqs, n, -, -, h⟩ := roomMemberPresence_cases h
    rcases h with ⟨-, -, nn, -, rfl⟩ | ⟨-, -, rfl⟩ | ⟨-, hr, rfl⟩ | ⟨-, -, rfl⟩
    · exact ⟨iqs.map .disco, by simp [World.mucSetRosterPendingNickChange],
        by simp [World.mucSetRosterPendingNickChange, hcr, hrr, ChatRoom.view]⟩
    · exact ⟨iqs.map .disco ++ [.roomMemberOffline r n "offline" s.status],
        by simp [World.profHandleRoomMemberOffline, World.mucRemoveFromRoster],
        by simp [World.profHandleRoomMemberOffline, World.mucRemoveFromRoster, hcr, hrr,
          Event.room?, RoomView.apply, ChatRoom.view, Function.comp_update]⟩
    · simp [World.mucGetRosterReceived, hcr, hrr] at hr
    · have hcr' : (w.sendAll iqs).rooms r = some cr := hcr
      rcases roomMemberOnline_cases (n := n) (o := ⟨s.showStr, s.status, key⟩) hcr' with
        ⟨old, -, h⟩ | ⟨hnone, -⟩
      · rw [h]
        exact ⟨iqs.map .disco ++ [.roomMemberNickChange r old n],
          by simp [World.mucAddToRoster],
          by simp [World.mucAddToRoster, hcr, hrr, Event.room?, RoomView.apply,
            ChatRoom.view, Function.comp_update]⟩
      · rw [roomMemberOnline_of_not_pending hcr' hnone]
        split
        · exact ⟨iqs.map .disco ++ [.roomMemberPresence r n s.showStr s.status key],
            by simp [World.mucAddToRoster], by simp [World.mucAddToRoster, hcr, hrr, Event.room?,
              RoomView.apply, ChatRoom.view, Function.comp_update]⟩
        · exact ⟨iqs.map .disco ++ [.roomMemberOnline r n s.showStr s.status key],
            by simp [World.mucAddToRoster], by simp [World.mucAddToRoster, hcr, hrr, Event.room?,
              RoomView.apply, ChatRoom.view, Function.comp_update]⟩

end Step

/-- Over a run of the room's stanzas after the burst, the view of the record at the end is
the view at the start with the run's room notifications for the room applied. -/
theorem roomView_run {c : Conn} {r : String} {w w' : World} {cr : ChatRoom} {ss : List Stanza}
    (hcr : w.rooms r = some cr) (hrr : cr.rosterReceived) (hss : ∀ s ∈ ss, StaysIn r s)
    (h : runRoom c ss w = .ok w') :
    ∃ cr' evs, w'.rooms r = some cr' ∧ w'.out = w.out ++ evs ∧
      cr'.view = (roomEvents r evs).foldl RoomView.apply cr.view := by
  induction ss generalizing w cr with
  | nil => cases h; exact ⟨cr, [], hcr, by simp, rfl⟩
  | cons s ss ih =>
    obtain ⟨w₁, h₁, h⟩ := runRoom_cons_ok.1 h
    obtain ⟨evs₁, hout₁, cr₁, hcr₁, hrr₁, hv₁⟩ := roomView_step (hss s (.head _)) hcr hrr h₁
    obtain ⟨cr', evs, hcr', hout, hv⟩ := ih hcr₁ hrr₁ (fun s hs => hss s (.tail _ hs)) h
    exact ⟨cr', evs₁ ++ evs, hcr', by simp [hout, hout₁],
      by rw [hv, hv₁, roomEvents_append, List.foldl_append]⟩

/-- **The notifications track the room.** Once the burst is over, in every run of the
room's stanzas that keeps the user in it, the handler only appends events, and applying
those about the room to the view of the room's record gives the view of the record at
the end: the user's nickname and the set of occupants change exactly as the
notifications say. -/
theorem notifications_track_room (c : Conn) (r : String) (w w' : World) (cr : ChatRoom)
    (ss : List Stanza) (hcr : w.rooms r = some cr) (hrr : cr.rosterReceived)
    (hss : ∀ s ∈ ss, StaysIn r s) (h : runRoom c ss w = .ok w') :
    ∃ cr' evs, w'.rooms r = some cr' ∧ w'.out = w.out ++ evs ∧
      cr'.view = (roomEvents r evs).foldl RoomView.apply cr.view :=
  roomView_run hcr hrr hss h

theorem notifications_track_room_alice :
    let c : Conn := ⟨⟨"me@example.com", some "laptop"⟩, []⟩
    let r := "lobby@conf.example"
    let alice : Stanza := { fromAttr := some "lobby@conf.example/alice", mucUser := true }
    let rename : Stanza :=
      { type := some "unavailable", fromAttr := some "lobby@conf.example/alice",
        mucUser := true, roomNickChange := true, newNick := some "alice2" }
    let alice2 : Stanza := { fromAttr := some "lobby@conf.example/alice2", mucUser := true }
    let w := (World.init.mucJoinRoom r "me").profHandleRoomRosterComplete r
    ∃ w', runRoom c [alice, rename, alice2] w = .ok w' ∧ ∃ cr, w.rooms r = some cr ∧
      ∃ cr' evs, w'.rooms r = some cr' ∧ w'.out = w.out ++ evs ∧
        cr'.view = (roomEvents r evs).foldl RoomView.apply cr.view := by
  intro c r alice rename alice2 w
  exact ⟨_, rfl, _, rfl,
    notifications_track_room c r w _ _ [alice, rename, alice2] rfl rfl (by decide) rfl⟩

end Profanity
