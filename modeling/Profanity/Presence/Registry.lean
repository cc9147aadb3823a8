import Profanity.Presence.Interleave
import Profanity.Presence.Client

/-!
# Which rooms are joined, over a session

A room enters the registry only by `presence_join_room`, and leaves it only when the room
answers with the user's own `unavailable` presence without the rename status code:
`presence_leave_chat_room` only asks. Every other stanza and call keeps the set of joined
rooms, so over every session the registry holds exactly the rooms joined and not since
left, read off the session's history.

* `Input.Joins`, `Input.Leaves`: the inputs that put a room in and take it out;
* `roomPresenceHandler_isSome`, `Input.run_isSome`: one stanza, and one input;
* `joined_rooms`: over every session from `presence_init`.
-/

namespace Profanity

/-- The input joins room `r`. -/
def Input.Joins (r : String) : Input → Prop
  | .joinRoom room _ => room = r
  | _ => False

/-- The input is room `r`'s presence of the user's departure: the user's own
`unavailable` presence from the room, without the rename status code. -/
def Input.Leaves (r : String) : Input → Prop
  | .stanza s => s.forRoom r ∧ s.mucSelf ∧ s.isType stanzaTypeUnavailable ∧
      s.roomNickChange = false
  | _ => False

theorem roomMemberOnline_isSome (r n : String) (o : Occupant) (w : World) :
    ((roomMemberOnline r n o w).rooms r).isSome = (w.rooms r).isSome := by
  unfold roomMemberOnline World.mucCompleteRosterNickChange
  rcases w.pendingRename r n with _ | old
  · dsimp only
    split <;> simp [World.profHandleRoomMemberOnline, World.profHandleRoomMemberPresence,
      World.mucAddToRoster]
  · simp [World.profHandleRoomMemberNickChange, World.mucAddToRoster]

/-- The room handler puts no room in the registry, and takes its room out exactly on the
user's own departure. -/
theorem roomPresenceHandler_isSome {c : Conn} {s : Stanza} {r : String} {w w' : World}
    (hr : s.barejid = some r) (h : roomPresenceHandler c s w = .ok w') :
    (w'.rooms r).isSome ↔ (w.rooms r).isSome ∧
      ¬ (s.mucSelf ∧ s.isType stanzaTypeUnavailable ∧ s.roomNickChange = false) := by
  rcases roomPresenceHandler_cases hr h with ⟨he, rfl⟩ | ⟨-, hself, h⟩ | ⟨-, hm, h⟩
  · simp [Stanza.not_isType_of_isType he (by decide : stanzaTypeError ≠ stanzaTypeUnavailable)]
  · rcases roomSelfPresence_cases h with ⟨hu, hn, rfl⟩ | ⟨hu, hn, rfl⟩ | ⟨hu, -, n, -, rfl⟩ |
      ⟨hu, -, -, rfl⟩ | ⟨hu, -, -, rfl⟩
    · simp [hn, World.mucSetRoomPendingNickChange]
    · simp [hself, hu, hn, World.profHandleLeaveRoom, World.mucLeaveRoom]
    all_goals simp [hu, World.mucCompleteRoomNickChange, World.profHandleRoomNickChange,
      World.profHandleRoomRosterComplete]
  · obtain ⟨key, iqs, n, -, -, h⟩ := roomMemberPresence_cases h
    rcases h with ⟨-, -, nn, -, rfl⟩ | ⟨-, -, rfl⟩ | ⟨-, -, rfl⟩ | ⟨-, -, rfl⟩ <;>
      simp [hm, roomMemberOnline_isSome, World.mucSetRosterPendingNickChange,
        World.profHandleRoomMemberOffline, World.mucRemoveFromRoster, World.mucAddToRoster]

/-- One input of a session: a join puts its room in the registry, the room's presence of
the user's departure takes it out, and nothing else changes whether a room is in it. -/
theorem Input.run_isSome {c : Conn} {r : String} {i : Input} {w w' : World}
    (h : i.run c w = .ok w') :
    (w'.rooms r).isSome ↔ i.Joins r ∨ ((w.rooms r).isSome ∧ ¬ i.Leaves r) := by
  cases i with
  | stanza s =>
    simp only [Input.run] at h
    simp only [Input.Joins, Input.Leaves, false_or]
    cases hf : s.forRoom r
    · simp [hf, (handlerFireStanza_keepsRoom hf _ _ h).1]
    obtain ⟨v₁, v₂, s₁, h₂, s₂⟩ := handlerFireStanza_sameOn_split (r := r) h
    simp only [Stanza.forRoom, Bool.and_eq_true, beq_iff_eq] at hf
    rw [if_pos hf.1] at h₂
    rw [s₂.1, ← s₁.1, roomPresenceHandler_isSome hf.2 h₂]
    simp [Stanza.forRoom, hf]
  | subscription jid action =>
    rcases hj : jidCreate (some jid) with _ | j <;>
      simp [Input.run, presenceSubscription, hj, deref] at h
    subst h
    simp [Input.Joins, Input.Leaves]
  | freeSubRequests =>
    cases h
    simp [Input.Joins, Input.Leaves, presenceFreeSubRequests]
  | update =>
    simp [Input.Joins, Input.Leaves, (presenceUpdate_notifies _ _ h).sameOn.1]
  | joinRoom room nick =>
    cases h
    by_cases hr : room = r
    · subst hr
      simp [Input.Joins]
    · simp [Input.Joins, Input.Leaves, presenceJoinRoom, World.mucJoinRoom, hr,
        Function.update_noteq (Ne.symm hr)]
  | changeRoomNick =>
    cases h
    simp [Input.Joins, Input.Leaves, presenceChangeRoomNick]
  | leaveChatRoom =>
    simp [Input.Joins, Input.Leaves, (presenceLeaveChatRoom_notifies _ _ h).sameOn.1]

/-- The rooms in the registry after a session from `presence_init`. -/
theorem rooms_isSome_of_runClient {c : Conn} {r : String} {is : List Input} {w : World}
    (h : runClient c is World.init = .ok w) :
    (w.rooms r).isSome ↔ Since (Input.Joins r) (Input.Leaves r) is := by
  induction is using List.reverseRecOn generalizing w with
  | nil =>
    cases h
    simp [World.init, not_since_nil]
  | append_singleton is i ih =>
    obtain ⟨u, hu, hi⟩ := runClient_append_singleton.1 h
    rw [since_append_singleton, ← ih hu]
    exact Input.run_isSome hi

/-- **The joined rooms over a session.** Over every session from `presence_init` that
returns, a room is in the registry exactly when the user has joined it and the room has
not since sent the user's own `unavailable` presence without the rename status code:
`presence_leave_chat_room` only asks the room, and no other input changes which rooms are
in the registry. -/
theorem joined_rooms (c : Conn) (r : String) (is : List Input) (w : World)
    (h : runClient c is World.init = .ok w) :
    (w.rooms r).isSome ↔ Since (Input.Joins r) (Input.Leaves r) is :=
  rooms_isSome_of_runClient h

theorem joined_rooms_lobby :
    let c : Conn := ⟨⟨"me@example.com", some "laptop"⟩, []⟩
    let r := "lobby@conf.example"
    let alice : Stanza := { fromAttr := some "lobby@conf.example/alice", mucUser := true }
    let left : Stanza :=
      { type := some "unavailable", fromAttr := some "lobby@conf.example/me", mucUser := true,
        mucSelf := true }
    let is : List Input := [.joinRoom r "me", .joinRoom "kitchen@conf.example" "me",
      .stanza alice, .leaveChatRoom r, .stanza left]
    ∃ w, runClient c is World.init = .ok w ∧
      ((w.rooms r).isSome ↔ Since (Input.Joins r) (Input.Leaves r) is) := by
  intro c r alice left is
  exact ⟨_, rfl, joined_rooms c r is _ rfl⟩

end Profanity
