import Profanity.Muc
import Profanity.Presence.Caps

/-!
# `_room_presence_handler`

Presence from a multi-user chat room (`presence.c`, lines 546–642). The sender's bare JID
is the room and its resource the nickname. The user's own presence leaves the room, marks
or completes the user's rename, or ends the roster burst; a member's presence is, in
order of precedence: an announced rename, an offline notice, part of the burst, the
completion of a pending rename, a newcomer, or a presence update.

* `roomSelfPresence`, `roomMemberPresence`: the two halves, and `roomPresenceHandler`;
* `roomSelfPresence_cases`, `roomMemberPresence_cases`, `roomMemberOnline_cases`: every
  outcome of each half, and of a member's presence after the burst; `roomPresenceHandler_cases`
  and the equations `roomPresenceHandler_of_self`, `roomPresenceHandler_of_member`: which half
  a stanza goes to;
* `member_presence_effects`: what a member's presence does to the room's record and what
  it announces;
* `World.focus`, `World.commit`: the part of the state a handler for one room sees, and
  putting back what it did there;
* `roomPresenceHandler_focus`: the handler reads and writes nothing but the record of the
  stanza's room, and emits nothing about another room (`roomPresenceHandler_out`);
* `roomPresenceHandler_rooms_commute`: stanzas of two rooms can be handled in either
  order.
-/

namespace Profanity

/-- The user's own presence in `room` under the nickname `nick`. -/
def roomSelfPresence (s : Stanza) (room : String) (nick : Option String) (w : World) :
    Except Fault World :=
  if s.isType stanzaTypeUnavailable then
    -- leave room if not self nick change
    if s.roomNickChange then .ok (w.mucSetRoomPendingNickChange room)
    else .ok (w.profHandleLeaveRoom room)
  -- handle self nick change
  else if w.mucIsRoomPendingNickChange room then do
    let nick ← arg nick
    return (w.mucCompleteRoomNickChange room nick).profHandleRoomNickChange room nick
  -- handle roster complete
  else if !w.mucGetRosterReceived room then .ok (w.profHandleRoomRosterComplete room)
  else .ok w

/-- A member's available presence, once the burst is over. -/
def roomMemberOnline (room nick : String) (o : Occupant) (w : World) : World :=
  match w.mucCompleteRosterNickChange room nick with
  | (some oldNick, w) =>
    (w.mucAddToRoster room nick o).profHandleRoomMemberNickChange room oldNick nick
  | (none, w) =>
    if !w.mucNickInRoster room nick then
      w.profHandleRoomMemberOnline room nick o.showStr o.status o.capsStr
    else w.profHandleRoomMemberPresence room nick o.showStr o.status o.capsStr

/-- The presence of another occupant of `room`, with nickname `nick`. -/
def roomMemberPresence (c : Conn) (s : Stanza) (room : String) (nick : Option String)
    (w : World) : Except Fault World := do
  let (capsKey, iqs) ← getCapsKey c.caps s
  let w := w.sendAll iqs
  if s.isType stanzaTypeUnavailable then
    -- handle nickname change
    if s.roomNickChange then
      let newNick ← arg s.newNick
      let nick ← arg nick
      return w.mucSetRosterPendingNickChange room newNick nick
    else
      let nick ← arg nick
      return w.profHandleRoomMemberOffline room nick "offline" s.status
  else
    let nick ← arg nick
    let o : Occupant := ⟨s.showStr, s.status, capsKey⟩
    if !w.mucGetRosterReceived room then return w.mucAddToRoster room nick o
    else return roomMemberOnline room nick o w

/-- `_room_presence_handler`. -/
def roomPresenceHandler (c : Conn) (s : Stanza) (w : World) : Except Fault World :=
  -- handler still fires if error
  if s.isType stanzaTypeError then .ok w
  else do
    let fromJid ← deref (jidCreate s.fromAttr)
    -- handle self presence
    if s.mucSelf then roomSelfPresence s fromJid.barejid fromJid.resourcepart w
    -- handle presence from room members
    else roomMemberPresence c s fromJid.barejid fromJid.resourcepart w

/-! ### What one stanza can do -/

/-- `e` tells the user that the member `n` of room `r` is present: renamed to `n`, online,
or updated. -/
def Event.AnnouncesMember (r n : String) : Event → Prop
  | .roomMemberNickChange r' _ n' | .roomMemberOnline r' n' _ _ _
  | .roomMemberPresence r' n' _ _ _ => r' = r ∧ n' = n
  | _ => False

/-- Everything the user's own presence can do. -/
theorem roomSelfPresence_cases {s : Stanza} {r : String} {nick : Option String} {w w' : World}
    (h : roomSelfPresence s r nick w = .ok w') :
    (s.isType stanzaTypeUnavailable ∧ s.roomNickChange ∧ w' = w.mucSetRoomPendingNickChange r) ∨
    (s.isType stanzaTypeUnavailable ∧ s.roomNickChange = false ∧ w' = w.profHandleLeaveRoom r) ∨
    (¬ s.isType stanzaTypeUnavailable ∧ w.mucIsRoomPendingNickChange r ∧
      ∃ n, nick = some n ∧ w' = (w.mucCompleteRoomNickChange r n).profHandleRoomNickChange r n) ∨
    (¬ s.isType stanzaTypeUnavailable ∧ w.mucIsRoomPendingNickChange r = false ∧
      w.mucGetRosterReceived r = false ∧ w' = w.profHandleRoomRosterComplete r) ∨
    (¬ s.isType stanzaTypeUnavailable ∧ w.mucIsRoomPendingNickChange r = false ∧
      w.mucGetRosterReceived r ∧ w' = w) := by
  unfold roomSelfPresence at h
  split_ifs at h with hu hn hp hr
  · cases h; exact .inl ⟨hu, hn, rfl⟩
  · cases h; exact .inr (.inl ⟨hu, by simpa using hn, rfl⟩)
  · rcases nick with _ | n
    · cases h
    · cases h; exact .inr (.inr (.inl ⟨hu, hp, n, rfl, rfl⟩))
  · cases h; exact .inr (.inr (.inr (.inl ⟨hu, by simpa using hp, by simpa using hr, rfl⟩)))
  · cases h; exact .inr (.inr (.inr (.inr ⟨hu, by simpa using hp, by simpa using hr, rfl⟩)))

/-- Everything a member's presence can do: after the capability requests go out, an
announced rename is recorded, a departure notified, a burst entry made, or the presence
taken as online. -/
theorem roomMemberPresence_cases {c : Conn} {s : Stanza} {r : String} {nick : Option String}
    {w w' : World} (h : roomMemberPresence c s r nick w = .ok w') :
    ∃ key iqs n, getCapsKey c.caps s = .ok (key, iqs) ∧ nick = some n ∧
      ((s.isType stanzaTypeUnavailable ∧ s.roomNickChange ∧
          ∃ nn, s.newNick = some nn ∧ w' = (w.sendAll iqs).mucSetRosterPendingNickChange r nn n) ∨
        (s.isType stanzaTypeUnavailable ∧ s.roomNickChange = false ∧
          w' = (w.sendAll iqs).profHandleRoomMemberOffline r n "offline" s.status) ∨
        (¬ s.isType stanzaTypeUnavailable ∧ w.mucGetRosterReceived r = false ∧
          w' = (w.sendAll iqs).mucAddToRoster r n ⟨s.showStr, s.status, key⟩) ∨
        (¬ s.isType stanzaTypeUnavailable ∧ w.mucGetRosterReceived r ∧
          w' = roomMemberOnline r n ⟨s.showStr, s.status, key⟩ (w.sendAll iqs))) := by
  unfold roomMemberPresence at h
  rcases hc : getCapsKey c.caps s with _ | ⟨key, iqs⟩
  · simp [hc] at h
  rcases nick with _ | n
  · rcases hn : s.newNick with _ | nn <;> simp [hc, hn, arg] at h
  refine ⟨key, iqs, n, rfl, rfl, ?_⟩
  simp only [hc, ok_bind, arg, need_some, World.mucGetRosterReceived, World.sendAll_rooms] at h
  split_ifs at h with hu hn hr
  · rcases hnn : s.newNick with _ | nn <;> simp [hnn] at h
    exact .inl ⟨hu, hn, nn, rfl, h.symm⟩
  · cases h; exact .inr (.inl ⟨hu, by simpa using hn, rfl⟩)
  · cases h; exact .inr (.inr (.inl ⟨hu, by simpa [World.mucGetRosterReceived] using hr, rfl⟩))
  · cases h; exact .inr (.inr (.inr ⟨hu, by simpa [World.mucGetRosterReceived] using hr, rfl⟩))

/-- Everything a member's available presence after the burst can do: apply the rename
pending for the nickname, or enter or update the occupant. -/
theorem roomMemberOnline_cases {r n : String} {o : Occupant} {w : World} {cr : ChatRoom}
    (hcr : w.rooms r = some cr) :
    (∃ old, cr.nickChanges n = some old ∧ roomMemberOnline r n o w =
      ((w.modifyRoom r fun cr => { cr with
        nickChanges := Function.update cr.nickChanges n none
        roster := Function.update cr.roster old none }).mucAddToRoster r n o).emit
        (.roomMemberNickChange r old n)) ∨
    (cr.nickChanges n = none ∧ ∃ e, e.AnnouncesMember r n ∧
      roomMemberOnline r n o w = (w.mucAddToRoster r n o).emit e) := by
  unfold roomMemberOnline World.mucCompleteRosterNickChange
  rcases hn : cr.nickChanges n with _ | old
  · have hp : w.pendingRename r n = none := by simp [World.pendingRename, hcr, hn]
    refine .inr ⟨rfl, ?_⟩
    simp only [hp]
    split_ifs
    · exact ⟨_, by exact ⟨rfl, rfl⟩, rfl⟩
    · exact ⟨_, by exact ⟨rfl, rfl⟩, rfl⟩
  · have hp : w.pendingRename r n = some old := by simp [World.pendingRename, hcr, hn]
    exact .inl ⟨old, rfl, by simp only [hp]; rfl⟩

/-- The handler on an error: the state as it was. -/
theorem roomPresenceHandler_of_error {c : Conn} {s : Stanza} {w : World}
    (h : s.isType stanzaTypeError) : roomPresenceHandler c s w = .ok w := by
  simp [roomPresenceHandler, h]

/-- The handler on the user's own presence from room `r`. -/
theorem roomPresenceHandler_of_self {c : Conn} {s : Stanza} {r : String} {w : World}
    (hr : s.barejid = some r) (he : ¬ s.isType stanzaTypeError) (hself : s.mucSelf) :
    roomPresenceHandler c s w = roomSelfPresence s r s.nick w := by
  obtain ⟨j, hj, rfl⟩ := Option.map_eq_some'.1 hr
  simp [roomPresenceHandler, he, hself, hj, deref, Stanza.nick]

/-- The handler on a member's presence from room `r`. -/
theorem roomPresenceHandler_of_member {c : Conn} {s : Stanza} {r : String} {w : World}
    (hr : s.barejid = some r) (he : ¬ s.isType stanzaTypeError) (hself : s.mucSelf = false) :
    roomPresenceHandler c s w = roomMemberPresence c s r s.nick w := by
  obtain ⟨j, hj, rfl⟩ := Option.map_eq_some'.1 hr
  simp [roomPresenceHandler, he, hself, hj, deref, Stanza.nick]

/-- Everything the handler can do with a stanza from room `r`. -/
theorem roomPresenceHandler_cases {c : Conn} {s : Stanza} {r : String} {w w' : World}
    (hr : s.barejid = some r) (h : roomPresenceHandler c s w = .ok w') :
    (s.isType stanzaTypeError ∧ w' = w) ∨
    (¬ s.isType stanzaTypeError ∧ s.mucSelf ∧ roomSelfPresence s r s.nick w = .ok w') ∨
    (¬ s.isType stanzaTypeError ∧ s.mucSelf = false ∧
      roomMemberPresence c s r s.nick w = .ok w') := by
  by_cases he : s.isType stanzaTypeError
  · rw [roomPresenceHandler_of_error he] at h
    exact .inl ⟨he, (Except.ok.inj h).symm⟩
  cases hm : s.mucSelf
  · exact .inr (.inr ⟨he, rfl, (roomPresenceHandler_of_member hr he hm).symm.trans h⟩)
  · exact .inr (.inl ⟨he, rfl, (roomPresenceHandler_of_self hr he hm).symm.trans h⟩)

/-! ### A member's presence -/

/-- **A member's presence.** From the member `n` of room `r`, with its capabilities
resolved: after the burst, an available presence with no rename pending for `n` enters `n`
and announces it online, or updates it and announces the update; during the burst it
enters `n` silently. An `unavailable` presence removes `n` and announces it offline, or,
with the rename status code, records the rename to the new nickname and announces
nothing. Each sends the capability requests first and touches nothing outside the record
of `r`. -/
theorem member_presence_effects (c : Conn) (s : Stanza) (w : World) (cr : ChatRoom) (j : Jid)
    (n : String) (key : Option String) (iqs : List DiscoIq)
    (hj : jidCreate s.fromAttr = some j) (hn : j.resourcepart = some n)
    (hself : s.mucSelf = false) (he : ¬ s.isType stanzaTypeError)
    (hcr : w.rooms j.barejid = some cr) (hk : getCapsKey c.caps s = .ok (key, iqs)) :
    (¬ s.isType stanzaTypeUnavailable → cr.rosterReceived → cr.nickChanges n = none →
      cr.roster n = none →
      roomPresenceHandler c s w = .ok { w with
        rooms := Function.update w.rooms j.barejid
          (some { cr with roster := Function.update cr.roster n (some ⟨s.showStr, s.status, key⟩) })
        out := w.out ++ iqs.map .disco ++
          [.roomMemberOnline j.barejid n s.showStr s.status key] }) ∧
    (¬ s.isType stanzaTypeUnavailable → cr.rosterReceived → cr.nickChanges n = none →
      (cr.roster n).isSome →
      roomPresenceHandler c s w = .ok { w with
        rooms := Function.update w.rooms j.barejid
          (some { cr with roster := Function.update cr.roster n (some ⟨s.showStr, s.status, key⟩) })
        out := w.out ++ iqs.map .disco ++
          [.roomMemberPresence j.barejid n s.showStr s.status key] }) ∧
    (¬ s.isType stanzaTypeUnavailable → cr.rosterReceived = false →
      roomPresenceHandler c s w = .ok { w with
        rooms := Function.update w.rooms j.barejid
          (some { cr with roster := Function.update cr.roster n (some ⟨s.showStr, s.status, key⟩) })
        out := w.out ++ iqs.map .disco }) ∧
    (s.isType stanzaTypeUnavailable → s.roomNickChange = false →
      roomPresenceHandler c s w = .ok { w with
        rooms := Function.update w.rooms j.barejid
          (some { cr with roster := Function.update cr.roster n none })
        out := w.out ++ iqs.map .disco ++
          [.roomMemberOffline j.barejid n "offline" s.status] }) ∧
    (∀ nn, s.isType stanzaTypeUnavailable → s.roomNickChange → s.newNick = some nn →
      roomPresenceHandler c s w = .ok { w with
        rooms := Function.update w.rooms j.barejid
          (some { cr with nickChanges := Function.update cr.nickChanges nn (some n) })
        out := w.out ++ iqs.map .disco }) := by
  have hm : roomPresenceHandler c s w = roomMemberPresence c s j.barejid (some n) w := by
    simp [roomPresenceHandler, he, hself, hj, hn, deref]
  simp only [hm, roomMemberPresence, hk, ok_bind, arg, need_some, World.mucGetRosterReceived,
    World.sendAll_rooms, hcr, Option.map_some', Option.getD_some]
  refine ⟨fun hu hrr hp hr => ?_, fun hu hrr hp hr => ?_, fun hu hrr => ?_, fun hu hrn => ?_,
    fun nn hu hrn hnn => ?_⟩
  · simp [hu, hrr, roomMemberOnline, World.mucCompleteRosterNickChange, World.pendingRename,
      World.mucNickInRoster, hcr, hp, hr, World.profHandleRoomMemberOnline, World.mucAddToRoster,
      World.modifyRoom, World.emit, World.sendAll]
  · simp [hu, hrr, roomMemberOnline, World.mucCompleteRosterNickChange, World.pendingRename,
      World.mucNickInRoster, hcr, hp, hr, World.profHandleRoomMemberPresence,
      World.mucAddToRoster, World.modifyRoom, World.emit, World.sendAll]
  · simp [hu, hrr, World.mucAddToRoster, World.modifyRoom, World.sendAll, hcr]
  · simp [hu, hrn, World.profHandleRoomMemberOffline, World.mucRemoveFromRoster,
      World.modifyRoom, World.emit, World.sendAll, hcr]
  · simp [hu, hrn, hnn, World.mucSetRosterPendingNickChange, World.modifyRoom, World.sendAll,
      hcr]

theorem member_presence_effects_bob :
    let c : Conn := ⟨⟨"me@example.com", some "laptop"⟩, []⟩
    let r := "lobby@conf.example"
    let bob : Stanza := { fromAttr := some "lobby@conf.example/bob", mucUser := true }
    let w := (World.init.mucJoinRoom r "me").profHandleRoomRosterComplete r
    ∃ cr, w.rooms r = some cr ∧ roomPresenceHandler c bob w = .ok { w with
      rooms := Function.update w.rooms r
        (some { cr with
          roster := Function.update cr.roster "bob" (some ⟨some "online", none, none⟩) })
      out := w.out ++ [.roomMemberOnline r "bob" (some "online") none none] } := by
  intro c r bob w
  refine ⟨_, rfl, ?_⟩
  simpa using (member_presence_effects c bob w _ ⟨r, some "bob"⟩ "bob" none []
    (by decide) rfl rfl (by decide) rfl rfl).1 (by decide) rfl rfl rfl

/-! ### Locality -/

/-- What a handler for `room` sees of `w`: the record of `room`, which every room reads as,
and nothing emitted yet. -/
def World.focus (w : World) (room : String) : World :=
  ⟨w.subRequests, fun _ => w.rooms room, []⟩

/-- `w` with the record of `room` and the events of `w'` put in. -/
def World.commit (w : World) (room : String) (w' : World) : World :=
  { w with rooms := Function.update w.rooms room (w'.rooms room), out := w.out ++ w'.out }

/-- An event that is about no room other than `r`. -/
def Event.About (r : String) (e : Event) : Prop := e.room? = none ∨ e.room? = some r

/-- The room notifications of `out` for room `x`, in order. -/
def roomEvents (x : String) (out : List Event) : List Event := out.filter (·.room? = some x)

namespace World

variable (w v : World) (r : String)

@[simp] theorem focus_rooms (x : String) : (w.focus r).rooms x = w.rooms r := rfl

@[simp] theorem commit_focus : w.commit r (w.focus r) = w := by simp [commit, focus]

@[simp] theorem commit_rooms_self : (w.commit r v).rooms r = v.rooms r := by simp [commit]

@[simp] theorem pendingRename_commit (n : String) :
    (w.commit r v).pendingRename r n = v.pendingRename r n := by
  simp [pendingRename]

theorem commit_modifyRoom (f : ChatRoom → ChatRoom) :
    w.commit r (v.modifyRoom r f) = (w.commit r v).modifyRoom r f := by
  simp [commit, modifyRoom]

theorem commit_emit (e : Event) : w.commit r (v.emit e) = (w.commit r v).emit e := by
  simp [commit, emit]

theorem commit_sendAll (iqs : List DiscoIq) :
    w.commit r (v.sendAll iqs) = (w.commit r v).sendAll iqs := by
  simp [commit, sendAll]

theorem commit_mucLeaveRoom : w.commit r (v.mucLeaveRoom r) = (w.commit r v).mucLeaveRoom r := by
  simp [commit, mucLeaveRoom]

theorem focus_commit_of_ne {r₁ r₂ : String} (h : r₁ ≠ r₂) :
    (w.commit r₁ v).focus r₂ = w.focus r₂ := by
  simp [focus, commit, Function.update_noteq (Ne.symm h)]

end World

@[simp] theorem roomEvents_append (x : String) (l₁ l₂ : List Event) :
    roomEvents x (l₁ ++ l₂) = roomEvents x l₁ ++ roomEvents x l₂ := List.filter_append _ _

@[simp] theorem roomEvents_disco (x : String) (iqs : List DiscoIq) :
    roomEvents x (iqs.map Event.disco) = [] := by
  simp [roomEvents, Event.room?]

@[simp] theorem roomEvents_nil (x : String) : roomEvents x [] = [] := rfl

@[simp] theorem roomEvents_cons (x : String) (e : Event) (l : List Event) :
    roomEvents x (e :: l) = if e.room? = some x then e :: roomEvents x l else roomEvents x l := by
  simp only [roomEvents, List.filter_cons, decide_eq_true_eq]

theorem roomEvents_of_about {r x : String} (hx : x ≠ r) {evs : List Event}
    (h : ∀ e ∈ evs, e.About r) : roomEvents x evs = [] := by
  refine List.filter_eq_nil_iff.2 fun e he => ?_
  rcases h e he with h | h <;> simp [h, Ne.symm hx]

/-! Reads and writes stay in the room's record. -/

theorem roomSelfPresence_focus (s : Stanza) (r : String) (nick : Option String) (w : World) :
    roomSelfPresence s r nick w = (roomSelfPresence s r nick (w.focus r)).map (w.commit r) := by
  unfold roomSelfPresence
  simp only [World.mucIsRoomPendingNickChange, World.mucGetRosterReceived, World.focus_rooms]
  repeat' split
  all_goals cases nick <;>
    simp [arg, World.mucSetRoomPendingNickChange, World.profHandleLeaveRoom,
      World.mucCompleteRoomNickChange, World.profHandleRoomNickChange,
      World.profHandleRoomRosterComplete, World.commit_modifyRoom, World.commit_emit,
      World.commit_mucLeaveRoom, Except.map]

theorem roomMemberOnline_commit (r n : String) (o : Occupant) (w v : World) :
    w.commit r (roomMemberOnline r n o v) = roomMemberOnline r n o (w.commit r v) := by
  unfold roomMemberOnline World.mucCompleteRosterNickChange
  rcases h : v.pendingRename r n with _ | old
  · simp only [h, World.pendingRename_commit, World.mucNickInRoster, World.commit_rooms_self]
    split_ifs <;> simp [World.profHandleRoomMemberOnline, World.profHandleRoomMemberPresence,
      World.mucAddToRoster, World.commit_modifyRoom, World.commit_emit]
  · simp [h, World.mucAddToRoster, World.profHandleRoomMemberNickChange,
      World.commit_modifyRoom, World.commit_emit]

theorem roomMemberPresence_focus (c : Conn) (s : Stanza) (r : String) (nick : Option String)
    (w : World) :
    roomMemberPresence c s r nick w =
      (roomMemberPresence c s r nick (w.focus r)).map (w.commit r) := by
  unfold roomMemberPresence
  rcases getCapsKey c.caps s with _ | ⟨key, iqs⟩
  · rfl
  simp only [ok_bind, World.mucGetRosterReceived, World.sendAll_rooms, World.focus_rooms]
  repeat' split
  all_goals cases nick <;> cases s.newNick <;>
    simp [arg, World.mucSetRosterPendingNickChange, World.profHandleRoomMemberOffline,
      World.mucRemoveFromRoster, World.mucAddToRoster, World.commit_modifyRoom,
      World.commit_emit, World.commit_sendAll, Except.map, roomMemberOnline_commit]

/-- **The handler is local to its room.** What it does to the whole state is what it does
to the record of the stanza's room alone, put back. -/
theorem roomPresenceHandler_focus (c : Conn) (s : Stanza) (w : World) (r : String)
    (hr : s.barejid = some r) :
    roomPresenceHandler c s w = (roomPresenceHandler c s (w.focus r)).map (w.commit r) := by
  by_cases he : s.isType stanzaTypeError
  · simp [roomPresenceHandler_of_error he, Except.map]
  cases hm : s.mucSelf
  · simpa only [roomPresenceHandler_of_member hr he hm] using roomMemberPresence_focus ..
  · simpa only [roomPresenceHandler_of_self hr he hm] using roomSelfPresence_focus ..

/-! Events stay about the room. -/

theorem roomSelfPresence_out (s : Stanza) (r : String) (nick : Option String) (w w' : World)
    (h : roomSelfPresence s r nick w = .ok w') :
    ∃ evs, w'.out = w.out ++ evs ∧ ∀ e ∈ evs, e.About r := by
  rcases roomSelfPresence_cases h with ⟨-, -, rfl⟩ | ⟨-, -, rfl⟩ | ⟨-, -, n, -, rfl⟩ |
    ⟨-, -, -, rfl⟩ | ⟨-, -, -, rfl⟩
  · exact ⟨[], by simp [World.mucSetRoomPendingNickChange], by simp⟩
  · exact ⟨[.leaveRoom r], by simp [World.profHandleLeaveRoom, World.mucLeaveRoom],
      List.forall_mem_singleton.2 (.inr rfl)⟩
  · exact ⟨[.roomNickChange r n], by
      simp [World.mucCompleteRoomNickChange, World.profHandleRoomNickChange],
      List.forall_mem_singleton.2 (.inr rfl)⟩
  · exact ⟨[.roomRosterComplete r], by simp [World.profHandleRoomRosterComplete],
      List.forall_mem_singleton.2 (.inr rfl)⟩
  · exact ⟨[], by simp, by simp⟩

theorem roomMemberOnline_out (r n : String) (o : Occupant) (w : World) :
    ∃ evs, (roomMemberOnline r n o w).out = w.out ++ evs ∧ ∀ e ∈ evs, e.About r := by
  unfold roomMemberOnline World.mucCompleteRosterNickChange
  rcases w.pendingRename r n with _ | old
  · by_cases hin : w.mucNickInRoster r n
    · exact ⟨[.roomMemberPresence r n o.showStr o.status o.capsStr],
        by simp [hin, World.profHandleRoomMemberPresence, World.mucAddToRoster],
        List.forall_mem_singleton.2 (.inr rfl)⟩
    · exact ⟨[.roomMemberOnline r n o.showStr o.status o.capsStr],
        by simp [hin, World.profHandleRoomMemberOnline, World.mucAddToRoster],
        List.forall_mem_singleton.2 (.inr rfl)⟩
  · exact ⟨[.roomMemberNickChange r old n],
      by simp [World.mucAddToRoster, World.profHandleRoomMemberNickChange],
      List.forall_mem_singleton.2 (.inr rfl)⟩

theorem roomMemberPresence_out (c : Conn) (s : Stanza) (r : String) (nick : Option String)
    (w w' : World) (h : roomMemberPresence c s r nick w = .ok w') :
    ∃ evs, w'.out = w.out ++ evs ∧ ∀ e ∈ evs, e.About r := by
  obtain ⟨key, iqs, n, -, -, h⟩ := roomMemberPresence_cases h
  have hd : ∀ e ∈ iqs.map Event.disco, e.About r := List.forall_mem_map.2 fun _ _ => .inl rfl
  rcases h with ⟨-, -, nn, -, rfl⟩ | ⟨-, -, rfl⟩ | ⟨-, -, rfl⟩ | ⟨-, -, rfl⟩
  · exact ⟨iqs.map .disco, by simp [World.mucSetRosterPendingNickChange], hd⟩
  · refine ⟨iqs.map .disco ++ [.roomMemberOffline r n "offline" s.status],
      by simp [World.profHandleRoomMemberOffline, World.mucRemoveFromRoster], ?_⟩
    exact List.forall_mem_append.2 ⟨hd, List.forall_mem_singleton.2 (.inr rfl)⟩
  · exact ⟨iqs.map .disco, by simp [World.mucAddToRoster], hd⟩
  · obtain ⟨evs, he, hevs⟩ := roomMemberOnline_out r n ⟨s.showStr, s.status, key⟩ (w.sendAll iqs)
    exact ⟨iqs.map .disco ++ evs, by simp [he], List.forall_mem_append.2 ⟨hd, hevs⟩⟩

/-- The handler only appends events, and none about another room. -/
theorem roomPresenceHandler_out (c : Conn) (s : Stanza) (w w' : World) (r : String)
    (hr : s.barejid = some r) (h : roomPresenceHandler c s w = .ok w') :
    ∃ evs, w'.out = w.out ++ evs ∧ ∀ e ∈ evs, e.About r := by
  rcases roomPresenceHandler_cases hr h with ⟨-, rfl⟩ | ⟨-, -, h⟩ | ⟨-, -, h⟩
  · exact ⟨[], by simp, by simp⟩
  · exact roomSelfPresence_out _ _ _ _ _ h
  · exact roomMemberPresence_out _ _ _ _ _ _ h

/-! ### Rooms are independent -/

/-- **Stanzas of two rooms commute.** The handler reads and writes only the record of its
stanza's room; so for stanzas of two different rooms, either order crashes, or neither
does and the two leave the same registry and emit, for every room, the same room
notifications in the same order. -/
theorem roomPresenceHandler_rooms_commute (c : Conn) (w : World) (s₁ s₂ : Stanza)
    (r₁ r₂ : String) (h₁ : s₁.barejid = some r₁) (h₂ : s₂.barejid = some r₂) (hne : r₁ ≠ r₂) :
    (∀ v, roomPresenceHandler c s₁ v =
      (roomPresenceHandler c s₁ (v.focus r₁)).map (v.commit r₁)) ∧
    (∀ v, roomPresenceHandler c s₂ v =
      (roomPresenceHandler c s₂ (v.focus r₂)).map (v.commit r₂)) ∧
    ((roomPresenceHandler c s₁ w).bind (roomPresenceHandler c s₂)).toOption.map
        (fun w => (w.subRequests, w.rooms)) =
      ((roomPresenceHandler c s₂ w).bind (roomPresenceHandler c s₁)).toOption.map
        (fun w => (w.subRequests, w.rooms)) ∧
    ∀ x, ((roomPresenceHandler c s₁ w).bind (roomPresenceHandler c s₂)).toOption.map
        (fun w => roomEvents x w.out) =
      ((roomPresenceHandler c s₂ w).bind (roomPresenceHandler c s₁)).toOption.map
        (fun w => roomEvents x w.out) := by
  have key : ∀ {rA rB : String} {sB : Stanza}, sB.barejid = some rB → rA ≠ rB → ∀ v a : World,
      roomPresenceHandler c sB (v.commit rA a) =
        (roomPresenceHandler c sB (v.focus rB)).map ((v.commit rA a).commit rB) := by
    intro rA rB sB hB hAB v a
    rw [roomPresenceHandler_focus c sB _ rB hB, World.focus_commit_of_ne _ _ hAB]
  refine ⟨fun v => roomPresenceHandler_focus c s₁ v r₁ h₁,
    fun v => roomPresenceHandler_focus c s₂ v r₂ h₂, ?_⟩
  rw [roomPresenceHandler_focus c s₁ w r₁ h₁, roomPresenceHandler_focus c s₂ w r₂ h₂]
  rcases ha : roomPresenceHandler c s₁ (w.focus r₁) with f₁ | a <;>
    rcases hb : roomPresenceHandler c s₂ (w.focus r₂) with f₂ | b <;>
    simp only [Except.map, Except.bind, key h₁ (Ne.symm hne), key h₂ hne, ha, hb,
      Except.toOption, Option.map_some', Option.map_none', and_self, implies_true]
  obtain ⟨ea, hea, hab⟩ := roomPresenceHandler_out c s₁ _ _ r₁ h₁ ha
  obtain ⟨eb, heb, hbb⟩ := roomPresenceHandler_out c s₂ _ _ r₂ h₂ hb
  simp only [World.focus, List.nil_append] at hea heb
  refine ⟨by simp [World.commit, Function.update_comm hne], fun x => ?_⟩
  simp only [World.commit, roomEvents_append, List.append_assoc, hea, heb, Option.some.injEq]
  by_cases hx : x = r₁
  · subst hx
    simp [roomEvents_of_about hne hbb]
  · simp [roomEvents_of_about hx hab]

/-- Two joined rooms after their bursts, each getting a member's presence: both orders
return, announce each member in its own room, and agree. -/
theorem roomPresenceHandler_rooms_commute_lobby_kitchen :
    let c : Conn := ⟨⟨"me@example.com", some "laptop"⟩, []⟩
    let alice : Stanza := { fromAttr := some "lobby@conf.example/alice", mucUser := true }
    let bob : Stanza := { fromAttr := some "kitchen@conf.example/bob", mucUser := true }
    let w := (((World.init.mucJoinRoom "lobby@conf.example" "me").mucJoinRoom
      "kitchen@conf.example" "me").profHandleRoomRosterComplete "lobby@conf.example"
      ).profHandleRoomRosterComplete "kitchen@conf.example"
    alice.barejid = some "lobby@conf.example" ∧ bob.barejid = some "kitchen@conf.example" ∧
    ((roomPresenceHandler c alice w).bind (roomPresenceHandler c bob)).toOption.map
        (fun w => (roomEvents "lobby@conf.example" w.out,
          roomEvents "kitchen@conf.example" w.out)) =
      some ([.roomRosterComplete "lobby@conf.example",
          .roomMemberOnline "lobby@conf.example" "alice" (some "online") none none],
        [.roomRosterComplete "kitchen@conf.example",
          .roomMemberOnline "kitchen@conf.example" "bob" (some "online") none none]) ∧
    ((roomPresenceHandler c alice w).bind (roomPresenceHandler c bob)).toOption.map
        (fun w => (w.subRequests, w.rooms)) =
      ((roomPresenceHandler c bob w).bind (roomPresenceHandler c alice)).toOption.map
        (fun w => (w.subRequests, w.rooms)) ∧
    ∀ x, ((roomPresenceHandler c alice w).bind (roomPresenceHandler c bob)).toOption.map
        (fun w => roomEvents x w.out) =
      ((roomPresenceHandler c bob w).bind (roomPresenceHandler c alice)).toOption.map
        (fun w => roomEvents x w.out) := by
  intro c alice bob w
  exact ⟨rfl, rfl, rfl, (roomPresenceHandler_rooms_commute c w alice bob "lobby@conf.example"
    "kitchen@conf.example" rfl rfl (by decide)).2.2⟩

end Profanity
