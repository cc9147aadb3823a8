import Profanity.Presence.Dispatch
import Profanity.Presence.RoomRun

/-!
# Room presence through the whole dispatch

`runRoom` hands each stanza of a room to `_room_presence_handler` alone. libstrophe hands
it to every handler of `presence_add_handlers` whose filters it meets, so a room's
`unavailable` presence also reaches `_unavailable_handler`, and a room's subscription
presence the subscription handlers. The other handlers neither read nor change the room
registry and emit no room notification, and the room handler does not read the
subscription table they change. So over any run of room presence the whole dispatch
crashes exactly when the room handler alone does, with the same fault, and otherwise
leaves the same registry and the same room notifications: what is proved of `runRoom`
about the registry and the room notifications holds of the program as libstrophe runs it.
The dispatch does more than that: `_unavailable_handler` also reports the room's bare JID
as a contact gone offline, and the subscription handlers notify and change the table for
it.

* `runDispatch`: the presence stanzas of a connection, each through the whole dispatch;
* `World.SameRooms`, `SameRoomsResult`: the same registry and the same room
  notifications, and the same for outcomes;
* `roomPresenceHandler_withSub`: the room handler does not read the subscription table;
* `KeepsRooms`: a handler that returns and keeps the rooms, as every other handler does
  on a stanza the room handler took;
* `dispatch_agrees_with_room_handler`: the whole dispatch and the room handler alone
  agree over every run of room presence.
-/

namespace Profanity

/-- The presence stanzas of a connection, each handed to every handler of
`presence_add_handlers` that fires; a crash ends the run. -/
def runDispatch (c : Conn) : List Stanza → World → Except Fault World
  | [], w => .ok w
  | s :: ss, w => (handlerFireStanza c s presenceAddHandlers w).bind (runDispatch c ss)

/-- `v` and `w` hold the same room registry and the same room notifications. -/
def World.SameRooms (v w : World) : Prop :=
  v.rooms = w.rooms ∧ ∀ x, roomEvents x v.out = roomEvents x w.out

/-- The same fault, or states with the same rooms. -/
def SameRoomsResult : Except Fault World → Except Fault World → Prop
  | .ok v, .ok w => v.SameRooms w
  | .error f, .error f' => f = f'
  | _, _ => False

namespace World

theorem SameRooms.refl (w : World) : w.SameRooms w := ⟨rfl, fun _ => rfl⟩

theorem SameRooms.trans {u v w : World} (h₁ : u.SameRooms v) (h₂ : v.SameRooms w) :
    u.SameRooms w :=
  ⟨h₁.1.trans h₂.1, fun x => (h₁.2 x).trans (h₂.2 x)⟩

/-- An event that is no room notification keeps the rooms. -/
theorem sameRooms_emit (w : World) (e : Event) (he : e.room? = none) : (w.emit e).SameRooms w :=
  ⟨rfl, fun x => by simp [roomEvents, he]⟩

end World

/-! ### The room handler does not read the subscription table -/

theorem roomSelfPresence_withSub (s : Stanza) (r : String) (nick : Option String) (w : World)
    (t : KeyTable) :
    roomSelfPresence s r nick { w with subRequests := t } =
      (roomSelfPresence s r nick w).map ({ · with subRequests := t }) := by
  unfold roomSelfPresence
  simp only [World.mucIsRoomPendingNickChange, World.mucGetRosterReceived]
  repeat' split
  all_goals cases nick <;> rfl

theorem roomMemberOnline_withSub (r n : String) (o : Occupant) (w : World) (t : KeyTable) :
    roomMemberOnline r n o { w with subRequests := t } =
      { roomMemberOnline r n o w with subRequests := t } := by
  unfold roomMemberOnline World.mucCompleteRosterNickChange
  have hp : ({ w with subRequests := t } : World).pendingRename r n = w.pendingRename r n := rfl
  rw [hp]
  rcases w.pendingRename r n with _ | old
  · simp only [World.mucNickInRoster]
    split <;> rfl
  · rfl

theorem roomMemberPresence_withSub (c : Conn) (s : Stanza) (r : String) (nick : Option String)
    (w : World) (t : KeyTable) :
    roomMemberPresence c s r nick { w with subRequests := t } =
      (roomMemberPresence c s r nick w).map ({ · with subRequests := t }) := by
  unfold roomMemberPresence
  rcases getCapsKey c.caps s with _ | ⟨key, iqs⟩
  · rfl
  simp only [ok_bind, World.mucGetRosterReceived, World.sendAll_rooms]
  repeat' split
  all_goals cases nick <;> cases s.newNick <;> try rfl
  all_goals exact congrArg Except.ok (roomMemberOnline_withSub _ _ _ (w.sendAll iqs) t)

theorem roomPresenceHandler_withSub (c : Conn) (s : Stanza) (w : World) (t : KeyTable) :
    roomPresenceHandler c s { w with subRequests := t } =
      (roomPresenceHandler c s w).map ({ · with subRequests := t }) := by
  unfold roomPresenceHandler
  split
  · rfl
  rcases jidCreate s.fromAttr with _ | j
  · rfl
  split
  · exact roomSelfPresence_withSub ..
  · exact roomMemberPresence_withSub ..

/-- The room handler takes states with the same rooms to outcomes with the same rooms. -/
theorem roomPresenceHandler_sameRooms (c : Conn) (s : Stanza) {v w : World}
    (h : v.SameRooms w) :
    SameRoomsResult (roomPresenceHandler c s v) (roomPresenceHandler c s w) := by
  rcases hr : s.barejid with _ | r
  · have hj : jidCreate s.fromAttr = none := Option.map_eq_none'.1 hr
    by_cases he : s.isType stanzaTypeError
    · rw [roomPresenceHandler_of_error he, roomPresenceHandler_of_error he]
      exact h
    · simp [roomPresenceHandler, he, hj, deref, SameRoomsResult]
  have hv : v.focus r = { w.focus r with subRequests := v.subRequests } := by
    simp [World.focus, h.1]
  rw [roomPresenceHandler_focus c s v r hr, roomPresenceHandler_focus c s w r hr, hv,
    roomPresenceHandler_withSub]
  rcases roomPresenceHandler c s (w.focus r) with f | u
  · rfl
  · exact ⟨by simp [World.commit, h.1], fun x => by simp [World.commit, h.2 x]⟩

/-! ### The other handlers keep the rooms -/

/-- `f` returns from every state, with the same rooms. -/
def KeepsRooms (f : World → Except Fault World) : Prop :=
  ∀ w, ∃ w', f w = .ok w' ∧ w'.SameRooms w

theorem KeepsRooms.bind {f g : World → Except Fault World} (hf : KeepsRooms f)
    (hg : KeepsRooms g) : KeepsRooms fun w => (f w).bind g := fun w => by
  obtain ⟨w₁, h₁, s₁⟩ := hf w
  obtain ⟨w₂, h₂, s₂⟩ := hg w₁
  exact ⟨w₂, by simp only [h₁, bind_ok_left, h₂], s₂.trans s₁⟩

/-- A handler behind a type filter keeps the rooms when it does on the stanzas it takes. -/
theorem KeepsRooms.ite {p : Prop} [Decidable p] {f : World → Except Fault World}
    (hf : p → KeepsRooms f) : KeepsRooms fun w => if p then f w else .ok w := fun w => by
  by_cases hp : p
  · simpa only [if_pos hp] using hf hp w
  · exact ⟨w, if_neg hp, .refl w⟩

theorem SameRoomsResult.bind {a b : Except Fault World} (h : SameRoomsResult a b)
    {g : World → Except Fault World} (hg : KeepsRooms g) : SameRoomsResult (a.bind g) b := by
  rcases a with f | v <;> rcases b with f' | w
  · exact h
  · exact h.elim
  · exact h.elim
  · obtain ⟨v', hv', s'⟩ := hg v
    show SameRoomsResult (g v) _
    rw [hv']
    exact s'.trans h

theorem connectionErrorHandler_keepsRooms (c : Conn) (s : Stanza) :
    KeepsRooms (connectionErrorHandler c s) :=
  fun w => ⟨_, rfl, World.sameRooms_emit w _ rfl⟩

theorem unavailableHandler_keepsRooms {c : Conn} {s : Stanza} {j : Jid}
    (hj : jidCreate s.fromAttr = some j) : KeepsRooms (unavailableHandler c s) := fun w => by
  simp only [unavailableHandler, hj, deref, need_some, ok_bind]
  split
  · exact ⟨_, rfl, World.sameRooms_emit w _ rfl⟩
  · exact ⟨w, rfl, .refl w⟩

theorem subscriptionHandler_keepsRooms {action : JabberSubscr}
    {update : KeyTable → String → KeyTable} {s : Stanza} {j : Jid}
    (hj : jidCreate s.fromAttr = some j) : KeepsRooms (subscriptionHandler action update s) :=
  fun w => ⟨{ w.profHandleSubscription j.barejid action with
      subRequests := update w.subRequests j.barejid },
    by simp [subscriptionHandler, hj, deref, World.profHandleSubscription],
    ⟨rfl, (World.sameRooms_emit w (.subscription j.barejid action) rfl).2⟩⟩

/-! ### One stanza, and whole runs -/

/-- On room presence, the whole dispatch agrees with the room handler alone. -/
theorem handlerFireStanza_sameRooms {c : Conn} {s : Stanza} (hm : s.mucUser) {v w : World}
    (h : v.SameRooms w) :
    SameRoomsResult (handlerFireStanza c s presenceAddHandlers v) (roomPresenceHandler c s w) := by
  obtain ⟨v₁, hv₁, s₁⟩ : ∃ v₁, (if s.isType stanzaTypeError then connectionErrorHandler c s v
      else .ok v) = .ok v₁ ∧ v₁.SameRooms v :=
    KeepsRooms.ite (fun _ => connectionErrorHandler_keepsRooms c s) v
  rw [handlerFireStanza_presenceAddHandlers_eq, hv₁, bind_ok_left, if_pos hm]
  have hroom := roomPresenceHandler_sameRooms c s (s₁.trans h)
  rcases hH : roomPresenceHandler c s w with f | w'
  · rw [hH] at hroom
    revert hroom
    rcases roomPresenceHandler c s v₁ with f₁ | v₂
    · exact id
    · exact False.elim
  -- the room handler returned, so an error aside the sender parses
  have hj : ¬ s.isType stanzaTypeError → ∃ j, jidCreate s.fromAttr = some j := fun he => by
    rcases hjc : jidCreate s.fromAttr with _ | j
    · simp [roomPresenceHandler, he, hjc, deref] at hH
    · exact ⟨j, rfl⟩
  have keeps : ∀ {t} {f : World → Except Fault World}, t ≠ stanzaTypeError →
      (∀ j, jidCreate s.fromAttr = some j → KeepsRooms f) →
      KeepsRooms fun w => if s.isType t then f w else .ok w := fun hne hf =>
    KeepsRooms.ite fun ht => Exists.elim (hj (Stanza.not_isType_of_isType ht hne)) hf
  refine SameRoomsResult.bind (by rwa [hH] at hroom) <|
    (keeps (by decide) fun _ hj => unavailableHandler_keepsRooms hj).bind <|
    (keeps (by decide) fun _ hj => subscriptionHandler_keepsRooms hj).bind <|
    (keeps (by decide) fun _ hj => subscriptionHandler_keepsRooms hj).bind <|
    (keeps (by decide) fun _ hj => subscriptionHandler_keepsRooms hj).bind <|
    fun w => ⟨w, availableHandler_of_skip (.inr (.inr hm)), .refl w⟩

theorem runDispatch_sameRooms {c : Conn} {ss : List Stanza} (hss : ∀ s ∈ ss, s.mucUser)
    {v w : World} (h : v.SameRooms w) :
    SameRoomsResult (runDispatch c ss v) (runRoom c ss w) := by
  induction ss generalizing v w with
  | nil => exact h
  | cons s ss ih =>
    have hs := handlerFireStanza_sameRooms (c := c) (hss s (.head _)) h
    simp only [runDispatch, runRoom]
    revert hs
    rcases handlerFireStanza c s presenceAddHandlers v with f | v' <;>
      rcases roomPresenceHandler c s w with f' | w'
    · exact id
    · exact False.elim
    · exact False.elim
    · exact ih (fun s hs => hss s (.tail _ hs))

/-- **The whole dispatch agrees with the room handler.** Over every run of room presence,
handing each stanza to every handler of `presence_add_handlers` that fires crashes exactly
when handing it to `_room_presence_handler` alone does, with the same fault; otherwise
both leave the same room registry and the same room notifications for each room. Other
events may differ: the dispatch also hands the room's `unavailable` and subscription
presence to the handlers of contacts and of the subscription table. -/
theorem dispatch_agrees_with_room_handler (c : Conn) (ss : List Stanza) (w : World)
    (hss : ∀ s ∈ ss, s.mucUser) :
    (∀ f, runRoom c ss w = .error f → runDispatch c ss w = .error f) ∧
    (∀ w', runRoom c ss w = .ok w' → ∃ v', runDispatch c ss w = .ok v' ∧
      v'.rooms = w'.rooms ∧ ∀ x, roomEvents x v'.out = roomEvents x w'.out) := by
  have h := runDispatch_sameRooms (c := c) hss (World.SameRooms.refl w)
  constructor
  · intro f hf
    rw [hf] at h
    revert h
    rcases runDispatch c ss w with f' | v' <;> simp [SameRoomsResult]
  · intro w' hw'
    rw [hw'] at h
    revert h
    rcases runDispatch c ss w with f' | v' <;> simp [SameRoomsResult, World.SameRooms]

theorem dispatch_agrees_with_room_handler_alice :
    let c : Conn := ⟨⟨"me@example.com", some "laptop"⟩, []⟩
    let ss : List Stanza :=
      [{ fromAttr := some "lobby@conf.example/alice", mucUser := true },
       { type := some "unavailable", fromAttr := some "lobby@conf.example/alice",
         mucUser := true }]
    let w := World.init.mucJoinRoom "lobby@conf.example" "me"
    ∃ w', runRoom c ss w = .ok w' ∧ ∃ v', runDispatch c ss w = .ok v' ∧
      v'.rooms = w'.rooms ∧ ∀ x, roomEvents x v'.out = roomEvents x w'.out := by
  intro c ss w
  exact ⟨_, rfl, (dispatch_agrees_with_room_handler c ss w (by decide)).2 _ rfl⟩

end Profanity
