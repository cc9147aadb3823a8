import Profanity.Presence.Frame
import Profanity.Presence.RoomView

/-!
# A room over the whole connection

A connection carries the presence of every room the user is in, of contacts and of
subscription requests, interleaved in any order, and libstrophe hands each stanza to every
handler of `presence_add_handlers` that fires. A room's record and its room notifications
depend on the room's own presence only: over every run of the connection that returns,
handing the room handler alone the room's stanzas, in their order, returns with the same
record and the same room notifications for the room. What is proved of `runRoom` holds of
each room of the program as it runs.

* `Stanza.forRoom`: room presence from room `r`, the stanzas that reach the room handler
  for it;
* `handlerFireStanza_sameOn_split`: for one room, the whole dispatch is the room handler
  between steps that keep the room;
* `room_sees_only_its_stanzas`: over every run of the connection, the room is what the
  room handler makes of the room's own stanzas;
* `connection_tracks_room`: so over every run of the connection, after a room's burst,
  the room notifications for the room change its view as the record changes;
* `rooms_independent_of_interleaving`: two runs with the same stanzas for each room, in
  whatever interleaving, leave every room the same.
-/

namespace Profanity

/-- Room presence from room `r`: the room extension, from a JID whose bare part is `r`. -/
def Stanza.forRoom (s : Stanza) (r : String) : Bool := s.mucUser && s.barejid == some r
/-! ### One stanza -/

section Step

variable {r : String} {c : Conn} {s : Stanza} {v w v' : World}

/-- On a stanza from room `r`, states that agree on the room give results that agree on
it: the room handler reads only the room's record. -/
theorem roomPresenceHandler_sameOn (hr : s.barejid = some r) (h : v.SameOn r w)
    (hv : roomPresenceHandler c s v = .ok v') :
    ∃ w', roomPresenceHandler c s w = .ok w' ∧ v'.SameOn r w' := by
  have hf : v.focus r = { w.focus r with subRequests := v.subRequests } := by
    simp [World.focus, h.1]
  rw [roomPresenceHandler_focus c s v r hr, hf, roomPresenceHandler_withSub] at hv
  rw [roomPresenceHandler_focus c s w r hr]
  rcases ha : roomPresenceHandler c s (w.focus r) with f | a <;> rw [ha] at hv
  · cases hv
  obtain rfl : v.commit r { a with subRequests := v.subRequests } = v' := by
    simpa [Except.map] using hv
  exact ⟨_, rfl, by simp [World.SameOn, World.commit, h.2]⟩

/-- For room `r`, the whole dispatch of a stanza is the room handler, when the stanza has
the room extension, between steps that keep the room. -/
theorem handlerFireStanza_sameOn_split (hv : handlerFireStanza c s presenceAddHandlers v = .ok v') :
    ∃ v₁ v₂, v₁.SameOn r v ∧
      (if s.mucUser then roomPresenceHandler c s v₁ else .ok v₁) = .ok v₂ ∧ v'.SameOn r v₂ := by
  rw [handlerFireStanza_presenceAddHandlers_eq] at hv
  obtain ⟨v₁, h₁, hv⟩ := bind_eq_ok.1 hv
  obtain ⟨v₂, h₂, hv⟩ := bind_eq_ok.1 hv
  have notifies := fun {f} (hf : Keeps World.Notifies f) =>
    hf.mono (R := World.Notifies) (S := World.SameOn r) fun _ _ h => h.sameOn
  refine ⟨v₁, v₂, (Keeps.ite fun _ => notifies connectionErrorHandler_notifies) _ _ h₁, h₂, ?_⟩
  exact ((Keeps.ite fun _ => notifies unavailableHandler_notifies).bind <|
    (Keeps.ite fun _ => subscriptionHandler_keepsRoom).bind <|
    (Keeps.ite fun _ => subscriptionHandler_keepsRoom).bind <|
    (Keeps.ite fun _ => subscriptionHandler_keepsRoom).bind (notifies availableHandler_notifies))
    _ _ hv

/-- A stanza of room `r` does to the room, through the whole dispatch, what the room
handler does. -/
theorem handlerFireStanza_sameOn (hs : s.forRoom r) (h : v.SameOn r w)
    (hv : handlerFireStanza c s presenceAddHandlers v = .ok v') :
    ∃ w', roomPresenceHandler c s w = .ok w' ∧ v'.SameOn r w' := by
  simp only [Stanza.forRoom, Bool.and_eq_true, beq_iff_eq] at hs
  obtain ⟨v₁, v₂, s₁, h₂, s₂⟩ := handlerFireStanza_sameOn_split (r := r) hv
  rw [if_pos hs.1] at h₂
  obtain ⟨w', hw', s'⟩ := roomPresenceHandler_sameOn hs.2 (s₁.trans h) h₂
  exact ⟨w', hw', s₂.trans s'⟩

/-- Any other stanza keeps the room through the whole dispatch. -/
theorem handlerFireStanza_keepsRoom (hs : s.forRoom r = false) :
    Keeps (World.SameOn r) (handlerFireStanza c s presenceAddHandlers) := fun v v' hv => by
  obtain ⟨v₁, v₂, s₁, h₂, s₂⟩ := handlerFireStanza_sameOn_split (r := r) hv
  refine s₂.trans (.trans ?_ s₁)
  by_cases hm : s.mucUser
  · rw [if_pos hm] at h₂
    exact roomPresenceHandler_keepsRoom (by simpa [Stanza.forRoom, hm] using hs) _ _ h₂
  · cases (if_neg hm).symm.trans h₂
    exact .refl v₁

end Step

/-! ### Whole runs -/

theorem runDispatch_sameOn {r : String} {c : Conn} {ss : List Stanza} {v w v' : World}
    (h : v.SameOn r w) (hv : runDispatch c ss v = .ok v') :
    ∃ w', runRoom c (ss.filter (·.forRoom r)) w = .ok w' ∧ v'.SameOn r w' := by
  induction ss generalizing v w with
  | nil => cases hv; exact ⟨w, rfl, h⟩
  | cons s ss ih =>
    obtain ⟨v₁, h₁, hv⟩ := bind_eq_ok.1 hv
    cases hs : s.forRoom r
    · simp only [List.filter_cons, hs]
      exact ih ((handlerFireStanza_keepsRoom hs _ _ h₁).trans h) hv
    · simp only [List.filter_cons, hs]
      obtain ⟨w₁, hw₁, s₁⟩ := handlerFireStanza_sameOn hs h h₁
      obtain ⟨w', hw', s'⟩ := ih s₁ hv
      exact ⟨w', runRoom_cons_ok.2 ⟨w₁, hw₁, hw'⟩, s'⟩

/-- **A room sees only its own stanzas.** Over every run of a connection that returns,
whatever presence of other rooms, of contacts and of subscriptions is interleaved with a
room's, and in whatever order: handing the room handler alone the room's own presence, in
its order, returns, with the same record of the room and the same room notifications for
it. The other handlers emit no room notification, though on the room's presence some of
them still notify about its bare JID as a contact. -/
theorem room_sees_only_its_stanzas (c : Conn) (r : String) (ss : List Stanza) (w w' : World)
    (h : runDispatch c ss w = .ok w') :
    ∃ v, runRoom c (ss.filter (·.forRoom r)) w = .ok v ∧ v.rooms r = w'.rooms r ∧
      roomEvents r v.out = roomEvents r w'.out := by
  obtain ⟨v, hv, hs⟩ := runDispatch_sameOn (.refl w) h
  exact ⟨v, hv, hs.1.symm, hs.2.symm⟩

theorem room_sees_only_its_stanzas_lobby :
    let c : Conn := ⟨⟨"me@example.com", some "laptop"⟩, []⟩
    let r := "lobby@conf.example"
    let ss : List Stanza :=
      [{ fromAttr := some "lobby@conf.example/alice", mucUser := true },
       { fromAttr := some "kitchen@conf.example/bob", mucUser := true },
       { fromAttr := some "carol@example.org/phone" },
       { type := some "subscribe", fromAttr := some "dave@example.org" },
       { type := some "unavailable", fromAttr := some "lobby@conf.example/alice",
         mucUser := true }]
    let w := (World.init.mucJoinRoom r "me").mucJoinRoom "kitchen@conf.example" "me"
    ∃ w', runDispatch c ss w = .ok w' ∧ ∃ v, runRoom c (ss.filter (·.forRoom r)) w = .ok v ∧
      v.rooms r = w'.rooms r ∧ roomEvents r v.out = roomEvents r w'.out := by
  intro c r ss w
  exact ⟨_, rfl, room_sees_only_its_stanzas c r ss w _ rfl⟩

/-- **The notifications track every room over the whole connection.** After a room's
burst, over every run of the connection that returns and in which the room's own stanzas
keep the user in it, whatever else is interleaved: the room notifications for the room that
the run adds, applied in order to the view of the room's record before the run, give the
view of the record after it. -/
theorem connection_tracks_room (c : Conn) (r : String) (ss : List Stanza) (w w' : World)
    (cr : ChatRoom) (hcr : w.rooms r = some cr) (hrr : cr.rosterReceived)
    (hss : ∀ s ∈ ss, s.forRoom r → StaysIn r s) (h : runDispatch c ss w = .ok w') :
    ∃ cr' evs, w'.rooms r = some cr' ∧ roomEvents r w'.out = roomEvents r w.out ++ evs ∧
      cr'.view = evs.foldl RoomView.apply cr.view := by
  obtain ⟨v, hv, hs⟩ := runDispatch_sameOn (.refl w) h
  have hss' : ∀ s ∈ ss.filter (·.forRoom r), StaysIn r s := fun s hs =>
    hss s (List.mem_filter.1 hs).1 (List.mem_filter.1 hs).2
  obtain ⟨cr', evs, hcr', hout, hview⟩ := roomView_run hcr hrr hss' hv
  exact ⟨cr', roomEvents r evs, hs.1.trans hcr', by rw [hs.2, hout, roomEvents_append], hview⟩

theorem connection_tracks_room_lobby :
    let c : Conn := ⟨⟨"me@example.com", some "laptop"⟩, []⟩
    let r := "lobby@conf.example"
    let ss : List Stanza :=
      [{ fromAttr := some "lobby@conf.example/alice", mucUser := true },
       { fromAttr := some "kitchen@conf.example/bob", mucUser := true },
       { type := some "unavailable", fromAttr := some "lobby@conf.example/alice",
         mucUser := true, roomNickChange := true, newNick := some "alice2" },
       { fromAttr := some "carol@example.org/phone" },
       { fromAttr := some "lobby@conf.example/alice2", mucUser := true }]
    let w := ((World.init.mucJoinRoom r "me").profHandleRoomRosterComplete r).mucJoinRoom
      "kitchen@conf.example" "me"
    ∃ w', runDispatch c ss w = .ok w' ∧ ∃ cr, w.rooms r = some cr ∧
      ∃ cr' evs, w'.rooms r = some cr' ∧ roomEvents r w'.out = roomEvents r w.out ++ evs ∧
        cr'.view = evs.foldl RoomView.apply cr.view := by
  intro c r ss w
  exact ⟨_, rfl, _, rfl, connection_tracks_room c r ss w _ _ rfl rfl (by decide) rfl⟩

/-- **The interleaving does not matter to a room.** Two runs of a connection from the same
state that return, whose stanzas of each room come in the same order, however the rooms'
stanzas and the contacts' presence are interleaved, leave every room with the same record
and the same room notifications for it. -/
theorem rooms_independent_of_interleaving (c : Conn) (ss ss' : List Stanza) (w w₁ w₂ : World)
    (hrooms : ∀ r, ss.filter (·.forRoom r) = ss'.filter (·.forRoom r))
    (h₁ : runDispatch c ss w = .ok w₁) (h₂ : runDispatch c ss' w = .ok w₂) (r : String) :
    w₁.rooms r = w₂.rooms r ∧ roomEvents r w₁.out = roomEvents r w₂.out := by
  obtain ⟨v₁, hv₁, s₁⟩ := runDispatch_sameOn (r := r) (.refl w) h₁
  obtain ⟨v₂, hv₂, s₂⟩ := runDispatch_sameOn (r := r) (.refl w) h₂
  rw [hrooms r, hv₂] at hv₁
  cases hv₁
  exact s₁.trans s₂.symm

theorem rooms_independent_of_interleaving_lobby :
    let c : Conn := ⟨⟨"me@example.com", some "laptop"⟩, []⟩
    let alice : Stanza := { fromAttr := some "lobby@conf.example/alice", mucUser := true }
    let bob : Stanza := { fromAttr := some "kitchen@conf.example/bob", mucUser := true }
    let carol : Stanza := { fromAttr := some "carol@example.org/phone" }
    let w := (World.init.mucJoinRoom "lobby@conf.example" "me").mucJoinRoom
      "kitchen@conf.example" "me"
    (∀ r, [alice, carol, bob].filter (·.forRoom r) = [bob, alice, carol].filter (·.forRoom r)) ∧
      ∃ w₁ w₂, runDispatch c [alice, carol, bob] w = .ok w₁ ∧
        runDispatch c [bob, alice, carol] w = .ok w₂ ∧ ∀ r,
          w₁.rooms r = w₂.rooms r ∧ roomEvents r w₁.out = roomEvents r w₂.out := by
  intro c alice bob carol w
  have hrooms : ∀ r, [alice, carol, bob].filter (·.forRoom r) =
      [bob, alice, carol].filter (·.forRoom r) := fun r => by
    have ha : alice.barejid = some "lobby@conf.example" := rfl
    have hb : bob.barejid = some "kitchen@conf.example" := rfl
    by_cases hr : r = "lobby@conf.example"
    · subst hr
      simp [Stanza.forRoom, ha, hb, carol]
    · simp [List.filter_cons, Stanza.forRoom, ha, hb, carol, Ne.symm hr]
  exact ⟨hrooms, _, _, rfl, rfl, rooms_independent_of_interleaving c _ _ w _ _ hrooms rfl rfl⟩

end Profanity
