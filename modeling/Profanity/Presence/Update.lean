import Profanity.Muc

/-!
# `presence_update`: the user's own presence

The user's presence goes to the server and then, by `_send_room_presence`, to each room
the user is in, at the user's nickname there (`presence.c`, lines 139–200). What it reads
of modules the repository does not hold (the connection status, the account's priority
and `<show/>` text for each kind of presence, and the rooms `muc_get_active_room_list`
lists) are the fields of `Client`, so that every theorem holds whatever they are.

* `sendRoomPresence`, `presenceUpdate`: the loop over the rooms, and the update;
* `roomPresenceTo`: the presence a room is sent, read off the registry;
* `sendRoomPresence_eq`: over a list of joined rooms the loop returns, having sent one
  presence to each, in the list's order, and changed nothing else;
* `presence_update_reaches_rooms`: without a connection the update does nothing; with
  one, and the active rooms listed once each, it sets the connection's presence, sends the
  presence to the server, then exactly one copy to the user's full JID in every joined
  room and no other, and records the last presence.
-/

namespace Profanity

/-- `STANZA_TEXT_ONLINE`. -/
def stanzaTextOnline : String := "online"

/-- What `presence_update` reads of the modules the repository does not hold. -/
structure Client where
  /-- `jabber_get_connection_status () == JABBER_CONNECTED`. -/
  connected : Bool
  /-- `accounts_get_priority_for_presence_type` for the account. -/
  priorityFor : ResourcePresence → Int
  /-- `stanza_get_presence_string_from_type`: the `<show/>` text, `none` for `NULL`. -/
  presenceString : ResourcePresence → Option String
  /-- `muc_get_active_room_list`, in the order it lists the rooms. -/
  activeRooms : List String

/-- `_send_room_presence`: the presence `p` again, to the user's full JID in each room of
the list. A room the registry does not hold has no nickname to build the JID from. -/
def sendRoomPresence (p : OwnPresence) : List String → World → Except Fault World
  | [], w => .ok w
  | room :: rooms, w => do
    let nick ← arg (w.mucGetRoomNick room)
    sendRoomPresence p rooms (w.emit (.ownPresence p (some (createFulljid room nick))))

/-- `presence_update`. -/
def presenceUpdate (cl : Client) (presenceType : ResourcePresence) (msg : Option String)
    (idle : Int) (w : World) : Except Fault World :=
  if !cl.connected then .ok w
  else do
    let pri := cl.priorityFor presenceType
    let showText := cl.presenceString presenceType
    let w := w.emit (.connectionPresence msg pri)
    let presence : OwnPresence := ⟨showText, msg, pri, idle⟩
    let w ← sendRoomPresence presence cl.activeRooms (w.emit (.ownPresence presence none))
    -- set last presence for account
    return w.emit (.lastPresence (showText.getD stanzaTextOnline))

/-! ### The loop over the rooms -/

/-- The presence `p` sent to the user's full JID in room `r`, when the user is in it. -/
def roomPresenceTo (p : OwnPresence) (rooms : String → Option ChatRoom) (r : String) :
    Option Event :=
  (rooms r).map fun cr => .ownPresence p (some (createFulljid r cr.nick))

/-- Over rooms the registry holds, the loop returns: it sends one presence to each room,
in order, and changes nothing else. -/
theorem sendRoomPresence_eq (p : OwnPresence) (rooms : List String) (w : World)
    (h : ∀ r ∈ rooms, (w.rooms r).isSome) :
    sendRoomPresence p rooms w =
      .ok { w with out := w.out ++ rooms.filterMap (roomPresenceTo p w.rooms) } := by
  induction rooms generalizing w with
  | nil => simp [sendRoomPresence]
  | cons r rooms ih =>
    obtain ⟨cr, hcr⟩ := Option.isSome_iff_exists.1 (h r (.head _))
    have ih := ih (w.emit (.ownPresence p (some (createFulljid r cr.nick))))
      fun r' hr' => h r' (.tail _ hr')
    simp [sendRoomPresence, World.mucGetRoomNick, hcr, arg, ih, roomPresenceTo]

/-- Rooms that are bare JIDs are sent different presences. -/
theorem roomPresenceTo_inj {p : OwnPresence} {rooms : String → Option ChatRoom}
    (hbare : ∀ r, (rooms r).isSome → '/' ∉ r.toList) {a a' : String} {e : Event}
    (ha : e ∈ roomPresenceTo p rooms a) (ha' : e ∈ roomPresenceTo p rooms a') : a = a' := by
  simp only [roomPresenceTo, Option.mem_def, Option.map_eq_some'] at ha ha'
  obtain ⟨cr, hcr, rfl⟩ := ha
  obtain ⟨cr', hcr', he⟩ := ha'
  simp only [Event.ownPresence.injEq, Option.some.injEq, true_and] at he
  exact createFulljid_inj_left (hbare a' (by simp [hcr'])) (hbare a (by simp [hcr])) he |>.symm

/-! ### The update -/

/-- **The user's presence reaches every room once.** Without a connection,
`presence_update` changes nothing. With one, when `muc_get_active_room_list` lists the
joined rooms, each once, and the rooms are bare JIDs, it returns: it sets the
connection's presence message and priority, sends the presence to the server, sends it
to the user's full JID in every joined room exactly once and to no other JID, and records
the `<show/>` text, or `online`, as the account's last presence. The subscription table
and the room registry are as they were. -/
theorem presence_update_reaches_rooms (cl : Client) (pt : ResourcePresence)
    (msg : Option String) (idle : Int) (w : World) :
    (cl.connected = false → presenceUpdate cl pt msg idle w = .ok w) ∧
    (cl.connected → (∀ r, r ∈ cl.activeRooms ↔ (w.rooms r).isSome) → cl.activeRooms.Nodup →
      (∀ r, (w.rooms r).isSome → '/' ∉ r.toList) →
      let p : OwnPresence := ⟨cl.presenceString pt, msg, cl.priorityFor pt, idle⟩
      let rs := cl.activeRooms.filterMap (roomPresenceTo p w.rooms)
      presenceUpdate cl pt msg idle w = .ok { w with
        out := w.out ++ [.connectionPresence msg (cl.priorityFor pt), .ownPresence p none] ++
          rs ++ [.lastPresence ((cl.presenceString pt).getD stanzaTextOnline)] } ∧
      (∀ r cr, w.rooms r = some cr →
        rs.count (.ownPresence p (some (createFulljid r cr.nick))) = 1) ∧
      ∀ e ∈ rs, ∃ r cr, w.rooms r = some cr ∧
        e = .ownPresence p (some (createFulljid r cr.nick))) := by
  refine ⟨fun hc => by simp [presenceUpdate, hc], fun hc hact hnd hbare => ?_⟩
  intro p rs
  have hsend := sendRoomPresence_eq p cl.activeRooms
    ((w.emit (.connectionPresence msg (cl.priorityFor pt))).emit (.ownPresence p none))
    fun r hr => (hact r).1 hr
  refine ⟨?_, fun r cr hcr => ?_, fun e he => ?_⟩
  · simp only [presenceUpdate, hc, Bool.not_true, Bool.false_eq_true, if_false]
    rw [hsend]
    simp [World.emit, rs]
  · have hmem : Event.ownPresence p (some (createFulljid r cr.nick)) ∈ rs :=
      List.mem_filterMap.2 ⟨r, (hact r).2 (by simp [hcr]), by simp [roomPresenceTo, hcr]⟩
    exact List.count_eq_one_of_mem
      (hnd.filterMap fun a a' e ha ha' => roomPresenceTo_inj hbare ha ha') hmem
  · obtain ⟨r, -, hr⟩ := List.mem_filterMap.1 he
    obtain ⟨cr, hcr, rfl⟩ := Option.map_eq_some'.1 hr
    exact ⟨r, cr, hcr, rfl⟩

theorem presence_update_reaches_rooms_lobby :
    let cl : Client := ⟨true, fun _ => 0, fun _ => some "away", ["lobby@conf.example"]⟩
    let w := World.init.mucJoinRoom "lobby@conf.example" "me"
    let p : OwnPresence := ⟨some "away", some "brb", 0, 0⟩
    presenceUpdate cl .away (some "brb") 0 w = .ok { w with
      out := [.connectionPresence (some "brb") 0, .ownPresence p none,
        .ownPresence p (some "lobby@conf.example/me"), .lastPresence "away"] } := by
  intro cl w p
  have hact : ∀ r, r ∈ cl.activeRooms ↔ (w.rooms r).isSome := fun r => by
    by_cases h : r = "lobby@conf.example" <;> simp [h, cl, w, World.mucJoinRoom, World.init]
  have hbare : ∀ r, (w.rooms r).isSome → '/' ∉ r.toList := fun r hr => by
    by_cases h : r = "lobby@conf.example"
    · subst h; decide
    · simp [w, World.mucJoinRoom, World.init, h] at hr
  exact ((presence_update_reaches_rooms cl .away (some "brb") 0 w).2 rfl hact
    (by decide) hbare).1

end Profanity
