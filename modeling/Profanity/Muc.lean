import Profanity.World

/-!
# The room registry and the notifications

Modelled from the spec: `muc.c` and `profanity.c` are not in the repository. The room
registry operations the handlers call (`muc_*`) and the effect of the room
notifications on the registry (`prof_handle_*`) follow §3 and §4.4:

* a rename announced by a member is recorded by its new nickname and leaves the
  occupant entry as it is ("not yet renamed"); `muc_complete_roster_nick_change` takes the
  record back and drops the old nickname's entry, and the `muc_add_to_roster` after it
  enters the new one, which together "move the occupant entry from `old_nick` to
  `new_nick`";
* "room member online" inserts the occupant, "room member presence updated" updates it,
  "room member offline" removes it, "room roster complete" marks the burst received, and
  "left room" removes the room;
* every operation on a room that is not joined leaves the registry as it is, and reads
  of it give `false` or `NULL`.

The remaining notifications change no state this core keeps and are events only.
-/

namespace Profanity

namespace World

variable (w : World) (room : String)

/-! ### `muc.c` -/

/-- `muc_join_room`. -/
def mucJoinRoom (nick : String) : World :=
  { w with rooms := Function.update w.rooms room (some (ChatRoom.fresh nick)) }

/-- `muc_leave_room`. -/
def mucLeaveRoom : World := { w with rooms := Function.update w.rooms room none }

/-- `muc_get_room_nick`. -/
def mucGetRoomNick : Option String := (w.rooms room).map (·.nick)

/-- `muc_get_roster_received`. -/
def mucGetRosterReceived : Bool := ((w.rooms room).map (·.rosterReceived)).getD false

/-- `muc_is_room_pending_nick_change`. -/
def mucIsRoomPendingNickChange : Bool := ((w.rooms room).map (·.pendingNickChange)).getD false

/-- `muc_set_room_pending_nick_change`. -/
def mucSetRoomPendingNickChange : World :=
  w.modifyRoom room fun cr => { cr with pendingNickChange := true }

/-- `muc_complete_room_nick_change`: the user's new nickname is in place. -/
def mucCompleteRoomNickChange (nick : String) : World :=
  w.modifyRoom room fun cr => { cr with nick := nick, pendingNickChange := false }

/-- `muc_add_to_roster`: enter or replace the occupant `nick`. -/
def mucAddToRoster (nick : String) (o : Occupant) : World :=
  w.modifyRoom room fun cr => { cr with roster := Function.update cr.roster nick (some o) }

/-- `muc_remove_from_roster`. -/
def mucRemoveFromRoster (nick : String) : World :=
  w.modifyRoom room fun cr => { cr with roster := Function.update cr.roster nick none }

/-- `muc_set_roster_pending_nick_change`: record `oldNick` by the nickname it takes. -/
def mucSetRosterPendingNickChange (newNick oldNick : String) : World :=
  w.modifyRoom room fun cr =>
    { cr with nickChanges := Function.update cr.nickChanges newNick (some oldNick) }

/-- The rename pending for `nick`, if any. -/
def pendingRename (nick : String) : Option String := (w.rooms room).bind (·.nickChanges nick)

/-- `muc_complete_roster_nick_change`: the old nickname of the rename pending for `nick`,
with the record cleared and the old nickname's entry dropped; `NULL` and no change when
no rename is pending. -/
def mucCompleteRosterNickChange (nick : String) : Option String × World :=
  match w.pendingRename room nick with
  | some old =>
    (some old, w.modifyRoom room fun cr =>
      { cr with nickChanges := Function.update cr.nickChanges nick none
                roster := Function.update cr.roster old none })
  | none => (none, w)

/-- `muc_nick_in_roster`. -/
def mucNickInRoster (nick : String) : Bool := ((w.rooms room).bind (·.roster nick)).isSome

/-! ### `prof_handle_*` -/

/-- `prof_handle_subscription`. -/
def profHandleSubscription (barejid : String) (action : JabberSubscr) : World :=
  w.emit (.subscription barejid action)

/-- `prof_handle_contact_offline`. -/
def profHandleContactOffline (barejid : String) (resource status : Option String) : World :=
  w.emit (.contactOffline barejid resource status)

/-- `prof_handle_contact_online`. -/
def profHandleContactOnline (barejid : String) (r : Resource) (lastActivity : Option Int) :
    World :=
  w.emit (.contactOnline barejid r lastActivity)

/-- `prof_handle_leave_room`: the room is left and its record goes. -/
def profHandleLeaveRoom : World := (w.mucLeaveRoom room).emit (.leaveRoom room)

/-- `prof_handle_room_nick_change`. -/
def profHandleRoomNickChange (nick : String) : World := w.emit (.roomNickChange room nick)

/-- `prof_handle_room_roster_complete`: the burst is received. -/
def profHandleRoomRosterComplete : World :=
  (w.modifyRoom room fun cr => { cr with rosterReceived := true }).emit
    (.roomRosterComplete room)

/-- `prof_handle_room_member_offline`: the occupant leaves the roster. -/
def profHandleRoomMemberOffline (nick reason : String) (status : Option String) : World :=
  (w.mucRemoveFromRoster room nick).emit (.roomMemberOffline room nick reason status)

/-- `prof_handle_room_member_nick_change`. -/
def profHandleRoomMemberNickChange (oldNick nick : String) : World :=
  w.emit (.roomMemberNickChange room oldNick nick)

/-- `prof_handle_room_member_online`: the occupant enters the roster. -/
def profHandleRoomMemberOnline (nick : String) (showStr status capsStr : Option String) :
    World :=
  (w.mucAddToRoster room nick ⟨showStr, status, capsStr⟩).emit
    (.roomMemberOnline room nick showStr status capsStr)

/-- `prof_handle_room_member_presence`: the occupant's entry is updated. -/
def profHandleRoomMemberPresence (nick : String) (showStr status capsStr : Option String) :
    World :=
  (w.mucAddToRoster room nick ⟨showStr, status, capsStr⟩).emit
    (.roomMemberPresence room nick showStr status capsStr)

end World

end Profanity
