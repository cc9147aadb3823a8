import Profanity.Stanza
import Mathlib.Data.List.Nodup

/-!
# The state the presence handlers change

Everything a presence handler reads or writes besides the stanza:

* `Conn`: the connection's own JID (`jid_create (xmpp_conn_get_jid (conn))`, which
  parses) and the keys of the capability cache (`caps_contains`), neither of which a
  handler changes;
* `KeyTable`: the `GHashTable` `sub_requests` of pending subscription requests, keyed by
  bare JID; it carries the fact that no key is stored twice;
* `ChatRoom`: the record `muc.c` keeps for a joined room, with the roster and the pending
  renames as maps from nicknames;
* `Event`: what a handler hands to the outside, a `prof_handle_*` notification or a
  stanza sent;
* `World`: the table, the room registry, and the events so far, oldest first.
-/

namespace Profanity

/-! ### Contacts and events -/

/-- `resource_presence_t`. -/
inductive ResourcePresence
  | online
  | chat
  | away
  | xa
  | dnd
  deriving DecidableEq, Repr

/-- Modelled from the spec: `resource_presence_from_string` is not in the repository. The
kinds of §3, with `online` for an absent text (§4.3) and for any other. -/
def resourcePresenceFromString : Option String → ResourcePresence
  | some "chat" => .chat
  | some "away" => .away
  | some "xa" => .xa
  | some "dnd" => .dnd
  | _ => .online

/-- A contact's resource, as `resource_new (name, presence, status, priority, caps_str)`
builds it. -/
structure Resource where
  name : Option String
  presence : ResourcePresence
  status : Option String
  priority : Int
  capsStr : Option String
  deriving DecidableEq, Repr

/-- `jabber_subscr_t`. -/
inductive JabberSubscr
  | presenceSubscribe
  | presenceSubscribed
  | presenceUnsubscribed
  deriving DecidableEq, Repr

/-- A discovery request `stanza_create_disco_iq (ctx, id, to, node)`. -/
structure DiscoIq where
  id : String
  toJid : String
  node : String
  deriving DecidableEq, Repr

/-- The user's own presence as `presence_update` builds it: the `<show/>` text, the status
message, the priority and the idle time (the capabilities are the client's own). -/
structure OwnPresence where
  showText : Option String
  status : Option String
  priority : Int
  idle : Int
  deriving DecidableEq, Repr

/-- What a handler hands to the outside: a `prof_handle_*` call, or a stanza sent. -/
inductive Event
  /-- `connection_error_handler` took the stanza. -/
  | connectionError
  | subscription (barejid : String) (action : JabberSubscr)
  | contactOffline (barejid : String) (resource status : Option String)
  | contactOnline (barejid : String) (resource : Resource) (lastActivity : Option Int)
  | leaveRoom (room : String)
  | roomNickChange (room nick : String)
  | roomRosterComplete (room : String)
  | roomMemberOffline (room nick reason : String) (status : Option String)
  | roomMemberNickChange (room oldNick nick : String)
  | roomMemberOnline (room nick : String) (showStr status capsStr : Option String)
  | roomMemberPresence (room nick : String) (showStr status capsStr : Option String)
  /-- A discovery IQ sent. -/
  | disco (iq : DiscoIq)
  /-- A presence stanza sent, of the given type, to the given JID. -/
  | presence (type : Option String) (toJid : String)
  /-- The presence that joins a room under the full JID `toJid`. -/
  | roomJoin (toJid : String)
  /-- The presence that asks a room for the nickname of the full JID `toJid`. -/
  | roomNewNick (toJid : String)
  /-- The presence that leaves `room`, where the user's nickname is `nick`. -/
  | roomLeave (room nick : String)
  /-- `connection_set_presence_message` and `connection_set_priority`. -/
  | connectionPresence (msg : Option String) (priority : Int)
  /-- The user's own presence sent, to the server (`none`) or to the full JID `toJid`. -/
  | ownPresence (p : OwnPresence) (toJid : Option String)
  /-- `accounts_set_last_presence` for the account. -/
  | lastPresence (last : String)
  deriving DecidableEq, Repr

/-- The room a room notification is about; `none` for every other event. -/
def Event.room? : Event → Option String
  | .leaveRoom r | .roomNickChange r _ | .roomRosterComplete r | .roomMemberOffline r _ _ _
  | .roomMemberNickChange r _ _ | .roomMemberOnline r _ _ _ _
  | .roomMemberPresence r _ _ _ _ => some r
  | _ => none

/-- The connection a handler runs on. -/
structure Conn where
  /-- The connection's own JID. -/
  jid : Jid
  /-- The keys the capability cache holds. -/
  caps : List String

/-! ### The subscription table -/

/-- A `GHashTable` whose values are its keys: the keys, none twice. -/
structure KeyTable where
  keys : List String
  nodup : keys.Nodup

/-- A new, empty table (`g_hash_table_new_full`). -/
def KeyTable.empty : KeyTable := ⟨[], List.nodup_nil⟩

/-- `g_hash_table_insert`: a key already there stays there, once. -/
def KeyTable.insert (t : KeyTable) (k : String) : KeyTable := ⟨t.keys.insert k, t.nodup.insert⟩

/-- `g_hash_table_remove`. -/
def KeyTable.remove (t : KeyTable) (k : String) : KeyTable := ⟨t.keys.erase k, t.nodup.erase k⟩

@[simp] theorem KeyTable.mem_empty (b : String) : b ∉ KeyTable.empty.keys := by
  simp [KeyTable.empty]

@[simp] theorem KeyTable.mem_insert {t : KeyTable} {k b : String} :
    b ∈ (t.insert k).keys ↔ b = k ∨ b ∈ t.keys := List.mem_insert_iff

@[simp] theorem KeyTable.mem_remove {t : KeyTable} {k b : String} :
    b ∈ (t.remove k).keys ↔ b ≠ k ∧ b ∈ t.keys := t.nodup.mem_erase_iff

/-! ### Rooms -/

/-- What `muc_add_to_roster` keeps for an occupant. -/
structure Occupant where
  showStr : Option String
  status : Option String
  capsStr : Option String
  deriving DecidableEq, Repr

/-- The record of a joined room. -/
structure ChatRoom where
  /-- The user's own nickname in the room. -/
  nick : String
  /-- The initial roster burst has ended. -/
  rosterReceived : Bool
  /-- The occupants, by nickname. -/
  roster : String → Option Occupant
  /-- Pending renames of members: the old nickname, by the new one. -/
  nickChanges : String → Option String
  /-- The user's own rename is pending. -/
  pendingNickChange : Bool

/-- The record `muc_join_room` creates. -/
def ChatRoom.fresh (nick : String) : ChatRoom :=
  ⟨nick, false, fun _ => none, fun _ => none, false⟩

/-- Everything the presence handlers change. -/
structure World where
  subRequests : KeyTable
  rooms : String → Option ChatRoom
  out : List Event

/-- The state after `presence_init`: an empty table, no room, nothing emitted. -/
def World.init : World := ⟨KeyTable.empty, fun _ => none, []⟩

/-- Hand `e` to the outside. -/
def World.emit (w : World) (e : Event) : World := { w with out := w.out ++ [e] }

/-- Send the discovery requests `iqs`. -/
def World.sendAll (w : World) (iqs : List DiscoIq) : World :=
  { w with out := w.out ++ iqs.map .disco }

/-- Change the record of `room`, when the room is joined. -/
def World.modifyRoom (w : World) (room : String) (f : ChatRoom → ChatRoom) : World :=
  { w with rooms := Function.update w.rooms room ((w.rooms room).map f) }

namespace World

variable (w : World) (room : String)

@[simp] theorem emit_rooms (e : Event) : (w.emit e).rooms = w.rooms := rfl
@[simp] theorem emit_out (e : Event) : (w.emit e).out = w.out ++ [e] := rfl
@[simp] theorem emit_subRequests (e : Event) : (w.emit e).subRequests = w.subRequests := rfl
@[simp] theorem sendAll_rooms (iqs : List DiscoIq) : (w.sendAll iqs).rooms = w.rooms := rfl
@[simp] theorem sendAll_out (iqs : List DiscoIq) :
    (w.sendAll iqs).out = w.out ++ iqs.map .disco := rfl
@[simp] theorem sendAll_subRequests (iqs : List DiscoIq) :
    (w.sendAll iqs).subRequests = w.subRequests := rfl
@[simp] theorem modifyRoom_rooms (f : ChatRoom → ChatRoom) :
    (w.modifyRoom room f).rooms = Function.update w.rooms room ((w.rooms room).map f) := rfl
@[simp] theorem modifyRoom_out (f : ChatRoom → ChatRoom) : (w.modifyRoom room f).out = w.out := rfl
@[simp] theorem modifyRoom_subRequests (f : ChatRoom → ChatRoom) :
    (w.modifyRoom room f).subRequests = w.subRequests := rfl

end World

end Profanity
