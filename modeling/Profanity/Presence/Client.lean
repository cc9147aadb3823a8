import Profanity.Presence.Connection
import Profanity.Presence.Session
import Profanity.Presence.Update

/-!
# The presence module over a session

What reaches `presence.c` over a session, interleaved in any order: the server's presence
stanzas, which libstrophe hands to the handlers of `presence_add_handlers`, and the calls
the rest of the client makes. A session starts from the state `presence_init` leaves,
`World.init`.

* `Input`, `Input.run`, `runClient`: the inputs, one input, and a run of them;
* `runClient_append_singleton`: a run extended by one input, the step of every induction
  over a session;
* `runDispatch_eq_runClient`: a connection's stanzas alone are a session.
-/

namespace Profanity

/-- What reaches the presence module: a presence stanza from the server, or a call from
the rest of the client. -/
inductive Input
  /-- A presence stanza, handed to the handlers of `presence_add_handlers`. -/
  | stanza (s : Stanza)
  /-- `presence_subscription`. -/
  | subscription (jid : String) (action : JabberSubscr)
  /-- `presence_free_sub_requests`. -/
  | freeSubRequests
  /-- `presence_update`, with what it reads of the client. -/
  | update (cl : Client) (presenceType : ResourcePresence) (msg : Option String) (idle : Int)
  /-- `presence_join_room`. -/
  | joinRoom (room nick : String)
  /-- `presence_change_room_nick`. -/
  | changeRoomNick (room nick : String)
  /-- `presence_leave_chat_room`. -/
  | leaveChatRoom (room : String)

/-- One input, on the connection `c`. -/
def Input.run (c : Conn) : Input → World → Except Fault World
  | .stanza s => handlerFireStanza c s presenceAddHandlers
  | .subscription jid action => presenceSubscription jid action
  | .freeSubRequests => fun w => .ok (presenceFreeSubRequests w)
  | .update cl presenceType msg idle => presenceUpdate cl presenceType msg idle
  | .joinRoom room nick => fun w => .ok (presenceJoinRoom room nick w)
  | .changeRoomNick room nick => fun w => .ok (presenceChangeRoomNick room nick w)
  | .leaveChatRoom room => presenceLeaveChatRoom room

/-- The inputs of a session, in order; a crash ends it. -/
def runClient (c : Conn) : List Input → World → Except Fault World
  | [], w => .ok w
  | i :: is, w => (i.run c w).bind (runClient c is)

theorem runClient_append (c : Conn) (is is' : List Input) (w : World) :
    runClient c (is ++ is') w = (runClient c is w).bind (runClient c is') := by
  induction is generalizing w with
  | nil => rfl
  | cons i is ih =>
    simp only [List.cons_append, runClient]
    cases i.run c w with
    | error => rfl
    | ok u => exact ih u

theorem runClient_append_singleton {c : Conn} {is : List Input} {i : Input} {w w' : World} :
    runClient c (is ++ [i]) w = .ok w' ↔ ∃ u, runClient c is w = .ok u ∧ i.run c u = .ok w' := by
  rw [runClient_append, bind_eq_ok]
  simp only [runClient, bind_ok_right]

theorem runDispatch_eq_runClient (c : Conn) (ss : List Stanza) (w : World) :
    runDispatch c ss w = runClient c (ss.map .stanza) w := by
  induction ss generalizing w with
  | nil => rfl
  | cons s ss ih =>
    simp only [runDispatch, List.map_cons, runClient, Input.run]
    rw [funext ih]

end Profanity
