import Profanity.Presence.Direct
import Profanity.Presence.Subscription
import Profanity.Presence.Room

/-!
# `presence_add_handlers` and the dispatch of a presence stanza

`presence_add_handlers` (`presence.c`, lines 68–81) registers seven handlers with
libstrophe, each with a namespace filter and a type filter. libstrophe calls, in
registration order, every handler whose filters the stanza meets; §4.1 of the spec
describes instead a dispatcher that picks the first rule that matches. The catch-all
`_available_handler` skips what the specific handlers own, but `_unavailable_handler` and
the three subscription handlers do not skip room presence.

* `Handler`, `Handler.fires`, `presenceAddHandlers`, `handlerFireStanza`: the table and
  libstrophe's dispatch over it;
* `presenceDispatch`: the first-match dispatcher of §4.1;
* `handlerFireStanza_presenceAddHandlers`: the two agree except on room presence of the
  types `unavailable`, `subscribe`, `subscribed` and `unsubscribed`, where the code runs
  the room handler and then the type's handler (`room_unavailable_double_dispatch`);
* `handlerFireStanza_wellformed_ok`: on a well-formed stanza the handlers run to
  completion from every state;
* `presence_null_deref`: stanzas a peer can send that reach a NULL pointer.
-/

namespace Profanity

/-- Modelled from the spec: `connection_error_handler` (`connection.c`) is the generic
connection-error collaborator of §4.1, rule 1; its effect here is one event. -/
def connectionErrorHandler (_c : Conn) (_s : Stanza) (w : World) : Except Fault World :=
  .ok (w.emit .connectionError)

/-- A handler as `xmpp_handler_add` takes it: a namespace filter, a type filter and the
function; the name filter is `presence` throughout. -/
structure Handler where
  ns : Option String
  type : Option String
  handler : Conn → Stanza → World → Except Fault World

/-- `s` carries the namespace `ns`, itself or on a child. Of the namespaces the table
names, the stanza carries the room extension's exactly when it has that child. -/
def Stanza.hasNs (s : Stanza) (ns : String) : Bool := ns == stanzaNsMucUser && s.mucUser

/-- The filters of `xmpp_handler_add`: each is absent or met. -/
def Handler.fires (h : Handler) (s : Stanza) : Bool :=
  h.ns.all s.hasNs && h.type.all (s.type == some ·)

/-- `presence_add_handlers`: the table, in registration order. -/
def presenceAddHandlers : List Handler :=
  [⟨none, some stanzaTypeError, connectionErrorHandler⟩,
   ⟨some stanzaNsMucUser, none, roomPresenceHandler⟩,
   ⟨none, some stanzaTypeUnavailable, unavailableHandler⟩,
   ⟨none, some stanzaTypeSubscribe, fun _ => subscribeHandler⟩,
   ⟨none, some stanzaTypeSubscribed, fun _ => subscribedHandler⟩,
   ⟨none, some stanzaTypeUnsubscribed, fun _ => unsubscribedHandler⟩,
   ⟨none, none, availableHandler⟩]

/-- Modelled from the spec: libstrophe's `handler_fire_stanza` calls every handler whose
filters the stanza meets, in registration order. -/
def handlerFireStanza (c : Conn) (s : Stanza) : List Handler → World → Except Fault World
  | [], w => .ok w
  | h :: hs, w =>
    if h.fires s then (h.handler c s w).bind (handlerFireStanza c s hs)
    else handlerFireStanza c s hs w

theorem handlerFireStanza_cons (c : Conn) (s : Stanza) (h : Handler) (hs : List Handler) :
    handlerFireStanza c s (h :: hs) = fun w =>
      (if h.fires s then h.handler c s w else .ok w).bind (handlerFireStanza c s hs) := by
  funext w
  by_cases hf : h.fires s <;> simp [handlerFireStanza, hf]

@[simp] theorem handlerFireStanza_nil (c : Conn) (s : Stanza) :
    handlerFireStanza c s [] = .ok := rfl

/-- Modelled from the spec: the first-match dispatcher of §4.1. -/
def presenceDispatch (c : Conn) (s : Stanza) (w : World) : Except Fault World :=
  if s.isType stanzaTypeError then connectionErrorHandler c s w
  else if s.mucUser then roomPresenceHandler c s w
  else if s.isType stanzaTypeUnavailable then unavailableHandler c s w
  else if s.isType stanzaTypeSubscribe then subscribeHandler s w
  else if s.isType stanzaTypeSubscribed then subscribedHandler s w
  else if s.isType stanzaTypeUnsubscribed then unsubscribedHandler s w
  else availableHandler c s w

/-- `_available_handler` returns its input on a stanza it passes over. -/
theorem availableHandler_of_skip {c : Conn} {s : Stanza} {w : World}
    (h : s.isType stanzaTypeError ∨ s.hasHandledType ∨ s.mucUser) :
    availableHandler c s w = .ok w := by
  unfold availableHandler
  by_cases he : s.isType stanzaTypeError
  · rw [if_pos he]
  by_cases hh : s.hasHandledType
  · rw [if_neg he, if_pos hh]
  rw [if_neg he, if_neg hh, if_pos ((h.resolve_left he).resolve_left hh)]

/-- The table's dispatch, handler by handler: each runs when its filters are met. -/
theorem handlerFireStanza_presenceAddHandlers_eq (c : Conn) (s : Stanza) (w : World) :
    handlerFireStanza c s presenceAddHandlers w =
      (if s.isType stanzaTypeError then connectionErrorHandler c s w else .ok w).bind fun w =>
      (if s.mucUser then roomPresenceHandler c s w else .ok w).bind fun w =>
      (if s.isType stanzaTypeUnavailable then unavailableHandler c s w else .ok w).bind fun w =>
      (if s.isType stanzaTypeSubscribe then subscribeHandler s w else .ok w).bind fun w =>
      (if s.isType stanzaTypeSubscribed then subscribedHandler s w else .ok w).bind fun w =>
      (if s.isType stanzaTypeUnsubscribed then unsubscribedHandler s w else .ok w).bind
        (availableHandler c s) := by
  simp [presenceAddHandlers, handlerFireStanza_cons, Handler.fires, Stanza.hasNs, Stanza.isType]

/-- **Dispatch of `presence_add_handlers`.** Outside room presence of the four types a
specific handler owns, calling every handler that fires has the effect of the
first-match dispatcher of §4.1: the later ones return their input. On room presence of
those types, the room handler runs and then what the first-match dispatcher does with the
same stanza without the room extension. -/
theorem handlerFireStanza_presenceAddHandlers (c : Conn) (s : Stanza) (w : World) :
    (¬ (s.mucUser ∧ s.hasHandledType) →
      handlerFireStanza c s presenceAddHandlers w = presenceDispatch c s w) ∧
    (s.mucUser → s.hasHandledType →
      handlerFireStanza c s presenceAddHandlers w =
        (roomPresenceHandler c s w).bind (presenceDispatch c { s with mucUser := false })) := by
  have skip := fun w h => availableHandler_of_skip (c := c) (s := s) (w := w) h
  rw [handlerFireStanza_presenceAddHandlers_eq]
  refine ⟨fun h => ?_, fun hm ht => ?_⟩
  · by_cases he : s.isType stanzaTypeError
    · have hr := fun w => roomPresenceHandler_of_error (c := c) (w := w) he
      have ha : availableHandler c s = .ok := funext fun w => skip w (.inl he)
      simp only [Stanza.isType] at he
      simp [presenceDispatch, Stanza.isType, he, hr, ha, connectionErrorHandler, stanzaTypeError,
        stanzaTypeUnavailable, stanzaTypeSubscribe, stanzaTypeSubscribed, stanzaTypeUnsubscribed]
    by_cases hm : s.mucUser
    · have ha : availableHandler c s = .ok := funext fun w => skip w (.inr (.inr hm))
      have ht : ¬ s.hasHandledType := fun ht => h ⟨hm, ht⟩
      simp only [Stanza.hasHandledType, not_or] at ht
      simp [presenceDispatch, he, hm, ht, ha]
    simp only [Bool.not_eq_true] at hm
    by_cases hh : s.hasHandledType
    · have ha : availableHandler c s = .ok := funext fun w => skip w (.inr (.inl hh))
      simp only [Stanza.hasHandledType, Stanza.isType] at hh he
      rcases hh with hh | hh | hh | hh <;>
        simp [presenceDispatch, Stanza.isType, he, hm, hh, ha, stanzaTypeError,
          stanzaTypeUnavailable, stanzaTypeSubscribe, stanzaTypeSubscribed, stanzaTypeUnsubscribed]
    · simp only [Stanza.hasHandledType, not_or] at hh
      simp [presenceDispatch, he, hm, hh]
  · have ha : availableHandler c s = .ok := funext fun w => skip w (.inr (.inl ht))
    simp only [Stanza.hasHandledType, Stanza.isType] at ht
    rcases ht with ht | ht | ht | ht <;>
      simp [Stanza.isType, hm, ht, ha, stanzaTypeError, stanzaTypeUnavailable, stanzaTypeSubscribe,
        stanzaTypeSubscribed, stanzaTypeUnsubscribed] <;>
      congr 1

theorem handlerFireStanza_presenceAddHandlers_carol :
    ¬ (({ fromAttr := some "carol@example.com/phone" } : Stanza).mucUser ∧
      ({ fromAttr := some "carol@example.com/phone" } : Stanza).hasHandledType) ∧
    handlerFireStanza ⟨⟨"me@example.com", some "laptop"⟩, []⟩
        { fromAttr := some "carol@example.com/phone" } presenceAddHandlers World.init =
      presenceDispatch ⟨⟨"me@example.com", some "laptop"⟩, []⟩
        { fromAttr := some "carol@example.com/phone" } World.init :=
  ⟨by decide, (handlerFireStanza_presenceAddHandlers ⟨⟨"me@example.com", some "laptop"⟩, []⟩
    { fromAttr := some "carol@example.com/phone" } World.init).1 (by decide)⟩

/-! ### Well-formed stanzas -/

/-- The user's own presence returns when the sender has a nickname. -/
theorem roomSelfPresence_ok {s : Stanza} {r n : String} {w : World} :
    ∃ w', roomSelfPresence s r (some n) w = .ok w' := by
  unfold roomSelfPresence
  repeat' split
  all_goals exact ⟨_, rfl⟩

/-- A member's presence returns when the sender has a nickname, the capabilities resolve
and a rename announcement names the new nickname. -/
theorem roomMemberPresence_ok {c : Conn} {s : Stanza} {r n : String} {w : World}
    {key : Option String} {iqs : List DiscoIq} (hk : getCapsKey c.caps s = .ok (key, iqs))
    (hnew : s.roomNickChange → s.newNick ≠ none) :
    ∃ w', roomMemberPresence c s r (some n) w = .ok w' := by
  simp only [roomMemberPresence, hk, arg, need_some, ok_bind]
  repeat' split
  · obtain ⟨nn, hnn⟩ := Option.ne_none_iff_exists'.1 (hnew ‹_›)
    exact ⟨_, by simp only [hnn, need_some, ok_bind]; rfl⟩
  all_goals exact ⟨_, rfl⟩

/-- `_room_presence_handler` returns when the sender has a resource part, a rename
announcement names the new nickname and the capabilities resolve. -/
theorem roomPresenceHandler_ok {c : Conn} {s : Stanza} {w : World} {j : Jid} {n : String}
    (hj : jidCreate s.fromAttr = some j) (hn : j.resourcepart = some n)
    (hnew : s.roomNickChange → s.newNick ≠ none) (hcaps : s.caps ≠ some ⟨some "sha-1", none⟩) :
    ∃ w', roomPresenceHandler c s w = .ok w' := by
  obtain ⟨f, hf⟩ := fromAttr_of_jidCreate hj
  obtain ⟨⟨key, iqs⟩, hk⟩ : ∃ r, getCapsKey c.caps s = .ok r := getCapsKey_ok hf hcaps
  have hr : s.barejid = some j.barejid := by simp [Stanza.barejid, hj]
  have hnick : s.nick = some n := by simp [Stanza.nick, hj, hn]
  by_cases he : s.isType stanzaTypeError
  · exact ⟨w, roomPresenceHandler_of_error he⟩
  cases hself : s.mucSelf
  · rw [roomPresenceHandler_of_member hr he hself, hnick]
    exact roomMemberPresence_ok hk hnew
  · rw [roomPresenceHandler_of_self hr he hself, hnick]
    exact roomSelfPresence_ok

/-- The dispatch returns when every handler that fires returns, from every state. -/
theorem handlerFireStanza_ok_of_fires {c : Conn} {s : Stanza} {hs : List Handler}
    (H : ∀ h ∈ hs, h.fires s → ∀ w, ∃ w', h.handler c s w = .ok w') (w : World) :
    ∃ w', handlerFireStanza c s hs w = .ok w' := by
  induction hs generalizing w with
  | nil => exact ⟨w, rfl⟩
  | cons h hs ih =>
    have ih := ih (fun h' hm => H h' (.tail _ hm))
    by_cases hf : h.fires s
    · obtain ⟨w₁, h₁⟩ := H h (.head _) hf w
      obtain ⟨w₂, h₂⟩ := ih w₁
      exact ⟨w₂, by simp [handlerFireStanza, hf, h₁, h₂]⟩
    · simpa [handlerFireStanza, hf] using ih w

/-- A stanza the handlers can take: the sender parses as a JID, the sender of room
presence has a resource part, a rename announced in a room names the new nickname, and the
capability advertisement is not `sha-1` without a capability string. -/
def Stanza.WellFormed (s : Stanza) : Prop :=
  ∃ j, jidCreate s.fromAttr = some j ∧ (s.mucUser → j.resourcepart ≠ none) ∧
    (s.mucUser → s.roomNickChange → s.newNick ≠ none) ∧ s.caps ≠ some ⟨some "sha-1", none⟩

theorem handlerFireStanza_ok_of_wellFormed {c : Conn} {s : Stanza} (hs : s.WellFormed)
    (w : World) : ∃ w', handlerFireStanza c s presenceAddHandlers w = .ok w' := by
  obtain ⟨j, hj, hres, hnew, hcaps⟩ := hs
  obtain ⟨f, hf⟩ := fromAttr_of_jidCreate hj
  obtain ⟨⟨key, iqs⟩, hk⟩ : ∃ r, getCapsKey c.caps s = .ok r := getCapsKey_ok hf hcaps
  refine handlerFireStanza_ok_of_fires (fun h hh hfires w => ?_) w
  simp only [presenceAddHandlers, List.mem_cons, List.mem_nil_iff, or_false] at hh
  rcases hh with rfl | rfl | rfl | rfl | rfl | rfl | rfl <;> dsimp only at hfires ⊢
  · exact ⟨_, rfl⟩
  · have hm : s.mucUser := by simpa [Handler.fires, Stanza.hasNs] using hfires
    obtain ⟨n, hn⟩ := Option.ne_none_iff_exists'.1 (hres hm)
    exact roomPresenceHandler_ok hj hn (hnew hm) hcaps
  · show ∃ w', unavailableHandler c s w = .ok w'
    simp only [unavailableHandler, hj, deref, need_some, ok_bind]
    exact ⟨_, (apply_ite pure _ _ _).symm⟩
  · simp [subscribeHandler, subscriptionHandler, hj, deref]
  · simp [subscribedHandler, subscriptionHandler, hj, deref]
  · simp [unsubscribedHandler, subscriptionHandler, hj, deref]
  by_cases hskip : s.isType stanzaTypeError ∨ s.hasHandledType ∨ s.mucUser
  · exact ⟨w, availableHandler_of_skip hskip⟩
  simp only [not_or] at hskip
  simp only [availableHandler, hskip.1, hskip.2.1, hskip.2.2, if_false, hk, hj, deref,
    need_some, ok_bind]
  exact ⟨_, (apply_ite pure _ _ _).symm⟩

/-- **No crash on a well-formed stanza.** When the sender parses as a JID, the sender of
room presence has a resource part and a rename announced in a room names the new
nickname, and the capability advertisement is not `sha-1` without a capability string,
the handlers of `presence_add_handlers` run to completion from every state. -/
theorem handlerFireStanza_wellformed_ok (c : Conn) (s : Stanza) (w : World) (j : Jid)
    (hj : jidCreate s.fromAttr = some j) (hres : s.mucUser → j.resourcepart ≠ none)
    (hnew : s.mucUser → s.roomNickChange → s.newNick ≠ none)
    (hcaps : s.caps ≠ some ⟨some "sha-1", none⟩) :
    ∃ w', handlerFireStanza c s presenceAddHandlers w = .ok w' :=
  handlerFireStanza_ok_of_wellFormed ⟨j, hj, hres, hnew, hcaps⟩ w

theorem handlerFireStanza_wellformed_ok_alice :
    ∃ w', handlerFireStanza ⟨⟨"me@example.com", some "laptop"⟩, []⟩
      { fromAttr := some "lobby@conf.example/alice", mucUser := true } presenceAddHandlers
      (World.init.mucJoinRoom "lobby@conf.example" "me") = .ok w' :=
  handlerFireStanza_wellformed_ok _ _ _ ⟨"lobby@conf.example", some "alice"⟩
    (by decide) (by decide) (by decide) (by decide)

/-- A member leaving a room: `_room_presence_handler` reports the member offline, and
`_unavailable_handler`, which does not look for the room extension, reports the room's JID
as a contact gone offline too. The first-match dispatcher reports the member only. -/
theorem room_unavailable_double_dispatch :
    (handlerFireStanza ⟨⟨"me@example.com", some "laptop"⟩, []⟩
        { type := some "unavailable", fromAttr := some "lobby@conf.example/bob",
          status := some "gone", mucUser := true }
        presenceAddHandlers (World.init.mucJoinRoom "lobby@conf.example" "me")).map World.out =
      .ok [.roomMemberOffline "lobby@conf.example" "bob" "offline" (some "gone"),
        .contactOffline "lobby@conf.example" (some "bob") (some "gone")] ∧
    (presenceDispatch ⟨⟨"me@example.com", some "laptop"⟩, []⟩
        { type := some "unavailable", fromAttr := some "lobby@conf.example/bob",
          status := some "gone", mucUser := true }
        (World.init.mucJoinRoom "lobby@conf.example" "me")).map World.out =
      .ok [.roomMemberOffline "lobby@conf.example" "bob" "offline" (some "gone")] :=
  ⟨rfl, rfl⟩

/-- Three stanzas a peer can send that crash the handlers: a `subscribe` without `from`
reaches `from_jid->barejid` with `from_jid` NULL; a room presence from the room's bare JID,
and a rename announcement without the new nickname, hand a NULL nickname to the room
registry. -/
theorem presence_null_deref :
    handlerFireStanza ⟨⟨"me@example.com", some "laptop"⟩, []⟩ { type := some "subscribe" }
      presenceAddHandlers World.init = .error .jidNull ∧
    handlerFireStanza ⟨⟨"me@example.com", some "laptop"⟩, []⟩
      { fromAttr := some "lobby@conf.example", mucUser := true }
      presenceAddHandlers (World.init.mucJoinRoom "lobby@conf.example" "me") = .error .argNull ∧
    handlerFireStanza ⟨⟨"me@example.com", some "laptop"⟩, []⟩
      { type := some "unavailable", fromAttr := some "lobby@conf.example/alice", mucUser := true,
        roomNickChange := true }
      presenceAddHandlers (World.init.mucJoinRoom "lobby@conf.example" "me") = .error .argNull :=
  ⟨rfl, rfl, rfl⟩

end Profanity
