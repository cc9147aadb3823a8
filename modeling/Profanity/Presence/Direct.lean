import Profanity.Muc
import Profanity.Atoi
import Profanity.Presence.Caps

/-!
# Direct presence: `_available_handler` and `_unavailable_handler`

One-to-one presence (`presence.c`, lines 324–452). `_unavailable_handler` reports the
sender's resource offline, `_available_handler` builds a `Resource` from the stanza and
reports it online; both leave out a stanza from the user's own bare JID. The catch-all
`_available_handler` first passes over every stanza a specific handler owns: an error, one
of the four other types, or room presence.

* `Stanza.priority`: the priority the handler reads;
* `unavailableHandler`, `availableHandler`;
* `direct_presence_handlers`: what the two handlers emit for a stanza whose sender parses
  and, for available presence, whose capabilities resolve, with the priority `atoi`
  reads.
-/

namespace Profanity

/-- `priority`: `atoi` of the `<priority/>` text, `0` without a child or text. -/
def Stanza.priority (s : Stanza) : Int :=
  match s.priorityChild with
  | some (some t) => atoi t
  | _ => 0

/-- `_unavailable_handler`. -/
def unavailableHandler (c : Conn) (s : Stanza) (w : World) : Except Fault World := do
  let fromJid ← deref (jidCreate s.fromAttr)
  if c.jid.barejid ≠ fromJid.barejid then
    return w.profHandleContactOffline fromJid.barejid fromJid.resourcepart s.status
  else return w

/-- One of the types a specific handler is registered for, besides `error`. -/
def Stanza.hasHandledType (s : Stanza) : Prop :=
  s.isType stanzaTypeUnavailable ∨ s.isType stanzaTypeSubscribe ∨
    s.isType stanzaTypeSubscribed ∨ s.isType stanzaTypeUnsubscribed

instance (s : Stanza) : Decidable s.hasHandledType :=
  inferInstanceAs (Decidable (_ ∨ _))

/-- `_available_handler`. -/
def availableHandler (c : Conn) (s : Stanza) (w : World) : Except Fault World :=
  -- handler still fires if error
  if s.isType stanzaTypeError then .ok w
  -- handler still fires if other types
  else if s.hasHandledType then .ok w
  -- handler still fires for muc presence
  else if s.mucUser then .ok w
  else do
    let (capsKey, iqs) ← getCapsKey c.caps s
    let w := w.sendAll iqs
    let lastActivity := if 0 < s.idleTime then some s.idleTime else none
    let fromJid ← deref (jidCreate s.fromAttr)
    -- if not self presence
    if c.jid.barejid ≠ fromJid.barejid then
      let resource : Resource := ⟨fromJid.resourcepart,
        resourcePresenceFromString s.showStr, s.status, s.priority, capsKey⟩
      return w.profHandleContactOnline fromJid.barejid resource lastActivity
    else return w

/-- The priority when the `<priority/>` child or its text is missing. -/
theorem Stanza.priority_of_no_text {s : Stanza}
    (h : s.priorityChild = none ∨ s.priorityChild = some none) : s.priority = 0 := by
  rcases h with h | h <;> simp [Stanza.priority, h]

/-- **Direct presence.** For a stanza whose sender parses as a JID: an unavailable stanza
yields one contact-offline with the sender's bare JID, resource and status, and nothing
when the sender is the user's own bare JID. A stanza with no type, no room marker and
capabilities that resolve sends `_get_caps_key`'s requests, then yields one contact-online
with the sender's resource, the kind parsed from the show text, the status, the priority,
the capability key, and a last-activity time exactly when the idle time is positive, and
nothing more when the sender is the user's own bare JID. The priority is `0` without text
or when the text does not start, after whitespace and a sign, with a digit; otherwise it
is the value of the numeral the text starts with, whatever follows it, saturated to a
`long` and reduced into `int`, which is the value itself when it fits in `int`. -/
theorem direct_presence_handlers (c : Conn) (s : Stanza) (w : World) (j : Jid)
    (hmuc : s.mucUser = false) (hj : jidCreate s.fromAttr = some j) :
    unavailableHandler c s w = .ok (if j.barejid = c.jid.barejid then w
      else w.emit (.contactOffline j.barejid j.resourcepart s.status)) ∧
    (∀ key iqs, s.type = none → getCapsKey c.caps s = .ok (key, iqs) →
      availableHandler c s w = .ok (if j.barejid = c.jid.barejid then w.sendAll iqs
        else (w.sendAll iqs).emit (.contactOnline j.barejid
          ⟨j.resourcepart, resourcePresenceFromString s.showStr, s.status, s.priority, key⟩
          (if 0 < s.idleTime then some s.idleTime else none)))) ∧
    (s.priorityChild = none ∨ s.priorityChild = some none → s.priority = 0) ∧
    (∀ t, s.priorityChild = some (some t) → (∀ v, ¬ StartsWithNumeral t v) →
      s.priority = 0) ∧
    (∀ t v, s.priorityChild = some (some t) → StartsWithNumeral t v →
      s.priority = toCInt (saturateLong v)) ∧
    (∀ t v, s.priorityChild = some (some t) → StartsWithNumeral t v → -2 ^ 31 ≤ v →
      v < 2 ^ 31 → s.priority = v) := by
  have hnum : ∀ t v, s.priorityChild = some (some t) → StartsWithNumeral t v →
      s.priority = toCInt (saturateLong v) := fun t v ht hv => by
    simp [Stanza.priority, ht, atoi_of_startsWithNumeral hv]
  refine ⟨?_, fun key iqs htype hcaps => ?_, Stanza.priority_of_no_text, fun t ht hn => ?_,
    hnum, fun t v ht hv hlo hhi => (hnum t v ht hv).trans (toCInt_saturateLong hlo hhi)⟩
  · by_cases hb : j.barejid = c.jid.barejid <;>
      simp [unavailableHandler, hj, deref, @eq_comm _ c.jid.barejid, hb,
        World.profHandleContactOffline]
  · have hne : ¬ s.isType stanzaTypeError ∧ ¬ s.hasHandledType := by
      simp [Stanza.hasHandledType, Stanza.isType, htype]
    by_cases hb : j.barejid = c.jid.barejid <;>
      simp [availableHandler, hne, hmuc, hcaps, hj, deref, @eq_comm _ c.jid.barejid, hb,
        World.profHandleContactOnline]
  · simp [Stanza.priority, ht, atoi_of_not_startsWithNumeral hn]

/-- An available presence from a contact, with a show, a status, a priority text with a
suffix after its numeral and an idle time, and an unavailable presence from the same
resource. -/
theorem direct_presence_handlers_carol :
    let c : Conn := ⟨⟨"me@example.com", some "laptop"⟩, []⟩
    let avail : Stanza :=
      { fromAttr := some "carol@example.com/phone", showChild := some (some "away"),
        status := some "lunch", priorityChild := some (some " +7 pts"), idleTime := 30 }
    let unavail : Stanza :=
      { type := some "unavailable", fromAttr := some "carol@example.com/phone",
        status := some "bye" }
    availableHandler c avail World.init = .ok (World.init.emit (.contactOnline "carol@example.com"
        ⟨some "phone", .away, some "lunch", 7, none⟩ (some 30))) ∧
    unavailableHandler c unavail World.init =
      .ok (World.init.emit (.contactOffline "carol@example.com" (some "phone") (some "bye"))) := by
  intro c avail unavail
  obtain ⟨-, hon, -, -, -, hfit⟩ :=
    direct_presence_handlers c avail World.init ⟨"carol@example.com", some "phone"⟩ rfl (by decide)
  have hp : avail.priority = 7 := hfit " +7 pts" 7 rfl
    ⟨[' '], ['+'], ['7'], [' ', 'p', 't', 's'], rfl, by decide, by decide, by decide, by decide,
      by decide, by decide⟩ (by decide) (by decide)
  refine ⟨by rw [hon none [] rfl rfl, hp]; rfl, ?_⟩
  rw [(direct_presence_handlers c unavail World.init ⟨"carol@example.com", some "phone"⟩ rfl
    (by decide)).1]
  rfl

/-- The priority is not `0` for every text that is no numeral of a value in `int`:
`"12abc"` is no numeral and gives `12`, and `"4294967301"` is a numeral whose value does not
fit in `int` and gives `5`, its value modulo `2 ^ 32`. -/
theorem available_priority_garbage_and_wrap :
    (availableHandler ⟨⟨"me@example.com", some "laptop"⟩, []⟩
        { fromAttr := some "carol@example.com/phone", priorityChild := some (some "12abc") }
        World.init).map World.out =
      .ok [.contactOnline "carol@example.com" ⟨some "phone", .online, none, 12, none⟩ none] ∧
    (∀ v, ¬ IsNumeral "12abc" v) ∧
    (availableHandler ⟨⟨"me@example.com", some "laptop"⟩, []⟩
        { fromAttr := some "carol@example.com/phone", priorityChild := some (some "4294967301") }
        World.init).map World.out =
      .ok [.contactOnline "carol@example.com" ⟨some "phone", .online, none, 5, none⟩ none] ∧
    IsNumeral "4294967301" 4294967301 ∧ 2 ^ 31 ≤ (4294967301 : Int) := by
  refine ⟨rfl, fun v h => ?_, rfl,
    ⟨[], [], "4294967301".toList, [], rfl, by decide, by decide, by decide, by decide, rfl⟩,
    by decide⟩
  have := h.getLast? (c := 'c') rfl
  revert this
  decide

end Profanity
