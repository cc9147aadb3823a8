import Mathlib.Data.List.Basic
import Mathlib.Data.String.Basic

/-!
# Presence stanzas, JIDs and faults

The data the presence handlers of `src/xmpp/presence.c` read. A presence stanza is taken
as libstrophe and the `stanza_*` helpers of `stanza.c` deliver it: its `type` and `from`
attributes and, for each child the handlers look at, what the helper returns. `stanza.c`,
`jid.c` and libstrophe are not in the repository; their results are fields of `Stanza`,
so that every theorem holds whatever they compute, except `jid_create` and
`create_fulljid`, which are modelled from the spec below.

* `Jid`, `jidCreate`: a JID as `jid_create` returns it, `none` for `NULL`;
* `createFulljid`, `jidCreate_createFulljid`: the full JID `bare/resource`, which parses
  back into its parts;
* `Caps`, `Stanza`: the parsed presence document of the spec's §6;
* `Fault`: how a handler stops on a `NULL` it dereferences; `deref`, `strdup`, `arg`
  are the three places the code can hit one.
-/

namespace Profanity

/-! ### Protocol constants (`stanza.h`) -/

/-- `STANZA_TYPE_ERROR`. -/
def stanzaTypeError : String := "error"
/-- `STANZA_TYPE_UNAVAILABLE`. -/
def stanzaTypeUnavailable : String := "unavailable"
/-- `STANZA_TYPE_SUBSCRIBE`. -/
def stanzaTypeSubscribe : String := "subscribe"
/-- `STANZA_TYPE_SUBSCRIBED`. -/
def stanzaTypeSubscribed : String := "subscribed"
/-- `STANZA_TYPE_UNSUBSCRIBED`. -/
def stanzaTypeUnsubscribed : String := "unsubscribed"
/-- `STANZA_NS_MUC_USER`. -/
def stanzaNsMucUser : String := "http://jabber.org/protocol/muc#user"

/-! ### JIDs -/

/-- A parsed JID: the bare part `user@domain` and the resource after the first `/`. -/
structure Jid where
  barejid : String
  resourcepart : Option String
  deriving DecidableEq, Repr

/-- The text before the first `/`, and the text after it when there is one. -/
def splitResource : List Char → List Char × Option (List Char)
  | [] => ([], none)
  | c :: cs =>
    if c = '/' then ([], some cs)
    else ((c :: (splitResource cs).1), (splitResource cs).2)

/-- Modelled from the spec: `jid_create` (`jid.c`) is not in the repository, and the
spec's §1 consumes a JID as a pre-parsed `bare@domain/resource` triple. `NULL` and the
empty string are not JIDs; otherwise the bare JID is the text before the first `/` and
the resource the text after it. -/
def jidCreate : Option String → Option Jid
  | none => none
  | some str =>
    if str.isEmpty then none
    else some ⟨String.mk (splitResource str.toList).1, (splitResource str.toList).2.map String.mk⟩

@[simp] theorem jidCreate_none : jidCreate none = none := rfl

/-- A JID parses only from a string. -/
theorem fromAttr_of_jidCreate {a : Option String} {j : Jid} (h : jidCreate a = some j) :
    ∃ f, a = some f := by
  cases a with
  | none => simp at h
  | some f => exact ⟨f, rfl⟩

example : jidCreate (some "room@conference.example/bob") =
    some ⟨"room@conference.example", some "bob"⟩ := by decide

/-- The split at the first `/`, when the bare part has none. -/
theorem splitResource_append_slash (b r : List Char) (hb : '/' ∉ b) :
    splitResource (b ++ '/' :: r) = (b, some r) := by
  induction b with
  | nil => simp [splitResource]
  | cons c b ih =>
    simp only [List.mem_cons, not_or] at hb
    simp [splitResource, Ne.symm hb.1, ih hb.2]

/-- Modelled from the spec: `create_fulljid`, not in the repository, joins a bare JID and a
resource into the full JID `bare/resource`. -/
def createFulljid (barejid resource : String) : String := barejid ++ "/" ++ resource

/-- A full JID parses back into its parts when the bare part has no `/`. -/
theorem jidCreate_createFulljid (b r : String) (hb : '/' ∉ b.toList) :
    jidCreate (some (createFulljid b r)) = some ⟨b, some r⟩ := by
  have hne : (createFulljid b r).isEmpty = false := Bool.eq_false_iff.2 fun h => by
    simpa [createFulljid] using congrArg String.data ((String.isEmpty_iff _).1 h)
  have hs : (createFulljid b r).toList = b.toList ++ '/' :: r.toList := by simp [createFulljid]
  simp only [jidCreate, hne, hs, splitResource_append_slash _ _ hb]
  rfl

/-- Full JIDs of two bare JIDs without `/` are equal only when the bare JIDs are. -/
theorem createFulljid_inj_left {b b' r r' : String} (hb : '/' ∉ b.toList)
    (hb' : '/' ∉ b'.toList) (h : createFulljid b r = createFulljid b' r') : b = b' := by
  have := congrArg (fun f => jidCreate (some f)) h
  simp only [jidCreate_createFulljid _ _ hb, jidCreate_createFulljid _ _ hb'] at this
  exact congrArg Jid.barejid (Option.some.inj this)

/-! ### The presence document -/

/-- The `<c/>` capability child: `stanza_caps_get_hash` and `stanza_get_caps_str`
(the `node#ver` string, `none` when either attribute is missing). -/
structure Caps where
  hash : Option String
  capsStr : Option String
  deriving DecidableEq, Repr

/-- An inbound presence stanza, as the handlers see it. A child that may be present
without text is an `Option (Option String)`: outer `none` for no child, inner `none`
for `xmpp_stanza_get_text` returning `NULL`. The defaults are an available presence with
no attributes and no children. -/
structure Stanza where
  /-- `xmpp_stanza_get_type`, the `type` attribute. -/
  type : Option String := none
  /-- The `from` attribute. -/
  fromAttr : Option String := none
  /-- The text of the `<status/>` child (`none`: no child, or no text). -/
  status : Option String := none
  /-- The `<show/>` child and its text. -/
  showChild : Option (Option String) := none
  /-- The `<priority/>` child and its text. -/
  priorityChild : Option (Option String) := none
  /-- `stanza_get_idle_time`. -/
  idleTime : Int := 0
  /-- `stanza_contains_caps`, with the child's hash and capability string. -/
  caps : Option Caps := none
  /-- A child in the `STANZA_NS_MUC_USER` namespace (`stanza_is_muc_presence`, and
  libstrophe's namespace filter). -/
  mucUser : Bool := false
  /-- `stanza_is_muc_self_presence`. -/
  mucSelf : Bool := false
  /-- `stanza_is_room_nick_change` (status code 303). -/
  roomNickChange : Bool := false
  /-- `stanza_get_new_nick`. -/
  newNick : Option String := none
  deriving DecidableEq, Repr

/-- The bare JID the stanza is from: the room, for room presence. -/
def Stanza.barejid (s : Stanza) : Option String := (jidCreate s.fromAttr).map Jid.barejid

/-- The sender's resource: the nickname, for room presence. -/
def Stanza.nick (s : Stanza) : Option String := (jidCreate s.fromAttr).bind Jid.resourcepart

/-- `show_str`: the text of the `<show/>` child, `"online"` when there is none. -/
def Stanza.showStr (s : Stanza) : Option String := s.showChild.getD (some "online")

/-- The type test `(type != NULL) && (strcmp(type, t) == 0)`, also written
`g_strcmp0(type, t) == 0`. -/
def Stanza.isType (s : Stanza) (t : String) : Prop := s.type = some t

instance (s : Stanza) (t : String) : Decidable (s.isType t) :=
  inferInstanceAs (Decidable (s.type = some t))

/-- A stanza has one type. -/
theorem Stanza.not_isType_of_isType {s : Stanza} {t t' : String} (h : s.isType t)
    (hne : t ≠ t') : ¬ s.isType t' :=
  fun h' => hne (Option.some.inj (h.symm.trans h'))

/-- An `unavailable` presence is not an error. -/
theorem Stanza.not_error_of_unavailable {s : Stanza} (h : s.isType stanzaTypeUnavailable) :
    ¬ s.isType stanzaTypeError :=
  Stanza.not_isType_of_isType h (by decide)

/-! ### Faults -/

/-- How a handler stops: each constructor is a `NULL` the code hands on to something
that reads through it. -/
inductive Fault
  /-- `from_jid->barejid` or `from_jid->resourcepart` with `jid_create` having failed. -/
  | jidNull
  /-- `strdup (NULL)`. -/
  | strdupNull
  /-- A `NULL` string given to a collaborator that reads it: the capability cache, the
  disco IQ builder, or the room registry as a nickname. -/
  | argNull
  deriving DecidableEq, Repr

/-- The value behind a pointer, or the fault of reading through `NULL`. -/
def need {α : Type} (f : Fault) : Option α → Except Fault α
  | some a => .ok a
  | none => .error f

/-- Dereferencing the result of `jid_create`. -/
def deref : Option Jid → Except Fault Jid := need .jidNull

/-- `strdup`. -/
def strdup : Option String → Except Fault String := need .strdupNull

/-- Handing a string to a collaborator that reads it. -/
def arg : Option String → Except Fault String := need .argNull

@[simp] theorem ok_bind {α β : Type} (a : α) (f : α → Except Fault β) :
    (Except.ok a >>= f) = f a := rfl
@[simp] theorem error_bind {α β : Type} (e : Fault) (f : α → Except Fault β) :
    (Except.error e >>= f) = .error e := rfl
@[simp] theorem bind_ok_left {α β : Type} (a : α) (f : α → Except Fault β) :
    (Except.ok a).bind f = f a := rfl
@[simp] theorem bind_ok_right {α : Type} (x : Except Fault α) : x.bind .ok = x := by
  cases x <;> rfl
/-- A bind returns exactly when both steps do. -/
theorem bind_eq_ok {α β : Type} {x : Except Fault α} {f : α → Except Fault β} {b : β} :
    x.bind f = .ok b ↔ ∃ a, x = .ok a ∧ f a = .ok b := by
  cases x <;> simp [Except.bind]
@[simp] theorem pure_eq_ok {α : Type} (a : α) : (pure a : Except Fault α) = .ok a := rfl

@[simp] theorem need_some {α : Type} (f : Fault) (a : α) : need f (some a) = .ok a := rfl
@[simp] theorem need_none {α : Type} (f : Fault) : need (α := α) f none = .error f := rfl

end Profanity
