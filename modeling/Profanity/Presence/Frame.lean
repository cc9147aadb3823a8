import Profanity.Presence.Connection
import Profanity.Presence.Session
import Profanity.Presence.Update

/-!
# What each handler and call leaves alone

The relations the projections of a session are built from, and which of them each handler
and each call of the module keeps. `Keeps R f` says that every result of `f` is related to
its input by `R`; it is closed under the dispatch's binds and type filters, so the facts
about single handlers compose into facts about `presence_add_handlers`.

* `World.SameOn`, `World.SameSub`: the same record of a room and the same room
  notifications for it; the same subscription table;
* `World.Notifies`: events that are no room notification appended, and nothing else;
* `Keeps`, `Keeps.bind`, `Keeps.ite`: a handler that keeps a relation, and its closure;
* the connection error, offline and contact handlers, `_send_room_presence`,
  `presence_update` and `presence_leave_chat_room` only notify; the subscription handlers
  keep every room; the room handler keeps the table, and every room but its own.
-/

namespace Profanity

/-- `v` and `w` hold the same record of room `r` and the same room notifications for it. -/
def World.SameOn (r : String) (v w : World) : Prop :=
  v.rooms r = w.rooms r ∧ roomEvents r v.out = roomEvents r w.out

/-- `v` and `w` hold the same subscription table. -/
def World.SameSub (v w : World) : Prop := v.subRequests = w.subRequests

/-- `v` is `w` with events appended that are no room notification. -/
def World.Notifies (v w : World) : Prop :=
  ∃ evs, v = { w with out := w.out ++ evs } ∧ ∀ e ∈ evs, e.room? = none

namespace World

variable {r : String} {u v w : World}

theorem SameOn.refl (w : World) : w.SameOn r w := ⟨rfl, rfl⟩

theorem SameOn.trans (h₁ : u.SameOn r v) (h₂ : v.SameOn r w) : u.SameOn r w :=
  ⟨h₁.1.trans h₂.1, h₁.2.trans h₂.2⟩

theorem SameOn.symm (h : v.SameOn r w) : w.SameOn r v := ⟨h.1.symm, h.2.symm⟩

instance : IsRefl World (SameOn r) := ⟨SameOn.refl⟩
instance : IsTrans World (SameOn r) := ⟨fun _ _ _ => SameOn.trans⟩
instance : IsRefl World SameSub := ⟨fun _ => rfl⟩
instance : IsTrans World SameSub := ⟨fun _ _ _ => Eq.trans⟩

theorem SameRooms.sameOn (h : v.SameRooms w) : v.SameOn r w := ⟨congrFun h.1 r, h.2 r⟩

theorem Notifies.refl (w : World) : w.Notifies w := ⟨[], by simp, by simp⟩

theorem Notifies.append (h : v.Notifies w) {evs : List Event}
    (hevs : ∀ e ∈ evs, e.room? = none) : { v with out := v.out ++ evs }.Notifies w := by
  obtain ⟨e₁, rfl, h₁⟩ := h
  exact ⟨e₁ ++ evs, by simp, fun e he => (List.mem_append.1 he).elim (h₁ e) (hevs e)⟩

theorem Notifies.trans (h₁ : u.Notifies v) (h₂ : v.Notifies w) : u.Notifies w := by
  obtain ⟨e₁, rfl, h₁⟩ := h₁
  exact h₂.append h₁

theorem Notifies.emit {e : Event} (h : v.Notifies w) (he : e.room? = none) :
    (v.emit e).Notifies w :=
  h.append fun _ h' => (List.mem_singleton.1 h') ▸ he

theorem Notifies.sendAll (h : v.Notifies w) (iqs : List DiscoIq) :
    (v.sendAll iqs).Notifies w :=
  h.append fun e he => by
    obtain ⟨q, -, rfl⟩ := List.mem_map.1 he
    rfl

theorem Notifies.sameOn (h : v.Notifies w) : v.SameOn r w := by
  obtain ⟨evs, rfl, hevs⟩ := h
  have hr : roomEvents r evs = [] := List.filter_eq_nil_iff.2 fun e he => by simp [hevs e he]
  exact ⟨rfl, by simp [hr]⟩

theorem Notifies.sameSub (h : v.Notifies w) : v.SameSub w := by
  obtain ⟨evs, rfl, -⟩ := h
  rfl

end World

/-- Every result of `f` is related to its input by `R`. -/
def Keeps (R : World → World → Prop) (f : World → Except Fault World) : Prop :=
  ∀ w w', f w = .ok w' → R w' w

section Keeps

variable {R S : World → World → Prop} {r : String} {c : Conn} {s : Stanza}

theorem Keeps.bind [IsTrans World R] {f g : World → Except Fault World} (hf : Keeps R f)
    (hg : Keeps R g) : Keeps R fun w => (f w).bind g := fun _ _ h => by
  obtain ⟨w₁, h₁, h₂⟩ := bind_eq_ok.1 h
  exact trans_of R (hg _ _ h₂) (hf _ _ h₁)

theorem Keeps.ite [IsRefl World R] {p : Prop} [Decidable p] {f : World → Except Fault World}
    (hf : p → Keeps R f) : Keeps R fun w => if p then f w else .ok w := fun w _ h => by
  by_cases hp : p
  · exact hf hp _ _ (by simpa only [if_pos hp] using h)
  · cases (if_neg hp).symm.trans h
    exact refl_of R w

theorem Keeps.mono {f : World → Except Fault World} (hRS : ∀ v w, R v w → S v w)
    (hf : Keeps R f) : Keeps S f := fun w w' h => hRS _ _ (hf w w' h)

theorem KeepsRooms.keeps {f : World → Except Fault World} (hf : KeepsRooms f) :
    Keeps (World.SameOn r) f := fun w _ h => by
  obtain ⟨w', h', hs⟩ := hf w
  cases h.symm.trans h'
  exact hs.sameOn

/-! The connection error, offline and contact handlers only notify, about no room. -/

theorem connectionErrorHandler_notifies : Keeps World.Notifies (connectionErrorHandler c s) :=
  fun w _ h => by
    cases h
    exact (World.Notifies.refl w).emit rfl

theorem unavailableHandler_notifies : Keeps World.Notifies (unavailableHandler c s) :=
  fun w w' h => by
    rcases hj : jidCreate s.fromAttr with _ | j
    · simp [unavailableHandler, hj, deref] at h
    by_cases hc : c.jid.barejid = j.barejid <;>
      simp [unavailableHandler, hj, deref, hc] at h <;> subst h
    · exact .refl w
    · exact (World.Notifies.refl w).emit rfl

theorem availableHandler_notifies : Keeps World.Notifies (availableHandler c s) := fun w w' h => by
  by_cases hk : s.isType stanzaTypeError ∨ s.hasHandledType ∨ s.mucUser
  · cases (availableHandler_of_skip hk).symm.trans h
    exact .refl w
  simp only [not_or, Bool.not_eq_true] at hk
  simp only [availableHandler, if_neg hk.1, if_neg hk.2.1, hk.2.2, Bool.false_eq_true,
    if_false] at h
  rcases hg : getCapsKey c.caps s with _ | ⟨key, iqs⟩ <;> rw [hg] at h
  · cases h
  rcases hj : jidCreate s.fromAttr with _ | j <;>
    simp only [hj, deref, need_none, need_some, ok_bind, error_bind] at h
  · cases h
  by_cases hc : c.jid.barejid = j.barejid <;> simp only [hc, ne_eq, not_true, not_false_iff,
    if_true, if_false, pure_eq_ok, Except.ok.injEq] at h <;> subst h
  · exact (World.Notifies.refl w).sendAll iqs
  · exact ((World.Notifies.refl w).sendAll iqs).emit rfl

theorem subscriptionHandler_keepsRoom {action : JabberSubscr}
    {update : KeyTable → String → KeyTable} :
    Keeps (World.SameOn r) (subscriptionHandler action update s) := by
  rcases hj : jidCreate s.fromAttr with _ | j
  · intro _ _ h
    simp [subscriptionHandler, hj, deref] at h
  · exact (subscriptionHandler_keepsRooms hj).keeps

/-- On a stanza not from room `r`, every result of the room handler keeps the room: it
changes only its own room's record and notifies only about it. -/
theorem roomPresenceHandler_keepsRoom (hr : s.barejid ≠ some r) :
    Keeps (World.SameOn r) (roomPresenceHandler c s) := fun v v' h => by
  rcases hb : s.barejid with _ | r'
  · by_cases he : s.isType stanzaTypeError
    · cases (roomPresenceHandler_of_error he).symm.trans h
      exact .refl v
    · simp [roomPresenceHandler, he, Option.map_eq_none'.1 hb, deref] at h
  have hne : r ≠ r' := fun e => hr (e ▸ hb)
  obtain ⟨evs, hout, habout⟩ := roomPresenceHandler_out c s v v' r' hb h
  rw [roomPresenceHandler_focus c s v r' hb] at h
  rcases ha : roomPresenceHandler c s (v.focus r') with f | a <;> rw [ha] at h
  · cases h
  obtain rfl : v.commit r' a = v' := by simpa [Except.map] using h
  refine ⟨by simp [World.commit, Function.update_noteq hne], ?_⟩
  rw [hout, roomEvents_append, roomEvents_of_about hne habout, List.append_nil]

/-- `_send_room_presence` only notifies. -/
theorem sendRoomPresence_notifies (p : OwnPresence) (rooms : List String) :
    Keeps World.Notifies (sendRoomPresence p rooms) := by
  induction rooms with
  | nil => exact fun w _ h => by cases h; exact .refl w
  | cons room rooms ih =>
    intro w w' h
    rcases hn : w.mucGetRoomNick room with _ | nick
    · simp [sendRoomPresence, hn, arg] at h
    · simp only [sendRoomPresence, hn, arg, need_some, ok_bind] at h
      exact (ih _ _ h).trans ((World.Notifies.refl w).emit (by rfl))

/-- `presence_update` only notifies. -/
theorem presenceUpdate_notifies {cl : Client} {pt : ResourcePresence} {msg : Option String}
    {idle : Int} : Keeps World.Notifies (presenceUpdate cl pt msg idle) := fun w w' h => by
  unfold presenceUpdate at h
  split at h
  · cases h
    exact .refl w
  obtain ⟨u, hu, h⟩ := bind_eq_ok.1 h
  cases h
  exact ((sendRoomPresence_notifies _ _ _ _ hu).trans
    (((World.Notifies.refl w).emit (by rfl)).emit (by rfl))).emit (by rfl)

/-- `presence_leave_chat_room` only notifies. -/
theorem presenceLeaveChatRoom_notifies {room : String} :
    Keeps World.Notifies (presenceLeaveChatRoom room) := fun w w' h => by
  rcases hn : w.mucGetRoomNick room with _ | nick <;>
    simp [presenceLeaveChatRoom, hn, arg] at h
  subst h
  exact (World.Notifies.refl w).emit (by rfl)

/-- The room handler keeps the subscription table. -/
theorem roomPresenceHandler_keepsSub : Keeps World.SameSub (roomPresenceHandler c s) :=
  fun w w' h => by
    have hw := roomPresenceHandler_withSub c s w w.subRequests
    rw [show ({ w with subRequests := w.subRequests } : World) = w from rfl, h] at hw
    have hw' : w' = { w' with subRequests := w.subRequests } := Except.ok.inj hw
    rw [hw']
    rfl

end Keeps

end Profanity
