import Profanity.Presence.Room

/-!
# Runs of one room

A room's presence comes as a sequence of stanzas: the roster burst, which the user's own
presence ends, then the updates. `runRoom` hands such a sequence to
`_room_presence_handler` one stanza at a time and stops at the first crash. Every result
here is proved for one stanza, from the inversion lemmas of the handler, and carried to
whole runs by induction on the sequence.

* `runRoom`, `StaysIn`: a run, and a stanza of the room other than the user's departure;
* `Stanza.AnnouncesRenameTo`, `Stanza.IsAvailableFrom`, `renameLedger`: the stanzas a
  rename consists of, and the record of a rename that they determine, with one equation
  per kind of stanza (`renameLedger_of_announce`, `renameLedger_of_available`, ...);
* `roster_complete_once`: between joining and leaving, the roster-complete notification
  goes out at most once; the user's own presence ends the burst unless it completes a
  rename of the user's own, and then the burst goes on (`self_rename_keeps_burst`); during
  the burst a member's available presence is taken in silently, after it it is announced;
* `member_rename_after_burst`: after the burst, the pending renames are the ledger's and an
  available presence of the new nickname applies its rename; during the burst it does not,
  and an `unavailable` presence of the new nickname never does
  (`member_rename_stays_pending`).
-/

namespace Profanity

/-- Hand the stanzas to `_room_presence_handler` in order; a crash ends the run. -/
def runRoom (c : Conn) : List Stanza → World → Except Fault World
  | [], w => .ok w
  | s :: ss, w => (roomPresenceHandler c s w).bind (runRoom c ss)

/-- A stanza of room `r` other than the user's departure from it: not the user's own
`unavailable` presence without the rename status code. -/
def StaysIn (r : String) (s : Stanza) : Prop :=
  s.barejid = some r ∧ ¬ (s.mucSelf ∧ s.isType stanzaTypeUnavailable ∧ s.roomNickChange = false)

instance (r : String) (s : Stanza) : Decidable (StaysIn r s) :=
  inferInstanceAs (Decidable (_ ∧ _))

/-- `s` is a member's announcement that it takes the nickname `n`. -/
def Stanza.AnnouncesRenameTo (s : Stanza) (n : String) : Prop :=
  s.mucSelf = false ∧ s.isType stanzaTypeUnavailable ∧ s.roomNickChange ∧ s.newNick = some n

/-- `s` is the available presence of the member with nickname `n`. -/
def Stanza.IsAvailableFrom (s : Stanza) (n : String) : Prop :=
  s.mucSelf = false ∧ ¬ s.isType stanzaTypeError ∧ ¬ s.isType stanzaTypeUnavailable ∧
    s.nick = some n

instance (s : Stanza) (n : String) : Decidable (s.AnnouncesRenameTo n) :=
  inferInstanceAs (Decidable (_ ∧ _))

instance (s : Stanza) (n : String) : Decidable (s.IsAvailableFrom n) :=
  inferInstanceAs (Decidable (_ ∧ _))

theorem runRoom_cons_ok {c : Conn} {s : Stanza} {ss : List Stanza} {w w' : World} :
    runRoom c (s :: ss) w = .ok w' ↔
      ∃ w₁, roomPresenceHandler c s w = .ok w₁ ∧ runRoom c ss w₁ = .ok w' := by
  cases h : roomPresenceHandler c s w <;> simp [runRoom, h, Except.bind]

theorem Event.AnnouncesMember.ne_roomRosterComplete {r n x : String} {e : Event}
    (h : e.AnnouncesMember r n) : e ≠ .roomRosterComplete x := by
  rintro rfl
  exact h

@[simp] theorem count_rosterComplete_disco (r : String) (iqs : List DiscoIq) :
    (iqs.map Event.disco).count (.roomRosterComplete r) = 0 := by
  simp [List.count_eq_zero]

/-! ### The roster burst -/

section Burst

variable {c : Conn} {r : String} {w w' : World} {cr : ChatRoom}

/-- One stanza of a room the user stays in: the burst, once over, stays over, and a
roster-complete notification for the room goes out exactly when the burst ends. -/
theorem rosterComplete_step {s : Stanza} (hs : StaysIn r s) (hcr : w.rooms r = some cr)
    (h : roomPresenceHandler c s w = .ok w') :
    ∃ cr', w'.rooms r = some cr' ∧ (cr.rosterReceived → cr'.rosterReceived) ∧
      w'.out.count (.roomRosterComplete r) + cr.rosterReceived.toNat =
        w.out.count (.roomRosterComplete r) + cr'.rosterReceived.toNat := by
  rcases roomPresenceHandler_cases hs.1 h with ⟨-, rfl⟩ | ⟨-, hself, h⟩ | ⟨-, -, h⟩
  · exact ⟨cr, hcr, id, rfl⟩
  · rcases roomSelfPresence_cases h with ⟨-, -, rfl⟩ | ⟨hu, hn, rfl⟩ | ⟨-, -, n, -, rfl⟩ |
      ⟨-, -, hr, rfl⟩ | ⟨-, -, -, rfl⟩
    · simp [World.mucSetRoomPendingNickChange, hcr]
    · exact absurd ⟨hself, hu, hn⟩ hs.2
    · simp [World.mucCompleteRoomNickChange, World.profHandleRoomNickChange, hcr]
    · simp only [World.mucGetRosterReceived, hcr, Option.map_some', Option.getD_some] at hr
      simp [World.profHandleRoomRosterComplete, hcr, hr]
    · exact ⟨cr, hcr, id, rfl⟩
  · obtain ⟨key, iqs, n, -, -, h⟩ := roomMemberPresence_cases h
    rcases h with ⟨-, -, nn, -, rfl⟩ | ⟨-, -, rfl⟩ | ⟨-, -, rfl⟩ | ⟨-, -, rfl⟩
    · simp [World.mucSetRosterPendingNickChange, hcr]
    · simp [World.profHandleRoomMemberOffline, World.mucRemoveFromRoster, hcr]
    · simp [World.mucAddToRoster, hcr]
    · have hcr' : (w.sendAll iqs).rooms r = some cr := hcr
      rcases roomMemberOnline_cases (n := n) (o := ⟨s.showStr, s.status, key⟩) hcr' with
        ⟨old, -, h⟩ | ⟨-, e, he, h⟩ <;> rw [h]
      · simp [World.mucAddToRoster, hcr]
      · simp [World.mucAddToRoster, hcr, List.count_eq_zero, he.ne_roomRosterComplete.symm]

theorem rosterComplete_run {ss : List Stanza} (hss : ∀ s ∈ ss, StaysIn r s)
    (hcr : w.rooms r = some cr) (h : runRoom c ss w = .ok w') :
    ∃ cr', w'.rooms r = some cr' ∧ (cr.rosterReceived → cr'.rosterReceived) ∧
      w'.out.count (.roomRosterComplete r) + cr.rosterReceived.toNat =
        w.out.count (.roomRosterComplete r) + cr'.rosterReceived.toNat := by
  induction ss generalizing w cr with
  | nil => cases h; exact ⟨cr, hcr, id, rfl⟩
  | cons s ss ih =>
    obtain ⟨w₁, h₁, h⟩ := runRoom_cons_ok.1 h
    obtain ⟨cr₁, hcr₁, hm₁, hc₁⟩ := rosterComplete_step (hss s (.head _)) hcr h₁
    obtain ⟨cr', hcr', hm, hc⟩ := ih (fun s hs => hss s (.tail _ hs)) hcr₁ h
    exact ⟨cr', hcr', hm ∘ hm₁, by omega⟩

/-- The user's own presence other than an error or `unavailable`: the burst is over
afterwards, unless the presence completes a rename of the user's own. -/
theorem selfPresence_rosterReceived {s : Stanza} (hr : s.barejid = some r) (hself : s.mucSelf)
    (he : ¬ s.isType stanzaTypeError) (hu : ¬ s.isType stanzaTypeUnavailable)
    (hcr : w.rooms r = some cr)
    (h : roomPresenceHandler c s w = .ok w') :
    w'.mucGetRosterReceived r = (cr.rosterReceived || !cr.pendingNickChange) := by
  rw [roomPresenceHandler_of_self hr he hself] at h
  rcases roomSelfPresence_cases h with ⟨hu', -⟩ | ⟨hu', -⟩ | ⟨-, hp, -, -, rfl⟩ |
    ⟨-, hp, hrr, rfl⟩ | ⟨-, hp, hrr, rfl⟩
  · exact absurd hu' hu
  · exact absurd hu' hu
  all_goals simp only [World.mucIsRoomPendingNickChange, World.mucGetRosterReceived, hcr,
    Option.map_some', Option.getD_some] at hp
  · simp [World.mucGetRosterReceived, World.mucCompleteRoomNickChange,
      World.profHandleRoomNickChange, hcr, hp]
  · simp [World.mucGetRosterReceived, World.profHandleRoomRosterComplete, hcr, hp]
  · simpa [World.mucGetRosterReceived, hcr, hp] using hrr

/-- A member's available presence: it enters the occupant during the burst, and goes
through `roomMemberOnline` after it. -/
theorem roomPresenceHandler_available {s : Stanza} {n : String} (hr : s.barejid = some r)
    (hs : s.IsAvailableFrom n) (h : roomPresenceHandler c s w = .ok w') :
    ∃ key iqs, w' = if w.mucGetRosterReceived r
      then roomMemberOnline r n ⟨s.showStr, s.status, key⟩ (w.sendAll iqs)
      else (w.sendAll iqs).mucAddToRoster r n ⟨s.showStr, s.status, key⟩ := by
  obtain ⟨hself, he, hu, hn⟩ := hs
  rw [roomPresenceHandler_of_member hr he hself] at h
  obtain ⟨key, iqs, n', -, hn', h⟩ := roomMemberPresence_cases h
  obtain rfl : n' = n := Option.some.inj (hn'.symm.trans hn)
  refine ⟨key, iqs, ?_⟩
  rcases h with ⟨hu', -⟩ | ⟨hu', -⟩ | ⟨-, hrr, rfl⟩ | ⟨-, hrr, rfl⟩
  · exact absurd hu' hu
  · exact absurd hu' hu
  · simp [hrr]
  · simp [hrr]

/-- A member's available presence after the burst: one announcement of the member, after
the capability requests. -/
theorem announced_after_burst {s : Stanza} {n : String} (hr : s.barejid = some r)
    (hs : s.IsAvailableFrom n) (hcr : w.rooms r = some cr) (hrr : cr.rosterReceived)
    (h : roomPresenceHandler c s w = .ok w') :
    ∃ (iqs : List DiscoIq) (e : Event), w'.out = w.out ++ iqs.map .disco ++ [e] ∧
      e.AnnouncesMember r n := by
  obtain ⟨key, iqs, rfl⟩ := roomPresenceHandler_available hr hs h
  have hcr' : (w.sendAll iqs).rooms r = some cr := hcr
  have hrr' : w.mucGetRosterReceived r := by simp [World.mucGetRosterReceived, hcr, hrr]
  rcases roomMemberOnline_cases (n := n) (o := ⟨s.showStr, s.status, key⟩) hcr' with
    ⟨old, -, h⟩ | ⟨-, e, he, h⟩
  · exact ⟨iqs, .roomMemberNickChange r old n, by simp [hrr', h, World.mucAddToRoster], rfl, rfl⟩
  · exact ⟨iqs, e, by simp [hrr', h, World.mucAddToRoster], he⟩

/-- The user's own presence, other than an error or `unavailable`, while a rename of the
user's own is pending: the user's nickname becomes the presence's, the rename is reported,
and the rest of the record, the burst included, is as it was. -/
theorem selfPresence_completes_rename {s : Stanza} {n : String} (hr : s.barejid = some r)
    (hself : s.mucSelf) (he : ¬ s.isType stanzaTypeError) (hu : ¬ s.isType stanzaTypeUnavailable)
    (hcr : w.rooms r = some cr) (hp : cr.pendingNickChange) (hn : s.nick = some n)
    (h : roomPresenceHandler c s w = .ok w') :
    w'.rooms r = some { cr with nick := n, pendingNickChange := false } ∧
      w'.out = w.out ++ [.roomNickChange r n] := by
  rw [roomPresenceHandler_of_self hr he hself] at h
  have hp' : w.mucIsRoomPendingNickChange r := by
    simp [World.mucIsRoomPendingNickChange, hcr, hp]
  rcases roomSelfPresence_cases h with ⟨hu', -⟩ | ⟨hu', -⟩ | ⟨-, -, n', hn', rfl⟩ |
    ⟨-, hp'', -⟩ | ⟨-, hp'', -⟩
  · exact absurd hu' hu
  · exact absurd hu' hu
  · obtain rfl : n' = n := Option.some.inj (hn'.symm.trans hn)
    simp [World.mucCompleteRoomNickChange, World.profHandleRoomNickChange, World.modifyRoom,
      World.emit, hcr]
  all_goals simp [hp'] at hp''

/-- A member's available presence during the burst: only the capability requests go out,
the member is entered, and the burst goes on. -/
theorem burst_absorbs_silently {s : Stanza} {n : String} (hr : s.barejid = some r)
    (hs : s.IsAvailableFrom n) (hcr : w.rooms r = some cr) (hrr : cr.rosterReceived = false)
    (h : roomPresenceHandler c s w = .ok w') :
    ∃ (iqs : List DiscoIq) (cr' : ChatRoom), w'.out = w.out ++ iqs.map .disco ∧
      w'.rooms r = some cr' ∧ cr'.rosterReceived = false ∧ (cr'.roster n).isSome := by
  obtain ⟨key, iqs, rfl⟩ := roomPresenceHandler_available hr hs h
  have hrr' : w.mucGetRosterReceived r = false := by simp [World.mucGetRosterReceived, hcr, hrr]
  exact ⟨iqs, { cr with roster := Function.update cr.roster n (some ⟨s.showStr, s.status, key⟩) },
    by simp [hrr', World.mucAddToRoster], by simp [hrr', World.mucAddToRoster, hcr], hrr, by simp⟩

end Burst

/-! ### Member renames -/

/-- The ledger of the rename to `n`: an announcement of a rename to `n` records its
sender's nickname, an available presence of `n` settles it, and any other stanza leaves
it as it is. -/
def renameLedger (n : String) (p : Option String) (s : Stanza) : Option String :=
  if s.AnnouncesRenameTo n then s.nick else if s.IsAvailableFrom n then none else p

section Ledger

variable {n : String} {p : Option String} {s : Stanza}

/-- The user's own presence leaves the ledger as it is. -/
theorem renameLedger_of_self (h : s.mucSelf) : renameLedger n p s = p := by
  simp [renameLedger, Stanza.AnnouncesRenameTo, Stanza.IsAvailableFrom, h]

/-- An error leaves the ledger as it is. -/
theorem renameLedger_of_error (he : s.isType stanzaTypeError) : renameLedger n p s = p := by
  simp [renameLedger, Stanza.AnnouncesRenameTo, Stanza.IsAvailableFrom, he,
    mt Stanza.not_error_of_unavailable (not_not_intro he)]

/-- A departure leaves the ledger as it is. -/
theorem renameLedger_of_offline (hu : s.isType stanzaTypeUnavailable)
    (hrn : s.roomNickChange = false) : renameLedger n p s = p := by
  simp [renameLedger, Stanza.AnnouncesRenameTo, Stanza.IsAvailableFrom, hu, hrn]

/-- A member's announcement of a rename to `nn` records its sender by `nn`. -/
theorem renameLedger_of_announce {nn : String} (hself : s.mucSelf = false)
    (hu : s.isType stanzaTypeUnavailable) (hrn : s.roomNickChange) (hnn : s.newNick = some nn) :
    renameLedger n p s = if n = nn then s.nick else p := by
  simp [renameLedger, Stanza.AnnouncesRenameTo, Stanza.IsAvailableFrom, hself, hu, hrn, hnn,
    @eq_comm _ nn n]

/-- The available presence of `m` settles the rename to `m`. -/
theorem renameLedger_of_available {m : String} (hself : s.mucSelf = false)
    (he : ¬ s.isType stanzaTypeError) (hu : ¬ s.isType stanzaTypeUnavailable)
    (hm : s.nick = some m) : renameLedger n p s = if n = m then none else p := by
  simp [renameLedger, Stanza.AnnouncesRenameTo, Stanza.IsAvailableFrom, hself, he, hu, hm,
    @eq_comm _ m n]

end Ledger

section Renames

variable {c : Conn} {r : String} {w w' : World} {cr : ChatRoom}

/-- One stanza of a room the user stays in, after the burst: the burst stays over and the
pending renames move as the ledger says. -/
theorem nickChanges_step {s : Stanza} (hs : StaysIn r s) (hcr : w.rooms r = some cr)
    (hrr : cr.rosterReceived) (h : roomPresenceHandler c s w = .ok w') :
    ∃ cr', w'.rooms r = some cr' ∧ cr'.rosterReceived ∧
      ∀ n, cr'.nickChanges n = renameLedger n (cr.nickChanges n) s := by
  rcases roomPresenceHandler_cases hs.1 h with ⟨he, rfl⟩ | ⟨-, hself, h⟩ | ⟨he, hself, h⟩
  · exact ⟨cr, hcr, hrr, fun _ => (renameLedger_of_error he).symm⟩
  · simp only [renameLedger_of_self hself]
    rcases roomSelfPresence_cases h with ⟨-, -, rfl⟩ | ⟨hu, hn, rfl⟩ | ⟨-, -, n, -, rfl⟩ |
      ⟨-, -, hr, rfl⟩ | ⟨-, -, -, rfl⟩
    · simp [World.mucSetRoomPendingNickChange, hcr, hrr]
    · exact absurd ⟨hself, hu, hn⟩ hs.2
    · simp [World.mucCompleteRoomNickChange, World.profHandleRoomNickChange, hcr, hrr]
    · simp [World.mucGetRosterReceived, hcr, hrr] at hr
    · exact ⟨cr, hcr, hrr, fun _ => rfl⟩
  · obtain ⟨key, iqs, m, -, hnick, h⟩ := roomMemberPresence_cases h
    rcases h with ⟨hu, hrn, nn, hnn, rfl⟩ | ⟨hu, hrn, rfl⟩ | ⟨-, hr, rfl⟩ | ⟨hu, -, rfl⟩
    · simp [World.mucSetRosterPendingNickChange, hcr, hrr, Function.update_apply, hnick,
        renameLedger_of_announce hself hu hrn hnn]
    · simp [World.profHandleRoomMemberOffline, World.mucRemoveFromRoster, hcr, hrr,
        renameLedger_of_offline hu hrn]
    · simp [World.mucGetRosterReceived, hcr, hrr] at hr
    · simp only [renameLedger_of_available hself he hu hnick]
      have hcr' : (w.sendAll iqs).rooms r = some cr := hcr
      rcases roomMemberOnline_cases (n := m) (o := ⟨s.showStr, s.status, key⟩) hcr' with
        ⟨old, -, h⟩ | ⟨hnone, e, -, h⟩
      · simp [h, World.mucAddToRoster, hcr, hrr, Function.update_apply]
      · simp [h, World.mucAddToRoster, hcr, hrr]
        intro n
        split_ifs with hn
        · rw [hn, hnone]
        · rfl

theorem nickChanges_run {ss : List Stanza} (hss : ∀ s ∈ ss, StaysIn r s)
    (hcr : w.rooms r = some cr) (hrr : cr.rosterReceived) (h : runRoom c ss w = .ok w') :
    ∃ cr', w'.rooms r = some cr' ∧
      ∀ n, cr'.nickChanges n = ss.foldl (renameLedger n) (cr.nickChanges n) := by
  induction ss generalizing w cr with
  | nil => cases h; exact ⟨cr, hcr, fun _ => rfl⟩
  | cons s ss ih =>
    obtain ⟨w₁, h₁, h⟩ := runRoom_cons_ok.1 h
    obtain ⟨cr₁, hcr₁, hrr₁, hl₁⟩ := nickChanges_step (hss s (.head _)) hcr hrr h₁
    obtain ⟨cr', hcr', hl⟩ := ih (fun s hs => hss s (.tail _ hs)) hcr₁ hrr₁ h
    exact ⟨cr', hcr', fun n => by rw [hl, hl₁]; rfl⟩

/-- A member's announcement of a rename to `new`: after the capability requests, the rename
is recorded by the new nickname. -/
theorem roomPresenceHandler_announce {s : Stanza} {old new : String}
    (hj : jidCreate s.fromAttr = some ⟨r, some old⟩) (hs : s.AnnouncesRenameTo new)
    (h : roomPresenceHandler c s w = .ok w') :
    ∃ iqs, w' = (w.sendAll iqs).mucSetRosterPendingNickChange r new old := by
  obtain ⟨hself, hu, hrn, hnn⟩ := hs
  have hr : s.barejid = some r := by simp [Stanza.barejid, hj]
  rw [roomPresenceHandler_of_member hr (Stanza.not_error_of_unavailable hu) hself] at h
  obtain ⟨key, iqs, n, -, hn, h⟩ := roomMemberPresence_cases h
  obtain rfl : old = n := by simpa [Stanza.nick, hj] using hn
  rcases h with ⟨-, -, nn, hnn', rfl⟩ | ⟨-, hrn', -⟩ | ⟨hu', -⟩ | ⟨hu', -⟩
  · exact ⟨iqs, by rw [hnn] at hnn'; cases hnn'; rfl⟩
  · simp [hrn] at hrn'
  · exact absurd hu hu'
  · exact absurd hu hu'

/-- An available presence of `n` after the burst, with a rename to `n` pending: it applies
the rename. -/
theorem rename_applied {s : Stanza} {n old : String} (hr : s.barejid = some r)
    (hs : s.IsAvailableFrom n) (hcr : w.rooms r = some cr) (hrr : cr.rosterReceived)
    (hold : cr.nickChanges n = some old) (h : roomPresenceHandler c s w = .ok w') :
    ∃ (cr' : ChatRoom) (iqs : List DiscoIq), w'.rooms r = some cr' ∧ (cr'.roster n).isSome ∧
      (old ≠ n → cr'.roster old = none) ∧ cr'.nickChanges n = none ∧
      w'.out = w.out ++ iqs.map .disco ++ [.roomMemberNickChange r old n] := by
  obtain ⟨key, iqs, rfl⟩ := roomPresenceHandler_available hr hs h
  have hcr' : (w.sendAll iqs).rooms r = some cr := hcr
  rcases roomMemberOnline_cases (n := n) (o := ⟨s.showStr, s.status, key⟩) hcr' with
    ⟨old', hold', h⟩ | ⟨hnone, -⟩
  · obtain rfl : old' = old := Option.some.inj (hold'.symm.trans hold)
    simp [World.mucGetRosterReceived, hcr, hrr, h, World.mucAddToRoster, Function.update_apply]
  · simp [hold] at hnone

/-- An available presence of `n` during the burst: it enters `n` and leaves every other
occupant and every pending rename as they are. -/
theorem burst_absorbs_rename {s : Stanza} {n : String} (hr : s.barejid = some r)
    (hs : s.IsAvailableFrom n) (hcr : w.rooms r = some cr) (hrr : cr.rosterReceived = false)
    (h : roomPresenceHandler c s w = .ok w') :
    ∃ cr', w'.rooms r = some cr' ∧ cr'.nickChanges = cr.nickChanges ∧ (cr'.roster n).isSome ∧
      ∀ m, m ≠ n → cr'.roster m = cr.roster m := by
  obtain ⟨key, iqs, rfl⟩ := roomPresenceHandler_available hr hs h
  have hrr' : w.mucGetRosterReceived r = false := by simp [World.mucGetRosterReceived, hcr, hrr]
  exact ⟨{ cr with roster := Function.update cr.roster n (some ⟨s.showStr, s.status, key⟩) },
    by simp [hrr', World.mucAddToRoster, hcr], rfl, by simp,
    fun m hm => Function.update_noteq hm _ _⟩

end Renames

/-! ### The roster burst, whole runs -/

/-- **The roster burst.** Between joining a room and leaving it, the roster-complete
notification goes out at most once. The user's own presence, other than an error or
`unavailable`, leaves the burst over, unless it completes a rename of the user's own: then
it takes the new nickname, reports the rename and leaves the burst as it was, so that the
members' presence that follows is still taken in silently. Once the burst is over, a
member's available presence is announced once, after the capability requests. -/
theorem roster_complete_once (c : Conn) (r : String) :
    (∀ w nick ss w', w.rooms r = some (ChatRoom.fresh nick) → (∀ s ∈ ss, StaysIn r s) →
      runRoom c ss w = .ok w' →
      w'.out.count (.roomRosterComplete r) ≤ w.out.count (.roomRosterComplete r) + 1) ∧
    (∀ w cr s w', w.rooms r = some cr → s.barejid = some r → s.mucSelf →
      ¬ s.isType stanzaTypeError → ¬ s.isType stanzaTypeUnavailable →
      roomPresenceHandler c s w = .ok w' →
      w'.mucGetRosterReceived r = (cr.rosterReceived || !cr.pendingNickChange)) ∧
    (∀ w cr s n w', w.rooms r = some cr → s.barejid = some r → s.mucSelf →
      ¬ s.isType stanzaTypeError → ¬ s.isType stanzaTypeUnavailable → cr.pendingNickChange →
      s.nick = some n → roomPresenceHandler c s w = .ok w' →
      w'.rooms r = some { cr with nick := n, pendingNickChange := false } ∧
        w'.out = w.out ++ [.roomNickChange r n]) ∧
    (∀ w cr s n w', w.rooms r = some cr → cr.rosterReceived = false → s.barejid = some r →
      s.IsAvailableFrom n → roomPresenceHandler c s w = .ok w' →
      ∃ (iqs : List DiscoIq) (cr' : ChatRoom), w'.out = w.out ++ iqs.map .disco ∧
        w'.rooms r = some cr' ∧ cr'.rosterReceived = false ∧ (cr'.roster n).isSome) ∧
    (∀ w cr s n w', w.rooms r = some cr → cr.rosterReceived → s.barejid = some r →
      s.IsAvailableFrom n → roomPresenceHandler c s w = .ok w' →
      ∃ (iqs : List DiscoIq) (e : Event), w'.out = w.out ++ iqs.map .disco ++ [e] ∧
        e.AnnouncesMember r n) := by
  refine ⟨fun w nick ss w' hcr hss h => ?_,
    fun w cr s w' hcr hr hself he hu h => selfPresence_rosterReceived hr hself he hu hcr h,
    fun w cr s n w' hcr hr hself he hu hp hn h =>
      selfPresence_completes_rename hr hself he hu hcr hp hn h,
    fun w cr s n w' hcr hrr hr hs h => burst_absorbs_silently hr hs hcr hrr h,
    fun w cr s n w' hcr hrr hr hs h => announced_after_burst hr hs hcr hrr h⟩
  obtain ⟨cr', -, -, hc⟩ := rosterComplete_run hss hcr h
  have : cr'.rosterReceived.toNat ≤ 1 := by cases cr'.rosterReceived <;> decide
  simp only [ChatRoom.fresh, Bool.toNat_false, Nat.add_zero] at hc
  omega

theorem roster_complete_once_lobby :
    let c : Conn := ⟨⟨"me@example.com", some "laptop"⟩, []⟩
    let r := "lobby@conf.example"
    let alice : Stanza := { fromAttr := some "lobby@conf.example/alice", mucUser := true }
    let self : Stanza :=
      { fromAttr := some "lobby@conf.example/me", mucUser := true, mucSelf := true }
    let self2 : Stanza :=
      { fromAttr := some "lobby@conf.example/me2", mucUser := true, mucSelf := true }
    let bob : Stanza := { fromAttr := some "lobby@conf.example/bob", mucUser := true }
    let w₀ := World.init.mucJoinRoom r "me"
    let w₁ := w₀.profHandleRoomRosterComplete r
    (∃ w', runRoom c [alice, self, bob] w₀ = .ok w' ∧
      w'.out.count (.roomRosterComplete r) ≤ w₀.out.count (.roomRosterComplete r) + 1) ∧
    (∃ w', roomPresenceHandler c self w₀ = .ok w' ∧ w'.mucGetRosterReceived r = true) ∧
    (∃ w', roomPresenceHandler c self2 (w₀.mucSetRoomPendingNickChange r) = .ok w' ∧
      w'.rooms r = some { ChatRoom.fresh "me" with nick := "me2" } ∧
      w'.out = w₀.out ++ [.roomNickChange r "me2"]) ∧
    (∃ w', roomPresenceHandler c alice w₀ = .ok w' ∧ ∃ (iqs : List DiscoIq) (cr' : ChatRoom),
      w'.out = w₀.out ++ iqs.map .disco ∧ w'.rooms r = some cr' ∧
      cr'.rosterReceived = false ∧ (cr'.roster "alice").isSome) ∧
    (∃ w', roomPresenceHandler c bob w₁ = .ok w' ∧ ∃ (iqs : List DiscoIq) (e : Event),
      w'.out = w₁.out ++ iqs.map .disco ++ [e] ∧ e.AnnouncesMember r "bob") := by
  intro c r alice self self2 bob w₀ w₁
  have h := roster_complete_once c r
  exact ⟨⟨_, rfl, h.1 w₀ "me" [alice, self, bob] _ rfl (by decide) rfl⟩,
    ⟨_, rfl, h.2.1 w₀ _ self _ rfl rfl rfl (by decide) (by decide) rfl⟩,
    ⟨_, rfl, h.2.2.1 (w₀.mucSetRoomPendingNickChange r)
      { ChatRoom.fresh "me" with pendingNickChange := true } self2 "me2" _ rfl rfl rfl
      (by decide) (by decide) rfl rfl rfl⟩,
    ⟨_, rfl, h.2.2.2.1 w₀ _ alice "alice" _ rfl rfl rfl (by decide) rfl⟩,
    ⟨_, rfl, h.2.2.2.2 w₁ _ bob "bob" _ rfl rfl rfl (by decide) rfl⟩⟩

/-- A rename of the user's own before the burst ends: the user's next presence completes
the rename, the burst goes on, and a member who enters afterwards is not announced. -/
theorem self_rename_keeps_burst :
    (runRoom ⟨⟨"me@example.com", some "laptop"⟩, []⟩
      [{ type := some "unavailable", fromAttr := some "lobby@conf.example/me", mucUser := true,
         mucSelf := true, roomNickChange := true, newNick := some "me2" },
       { fromAttr := some "lobby@conf.example/me2", mucUser := true, mucSelf := true },
       { fromAttr := some "lobby@conf.example/bob", mucUser := true }]
      (World.init.mucJoinRoom "lobby@conf.example" "me")).map
      (fun w => (w.mucGetRosterReceived "lobby@conf.example", w.out)) =
    .ok (false, [.roomNickChange "lobby@conf.example" "me2"]) := rfl

/-! ### Member renames, whole runs -/

/-- **Member renames after the burst.** Once the burst is over, in every run of the room's
stanzas that keeps the user in it, the rename pending for the nickname `n` is the one the
ledger gives: the sender of the last announcement of a rename to `n`, unless an available
presence of `n` came after it. Such a presence applies the rename: `n` is an occupant, the
old nickname is not, the record is cleared, and the rename is announced once. During the
burst the same presence only enters `n`: the rename stays pending and the old nickname
stays an occupant. -/
theorem member_rename_after_burst (c : Conn) (r : String) :
    (∀ w cr ss w', w.rooms r = some cr → cr.rosterReceived → (∀ s ∈ ss, StaysIn r s) →
      runRoom c ss w = .ok w' → ∃ cr', w'.rooms r = some cr' ∧
        ∀ n, cr'.nickChanges n = ss.foldl (renameLedger n) (cr.nickChanges n)) ∧
    (∀ w cr s n old w', w.rooms r = some cr → cr.rosterReceived →
      cr.nickChanges n = some old → s.barejid = some r → s.IsAvailableFrom n →
      roomPresenceHandler c s w = .ok w' →
      ∃ (cr' : ChatRoom) (iqs : List DiscoIq), w'.rooms r = some cr' ∧ (cr'.roster n).isSome ∧
        (old ≠ n → cr'.roster old = none) ∧ cr'.nickChanges n = none ∧
        w'.out = w.out ++ iqs.map .disco ++ [.roomMemberNickChange r old n]) ∧
    (∀ w cr s n w', w.rooms r = some cr → cr.rosterReceived = false → s.barejid = some r →
      s.IsAvailableFrom n → roomPresenceHandler c s w = .ok w' →
      ∃ cr', w'.rooms r = some cr' ∧ cr'.nickChanges = cr.nickChanges ∧
        (cr'.roster n).isSome ∧ ∀ m, m ≠ n → cr'.roster m = cr.roster m) :=
  ⟨fun _ _ _ _ hcr hrr hss h => nickChanges_run hss hcr hrr h,
    fun _ _ _ _ _ _ hcr hrr hold hr hs h => rename_applied hr hs hcr hrr hold h,
    fun _ _ _ _ _ hcr hrr hr hs h => burst_absorbs_rename hr hs hcr hrr h⟩

theorem member_rename_after_burst_alice :
    let c : Conn := ⟨⟨"me@example.com", some "laptop"⟩, []⟩
    let r := "lobby@conf.example"
    let rename : Stanza :=
      { type := some "unavailable", fromAttr := some "lobby@conf.example/alice",
        mucUser := true, roomNickChange := true, newNick := some "alice2" }
    let alice2 : Stanza := { fromAttr := some "lobby@conf.example/alice2", mucUser := true }
    let w₀ := World.init.mucJoinRoom r "me"
    let w₁ := w₀.profHandleRoomRosterComplete r
    (∃ w', runRoom c [rename, alice2] w₁ = .ok w' ∧ ∃ cr', w'.rooms r = some cr' ∧
      ∀ n, cr'.nickChanges n = [rename, alice2].foldl (renameLedger n) none) ∧
    (∃ w', roomPresenceHandler c alice2 (w₁.mucSetRosterPendingNickChange r "alice2" "alice") =
      .ok w' ∧ ∃ (cr' : ChatRoom) (iqs : List DiscoIq), w'.rooms r = some cr' ∧
        (cr'.roster "alice2").isSome ∧ cr'.roster "alice" = none ∧
        cr'.nickChanges "alice2" = none ∧
        w'.out = w₁.out ++ iqs.map .disco ++ [.roomMemberNickChange r "alice" "alice2"]) ∧
    (∃ w', roomPresenceHandler c alice2 (w₀.mucSetRosterPendingNickChange r "alice2" "alice") =
      .ok w' ∧ ∃ cr', w'.rooms r = some cr' ∧ cr'.nickChanges "alice2" = some "alice") := by
  intro c r rename alice2 w₀ w₁
  have h₂ := (member_rename_after_burst c r).2.1
    (w₁.mucSetRosterPendingNickChange r "alice2" "alice")
    _ alice2 "alice2" "alice" _ rfl rfl rfl rfl (by decide) rfl
  have h₃ := (member_rename_after_burst c r).2.2
    (w₀.mucSetRosterPendingNickChange r "alice2" "alice")
    _ alice2 "alice2" _ rfl rfl rfl (by decide) rfl
  obtain ⟨cr₂, iqs, hcr₂, hn₂, ho₂, hc₂, he₂⟩ := h₂
  obtain ⟨cr₃, hcr₃, hc₃, -⟩ := h₃
  exact ⟨⟨_, rfl,
      (member_rename_after_burst c r).1 w₁ _ [rename, alice2] _ rfl rfl (by decide) rfl⟩,
    ⟨_, rfl, cr₂, iqs, hcr₂, hn₂, ho₂ (by decide), hc₂, he₂⟩,
    ⟨_, rfl, cr₃, hcr₃, by rw [hc₃]; rfl⟩⟩

/-- A pending rename outlives a presence of its new nickname. During the burst, the new
nickname's available presence enters it and leaves the rename pending and the old nickname
an occupant; after the burst, an `unavailable` presence of the new nickname leaves the
rename pending and the old nickname an occupant too. -/
theorem member_rename_stays_pending :
    let c : Conn := ⟨⟨"me@example.com", some "laptop"⟩, []⟩
    let alice : Stanza := { fromAttr := some "lobby@conf.example/alice", mucUser := true }
    let rename : Stanza :=
      { type := some "unavailable", fromAttr := some "lobby@conf.example/alice",
        mucUser := true, roomNickChange := true, newNick := some "alice2" }
    let alice2 : Stanza := { fromAttr := some "lobby@conf.example/alice2", mucUser := true }
    let alice2Gone : Stanza :=
      { type := some "unavailable", fromAttr := some "lobby@conf.example/alice2",
        mucUser := true }
    let w₀ := World.init.mucJoinRoom "lobby@conf.example" "me"
    let view := fun w : World => (w.rooms "lobby@conf.example").map fun cr =>
      ((cr.roster "alice").isSome, (cr.roster "alice2").isSome, cr.nickChanges "alice2")
    (runRoom c [alice, rename, alice2] w₀).map view = .ok (some (true, true, some "alice")) ∧
    (runRoom c [alice, rename, alice2Gone]
      (w₀.profHandleRoomRosterComplete "lobby@conf.example")).map view =
      .ok (some (true, false, some "alice")) :=
  ⟨rfl, rfl⟩

end Profanity
