import Profanity.Presence.Registry

/-!
# Where a session can crash

The presence module crashes on a `NULL` it reads through: the sender of a stanza that does
not parse, a room presence without a nickname, a rename without the new nickname, a
capability advertisement it cannot key, a JID the user answers that does not parse, or a
room that is not joined, whose nickname is `NULL`. Over every session from
`presence_init`, the input that crashes is one of these, judged by the inputs before it
alone: which rooms are joined is read off the history. So a server that sends well-formed
stanzas and a client that answers parsable JIDs and leaves and updates only the rooms it
is in never crash the module.

* `Input.Unsafe`: an input that can crash, given the inputs before it;
* `runClient_error`: a crashed session is a prefix that returned and an input that crashed;
* `Input.unsafe_of_run_error`: an input that crashes after a prefix is unsafe given it;
* `session_crash_unsafe`: every crash of a session comes from an unsafe input.
-/

namespace Profanity

/-- An input that can crash the module, given the inputs `pre` before it: a stanza that is
not well-formed, an answer to a JID that does not parse, and, while connected, an update
listing a room that the history does not show joined, or a leave of such a room. -/
def Input.Unsafe (pre : List Input) : Input → Prop
  | .stanza s => ¬ s.WellFormed
  | .subscription jid _ => jidCreate (some jid) = none
  | .update cl _ _ _ =>
    cl.connected ∧ ∃ r ∈ cl.activeRooms, ¬ Since (Input.Joins r) (Input.Leaves r) pre
  | .leaveChatRoom room => ¬ Since (Input.Joins room) (Input.Leaves room) pre
  | _ => False

/-- A session that crashes returned up to one input, which crashed. -/
theorem runClient_error {c : Conn} {is : List Input} {w : World} {f : Fault}
    (h : runClient c is w = .error f) :
    ∃ pre i post u, is = pre ++ i :: post ∧ runClient c pre w = .ok u ∧
      i.run c u = .error f := by
  induction is generalizing w with
  | nil => cases h
  | cons i is ih =>
    rcases hi : i.run c w with f' | u
    · simp only [runClient, hi] at h
      cases h
      exact ⟨[], i, is, w, rfl, rfl, hi⟩
    · simp only [runClient, hi, bind_ok_left] at h
      obtain ⟨pre, i', post, u', rfl, hpre, hi'⟩ := ih h
      exact ⟨i :: pre, i', post, u', rfl, by simp only [runClient, hi, bind_ok_left, hpre], hi'⟩

/-- An input that crashes at the state a session from `presence_init` reached is unsafe
given the inputs before it. -/
theorem Input.unsafe_of_run_error {c : Conn} {pre : List Input} {i : Input} {u : World}
    {f : Fault} (hu : runClient c pre World.init = .ok u) (h : i.run c u = .error f) :
    i.Unsafe pre := by
  have joined := fun r => rooms_isSome_of_runClient (r := r) hu
  cases i with
  | stanza s =>
    intro hs
    obtain ⟨u', hu'⟩ := handlerFireStanza_ok_of_wellFormed (c := c) hs u
    exact nomatch h.symm.trans hu'
  | subscription jid action =>
    rcases hj : jidCreate (some jid) with _ | j
    · exact hj
    · simp [Input.run, presenceSubscription, hj, deref] at h
  | freeSubRequests | joinRoom | changeRoomNick => cases h
  | update cl pt msg idle =>
    by_contra hsafe
    have hc : cl.connected := by
      by_contra hc
      simp [Input.run, presenceUpdate, hc] at h
    have hall : ∀ r ∈ cl.activeRooms, (u.rooms r).isSome := fun r hr =>
      (joined r).2 (by_contra fun hn => hsafe ⟨hc, r, hr, hn⟩)
    simp only [Input.run, presenceUpdate, hc, Bool.not_true, Bool.false_eq_true, if_false] at h
    rw [sendRoomPresence_eq] at h
    · cases h
    · simpa using hall
  | leaveChatRoom room =>
    rw [Input.Unsafe, ← joined room]
    intro hs
    obtain ⟨cr, hcr⟩ := Option.isSome_iff_exists.1 hs
    simp [Input.run, presenceLeaveChatRoom, World.mucGetRoomNick, hcr, arg] at h

/-- **Where a session can crash.** Over every session from `presence_init` that crashes,
the crash is at an input that is unsafe given the inputs before it: a stanza that is not
well-formed, an answer to a JID that does not parse, or, while connected, an update
listing a room, or a leave of a room, that the session's history does not show joined.
Every input before it returned. -/
theorem session_crash_unsafe (c : Conn) (is : List Input) (f : Fault)
    (h : runClient c is World.init = .error f) :
    ∃ pre i post u, is = pre ++ i :: post ∧ runClient c pre World.init = .ok u ∧
      i.run c u = .error f ∧ i.Unsafe pre := by
  obtain ⟨pre, i, post, u, rfl, hpre, hi⟩ := runClient_error h
  exact ⟨pre, i, post, u, rfl, hpre, hi, Input.unsafe_of_run_error hpre hi⟩

theorem session_crash_unsafe_kitchen :
    let c : Conn := ⟨⟨"me@example.com", some "laptop"⟩, []⟩
    let alice : Stanza := { fromAttr := some "lobby@conf.example/alice", mucUser := true }
    let is : List Input := [.joinRoom "lobby@conf.example" "me", .stanza alice,
      .leaveChatRoom "kitchen@conf.example", .freeSubRequests]
    runClient c is World.init = .error .argNull ∧
      ∃ pre i post u, is = pre ++ i :: post ∧ runClient c pre World.init = .ok u ∧
        i.run c u = .error .argNull ∧ i.Unsafe pre := by
  intro c alice is
  exact ⟨rfl, session_crash_unsafe c is .argNull rfl⟩

end Profanity
