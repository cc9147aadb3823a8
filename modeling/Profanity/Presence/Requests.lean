import Profanity.Presence.Frame
import Profanity.Presence.Client

/-!
# The subscription table over the whole connection

Only the three subscription handlers, `presence_subscription` and
`presence_free_sub_requests` change `sub_requests`; the handlers are registered in
`presence_add_handlers` each for its own type, so at most one of them takes a stanza. Over
every session that returns, whatever room and contact presence and whatever other calls
are interleaved, the table is what the tracker's operations make of the session's
subscription stanzas, answers and resets, in their order, and the JID of each of those
parses: what is proved of runs of the tracker holds of the program.

* `Stanza.subOp?`: the tracker operation a stanza is, by the handlers' type filters;
* `subscriptionHandlers_eq`: the three handlers, in the table's order, are that operation;
* `SubOp.run_subRequests`: an operation reads nothing of the state but the table;
* `runSubOps_keys`: the table after a run of the tracker from any state;
* `connection_subscription_table`: over every run of the connection, the table;
* `Input.subOp?`, `pending_requests_of_session`: over every session from
  `presence_init`, the pending requests are those not since answered or reset.
-/

namespace Profanity

/-- The tracker operation a presence stanza is, by the type filters of
`presence_add_handlers`. -/
def Stanza.subOp? (s : Stanza) : Option SubOp :=
  if s.isType stanzaTypeSubscribe then some (.subscribe s)
  else if s.isType stanzaTypeSubscribed then some (.subscribed s)
  else if s.isType stanzaTypeUnsubscribed then some (.unsubscribed s)
  else none

theorem runSubOps_cons_ok {op : SubOp} {ops : List SubOp} {w w' : World} :
    runSubOps (op :: ops) w = .ok w' ↔ ∃ w₁, op.run w = .ok w₁ ∧ runSubOps ops w₁ = .ok w' := by
  cases h : op.run w <;> simp [runSubOps, h]

@[simp] theorem runSubOps_nil (w : World) : runSubOps [] w = .ok w := rfl

@[simp] theorem runSubOps_singleton (op : SubOp) (w : World) : runSubOps [op] w = op.run w := by
  cases h : op.run w <;> simp [runSubOps, h]

theorem runSubOps_append (ops ops' : List SubOp) (w : World) :
    runSubOps (ops ++ ops') w = (runSubOps ops w).bind (runSubOps ops') := by
  induction ops generalizing w with
  | nil => rfl
  | cons op ops ih =>
    cases h : op.run w with
    | error => simp [runSubOps, h]; rfl
    | ok u => simpa [runSubOps, h] using ih u

theorem runSubOps_append_singleton {ops : List SubOp} {op : SubOp} {w w' : World} :
    runSubOps (ops ++ [op]) w = .ok w' ↔ ∃ u, runSubOps ops w = .ok u ∧ op.run u = .ok w' := by
  rw [runSubOps_append, bind_eq_ok]
  simp only [runSubOps_singleton]

/-- The three subscription handlers, in the table's order, are the stanza's tracker
operation: at most one of them fires. -/
theorem subscriptionHandlers_eq (s : Stanza) (w : World) (k : World → Except Fault World) :
    ((if s.isType stanzaTypeSubscribe then subscribeHandler s w else .ok w).bind fun w =>
      (if s.isType stanzaTypeSubscribed then subscribedHandler s w else .ok w).bind fun w =>
      (if s.isType stanzaTypeUnsubscribed then unsubscribedHandler s w else .ok w).bind k) =
    (runSubOps s.subOp?.toList w).bind k := by
  have ne := fun {t : String} (t' : String) (h : s.isType t) (hne : t ≠ t') =>
    Stanza.not_isType_of_isType h hne
  unfold Stanza.subOp?
  by_cases h₁ : s.isType stanzaTypeSubscribe
  · simp [h₁, ne stanzaTypeSubscribed h₁ (by decide), ne stanzaTypeUnsubscribed h₁ (by decide),
      SubOp.run]
  by_cases h₂ : s.isType stanzaTypeSubscribed
  · simp [h₁, h₂, ne stanzaTypeUnsubscribed h₂ (by decide), SubOp.run]
  by_cases h₃ : s.isType stanzaTypeUnsubscribed <;> simp [h₁, h₂, h₃, SubOp.run]

/-- An operation of the tracker reads nothing of the state but the table. -/
theorem SubOp.run_subRequests (op : SubOp) {v w : World} (h : v.SameSub w) :
    (op.run v).map World.subRequests = (op.run w).map World.subRequests := by
  simp only [World.SameSub] at h
  cases op
  case freeSubRequests => rfl
  case subscription jid action =>
    cases hj : jidCreate (some jid) <;> simp [SubOp.run, presenceSubscription, deref, hj, h,
      Except.map]
  all_goals
    rename_i s
    cases hj : jidCreate s.fromAttr <;> simp [SubOp.run, subscribeHandler, subscribedHandler,
      unsubscribedHandler, subscriptionHandler, World.profHandleSubscription, deref, hj, h,
      Except.map]

/-- So on states with the same table an operation returns on both or on neither, with the
same table. -/
theorem SubOp.run_sameSub (op : SubOp) {v w v' : World} (h : v.SameSub w)
    (hv : op.run v = .ok v') : ∃ w', op.run w = .ok w' ∧ v'.SameSub w' := by
  have hm := op.run_subRequests h
  rw [hv] at hm
  revert hm
  rcases op.run w with f | w'
  · exact fun hm => nomatch hm
  · exact fun hm => ⟨w', rfl, Except.ok.inj hm⟩

/-- An operation that returns named a JID that parses. -/
theorem SubOp.parses_of_run {op : SubOp} {w w' : World} (h : op.run w = .ok w') :
    op.Parses := by
  cases op
  case freeSubRequests => exact .inl rfl
  case subscription jid action =>
    cases hj : jidCreate (some jid) <;> simp_all [SubOp.run, presenceSubscription, deref,
      SubOp.Parses, SubOp.barejid]
  all_goals
    rename_i s
    cases hj : jidCreate s.fromAttr <;> simp_all [SubOp.run, subscribeHandler, subscribedHandler,
      unsubscribedHandler, subscriptionHandler, deref, SubOp.Parses, SubOp.barejid, Stanza.barejid]

/-- The table after a run of the tracker from any state: the requests recorded and not
since cleared, and those of the state before that nothing in the run cleared. -/
theorem runSubOps_keys {ops : List SubOp} {w v : World} (h : runSubOps ops w = .ok v)
    (b : String) :
    b ∈ v.subRequests.keys ↔ Since (SubOp.Records b) (SubOp.Clears b) ops ∨
      (b ∈ w.subRequests.keys ∧ ∀ op ∈ ops, ¬ op.Clears b) := by
  induction ops using List.reverseRecOn generalizing v with
  | nil =>
    cases h
    simp [not_since_nil]
  | append_singleton ops op ih =>
    obtain ⟨u, hu, hop⟩ := runSubOps_append_singleton.1 h
    obtain ⟨u', hu', hk⟩ := op.run_keys u (SubOp.parses_of_run hop)
    cases hop.symm.trans hu'
    rw [hk, ih hu, since_append_singleton]
    simp only [List.mem_append, List.mem_singleton, or_imp, forall_and, forall_eq,
      or_and_right, and_assoc, or_assoc]

/-- For the table, the whole dispatch of a stanza is its tracker operation between steps
that keep the table. -/
theorem handlerFireStanza_subOp {c : Conn} {s : Stanza} {v v' : World}
    (hv : handlerFireStanza c s presenceAddHandlers v = .ok v') :
    ∃ v₁ v₂, v₁.SameSub v ∧ runSubOps s.subOp?.toList v₁ = .ok v₂ ∧ v'.SameSub v₂ := by
  have notifies := fun {f} (hf : Keeps World.Notifies f) =>
    hf.mono (R := World.Notifies) (S := World.SameSub) fun _ _ h => h.sameSub
  rw [handlerFireStanza_presenceAddHandlers_eq] at hv
  obtain ⟨v₁, h₁, hv⟩ := bind_eq_ok.1 hv
  obtain ⟨v₂, h₂, hv⟩ := bind_eq_ok.1 hv
  obtain ⟨v₃, h₃, hv⟩ := bind_eq_ok.1 hv
  rw [subscriptionHandlers_eq] at hv
  obtain ⟨v₄, h₄, hv⟩ := bind_eq_ok.1 hv
  have s₁ := (Keeps.ite fun _ => notifies connectionErrorHandler_notifies) _ _ h₁
  have s₂ := (Keeps.ite fun _ => roomPresenceHandler_keepsSub) _ _ h₂
  have s₃ := (Keeps.ite fun _ => notifies unavailableHandler_notifies) _ _ h₃
  exact ⟨v₃, v₄, s₃.trans (s₂.trans s₁), h₄, notifies availableHandler_notifies _ _ hv⟩

/-- The tracker operation an input is: a subscription stanza, an answer, or the reset. -/
def Input.subOp? : Input → Option SubOp
  | .stanza s => s.subOp?
  | .subscription jid action => some (.subscription jid action)
  | .freeSubRequests => some .freeSubRequests
  | _ => none

/-- For the table, one input of a session is its tracker operation between steps that
keep the table. -/
theorem Input.run_subOp {c : Conn} {i : Input} {v v' : World} (hv : i.run c v = .ok v') :
    ∃ v₁ v₂, v₁.SameSub v ∧ runSubOps i.subOp?.toList v₁ = .ok v₂ ∧ v'.SameSub v₂ := by
  cases i with
  | stanza s => exact handlerFireStanza_subOp hv
  | subscription | freeSubRequests => exact ⟨v, v', rfl, by simpa [Input.subOp?] using hv, rfl⟩
  | update => exact ⟨v, v, rfl, rfl, (presenceUpdate_notifies _ _ hv).sameSub⟩
  | leaveChatRoom => exact ⟨v, v, rfl, rfl, (presenceLeaveChatRoom_notifies _ _ hv).sameSub⟩
  | joinRoom | changeRoomNick =>
    cases hv
    exact ⟨v, v, rfl, rfl, rfl⟩

theorem runClient_sameSub {c : Conn} {is : List Input} {v w v' : World}
    (h : v.SameSub w) (hv : runClient c is v = .ok v') :
    ∃ w', runSubOps (is.filterMap Input.subOp?) w = .ok w' ∧ v'.SameSub w' ∧
      ∀ op ∈ is.filterMap Input.subOp?, op.Parses := by
  induction is generalizing v w with
  | nil => cases hv; exact ⟨w, rfl, h, by simp⟩
  | cons i is ih =>
    obtain ⟨v₁, h₁, hv⟩ := bind_eq_ok.1 hv
    obtain ⟨u₁, u₂, s₁, hu, s₂⟩ := Input.run_subOp h₁
    cases hs : i.subOp? with
    | none =>
      simp only [hs, Option.toList, runSubOps_nil, Except.ok.injEq] at hu
      subst hu
      simpa only [List.filterMap_cons, hs] using ih (s₂.trans (s₁.trans h)) hv
    | some op =>
      have hu : op.run u₁ = .ok u₂ := by
        simpa only [hs, Option.toList, runSubOps_singleton] using hu
      obtain ⟨w₁, hw₁, hs₁⟩ := op.run_sameSub (s₁.trans h) hu
      obtain ⟨w', hw', s', hp⟩ := ih (s₂.trans hs₁) hv
      simp only [List.filterMap_cons, hs, List.mem_cons, forall_eq_or_imp]
      exact ⟨w', runSubOps_cons_ok.2 ⟨w₁, hw₁, hw'⟩, s', SubOp.parses_of_run hu, hp⟩

/-- **The subscription table over the whole connection.** Over every run of a connection
that returns, whatever room and contact presence is interleaved and in whatever order: the
tracker's operations for the connection's `subscribe`, `subscribed` and `unsubscribed`
stanzas, in their order, return with the same table, and the JID each of them names
parses. -/
theorem connection_subscription_table (c : Conn) (ss : List Stanza) (w w' : World)
    (h : runDispatch c ss w = .ok w') :
    ∃ v, runSubOps (ss.filterMap Stanza.subOp?) w = .ok v ∧ v.subRequests = w'.subRequests ∧
      ∀ op ∈ ss.filterMap Stanza.subOp?, op.Parses := by
  have hmap : (ss.map Input.stanza).filterMap Input.subOp? = ss.filterMap Stanza.subOp? := by
    rw [List.filterMap_map]
    rfl
  rw [runDispatch_eq_runClient] at h
  obtain ⟨v, hv, hs, hp⟩ := runClient_sameSub (refl_of World.SameSub w) h
  rw [hmap] at hv hp
  exact ⟨v, hv, hs.symm, hp⟩

theorem connection_subscription_table_dave :
    let c : Conn := ⟨⟨"me@example.com", some "laptop"⟩, []⟩
    let ss : List Stanza :=
      [{ type := some "subscribe", fromAttr := some "dave@example.org" },
       { fromAttr := some "lobby@conf.example/alice", mucUser := true },
       { type := some "subscribe", fromAttr := some "erin@example.org/pc" },
       { fromAttr := some "carol@example.org/phone" },
       { type := some "unsubscribed", fromAttr := some "dave@example.org/pda" }]
    let w := World.init.mucJoinRoom "lobby@conf.example" "me"
    ∃ w', runDispatch c ss w = .ok w' ∧ ∃ v, runSubOps (ss.filterMap Stanza.subOp?) w = .ok v ∧
      v.subRequests = w'.subRequests ∧ ∀ op ∈ ss.filterMap Stanza.subOp?, op.Parses := by
  intro c ss w
  exact ⟨_, rfl, connection_subscription_table c ss w _ rfl⟩

/-- **The pending requests over a session.** Over every session from `presence_init`
that returns, whatever the server sends and the client calls, in whatever order:
`presence_get_subscription_requests` lists, once each, exactly the bare JIDs `b` from which
a `subscribe` came that no later `subscribed` or `unsubscribed` from `b`, answer of the
user's on `b`, or `presence_free_sub_requests` has followed. -/
theorem pending_requests_of_session (c : Conn) (is : List Input) (w : World)
    (h : runClient c is World.init = .ok w) :
    (presenceGetSubscriptionRequests w).Nodup ∧ ∀ b, b ∈ presenceGetSubscriptionRequests w ↔
      Since (SubOp.Records b) (SubOp.Clears b) (is.filterMap Input.subOp?) := by
  obtain ⟨v, hv, hs, -⟩ := runClient_sameSub (refl_of World.SameSub World.init) h
  refine ⟨w.subRequests.nodup, fun b => ?_⟩
  rw [presenceGetSubscriptionRequests, hs, runSubOps_keys hv]
  simp only [World.init, KeyTable.empty, List.not_mem_nil, false_and, or_false]

theorem pending_requests_of_session_dave :
    let c : Conn := ⟨⟨"me@example.com", some "laptop"⟩, []⟩
    let dave : Stanza := { type := some "subscribe", fromAttr := some "dave@example.org" }
    let erin : Stanza := { type := some "subscribe", fromAttr := some "erin@example.org/pc" }
    let is : List Input := [.stanza dave, .joinRoom "lobby@conf.example" "me", .stanza erin,
      .subscription "dave@example.org" .presenceSubscribed]
    ∃ w, runClient c is World.init = .ok w ∧ (presenceGetSubscriptionRequests w).Nodup ∧
      ∀ b, b ∈ presenceGetSubscriptionRequests w ↔
        Since (SubOp.Records b) (SubOp.Clears b) (is.filterMap Input.subOp?) := by
  intro c dave erin is
  exact ⟨_, rfl, pending_requests_of_session c is _ rfl⟩

end Profanity
