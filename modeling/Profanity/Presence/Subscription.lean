import Profanity.Muc
import Mathlib.Data.List.Basic

/-!
# The subscription tracker

Pending inbound subscription requests, kept in the hash table `sub_requests` keyed by bare
JID (`presence.c`, lines 83–136 and 275–322). An inbound `subscribe` enters the sender's
bare JID; `subscribed` and `unsubscribed` from it, and the user's answer
`presence_subscription` on a JID with that bare part, take it out; and
`presence_free_sub_requests` empties the table.

* `subscriptionHandler`, the three inbound handlers, `presenceSubscription`,
  `presenceGetSubscriptionRequests`, `presenceFreeSubRequests`;
* `SubOp`, `runSubOps`: any sequence of these operations;
* `Since`: some element of a list has a property and none after it has another;
* `subscription_requests_exact`: after any sequence, the table lists, once each, exactly
  the bare JIDs with a `subscribe` that nothing has settled since.
-/

namespace Profanity

/-- `_unsubscribed_handler`, `_subscribed_handler`, `_subscribe_handler`: tell the user,
then `update` the table at the sender's bare JID. -/
def subscriptionHandler (action : JabberSubscr) (update : KeyTable → String → KeyTable)
    (s : Stanza) (w : World) : Except Fault World := do
  let fromJid ← deref (jidCreate s.fromAttr)
  let w := w.profHandleSubscription fromJid.barejid action
  return { w with subRequests := update w.subRequests fromJid.barejid }

/-- `_unsubscribed_handler`. -/
def unsubscribedHandler : Stanza → World → Except Fault World :=
  subscriptionHandler .presenceUnsubscribed KeyTable.remove

/-- `_subscribed_handler`. -/
def subscribedHandler : Stanza → World → Except Fault World :=
  subscriptionHandler .presenceSubscribed KeyTable.remove

/-- `_subscribe_handler`. -/
def subscribeHandler : Stanza → World → Except Fault World :=
  subscriptionHandler .presenceSubscribe KeyTable.insert

/-- The type of the presence `presence_subscription` sends for an action. -/
def subscriptionType : JabberSubscr → String
  | .presenceSubscribe => stanzaTypeSubscribe
  | .presenceSubscribed => stanzaTypeSubscribed
  | .presenceUnsubscribed => stanzaTypeUnsubscribed

/-- `presence_subscription`: drop the request of the JID's bare part and send the action
to it. -/
def presenceSubscription (jid : String) (action : JabberSubscr) (w : World) :
    Except Fault World := do
  let jidp ← deref (jidCreate (some jid))
  let w := { w with subRequests := w.subRequests.remove jidp.barejid }
  return w.emit (.presence (some (subscriptionType action)) jidp.barejid)

/-- `presence_get_subscription_requests`. -/
def presenceGetSubscriptionRequests (w : World) : List String := w.subRequests.keys

/-- `presence_free_sub_requests`. -/
def presenceFreeSubRequests (w : World) : World := { w with subRequests := KeyTable.empty }

/-! ### Runs of the tracker -/

/-- An operation on the tracker: an inbound stanza, a user's answer, or the reset. -/
inductive SubOp
  | subscribe (s : Stanza)
  | subscribed (s : Stanza)
  | unsubscribed (s : Stanza)
  | subscription (jid : String) (action : JabberSubscr)
  | freeSubRequests
  deriving DecidableEq

/-- Perform an operation. -/
def SubOp.run : SubOp → World → Except Fault World
  | .subscribe s => subscribeHandler s
  | .subscribed s => subscribedHandler s
  | .unsubscribed s => unsubscribedHandler s
  | .subscription jid action => presenceSubscription jid action
  | .freeSubRequests => fun w => .ok (presenceFreeSubRequests w)

/-- Perform operations in order. -/
def runSubOps (ops : List SubOp) (w : World) : Except Fault World :=
  ops.foldlM (fun w op => op.run w) w

/-- The bare JID an operation names. -/
def SubOp.barejid : SubOp → Option String
  | .subscribe s | .subscribed s | .unsubscribed s => s.barejid
  | .subscription jid _ => (jidCreate (some jid)).map Jid.barejid
  | .freeSubRequests => none

/-- The JID an operation names parses. -/
def SubOp.Parses (op : SubOp) : Prop := op = .freeSubRequests ∨ op.barejid.isSome

instance (op : SubOp) : Decidable op.Parses := inferInstanceAs (Decidable (_ ∨ _))

/-- `op` is a request from bare JID `b`. -/
def SubOp.Records (b : String) : SubOp → Prop
  | .subscribe s => s.barejid = some b
  | _ => False

/-- `op` settles or drops a request from `b`. -/
def SubOp.Clears (b : String) : SubOp → Prop
  | .subscribe _ => False
  | .freeSubRequests => True
  | op => op.barejid = some b

/-- Some element of `l` satisfies `p`, and none after it satisfies `q`. -/
def Since {α : Type} (p q : α → Prop) (l : List α) : Prop :=
  ∃ pre x post, l = pre ++ x :: post ∧ p x ∧ ∀ y ∈ post, ¬ q y

section Since

variable {α : Type} {p q : α → Prop}

theorem not_since_nil : ¬ Since p q [] := by
  rintro ⟨pre, x, post, h, -⟩
  simp at h

theorem since_append_singleton {l : List α} {y : α} :
    Since p q (l ++ [y]) ↔ p y ∨ (Since p q l ∧ ¬ q y) := by
  constructor
  · rintro ⟨pre, x, post, h, hx, hpost⟩
    rcases List.eq_nil_or_concat post with rfl | ⟨post, z, rfl⟩
    · obtain ⟨-, hxy⟩ := List.append_inj' h rfl
      simp only [List.cons.injEq, and_true] at hxy
      exact .inl (hxy ▸ hx)
    · rw [List.concat_eq_append, ← List.cons_append, ← List.append_assoc] at h
      obtain ⟨rfl, hyz⟩ := List.append_inj' h rfl
      simp only [List.cons.injEq, and_true] at hyz
      exact .inr ⟨⟨pre, x, post, rfl, hx, fun w hw => hpost w (by simp [hw])⟩,
        hyz ▸ hpost z (by simp)⟩
  · rintro (hy | ⟨⟨pre, x, post, rfl, hx, hpost⟩, hy⟩)
    · exact ⟨l, y, [], rfl, hy, by simp⟩
    · refine ⟨pre, x, post ++ [y], by simp, hx, fun w hw => ?_⟩
      rcases List.mem_append.1 hw with hw | hw
      · exact hpost w hw
      · exact (List.mem_singleton.1 hw) ▸ hy

end Since

/-- One operation on the table: a request enters, a settled one leaves, the rest stay. -/
theorem SubOp.run_keys (op : SubOp) (w : World) (h : op.Parses) :
    ∃ w', op.run w = .ok w' ∧
      ∀ b, b ∈ w'.subRequests.keys ↔ op.Records b ∨ (b ∈ w.subRequests.keys ∧ ¬ op.Clears b) := by
  cases op
  case freeSubRequests =>
    exact ⟨_, rfl, fun b => by simp [SubOp.Records, SubOp.Clears, presenceFreeSubRequests]⟩
  case subscription jid action =>
    obtain ⟨j, hj⟩ : ∃ j, jidCreate (some jid) = some j := Option.isSome_iff_exists.1
      (by simpa [SubOp.barejid] using h.resolve_left (by simp))
    refine ⟨_, by simp [SubOp.run, presenceSubscription, deref, hj]; rfl, fun b => ?_⟩
    simp [SubOp.Records, SubOp.Clears, SubOp.barejid, hj, @eq_comm _ j.barejid, and_comm]
  all_goals
    rename_i s
    obtain ⟨j, hj⟩ : ∃ j, jidCreate s.fromAttr = some j := Option.isSome_iff_exists.1
      (by simpa [SubOp.Parses, SubOp.barejid, Stanza.barejid] using h)
    refine ⟨_, by simp [SubOp.run, subscribeHandler, subscribedHandler, unsubscribedHandler,
      subscriptionHandler, deref, hj]; rfl, fun b => ?_⟩
    simp [SubOp.Records, SubOp.Clears, SubOp.barejid, Stanza.barejid, hj,
      World.profHandleSubscription, @eq_comm _ j.barejid, and_comm]

/-- **The pending requests.** After any sequence of tracker operations from
`presence_init` whose JIDs parse, `presence_get_subscription_requests` lists, with no
duplicates, exactly the bare JIDs `b` with an inbound `subscribe` from `b` that no later
`subscribed` or `unsubscribed` from `b`, answer on `b`, or reset has followed. -/
theorem subscription_requests_exact (ops : List SubOp) (h : ∀ op ∈ ops, op.Parses) :
    ∃ w, runSubOps ops World.init = .ok w ∧ (presenceGetSubscriptionRequests w).Nodup ∧
      ∀ b, b ∈ presenceGetSubscriptionRequests w ↔
        Since (SubOp.Records b) (SubOp.Clears b) ops := by
  induction ops using List.reverseRecOn with
  | nil => exact ⟨World.init, rfl, List.nodup_nil, fun b => by simp [not_since_nil,
      presenceGetSubscriptionRequests, World.init]⟩
  | append_singleton ops op ih =>
    obtain ⟨w, hw, -, hmem⟩ := ih fun o ho => h o (List.mem_append_left _ ho)
    obtain ⟨w', hw', hstep⟩ := op.run_keys w (h op (by simp))
    refine ⟨w', by simp [runSubOps, List.foldlM_append] at hw ⊢; simp [hw, hw'],
      w'.subRequests.nodup, fun b => ?_⟩
    rw [since_append_singleton, ← hmem]
    exact hstep b

/-- Two requests from one bare JID and one from another, which the user answers: the first
bare JID stays listed, once. -/
theorem subscription_requests_exact_dave :
    let ops : List SubOp :=
      [.subscribe { type := some "subscribe", fromAttr := some "dave@example.com/pda" },
        .subscribe { type := some "subscribe", fromAttr := some "erin@example.com" },
        .subscribe { type := some "subscribe", fromAttr := some "dave@example.com" },
        .subscription "erin@example.com" .presenceSubscribed]
    (∀ op ∈ ops, op.Parses) ∧ ∃ w, runSubOps ops World.init = .ok w ∧
      presenceGetSubscriptionRequests w = ["dave@example.com"] ∧
      (presenceGetSubscriptionRequests w).Nodup ∧
      ∀ b, b ∈ presenceGetSubscriptionRequests w ↔ Since (SubOp.Records b) (SubOp.Clears b) ops := by
  intro ops
  obtain ⟨w, hw, hnd, hmem⟩ := subscription_requests_exact ops (by decide)
  obtain rfl : w = _ := Except.ok.inj (hw.symm.trans rfl)
  exact ⟨by decide, _, hw, rfl, hnd, hmem⟩

end Profanity
