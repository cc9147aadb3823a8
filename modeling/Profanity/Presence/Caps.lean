import Profanity.World

/-!
# `_get_caps_key`

The capability key of a presence stanza (`presence.c`, lines 455–544), and the discovery
request it sends when the cache does not hold the key. Three branches: a `sha-1`
advertisement is keyed by its capability string and asked for with id `disco`; another
hash, or none (legacy capabilities), is keyed by the sender's full JID and asked for with
id `disco_` followed by that JID. The first two return a `strdup` of the key, the legacy
branch the key itself.

* `capsQuery`: the request one branch sends;
* `getCapsKey`;
* `getCapsKey_spec`: on every stanza with a `from` attribute, except a `sha-1`
  advertisement without a capability string, the key and the request are the spec's;
* `getCapsKey_sha1_no_caps_str`: that exception is `strdup (NULL)`, which a peer reaches
  by leaving out `ver` (`caps_sha1_without_ver_faults`).
-/

namespace Profanity

/-- The discovery request of one branch of `_get_caps_key`: nothing without a capability
string `node`; otherwise nothing when `caps_contains` finds the key, and else one IQ with
id `id key` to the sender for `node`. -/
def capsQuery (cache : List String) (id : String → String) (fromAttr capsKey node : Option String) :
    Except Fault (List DiscoIq) :=
  match node with
  | none => .ok []
  | some n => do
    let key ← arg capsKey
    if key ∈ cache then return []
    else
      let dest ← arg fromAttr
      return [⟨id key, dest, n⟩]

/-- `_get_caps_key`: the key, and the discovery IQs sent. -/
def getCapsKey (cache : List String) (s : Stanza) : Except Fault (Option String × List DiscoIq) :=
  match s.caps with
  | none => .ok (none, [])
  | some caps =>
    match caps.hash with
    | some hashType =>
      -- supported hash
      if hashType = "sha-1" then do
        let iqs ← capsQuery cache (fun _ => "disco") s.fromAttr caps.capsStr caps.capsStr
        let key ← strdup caps.capsStr
        return (some key, iqs)
      -- unsupported hash
      else do
        let iqs ← capsQuery cache ("disco_" ++ ·) s.fromAttr s.fromAttr caps.capsStr
        let key ← strdup s.fromAttr
        return (some key, iqs)
    -- legacy capabilities
    | none => do
      let iqs ← capsQuery cache ("disco_" ++ ·) s.fromAttr s.fromAttr caps.capsStr
      return (s.fromAttr, iqs)

/-- The request of a branch whose key and sender are known. -/
theorem capsQuery_of_some (cache : List String) (id : String → String) (f k : String)
    (node : Option String) :
    capsQuery cache id (some f) (some k) node =
      .ok (match node with
        | none => []
        | some n => if k ∈ cache then [] else [⟨id k, f, n⟩]) := by
  cases node with
  | none => rfl
  | some n => by_cases h : k ∈ cache <;> simp [capsQuery, arg, h]

/-- A `sha-1` advertisement without a capability string reaches `strdup (NULL)`. -/
theorem getCapsKey_sha1_no_caps_str (cache : List String) (s : Stanza)
    (h : s.caps = some ⟨some "sha-1", none⟩) : getCapsKey cache s = .error .strdupNull := by
  simp [getCapsKey, h, capsQuery]
  rfl

/-- The advertisement of a peer that sends `hash='sha-1'` and no `ver`. -/
theorem caps_sha1_without_ver_faults :
    getCapsKey []
      { fromAttr := some "juliet@capulet.lit/balcony", caps := some ⟨some "sha-1", none⟩ } =
      .error .strdupNull := rfl

/-- `_get_caps_key` returns on a stanza with a sender, except on a `sha-1` advertisement
without a capability string. -/
theorem getCapsKey_ok {cache : List String} {s : Stanza} {f : String} (hf : s.fromAttr = some f)
    (hok : s.caps ≠ some ⟨some "sha-1", none⟩) : ∃ r, getCapsKey cache s = .ok r := by
  rcases hc : s.caps with _ | ⟨_ | hash, _ | n⟩
  · simp [getCapsKey, hc]
  · simp [getCapsKey, hc, hf, capsQuery]
  · simp [getCapsKey, hc, hf, capsQuery_of_some]
  · by_cases hh : hash = "sha-1"
    · subst hh; exact absurd hc hok
    · simp [getCapsKey, hc, hf, hh, capsQuery, strdup]
  · by_cases hh : hash = "sha-1" <;> simp [getCapsKey, hc, hf, hh, capsQuery_of_some, strdup]

/-- **`_get_caps_key` on a stanza with a sender.** Apart from a `sha-1` advertisement
without a capability string: no advertisement gives no key and no request; a `sha-1` one
is keyed by its capability string and asked for with id `disco`; any other is keyed by the
sender's JID and asked for with id `disco_` and that JID. A request goes out exactly when
there is a capability string and the cache does not hold the key; it is addressed to the
sender and asks for the capability string. -/
theorem getCapsKey_spec (cache : List String) (s : Stanza) (f : String)
    (hf : s.fromAttr = some f) (hok : s.caps ≠ some ⟨some "sha-1", none⟩) :
    getCapsKey cache s =
      .ok (match s.caps with
        | none => (none, [])
        | some caps =>
          if caps.hash = some "sha-1" then
            match caps.capsStr with
            | none => (none, [])
            | some n => (some n, if n ∈ cache then [] else [⟨"disco", f, n⟩])
          else
            (some f, match caps.capsStr with
              | none => []
              | some n => if f ∈ cache then [] else [⟨"disco_" ++ f, f, n⟩])) := by
  rcases hc : s.caps with _ | ⟨_ | hash, _ | n⟩
  · simp [getCapsKey, hc]
  · simp [getCapsKey, hc, hf, capsQuery]
  · simp only [getCapsKey, hc, hf, capsQuery_of_some]; rfl
  · by_cases hh : hash = "sha-1"
    · subst hh; exact absurd hc hok
    · simp [getCapsKey, hc, hf, hh, capsQuery]; rfl
  · by_cases hh : hash = "sha-1"
    · subst hh; simp [getCapsKey, hc, hf, capsQuery_of_some]; rfl
    · simp [getCapsKey, hc, hf, hh, capsQuery_of_some]; rfl

theorem getCapsKey_spec_legacy :
    ({ fromAttr := some "juliet@capulet.lit/balcony", caps := some ⟨none, some "v1"⟩ } :
      Stanza).caps ≠ some ⟨some "sha-1", none⟩ ∧
    getCapsKey []
        { fromAttr := some "juliet@capulet.lit/balcony", caps := some ⟨none, some "v1"⟩ } =
      .ok (some "juliet@capulet.lit/balcony",
        [⟨"disco_juliet@capulet.lit/balcony", "juliet@capulet.lit/balcony", "v1"⟩]) :=
  ⟨by decide, getCapsKey_spec []
    { fromAttr := some "juliet@capulet.lit/balcony", caps := some ⟨none, some "v1"⟩ }
    "juliet@capulet.lit/balcony" rfl (by decide)⟩

end Profanity
