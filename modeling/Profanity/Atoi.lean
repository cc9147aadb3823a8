import Mathlib.Data.List.Basic
import Mathlib.Tactic.Linarith

/-!
# `atoi`

`_available_handler` reads a contact's priority with `atoi`. glibc defines
`atoi (s)` as `(int) strtol (s, NULL, 10)`: leading whitespace (`isspace` in the C
locale) is skipped, one sign is read, then decimal digits up to the first character that
is not one; the value saturates at the bounds of a 64-bit `long`, and the conversion to
`int` reduces it modulo `2 ^ 32` (GCC's implementation-defined conversion).

* `atoi`, with `strtol` and `toCInt`;
* `IsNumeral`, `StartsWithNumeral`: a text that is an optionally signed numeral with
  whitespace around it, and a text that starts with one after whitespace;
* `atoi_of_startsWithNumeral`: a text that starts, after whitespace and a sign, with
  digits is read as their value, saturated to a `long` and reduced into `int`, whatever
  follows them; `toCInt_saturateLong` says that this is the value when it fits in `int`;
* `atoi_of_not_startsWithNumeral`: any other text is read as `0`.
-/

namespace Profanity

/-- `isspace` in the C locale: space, and the controls `\t \n \v \f \r` (9 to 13). -/
def isSpace (c : Char) : Bool := c = ' ' || (9 ≤ c.toNat && c.toNat ≤ 13)

/-- The digits that start `cs`, read onto `acc`; reading stops at the first non-digit. -/
def digitsValue (acc : Nat) : List Char → Nat
  | [] => acc
  | c :: cs => if c.isDigit then digitsValue (10 * acc + (c.toNat - '0'.toNat)) cs else acc

/-- glibc's `strtol (s, NULL, 10)` on a 64-bit `long`. -/
def strtol (cs : List Char) : Int :=
  match cs.dropWhile isSpace with
  | [] => 0
  | c :: ds =>
    if c = '-' then max (-(digitsValue 0 ds : Int)) (-2 ^ 63)
    else if c = '+' then min (digitsValue 0 ds : Int) (2 ^ 63 - 1)
    else min (digitsValue 0 (c :: ds) : Int) (2 ^ 63 - 1)

/-- The conversion of a `long` to `int`: reduction modulo `2 ^ 32` into `[-2 ^ 31, 2 ^ 31)`. -/
def toCInt (v : Int) : Int := (v + 2 ^ 31) % 2 ^ 32 - 2 ^ 31

/-- The value `strtol` returns for a numeral of value `v`: `v` saturated at the bounds of a
64-bit `long`. -/
def saturateLong (v : Int) : Int := max (min v (2 ^ 63 - 1)) (-2 ^ 63)

/-- `atoi`: `(int) strtol (s, NULL, 10)`. -/
def atoi (s : String) : Int := toCInt (strtol s.toList)

example : atoi "  -42 " = -42 := by decide
example : atoi "abc" = 0 := by decide
example : atoi "3000000000" = -1294967296 := by decide

/-- The value of digits `ds` after an optional sign. -/
def signedValue (sign ds : List Char) : Int :=
  if sign = ['-'] then -(digitsValue 0 ds : Int) else digitsValue 0 ds

/-- `t` is an optionally signed decimal numeral, with optional whitespace around it, of
value `v`. -/
def IsNumeral (t : String) (v : Int) : Prop :=
  ∃ ws₁ sign ds ws₂, t = String.mk (ws₁ ++ sign ++ ds ++ ws₂) ∧
    (∀ c ∈ ws₁ ++ ws₂, isSpace c = true) ∧ (sign = [] ∨ sign = ['+'] ∨ sign = ['-']) ∧
    ds ≠ [] ∧ (∀ c ∈ ds, c.isDigit = true) ∧ v = signedValue sign ds

/-- `t` is, after whitespace, an optionally signed run of decimal digits of value `v`,
followed by text that does not begin with a digit. -/
def StartsWithNumeral (t : String) (v : Int) : Prop :=
  ∃ ws sign ds rest, t = String.mk (ws ++ sign ++ ds ++ rest) ∧ (∀ c ∈ ws, isSpace c = true) ∧
    (sign = [] ∨ sign = ['+'] ∨ sign = ['-']) ∧ ds ≠ [] ∧ (∀ c ∈ ds, c.isDigit = true) ∧
    (∀ c ∈ rest.head?, c.isDigit = false) ∧ v = signedValue sign ds

theorem isSpace_of_isDigit {c : Char} (h : c.isDigit = true) : isSpace c = false := by
  simp only [Char.isDigit, Bool.and_eq_true, decide_eq_true_eq] at h
  have h1 : 48 ≤ c.toNat := h.1
  have h2 : c.toNat ≤ 57 := h.2
  have hc : c ≠ ' ' := by rintro rfl; simp at h1
  simp only [isSpace, hc, decide_False, Bool.false_or, Bool.and_eq_false_iff,
    decide_eq_false_iff_not]
  omega

theorem dropWhile_isSpace {ws l : List Char} (hws : ∀ c ∈ ws, isSpace c = true)
    (hl : ∀ x ∈ l.head?, isSpace x = false) : (ws ++ l).dropWhile isSpace = l := by
  induction ws with
  | nil => cases l <;> simp_all [List.dropWhile]
  | cons c ws ih =>
    simp only [List.mem_cons, forall_eq_or_imp] at hws
    simp [List.dropWhile, hws.1, ih hws.2]

theorem digitsValue_append (acc : Nat) {ds : List Char} (rest : List Char)
    (h : ∀ c ∈ ds, c.isDigit = true) :
    digitsValue acc (ds ++ rest) = digitsValue (digitsValue acc ds) rest := by
  induction ds generalizing acc with
  | nil => rfl
  | cons c ds ih =>
    simp only [List.mem_cons, forall_eq_or_imp] at h
    simp [digitsValue, h.1, ih _ h.2]

theorem digitsValue_stop (acc : Nat) {rest : List Char} (h : ∀ c ∈ rest.head?, c.isDigit = false) :
    digitsValue acc rest = acc := by
  cases rest with
  | nil => rfl
  | cons c rest => simp_all [digitsValue]

theorem toCInt_of_mem {v : Int} (hlo : -2 ^ 31 ≤ v) (hhi : v < 2 ^ 31) : toCInt v = v := by
  unfold toCInt
  rw [Int.emod_eq_of_lt (by omega) (by omega)]
  omega

/-- After whitespace, an optional sign and digits, `atoi` reads exactly those digits,
whatever follows them (`"12abc"` is read as `12`), saturated to a `long` and reduced into
`int`. -/
theorem atoi_signed_digits {ws sign ds rest : List Char} {v : Int}
    (hws : ∀ c ∈ ws, isSpace c = true) (hsign : sign = [] ∨ sign = ['+'] ∨ sign = ['-'])
    (hds : ds ≠ []) (hdig : ∀ c ∈ ds, c.isDigit = true)
    (hrest : ∀ c ∈ rest.head?, c.isDigit = false) (hv : v = signedValue sign ds) :
    atoi (String.mk (ws ++ sign ++ ds ++ rest)) = toCInt (saturateLong v) := by
  have hval : digitsValue 0 (ds ++ rest) = digitsValue 0 ds := by
    rw [digitsValue_append 0 rest hdig, digitsValue_stop _ hrest]
  obtain ⟨d, ds', rfl⟩ := List.exists_cons_of_ne_nil hds
  have hd : d.isDigit = true := hdig d (List.mem_cons_self _ _)
  have hminus : d ≠ '-' := by rintro rfl; exact absurd hd (by decide)
  have hplus : d ≠ '+' := by rintro rfl; exact absurd hd (by decide)
  have hsp : ∀ x ∈ (sign ++ d :: ds' ++ rest).head?, isSpace x = false := by
    rcases hsign with rfl | rfl | rfl <;> simp [isSpace_of_isDigit hd] <;> decide
  show toCInt (strtol (ws ++ sign ++ d :: ds' ++ rest)) = _
  rw [show ws ++ sign ++ d :: ds' ++ rest = ws ++ (sign ++ d :: ds' ++ rest) by simp, strtol,
    dropWhile_isSpace hws hsp]
  simp only [List.cons_append] at hval
  congr 1
  rcases hsign with rfl | rfl | rfl <;>
    simp only [signedValue, saturateLong, List.nil_append, List.singleton_append,
      List.cons_append, hval, hminus, hplus, if_false, if_true, List.cons.injEq,
      reduceCtorEq, and_true, Char.reduceEq] at hv ⊢ <;>
    omega

theorem atoi_of_startsWithNumeral {t : String} {v : Int} (h : StartsWithNumeral t v) :
    atoi t = toCInt (saturateLong v) := by
  obtain ⟨ws, sign, ds, rest, rfl, hws, hsign, hds, hdig, hrest, hv⟩ := h
  exact atoi_signed_digits hws hsign hds hdig hrest hv

/-- A value that fits in `int` is kept by the saturation and the reduction. -/
theorem toCInt_saturateLong {v : Int} (hlo : -2 ^ 31 ≤ v) (hhi : v < 2 ^ 31) :
    toCInt (saturateLong v) = v := by
  rw [saturateLong, max_eq_left (by omega), min_eq_left (by omega), toCInt_of_mem hlo hhi]

/-- A digit after whitespace and a sign starts a numeral: the run of digits from there. -/
theorem startsWithNumeral_takeWhile {ws sign ds : List Char} {d : Char}
    (hws : ∀ c ∈ ws, isSpace c = true) (hsign : sign = [] ∨ sign = ['+'] ∨ sign = ['-'])
    (hd : d.isDigit = true) :
    StartsWithNumeral (String.mk (ws ++ sign ++ d :: ds))
      (signedValue sign ((d :: ds).takeWhile Char.isDigit)) := by
  refine ⟨ws, sign, _, (d :: ds).dropWhile Char.isDigit,
    by rw [List.append_assoc (ws ++ sign), List.takeWhile_append_dropWhile], hws, hsign,
    by simp [List.takeWhile_cons, hd], fun c hc => List.mem_takeWhile_imp hc, fun c hc => ?_,
    rfl⟩
  have := List.head?_dropWhile_not Char.isDigit (d :: ds)
  rwa [Option.mem_def.1 hc] at this

/-- A text that does not start with a numeral, after whitespace and an optional sign, is
read as `0`: `"abc12"`, `"+-5"` and `"x 7"` as much as a text without a digit. -/
theorem atoi_of_not_startsWithNumeral {t : String} (h : ∀ v, ¬ StartsWithNumeral t v) :
    atoi t = 0 := by
  obtain ⟨l⟩ := t
  -- the digits `strtol` reads after the sign: none, or they would start a numeral
  have hnone : ∀ sign ds, (sign = [] ∨ sign = ['+'] ∨ sign = ['-']) →
      sign ++ ds = l.dropWhile isSpace → digitsValue 0 ds = 0 := by
    intro sign ds hsign hds
    cases ds with
    | nil => rfl
    | cons d ds =>
      cases hd : d.isDigit
      · exact digitsValue_stop 0 (by simpa using hd)
      · have hl : String.mk (l.takeWhile isSpace ++ sign ++ d :: ds) = String.mk l := by
          rw [List.append_assoc, hds, List.takeWhile_append_dropWhile]
        exact absurd (hl ▸ startsWithNumeral_takeWhile (fun c hc => List.mem_takeWhile_imp hc)
          hsign hd) (h _)
  unfold atoi strtol
  split
  · rfl
  · rename_i c ds hcd
    split_ifs with hm hp
    · rw [hnone ['-'] ds (by simp) (by subst hm; exact hcd.symm)]; rfl
    · rw [hnone ['+'] ds (by simp) (by subst hp; exact hcd.symm)]; rfl
    · rw [hnone [] (c :: ds) (by simp) hcd.symm]; rfl

/-- The last character of a numeral with whitespace around it is a digit or a space. -/
theorem IsNumeral.getLast? {t : String} {v : Int} (h : IsNumeral t v) {c : Char}
    (hc : t.toList.getLast? = some c) : isSpace c = true ∨ c.isDigit = true := by
  obtain ⟨ws₁, sign, ds, ws₂, rfl, hws, -, hds, hdig, -⟩ := h
  rcases List.eq_nil_or_concat ws₂ with rfl | ⟨ws₂, x, rfl⟩
  · obtain ⟨ds, y, rfl⟩ := (List.eq_nil_or_concat ds).resolve_left hds
    simp only [String.toList, List.concat_eq_append, List.append_nil, List.getLast?_append,
      List.getLast?_singleton, Option.or_some, Option.some.injEq] at hc
    exact .inr (hdig c (by simp [hc]))
  · simp only [String.toList, List.concat_eq_append, List.getLast?_append,
      List.getLast?_singleton, Option.or_some, Option.some.injEq] at hc
    exact .inl (hws c (by simp [hc]))

end Profanity
