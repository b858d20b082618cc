import Mathlib.Data.Rat.Floor
import PxManager.Core.Json
import PxManager.Core.Text

/-!
# PxManager.Core.Python

Python's `str`, `int` and `==` on the values of a JSON document, and `urllib.parse.quote`.

Where these need tables or algorithms that nothing here depends on, such as the digits of a float,
they are fields of `Builtins`.
-/

namespace PxManager.Core

/-- What the modelled code raises. -/
inductive PyError
  | keyError
  | typeError
  | overflowError
  /-- With its text where the program gives it one. -/
  | valueError (text : Option String)
  deriving DecidableEq, Repr

/-- Built-in functions that are not spelled out. -/
structure Builtins where
  /-- `str` of a float, a list or a dictionary. -/
  repr : Json → Text
  /-- `str.upper`. -/
  upper : Text → Text
  /-- The value of a decimal digit outside ASCII. -/
  digit : Char → Option Nat

/-- The built-in functions on ASCII texts. -/
def asciiBuiltins : Builtins where
  repr _ := []
  upper text := text.map Char.toUpper
  digit _ := none

/-! ### Integers in decimal -/

/-- `str(n)` of an integer. It raises `ValueError` if there are more digits than `maxStrDigits`,
which is left out: neither `json.loads` nor `int` returns such an integer. -/
def decimal : ℤ → Text
  | .ofNat n => Nat.toDigits 10 n
  | .negSucc n => '-' :: Nat.toDigits 10 (n + 1)

/-- The value of a decimal digit. -/
def Builtins.digitValue (py : Builtins) (c : Char) : Option Nat :=
  if c.isDigit then some (c.toNat - '0'.toNat) else if isAscii c then none else py.digit c

/-- The digits of `int(text)`, of which `value` has been read. An underscore stands between two
digits. -/
def Builtins.digits (py : Builtins) (value : Nat) : (afterDigit : Bool) → Text → Option Nat
  | true, [] => some value
  | false, [] => none
  | afterDigit, c :: text =>
      if c = '_' then if afterDigit then py.digits value false text else none
      else
        match py.digitValue c with
        | some d => py.digits (10 * value + d) true text
        | none => none

/-- `int(text)` after the sign. It refuses more digits than `maxStrDigits`. -/
def Builtins.natural (py : Builtins) (text : Text) : Option Nat :=
  if maxStrDigits < (text.filter (· ≠ '_')).length then none else py.digits 0 false text

/-- `int(text)`. `none` is `ValueError`. -/
def Builtins.parseInt (py : Builtins) (text : Text) : Option ℤ :=
  match strip text with
  | '-' :: text => (py.natural text).map fun n : Nat => -(n : ℤ)
  | '+' :: text => (py.natural text).map fun n : Nat => (n : ℤ)
  | text => (py.natural text).map fun n : Nat => (n : ℤ)

theorem isDigit_of_mem_toDigits {n : Nat} {c : Char} (h : c ∈ Nat.toDigits 10 n) :
    c.isDigit = true :=
  Nat.isDigit_of_mem_toDigits (by decide) (by decide) h

/-- The characters of a decimal number. -/
theorem isDigit_of_mem_decimal {n : ℤ} {c : Char} (h : c ∈ decimal n) :
    c.isDigit = true ∨ c = '-' := by
  cases n with
  | ofNat n => exact .inl (isDigit_of_mem_toDigits h)
  | negSucc n =>
      rcases List.mem_cons.mp h with rfl | h
      · exact .inr rfl
      · exact .inl (isDigit_of_mem_toDigits h)

theorem toDigits_injective {m n : Nat} (h : Nat.toDigits 10 m = Nat.toDigits 10 n) : m = n := by
  rw [← Nat.ofDigitChars_ten_toDigits (n := m), h, Nat.ofDigitChars_ten_toDigits]

theorem decimal_injective {m n : ℤ} (h : decimal m = decimal n) : m = n := by
  have hminus : ∀ {n : Nat} {text : Text}, Nat.toDigits 10 n ≠ '-' :: text := by
    intro n text heq
    have hdigit := isDigit_of_mem_toDigits (heq ▸ List.mem_cons_self : '-' ∈ Nat.toDigits 10 n)
    exact absurd hdigit (by decide)
  cases m with
  | ofNat m =>
      cases n with
      | ofNat n => exact congrArg Int.ofNat (toDigits_injective h)
      | negSucc n => exact absurd h hminus
  | negSucc m =>
      cases n with
      | ofNat n => exact absurd h.symm hminus
      | negSucc n =>
          have hsucc := toDigits_injective (List.cons.inj h).2
          exact congrArg Int.negSucc (Nat.succ.inj hsucc)

section Parse

variable (py : Builtins)

theorem digits_of_isDigit {text : Text} (h : ∀ c ∈ text, c.isDigit = true) (value : Nat) :
    py.digits value true text = some (Nat.ofDigitChars 10 text value) := by
  induction text generalizing value with
  | nil => rfl
  | cons c text ih =>
      obtain ⟨hc, htext⟩ := List.forall_mem_cons.mp h
      have hne : c ≠ '_' := by
        rintro rfl
        exact absurd hc (by decide)
      rw [Builtins.digits, if_neg hne, Builtins.digitValue, if_pos hc]
      exact ih htext _

theorem digits_toDigits (n : Nat) : py.digits 0 false (Nat.toDigits 10 n) = some n := by
  have hdigits := digits_of_isDigit py (fun c hc => isDigit_of_mem_toDigits (n := n) hc) 0
  rw [Nat.ofDigitChars_ten_toDigits] at hdigits
  -- the first character is a digit, so it does not matter that none comes before it
  obtain ⟨c, text, hcons⟩ := List.exists_cons_of_ne_nil (Nat.toDigits_ne_nil (n := n) (b := 10))
  have hc : c.isDigit = true := isDigit_of_mem_toDigits (n := n) (by rw [hcons]; simp)
  have hne : c ≠ '_' := by
    rintro rfl
    exact absurd hc (by decide)
  rw [hcons, Builtins.digits, if_neg hne] at hdigits ⊢
  exact hdigits

theorem isSpace_of_isDigit {c : Char} (h : c.isDigit = true) : isSpace c = false := by
  rw [Char.isDigit, Bool.and_eq_true, decide_eq_true_eq, decide_eq_true_eq] at h
  have hlow : 48 ≤ c.toNat := UInt32.le_iff_toNat_le.mp h.1
  have hhigh : c.toNat ≤ 57 := UInt32.le_iff_toNat_le.mp h.2
  simp only [isSpace, Bool.or_eq_false_iff, decide_eq_false_iff_not, Bool.decide_and,
    Bool.and_eq_false_iff]
  omega

theorem strip_eq_self {text : Text} (h : ∀ c ∈ text, isSpace c = false) : strip text = text := by
  cases text with
  | nil => rfl
  | cons c text =>
      rw [strip, List.dropWhile_cons_of_neg (by simp [h c List.mem_cons_self]), rstrip,
        List.rdropWhile_eq_self_iff]
      intro hne
      simp [h _ (List.getLast_mem hne)]

theorem natural_toDigits {n : Nat} (hshort : n < 10 ^ maxStrDigits) :
    py.natural (Nat.toDigits 10 n) = some n := by
  have hlength : (Nat.toDigits 10 n).length ≤ maxStrDigits :=
    (Nat.length_toDigits_le_iff (by decide) (by decide)).mpr hshort
  rw [Builtins.natural, if_neg (Nat.not_lt.mpr ((List.length_filter_le _ _).trans hlength)),
    digits_toDigits]

/-- `int(str(n))` is `n`. -/
theorem parseInt_decimal {n : ℤ} (hshort : n.natAbs < 10 ^ maxStrDigits) :
    py.parseInt (decimal n) = some n := by
  have hspace : ∀ c ∈ decimal n, isSpace c = false := by
    intro c hc
    rcases isDigit_of_mem_decimal hc with hdigit | rfl
    · exact isSpace_of_isDigit hdigit
    · rfl
  rw [Builtins.parseInt, strip_eq_self hspace]
  cases n with
  | ofNat n =>
      obtain ⟨c, text, hcons⟩ := List.exists_cons_of_ne_nil (Nat.toDigits_ne_nil (n := n) (b := 10))
      have hc : c.isDigit = true := isDigit_of_mem_toDigits (n := n) (by rw [hcons]; simp)
      have hdigits := natural_toDigits py (n := n) hshort
      rw [decimal]
      split
      · next htext => rw [hcons] at htext; cases htext; exact absurd hc (by decide)
      · next htext => rw [hcons] at htext; cases htext; exact absurd hc (by decide)
      · rw [hdigits]
        rfl
  | negSucc n =>
      have hdigits := natural_toDigits py hshort
      rw [Int.natAbs_negSucc] at hdigits
      simp only [decimal]
      rw [← Nat.succ_eq_add_one, hdigits]
      rfl

end Parse

/-! ### Quoting -/

/-- A hexadecimal digit in lower case. -/
def lowerHexDigit (n : Nat) : Char :=
  if n < 10 then Char.ofNat ('0'.toNat + n) else Char.ofNat ('a'.toNat + (n - 10))

/-- A hexadecimal digit in upper case. -/
def upperHexDigit (n : Nat) : Char :=
  if n < 10 then Char.ofNat ('0'.toNat + n) else Char.ofNat ('A'.toNat + (n - 10))

/-- The characters that `quote` keeps. -/
def isUnreserved (c : Char) : Bool := c.isAlphanum || c ∈ ['_', '.', '-', '~']

/-- `urllib.parse.quote(text, safe='')`. -/
def quote (text : Text) : Text :=
  (encodeUtf8 text).flatMap fun b =>
    let c := Char.ofNat b.toNat
    if isAscii c && isUnreserved c then [c]
    else ['%', upperHexDigit (b.toNat / 16), upperHexDigit (b.toNat % 16)]

/-! ### JSON values -/

/-- `str(value)`. -/
def Builtins.str (py : Builtins) : Json → Text
  | .null => "None".toList
  | .bool true => "True".toList
  | .bool false => "False".toList
  | .int n => decimal n
  | .str s => s.toList
  | value => py.repr value

/-- `int(value)`. -/
def Builtins.int (py : Builtins) : Json → Except PyError ℤ
  | .bool b => .ok (if b then 1 else 0)
  | .int n => .ok n
  | .float (.finite q) => .ok (if 0 ≤ q then ⌊q⌋ else ⌈q⌉)
  | .float .nan => .error (.valueError none)
  | .float _ => .error .overflowError
  | .str s =>
      match py.parseInt s.toList with
      | some n => .ok n
      | none => .error (.valueError none)
  | _ => .error .typeError

/-- `a or b`. -/
def Json.or (a b : Json) : Json := if a.truthy then a else b

/-- The number that a value is, if it is one. `True` is 1, and `False` is 0. -/
def Json.number? : Json → Option PyFloat
  | .bool b => some (.finite (if b then 1 else 0))
  | .int n => some (.finite n)
  | .float x => some x
  | _ => none

mutual

/-- `a == b`. `json.loads` uses one object for all NaNs of a document, and containers compare
objects by identity first, so a NaN in a document is equal to itself. -/
def Json.eq : Json → Json → Bool
  | .null, .null => true
  | .str s, .str t => s = t
  | .arr xs, .arr ys => Json.eqItems xs ys
  | .obj xs, .obj ys =>
      Json.eqMembers xs ys && ys.all fun m => (Json.get? xs m.1).isSome
  | .bool a, b => b.number? = Json.number? (.bool a)
  | .int a, b => b.number? = Json.number? (.int a)
  | .float a, b => b.number? = Json.number? (.float a)
  | _, _ => false

/-- `==` of two lists. -/
def Json.eqItems : List Json → List Json → Bool
  | [], [] => true
  | x :: xs, y :: ys => Json.eq x y && Json.eqItems xs ys
  | _, _ => false

/-- Every member that no later one replaces is equal in the second dictionary. -/
def Json.eqMembers : List (String × Json) → List (String × Json) → Bool
  | [], _ => true
  | (key, value) :: xs, ys =>
      ((xs.any fun m => m.1 = key) || (Json.get? ys key).any fun other => Json.eq value other) &&
        Json.eqMembers xs ys

end

theorem Json.truthy_of_number {a : Json} {x : PyFloat} (h : a.number? = some x) :
    a.truthy = decide (x ≠ .finite 0) := by
  cases a with
  | bool b => cases h; cases b <;> simp [truthy]
  | int n => cases h; simp [truthy]
  | float y => cases h; rfl
  | _ => cases h

theorem Json.eqItems_isEmpty {xs ys : List Json} (h : Json.eqItems xs ys = true) :
    xs.isEmpty = ys.isEmpty := by
  cases xs <;> cases ys <;> simp_all [Json.eqItems]

/-- A dictionary with members is not equal to one without. -/
theorem Json.eqMembers_nil {xs : List (String × Json)} (h : Json.eqMembers xs [] = true) :
    xs = [] := by
  induction xs with
  | nil => rfl
  | cons m xs ih =>
      simp only [Json.eqMembers, Bool.and_eq_true] at h
      obtain rfl := ih h.2
      simp [Json.get?] at h

/-- Equal values have the same truth value. -/
theorem Json.truthy_of_eq {a b : Json} (h : Json.eq a b = true) : a.truthy = b.truthy := by
  have hnumber : ∀ {a b : Json} {x : PyFloat}, a.number? = some x → b.number? = a.number? →
      a.truthy = b.truthy := by
    intro a b x ha hb
    rw [truthy_of_number ha, truthy_of_number (hb.trans ha)]
  cases a with
  | null => cases b <;> simp_all [Json.eq]
  | bool a => exact hnumber rfl (of_decide_eq_true (by cases b <;> exact h))
  | int a => exact hnumber rfl (of_decide_eq_true (by cases b <;> exact h))
  | float a => exact hnumber rfl (of_decide_eq_true (by cases b <;> exact h))
  | str s => cases b <;> simp_all [Json.eq]
  | arr xs =>
      cases b with
      | arr ys =>
          rw [Json.eq] at h
          simp only [truthy, eqItems_isEmpty h]
      | _ => simp [Json.eq] at h
  | obj xs =>
      cases b with
      | obj ys =>
          rw [Json.eq, Bool.and_eq_true] at h
          obtain ⟨hmembers, hall⟩ := h
          cases ys with
          | nil => rw [eqMembers_nil hmembers]
          | cons m ys =>
              cases xs with
              | nil => simp [Json.get?] at hall
              | cons m' xs => rfl
      | _ => simp [Json.eq] at h

end PxManager.Core
