import Mathlib.Algebra.Order.Field.Rat
import Mathlib.Data.Nat.Size

/-!
# PxManager.Core.Json

**JSON documents** as Python's `json.loads` returns them, and the two number types they hold.

An object keeps its members in document order. `get?` takes the last member of a key, which is
the one that `json.loads` keeps when a key is repeated.

A string of Python may have surrogates, which no text in Unicode has. The strings of documents here
have none.
-/

namespace PxManager.Core

/-- A Python `float`: a finite double, by its exact value, or one of the special values. -/
inductive PyFloat
  | finite (q : ℚ)
  | inf
  | negInf
  | nan
  deriving DecidableEq

/-- `float(n)` of an integer: the nearest double, ties to even, or `none` for `OverflowError`. -/
def floatOfInt (n : ℤ) : Option ℚ :=
  let shift := n.natAbs.size - 53
  let unit := 2 ^ shift
  let quotient := n.natAbs / unit
  let twice := 2 * (n.natAbs % unit)
  let rounded := if unit < twice ∨ (twice = unit ∧ quotient % 2 = 1) then quotient + 1 else quotient
  if rounded * unit < 2 ^ 1024 then some (n.sign * (rounded * unit : Nat)) else none

/-! ### Which integers have a float -/

/-- The quotient that `float()` rounds to, in units of the last place. -/
def roundHalfEven (m unit : Nat) : Nat :=
  if unit < 2 * (m % unit) ∨ (2 * (m % unit) = unit ∧ m / unit % 2 = 1) then m / unit + 1
  else m / unit

theorem roundHalfEven_le (m unit : Nat) : roundHalfEven m unit ≤ m / unit + 1 := by
  unfold roundHalfEven
  split <;> omega

theorem le_roundHalfEven (m unit : Nat) : m / unit ≤ roundHalfEven m unit := by
  unfold roundHalfEven
  split <;> omega

/-- An even bound is reached from half a unit below it on. -/
theorem roundHalfEven_lt_iff {m half bound : Nat} (hhalf : 0 < half) (hbound : 0 < bound) :
    roundHalfEven m (2 * half) < 2 * bound ↔ m + half < 2 * bound * (2 * half) := by
  have hdiv := Nat.div_add_mod m (2 * half)
  have hmod := Nat.mod_lt m (show 2 * half > 0 by omega)
  have hquot : m / (2 * half) < 2 * bound - 1 ∨ m / (2 * half) = 2 * bound - 1 ∨
      2 * bound ≤ m / (2 * half) := by omega
  have hcomm : 2 * bound * (2 * half) = 2 * half * (2 * bound) := Nat.mul_comm ..
  unfold roundHalfEven
  generalize m / (2 * half) = quotient at *
  generalize m % (2 * half) = rest at *
  rcases hquot with hless | rfl | hmore
  · have hmul : 2 * half * (quotient + 2) ≤ 2 * half * (2 * bound) :=
      Nat.mul_le_mul_left _ (by omega)
    rw [Nat.mul_add] at hmul
    split <;> omega
  · -- the quotient is odd, so a tie is rounded up
    have hmul : 2 * half * (2 * bound - 1) + 2 * half = 2 * half * (2 * bound) := by
      rw [← Nat.mul_succ]
      congr 1
      omega
    split <;> omega
  · have hmul : 2 * half * (2 * bound) ≤ 2 * half * quotient := Nat.mul_le_mul_left _ hmore
    split <;> omega

theorem two_pow_le {k a : Nat} (h : k ≤ a) : 2 ^ k ≤ 2 ^ a := Nat.pow_le_pow_right Nat.two_pos h

theorem two_pow_eq_mul {k a b : Nat} (h : k = a + b) : 2 ^ k = 2 ^ a * 2 ^ b := by
  rw [h, Nat.pow_add]

/-- Numbers of 54 bits and more are rounded to 53 bits. -/
theorem round_lt_iff (m k : Nat) :
    roundHalfEven m (2 ^ (k + 1)) * 2 ^ (k + 1) < 2 ^ (k + 54) ↔ m + 2 ^ k < 2 ^ (k + 54) := by
  have hunit : 2 ^ (k + 1) = 2 * 2 ^ k := Nat.pow_succ'
  have hbound : 2 ^ (k + 54) = 2 * 2 ^ 52 * 2 ^ (k + 1) := by
    rw [← Nat.pow_succ', ← Nat.pow_add]
    congr 1
    omega
  rw [hbound, Nat.mul_lt_mul_right (Nat.two_pow_pos _), hunit]
  exact roundHalfEven_lt_iff (Nat.two_pow_pos k) (Nat.two_pow_pos 52)

theorem floatOfInt_isSome (n : ℤ) :
    (floatOfInt n).isSome = true ↔
      roundHalfEven n.natAbs (2 ^ (n.natAbs.size - 53)) * 2 ^ (n.natAbs.size - 53) < 2 ^ 1024 := by
  unfold floatOfInt
  dsimp only
  rw [← roundHalfEven]
  split
  · next h => exact ⟨fun _ => h, fun _ => rfl⟩
  · next h => exact ⟨fun hnone => Bool.noConfusion hnone, fun hlt => absurd hlt h⟩

/-- `float(n)` overflows from the middle between the largest double and 2^1024 on. -/
theorem floatOfInt_isSome_iff (n : ℤ) :
    (floatOfInt n).isSome = true ↔ n.natAbs + 2 ^ 970 < 2 ^ 1024 := by
  rw [floatOfInt_isSome]
  generalize n.natAbs = m
  have hlt := Nat.lt_size_self m
  rcases Nat.lt_trichotomy m.size 1024 with hsize | hsize | hsize
  · -- below 2^1023 there is room for rounding up
    have hle : m.size ≤ 53 + 970 := by omega
    have hshift : m.size - 53 ≤ 970 := by omega
    have hm : m < 2 ^ 53 * 2 ^ 970 := (hlt.trans_le (two_pow_le hle)).trans_eq (two_pow_eq_mul rfl)
    have hunit : 2 ^ (m.size - 53) ≤ 2 ^ 970 := two_pow_le hshift
    have hround := Nat.mul_le_mul_right (2 ^ (m.size - 53)) (roundHalfEven_le m (2 ^ (m.size - 53)))
    rw [Nat.add_mul, Nat.one_mul] at hround
    have hdiv := Nat.div_mul_le_self m (2 ^ (m.size - 53))
    have hpow : 2 ^ 1024 = 2 ^ 54 * 2 ^ 970 := two_pow_eq_mul rfl
    rw [hpow]
    generalize 2 ^ 970 = half at *
    generalize 2 ^ (m.size - 53) = unit at *
    generalize roundHalfEven m unit * unit = rounded at *
    omega
  · have hround := round_lt_iff m 970
    simp only [Nat.reduceAdd] at hround
    simp only [hsize, Nat.reduceSub, hround]
  · have hm : 2 ^ (m.size - 1) ≤ m := Nat.lt_size.mp (by omega)
    have hquot : 2 ^ 52 ≤ m / 2 ^ (m.size - 53) := by
      rw [Nat.le_div_iff_mul_le (Nat.two_pow_pos _), ← Nat.pow_add]
      exact (two_pow_le (by omega)).trans hm
    have hround : 2 ^ 1024 ≤ roundHalfEven m (2 ^ (m.size - 53)) * 2 ^ (m.size - 53) := by
      calc 2 ^ 1024 ≤ 2 ^ (52 + (m.size - 53)) := two_pow_le (by omega)
        _ = 2 ^ 52 * 2 ^ (m.size - 53) := Nat.pow_add ..
        _ ≤ _ := Nat.mul_le_mul_right _ (hquot.trans (le_roundHalfEven m _))
    have hlarge : 2 ^ 1024 ≤ m := (two_pow_le (by omega)).trans hm
    generalize 2 ^ 1024 = top at *
    constructor
    · intro h
      exact absurd h (Nat.not_lt.mpr hround)
    · intro h
      exact absurd hlarge (Nat.not_le.mpr ((Nat.le_add_right ..).trans_lt h))

/-! ### Documents -/

/-- What `json.loads` returns. -/
inductive Json
  | null
  | bool (b : Bool)
  | int (n : ℤ)
  | float (x : PyFloat)
  | str (s : String)
  | arr (items : List Json)
  | obj (members : List (String × Json))

namespace Json

/-- `d.get(key)` on the dictionary that `json.loads` builds from the members. -/
def get? (members : List (String × Json)) (key : String) : Option Json :=
  (members.reverse.find? fun m => m.1 = key).map Prod.snd

theorem get?_append (members members' : List (String × Json)) (key : String) :
    get? (members ++ members') key = (get? members' key).or (get? members key) := by
  simp only [get?, List.reverse_append, List.find?_append, Option.map_or]

/-- The string that a value is, if it is one. -/
def asStr? : Json → Option String
  | .str s => some s
  | _ => none

/-- `bool(value)`. -/
def truthy : Json → Bool
  | .null => false
  | .bool b => b
  | .int n => n ≠ 0
  | .float x => x ≠ .finite 0
  | .str s => s ≠ ""
  | .arr items => !items.isEmpty
  | .obj members => !members.isEmpty

mutual

/-- The numbers of a document, also those of members that are repeated later. -/
def numbers : Json → List Json
  | .int n => [.int n]
  | .float x => [.float x]
  | .arr items => numbersOfItems items
  | .obj members => numbersOfMembers members
  | _ => []

/-- Those of the items of a list. -/
def numbersOfItems : List Json → List Json
  | [] => []
  | item :: items => item.numbers ++ numbersOfItems items

/-- Those of the members of an object. -/
def numbersOfMembers : List (String × Json) → List Json
  | [] => []
  | (_, value) :: members => value.numbers ++ numbersOfMembers members

end

end Json

/-- `sys.get_int_max_str_digits()`, as it is by default. -/
def maxStrDigits : Nat := 4300

/-- A number that `int()` refuses for its digits. -/
def Json.tooLong : Json → Bool
  | .int n => 10 ^ maxStrDigits ≤ n.natAbs
  | _ => false

theorem Json.not_tooLong_int {n : ℤ} :
    ¬ (Json.int n).tooLong = true ↔ n.natAbs < 10 ^ maxStrDigits := by
  rw [tooLong, decide_eq_true_iff, Nat.not_le]

end PxManager.Core
