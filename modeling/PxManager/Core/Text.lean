import Mathlib.Data.List.DropRight
import Mathlib.Data.Option.Basic
import Mathlib.Tactic.Cases

/-!
# PxManager.Core.Text

The parts of Python's `str` and `urllib.parse` that the web handlers use: UTF-8, percent-decoding
and `strip`.

A text is a list of Unicode scalar values. Lone surrogates have no place in it: a request reaches
the handlers through a strict UTF-8 decoder or through latin-1, and neither makes them. An API key
is a list of code points, because an escape in the JSON document that it comes from may make them.

`unquote` decodes every maximal ASCII run on its own and keeps the other characters, so a decoded
byte never merges with a character next to the run. Two facts carry what is proved with it: a
decoding that changes a text makes it shorter, and a character that can take no part in an escape
stays where it is.
-/

namespace PxManager.Core

/-- A Python `str`. -/
abbrev Text := List Char

/-- A code point of a Python `str`, which may be a lone surrogate. -/
abbrev CodePoint := Fin 0x110000

/-- The text that code points are. For a lone surrogate there is none, and `str.encode("utf-8")`
raises `UnicodeEncodeError`. -/
def scalars? (s : List CodePoint) : Option Text :=
  s.mapM fun c => if 0xd800 ≤ c.val ∧ c.val ≤ 0xdfff then none else some (Char.ofNat c.val)

/-- A test of some character of a text goes over the text, and not over all characters. -/
instance {p : Char → Prop} [DecidablePred p] (s : Text) : Decidable (∃ c ∈ s, p c) :=
  List.decidableBEx p s

instance {p : Char → Prop} [DecidablePred p] (s : Text) : Decidable (∀ c ∈ s, p c) :=
  List.decidableBAll p s

instance : LawfulBEq Text := inferInstance

/-- `char.isascii()`. -/
def isAscii (c : Char) : Bool := c.toNat < 0x80

/-- `char.isspace()`, the characters that `str.strip` removes. -/
def isSpace (c : Char) : Bool :=
  let n := c.toNat
  (0x09 ≤ n ∧ n ≤ 0x0d) || (0x1c ≤ n ∧ n ≤ 0x20) || n = 0x85 || n = 0xa0 || n = 0x1680 ||
    (0x2000 ≤ n ∧ n ≤ 0x200a) || n = 0x2028 || n = 0x2029 || n = 0x202f || n = 0x205f || n = 0x3000

/-- `str.rstrip()`. -/
def rstrip (s : Text) : Text := s.rdropWhile isSpace

/-- `str.strip()`. -/
def strip (s : Text) : Text := rstrip (s.dropWhile isSpace)

/-- A text that has been stripped does not begin with a space. -/
theorem isSpace_of_strip_eq_cons {s t : Text} {c : Char} (h : strip s = c :: t) :
    isSpace c = false := by
  have hprefix : c :: t <+: s.dropWhile isSpace := h ▸ List.rdropWhile_prefix isSpace _
  obtain ⟨rest, hrest⟩ := hprefix
  have hhead := List.head?_dropWhile_not isSpace s
  rw [← hrest] at hhead
  exact hhead

theorem strip_strip (s : Text) : strip (strip s) = strip s := by
  have hdrop : (strip s).dropWhile isSpace = strip s := by
    cases h : strip s with
    | nil => rfl
    | cons c t =>
        exact List.dropWhile_cons_of_neg (by simp [isSpace_of_strip_eq_cons h])
  rw [strip, hdrop]
  exact List.rdropWhile_idempotent isSpace _

/-! ### Separators -/

/-- A text is cut at the first separator in one way only. -/
theorem append_cons_inj {c : Char} {s s' t t' : Text} (hs : c ∉ s) (hs' : c ∉ s')
    (h : s ++ c :: t = s' ++ c :: t') : s = s' ∧ t = t' := by
  induction s generalizing s' with
  | nil =>
      cases s' with
      | nil => exact ⟨rfl, (List.cons.inj h).2⟩
      | cons a s' => exact absurd ((List.cons.inj h).1 ▸ List.mem_cons_self) hs'
  | cons a s ih =>
      cases s' with
      | nil => exact absurd ((List.cons.inj h).1 ▸ List.mem_cons_self) hs
      | cons b s' =>
          obtain ⟨hhead, htail⟩ := List.cons.inj h
          rw [List.mem_cons, not_or] at hs hs'
          obtain ⟨hfront, hback⟩ := ih hs.2 hs'.2 htail
          exact ⟨congrArg₂ List.cons hhead hfront, hback⟩

/-- A text is cut at the last separator in one way only. -/
theorem append_cons_inj_last {c : Char} {s s' t t' : Text} (ht : c ∉ t) (ht' : c ∉ t')
    (h : s ++ c :: t = s' ++ c :: t') : s = s' ∧ t = t' := by
  have hreverse := congrArg List.reverse h
  simp only [List.reverse_append, List.reverse_cons, List.append_assoc, List.singleton_append]
    at hreverse
  obtain ⟨hback, hfront⟩ := append_cons_inj (by simpa using ht) (by simpa using ht') hreverse
  exact ⟨List.reverse_injective hfront, List.reverse_injective hback⟩

/-! ### UTF-8 -/

/-- `str.encode("utf-8")`. -/
def encodeUtf8 (s : Text) : List UInt8 := s.flatMap String.utf8EncodeChar

/-- `bytes.decode("utf-8", "strict")`. `none` is `UnicodeDecodeError`. -/
def decodeUtf8 (b : List UInt8) : Option Text := b.toByteArray.utf8Decode?.map Array.toList

theorem encodeUtf8_append (s t : Text) : encodeUtf8 (s ++ t) = encodeUtf8 s ++ encodeUtf8 t :=
  List.flatMap_append

/-- Decoding inverts encoding, and decodes nothing else. -/
theorem decodeUtf8_eq_some_iff {b : List UInt8} {s : Text} :
    decodeUtf8 b = some s ↔ b = encodeUtf8 s := by
  constructor
  · intro h
    obtain ⟨a, ha, rfl⟩ := Option.map_eq_some_iff.mp h
    have hget : (b.toByteArray.utf8Decode?.get (by rw [ha]; rfl)).toList.utf8Encode =
        b.toByteArray := ByteArray.utf8Encode_get_utf8Decode?
    simp only [ha, Option.get_some, List.utf8Encode] at hget
    have hdata := congrArg (fun x => x.data.toList) hget
    simpa [encodeUtf8] using hdata.symm
  · intro h
    have henc : b.toByteArray = s.utf8Encode := by rw [h]; rfl
    simp [decodeUtf8, henc]

theorem decodeUtf8_encodeUtf8 (s : Text) : decodeUtf8 (encodeUtf8 s) = some s :=
  decodeUtf8_eq_some_iff.mpr rfl

theorem length_le_length_encodeUtf8 (s : Text) : s.length ≤ (encodeUtf8 s).length := by
  induction s with
  | nil => exact Nat.le_refl 0
  | cons c s ih =>
      have hpos : 0 < (String.utf8EncodeChar c).length :=
        List.length_pos_iff.mpr String.utf8EncodeChar_ne_nil
      simp only [encodeUtf8, List.flatMap_cons, List.length_append, List.length_cons] at ih ⊢
      omega

theorem length_encodeUtf8_of_ascii {s : Text} (h : ∀ c ∈ s, isAscii c = true) :
    (encodeUtf8 s).length = s.length := by
  induction s with
  | nil => rfl
  | cons c s ih =>
      obtain ⟨hc, hs⟩ := List.forall_mem_cons.mp h
      have hc' : c.toNat < 0x80 := of_decide_eq_true hc
      have hone : (String.utf8EncodeChar c).length = 1 := by
        rw [String.length_utf8EncodeChar, Char.utf8Size_eq_one_iff, UInt32.le_iff_toNat_le]
        exact Nat.le_of_lt_succ hc'
      have := ih hs
      simp only [encodeUtf8, List.flatMap_cons, List.length_append, List.length_cons] at this ⊢
      omega

/-- An ASCII text is encoded character by character. -/
theorem encodeUtf8_of_ascii {s : Text} (h : ∀ c ∈ s, isAscii c = true) :
    encodeUtf8 s = s.map fun c => UInt8.ofNat c.toNat := by
  induction s with
  | nil => rfl
  | cons c s ih =>
      obtain ⟨hc, hs⟩ := List.forall_mem_cons.mp h
      have hle : c.val.toNat ≤ 0x7f := Nat.le_of_lt_succ (of_decide_eq_true hc)
      have hchar : String.utf8EncodeChar c = [UInt8.ofNat c.toNat] := if_pos hle
      have hcons : encodeUtf8 (c :: s) = String.utf8EncodeChar c ++ encodeUtf8 s := rfl
      rw [hcons, hchar, ih hs]
      rfl

/-- The encoding of a character ends in a space only if the character is one. -/
theorem eq_space_of_getLast?_utf8EncodeChar {c : Char}
    (h : (String.utf8EncodeChar c).getLast? = some 0x20) : c = ' ' := by
  have hcontinuation : ∀ n : Nat, UInt8.ofNat (n % 0x40 + 0x80) ≠ 0x20 := by
    intro n heq
    have hnat := congrArg UInt8.toNat heq
    simp only [UInt8.toNat_ofNat', UInt8.reduceToNat] at hnat
    omega
  unfold String.utf8EncodeChar at h
  dsimp only at h
  split at h
  · next hle =>
      have hnat : (UInt8.ofNat c.val.toNat).toNat = 0x20 :=
        congrArg UInt8.toNat (Option.some.inj h)
      rw [UInt8.toNat_ofNat'] at hnat
      exact Char.ext (UInt32.toNat_inj.mp (show c.val.toNat = 0x20 by omega))
  · split at h
    · exact absurd (Option.some.inj h) (hcontinuation _)
    · split at h
      · exact absurd (Option.some.inj h) (hcontinuation _)
      · exact absurd (Option.some.inj h) (hcontinuation _)

/-- A space at the end of the bytes is a space at the end of the text. -/
theorem decodeUtf8_append_space (b : List UInt8) :
    decodeUtf8 (b ++ [0x20]) = (decodeUtf8 b).map (· ++ [' ']) := by
  refine Option.ext ?_
  intro s
  rw [decodeUtf8_eq_some_iff, Option.map_eq_some_iff]
  constructor
  · intro h
    cases s using List.reverseRecOn with
    | nil => simp [encodeUtf8] at h
    | append_singleton s c =>
        rw [encodeUtf8_append] at h
        -- the space is the last byte of the last character
        have hlast : (String.utf8EncodeChar c).getLast? = some 0x20 := by
          have := congrArg List.getLast? h
          rw [List.getLast?_append, List.getLast?_append] at this
          simpa [encodeUtf8] using this.symm
        obtain rfl := eq_space_of_getLast?_utf8EncodeChar hlast
        exact ⟨s, decodeUtf8_eq_some_iff.mpr (List.append_cancel_right h), rfl⟩
  · intro ⟨s', h', heq⟩
    rw [← heq, decodeUtf8_eq_some_iff.mp h', encodeUtf8_append]
    rfl

/-! ### Percent-decoding -/

/-- The value of a hexadecimal digit in either case. -/
def hexValue? (b : UInt8) : Option UInt8 :=
  if 0x30 ≤ b ∧ b ≤ 0x39 then some (b - 0x30)
  else if 0x41 ≤ b ∧ b ≤ 0x46 then some (b - 0x37)
  else if 0x61 ≤ b ∧ b ≤ 0x66 then some (b - 0x57)
  else none

/-- `_hextobyte`: two hexadecimal digits as a byte. -/
def hexToByte? (a b : UInt8) : Option UInt8 := do
  return 0x10 * (← hexValue? a) + (← hexValue? b)

/-- `_unquote_impl`: every `%` with two hexadecimal digits after it becomes a byte, and any other
`%` stays. -/
def unquoteImpl : List UInt8 → List UInt8
  | c :: a :: b :: rest =>
      if c = 0x25 then
        match hexToByte? a b with
        | some byte => byte :: unquoteImpl rest
        | none => c :: unquoteImpl (a :: b :: rest)
      else c :: unquoteImpl (a :: b :: rest)
  | short => short

/-- What `unquote` makes of an ASCII run. -/
def unquoteRun (run : Text) : Option Text := decodeUtf8 (unquoteImpl (encodeUtf8 run))

/-- `_generate_unquoted_parts`, with `run` the ASCII run read so far. -/
def unquoteParts (run : Text) : Text → Option Text
  | [] => unquoteRun run
  | c :: s =>
      if isAscii c then unquoteParts (run ++ [c]) s
      else do
        let decoded ← unquoteRun run
        let rest ← unquoteParts [] s
        return decoded ++ c :: rest

/-- `unquote(string, errors="strict")`. `none` is `UnicodeDecodeError`. -/
def unquote (string : Text) : Option Text :=
  if '%' ∈ string then unquoteParts [] string else some string

/-- A decoding that changes the bytes makes them fewer. -/
theorem unquoteImpl_eq_or_length_lt (b : List UInt8) :
    unquoteImpl b = b ∨ (unquoteImpl b).length < b.length := by
  fun_induction unquoteImpl b with
  | case1 a b rest byte hbyte ih =>
      right
      have : (unquoteImpl rest).length ≤ rest.length := by
        rcases ih with ih | ih
        · rw [ih]
        · omega
      simp only [List.length_cons]
      omega
  | case2 a b rest hnone ih =>
      rcases ih with ih | ih
      · exact Or.inl (by rw [ih])
      · exact Or.inr (by simpa using ih)
  | case3 c a b rest hc ih =>
      rcases ih with ih | ih
      · exact Or.inl (by rw [ih])
      · exact Or.inr (by simpa using ih)
  | case4 short hshort => exact Or.inl rfl

theorem hexToByte?_space_right (a : UInt8) : hexToByte? a 0x20 = none := by
  show (hexValue? a).bind _ = none
  cases hexValue? a <;> rfl

/-- A space takes no part in an escape. -/
theorem unquoteImpl_append_space (b : List UInt8) :
    unquoteImpl (b ++ [0x20]) = unquoteImpl b ++ [0x20] := by
  fun_induction unquoteImpl b with
  | case1 a b rest byte hbyte ih => simp [unquoteImpl, hbyte, ih]
  | case2 a b rest hnone ih =>
      simp only [List.cons_append] at ih ⊢
      rw [unquoteImpl, if_pos rfl, hnone, ih]
  | case3 c a b rest hc ih =>
      simp only [List.cons_append] at ih ⊢
      rw [unquoteImpl, if_neg hc, ih]
  | case4 short hshort =>
      match short, hshort with
      | [], _ => rfl
      | [a], _ => rfl
      | [a, b], _ => simp [unquoteImpl, hexToByte?_space_right]
      | c :: a :: b :: rest, hshort => exact absurd rfl (hshort c a b rest)

/-- A decoding that changes an ASCII run makes it shorter. -/
theorem unquoteRun_eq_or_length_lt {run decoded : Text} (hrun : ∀ c ∈ run, isAscii c = true)
    (h : unquoteRun run = some decoded) : decoded = run ∨ decoded.length < run.length := by
  have henc := decodeUtf8_eq_some_iff.mp h
  rcases unquoteImpl_eq_or_length_lt (encodeUtf8 run) with heq | hlt
  · rw [unquoteRun, heq, decodeUtf8_encodeUtf8] at h
    exact Or.inl (Option.some.inj h).symm
  · have hle := length_le_length_encodeUtf8 decoded
    rw [length_encodeUtf8_of_ascii hrun, henc] at hlt
    exact Or.inr (by omega)

theorem unquoteParts_eq_or_length_lt {run s decoded : Text} (hrun : ∀ c ∈ run, isAscii c = true)
    (h : unquoteParts run s = some decoded) :
    decoded = run ++ s ∨ decoded.length < (run ++ s).length := by
  induction s generalizing run decoded with
  | nil =>
      rw [List.append_nil]
      exact unquoteRun_eq_or_length_lt hrun h
  | cons c s ih =>
      rw [unquoteParts] at h
      split at h
      · next hc =>
          have hrun' : ∀ c' ∈ run ++ [c], isAscii c' = true :=
            List.forall_mem_append.mpr ⟨hrun, by simpa using hc⟩
          simpa using ih hrun' h
      · -- the run ends here: it and the rest are decoded on their own
        simp only [Option.bind_eq_bind, Option.bind_eq_some_iff, Option.pure_def,
          Option.some.injEq] at h
        obtain ⟨first, hfirst, rest, hrest, rfl⟩ := h
        have hfirst' := unquoteRun_eq_or_length_lt hrun hfirst
        have hrest' := ih (by simp) hrest
        rw [List.nil_append] at hrest'
        simp only [List.length_append, List.length_cons]
        rcases hfirst' with rfl | hlt
        · rcases hrest' with rfl | hlt
          · exact Or.inl rfl
          · right
            omega
        · right
          rcases hrest' with rfl | hlt'
          · omega
          · omega

/-- A decoding that changes a text makes it shorter. -/
theorem length_lt_of_unquote {s decoded : Text} (h : unquote s = some decoded)
    (hne : decoded ≠ s) : decoded.length < s.length := by
  unfold unquote at h
  split at h
  · exact (unquoteParts_eq_or_length_lt (by simp) h).resolve_left hne
  · exact absurd (Option.some.inj h).symm hne

theorem unquoteParts_append_space (run s : Text) {c : Char} (hc : c = ' ' ∨ isAscii c = false) :
    unquoteParts run (s ++ [c]) = (unquoteParts run s).map (· ++ [c]) := by
  induction s generalizing run with
  | nil =>
      rcases hc with rfl | hc
      · show unquoteRun (run ++ [' ']) = (unquoteRun run).map (· ++ [' '])
        rw [unquoteRun, encodeUtf8_append]
        exact (congrArg decodeUtf8 (unquoteImpl_append_space _)).trans (decodeUtf8_append_space _)
      · have hempty : unquoteRun [] = some [] := decodeUtf8_encodeUtf8 []
        simp only [List.nil_append, unquoteParts, hc, Bool.false_eq_true, if_false, hempty]
        cases unquoteRun run <;> rfl
  | cons c' s ih =>
      rw [List.cons_append, unquoteParts, unquoteParts]
      split
      · exact ih _
      · rw [ih]
        cases unquoteRun run with
        | none => rfl
        | some decoded => cases unquoteParts [] s <;> simp

/-- A space, or a character that is not ASCII, stays where it is at the end of a text. -/
theorem unquote_append_space (s : Text) {c : Char} (hc : c = ' ' ∨ isAscii c = false) :
    unquote (s ++ [c]) = (unquote s).map (· ++ [c]) := by
  have hmem : '%' ∈ s ++ [c] ↔ '%' ∈ s := by
    have hne : '%' ≠ c := by
      intro heq
      subst heq
      rcases hc with hc | hc
      · cases hc
      · cases hc
    simp [hne]
  unfold unquote
  by_cases h : '%' ∈ s
  · rw [if_pos h, if_pos (hmem.mpr h), unquoteParts_append_space [] s hc]
  · rw [if_neg h, if_neg (mt hmem.mp h), Option.map_some]

end PxManager.Core
