import PxManager.Core.Dumps
import PxManager.Core.Hex

/-!
# PxManager.Core.JsonText

**JSON as text**: `json.loads`, and `json.dumps` in any style of escapes and indentation.

The reader is a recursive descent over the text, the writer a recursion over the document. A style
comes with a proof that its escapes can be read back.

`json.loads` reads an escaped surrogate that is not one of a pair as that surrogate. Here it becomes
`U+FFFD`, as no text has surrogates. How deep a document may be nested is left out.
-/

namespace PxManager.Core

/-! ### Reading -/

/-- White space between tokens. -/
def isJsonSpace (c : Char) : Bool := c ∈ [' ', '\t', '\n', '\r']

/-- The text from the next token on. -/
def skipSpaces (text : Text) : Text := text.dropWhile isJsonSpace

/-- A code unit after `\u`. -/
def loadUnit : Text → Option (Nat × Text)
  | a :: b :: c :: d :: text => do
      let a ← hexDigit? a
      let b ← hexDigit? b
      let c ← hexDigit? c
      let d ← hexDigit? d
      some (4096 * a + 256 * b + 16 * c + d, text)
  | _ => none

/-- What is read for a surrogate that is not one of a pair. -/
def loneSurrogate : Char := '\ufffd'

/-- The character after `\u`. -/
def loadCodePoint (text : Text) : Option (Char × Text) := do
  let (n, rest) ← loadUnit text
  if 0xd800 ≤ n ∧ n < 0xdc00 then
    match rest with
    | '\\' :: 'u' :: lows =>
        let (low, after) ← loadUnit lows
        if 0xdc00 ≤ low ∧ low < 0xe000 then
          some (Char.ofNat (0x10000 + (n - 0xd800) * 0x400 + (low - 0xdc00)), after)
        else some (loneSurrogate, rest)
    | _ => some (loneSurrogate, rest)
  else if 0xdc00 ≤ n ∧ n < 0xe000 then some (loneSurrogate, rest)
  else some (Char.ofNat n, rest)

/-- A character in a string, if the string does not end there. Control characters have to be
escaped. -/
def loadChar : Text → Option (Char × Text)
  | '"' :: _ => none
  | '\\' :: 'u' :: rest => loadCodePoint rest
  | '\\' :: letter :: rest =>
      ((('/', '/') :: shortEscapes).find? fun e => e.2 = letter).map fun e => (e.1, rest)
  | c :: rest => if c.toNat < 0x20 ∨ c = '\\' then none else some (c, rest)
  | [] => none

/-- A string after its opening quote. -/
def loadString : (fuel : Nat) → Text → Option (Text × Text)
  | 0, _ => none
  | _ + 1, '"' :: rest => some ([], rest)
  | fuel + 1, text => do
      let (c, rest) ← loadChar text
      let (s, rest) ← loadString fuel rest
      some (c :: s, rest)

/-- The minus sign of a number. -/
def loadSign : Text → Text × Text
  | '-' :: rest => (['-'], rest)
  | text => ([], text)

/-- The digits before the point: a zero, or digits that do not start with one. -/
def loadWhole : Text → Text × Text
  | '0' :: rest => (['0'], rest)
  | text => text.span Char.isDigit

/-- The point and the digits after it, if there are any. -/
def loadFraction : Text → Text × Text
  | '.' :: text =>
      match text.span Char.isDigit with
      | ([], _) => ([], '.' :: text)
      | (digits, rest) => ('.' :: digits, rest)
  | text => ([], text)

/-- The sign of an exponent. -/
def loadExponentSign : Text → Text × Text
  | '-' :: rest => (['-'], rest)
  | '+' :: rest => (['+'], rest)
  | text => ([], text)

/-- The exponent, if there is one. -/
def loadExponent : Text → Text × Text
  | e :: text =>
      if e = 'e' ∨ e = 'E' then
        let (sign, rest) := loadExponentSign text
        match rest.span Char.isDigit with
        | ([], _) => ([], e :: text)
        | (digits, rest) => (e :: sign ++ digits, rest)
      else ([], e :: text)
  | [] => ([], [])

/-- The words, and what they stand for. -/
def jsonWords : List (Text × Json) :=
  [("null".toList, .null), ("true".toList, .bool true), ("false".toList, .bool false),
    ("NaN".toList, .float .nan), ("Infinity".toList, .float .inf),
    ("-Infinity".toList, .float .negInf)]

/-- A word in front of a text. -/
def loadWord (text : Text) : Option (Json × Text) :=
  jsonWords.findSome? fun e => (text.dropPrefix? e.1).map fun rest => (e.2, rest)

/-- The integer that a sign and digits stand for. -/
def signedInt (sign digits : Text) : ℤ :=
  if sign = [] then Nat.ofDigitChars 10 digits 0 else -Nat.ofDigitChars 10 digits 0

/-- What `json.loads` raises. -/
inductive LoadsError
  /-- `JSONDecodeError`. -/
  | decode
  /-- The `ValueError` of `int()` for more than `maxStrDigits` digits. -/
  | tooLong
  deriving DecidableEq, Repr

/-- What was read, or `JSONDecodeError`. -/
def orDecodeError {α : Type} : Option α → Except LoadsError α
  | some a => .ok a
  | none => .error .decode

section Loads

variable (float : Text → PyFloat)

/-- A number in front of a text. -/
def loadNumber (text : Text) : Except LoadsError (Json × Text) :=
  let (sign, rest) := loadSign text
  let (whole, rest) := loadWhole rest
  let (fraction, rest) := loadFraction rest
  let (exponent, rest) := loadExponent rest
  if whole = [] then .error .decode
  else if fraction = [] ∧ exponent = [] then
    if maxStrDigits < whole.length then .error .tooLong
    else .ok (.int (signedInt sign whole), rest)
  else .ok (.float (float (sign ++ whole ++ fraction ++ exponent)), rest)

mutual

/-- A value in front of a text. -/
def loadValue : (fuel : Nat) → Text → Except LoadsError (Json × Text)
  | 0, _ => .error .decode
  | _ + 1, '"' :: rest =>
      (orDecodeError (loadString (rest.length + 1) rest)).map fun (s, rest) =>
        (.str (String.ofList s), rest)
  | fuel + 1, '[' :: rest =>
      match skipSpaces rest with
      | ']' :: rest => .ok (.arr [], rest)
      | rest => (loadItems fuel rest).map fun (items, rest) => (.arr items, rest)
  | fuel + 1, '{' :: rest =>
      match skipSpaces rest with
      | '}' :: rest => .ok (.obj [], rest)
      | rest => (loadMembers fuel rest).map fun (members, rest) => (.obj members, rest)
  | _ + 1, text =>
      match loadWord text with
      | some word => .ok word
      | none => loadNumber float text

/-- The items of a list that is not empty, and its closing bracket. -/
def loadItems : (fuel : Nat) → Text → Except LoadsError (List Json × Text)
  | 0, _ => .error .decode
  | fuel + 1, text => do
      let (item, rest) ← loadValue fuel text
      match skipSpaces rest with
      | ',' :: rest =>
          let (items, rest) ← loadItems fuel (skipSpaces rest)
          .ok (item :: items, rest)
      | ']' :: rest => .ok ([item], rest)
      | _ => .error .decode

/-- The members of an object that is not empty, and its closing brace. -/
def loadMembers : (fuel : Nat) → Text → Except LoadsError (List (String × Json) × Text)
  | 0, _ => .error .decode
  | fuel + 1, '"' :: text => do
      let (key, rest) ← orDecodeError (loadString (text.length + 1) text)
      match skipSpaces rest with
      | ':' :: rest =>
          let (value, rest) ← loadValue fuel (skipSpaces rest)
          match skipSpaces rest with
          | ',' :: rest =>
              let (members, rest) ← loadMembers fuel (skipSpaces rest)
              .ok ((String.ofList key, value) :: members, rest)
          | '}' :: rest => .ok ([(String.ofList key, value)], rest)
          | _ => .error .decode
      | _ => .error .decode
  | _ + 1, _ => .error .decode

end

/-- `json.loads(text)`. Between two characters that are read there is at most one call for a value
and one for a list or an object, so the fuel is enough. -/
def loads (text : Text) : Except LoadsError Json := do
  let (value, rest) ← loadValue float (2 * text.length + 1) (skipSpaces text)
  if skipSpaces rest = [] then .ok value else .error .decode

end Loads

/-! ### Writing -/

/-- How `json.dumps` writes: the escapes, and the width of `indent`, if there is one. -/
structure JsonStyle where
  escape : Char → Text
  indent : Option Nat
  /-- A character can be read back. -/
  loadChar_escape : ∀ c rest, loadChar (escape c ++ rest) = some (c, rest)

/-- The line break before an item at a level. -/
def JsonStyle.newline (style : JsonStyle) (level : Nat) : Text :=
  match style.indent with
  | some width => '\n' :: List.replicate (width * level) ' '
  | none => []

/-- What separates two items at a level. -/
def JsonStyle.separator (style : JsonStyle) (level : Nat) : Text :=
  match style.indent with
  | some _ => ',' :: style.newline level
  | none => ", ".toList

/-- A string. -/
def JsonStyle.string (style : JsonStyle) (text : Text) : Text :=
  '"' :: text.flatMap style.escape ++ ['"']

section Dumps

variable (py : Builtins) (style : JsonStyle)

mutual

/-- `json.dumps(value, ...)` at a level. -/
def dumpsValue (level : Nat) : Json → Text
  | .null => "null".toList
  | .bool true => "true".toList
  | .bool false => "false".toList
  | .int n => decimal n
  | .float x => py.dumpsFloat x
  | .str s => style.string s.toList
  | .arr [] => "[]".toList
  | .arr items =>
      '[' :: style.newline (level + 1) ++ dumpsItems (level + 1) items ++ style.newline level ++ [']']
  | .obj [] => ['{', '}']
  | .obj members =>
      '{' :: style.newline (level + 1) ++ dumpsMembers (level + 1) members ++ style.newline level ++
        ['}']

/-- The items of a list. -/
def dumpsItems (level : Nat) : List Json → Text
  | [] => []
  | [item] => dumpsValue level item
  | item :: items => dumpsValue level item ++ style.separator level ++ dumpsItems level items

/-- The members of a dictionary. -/
def dumpsMembers (level : Nat) : List (String × Json) → Text
  | [] => []
  | [(key, value)] => style.string key.toList ++ ": ".toList ++ dumpsValue level value
  | (key, value) :: members =>
      style.string key.toList ++ ": ".toList ++ dumpsValue level value ++ style.separator level ++
        dumpsMembers level members

end

end Dumps

/-! ### The styles -/

theorem loadUnit_escapeUnit {n : Nat} (h : n < 0x10000) (rest : Text) :
    ∃ digits, escapeUnit n = '\\' :: 'u' :: digits ∧ loadUnit (digits ++ rest) = some (n, rest) := by
  refine ⟨_, rfl, ?_⟩
  simp only [List.cons_append, List.nil_append, loadUnit]
  rw [(isHexDigits_lower _ (by omega)).1, (isHexDigits_lower _ (by omega)).1,
    (isHexDigits_lower _ (by omega)).1, (isHexDigits_lower _ (by omega)).1]
  simp only [Option.bind_eq_bind, Option.bind_some, Option.some.injEq, Prod.mk.injEq, and_true]
  omega

/-- A code unit that is no surrogate. -/
theorem loadCodePoint_unit {n : Nat} (hvalid : n < 0xd800 ∨ 0xdfff < n) {text rest : Text}
    (hload : loadUnit text = some (n, rest)) :
    loadCodePoint text = some (Char.ofNat n, rest) := by
  have hhigh : ¬ (0xd800 ≤ n ∧ n < 0xdc00) := by omega
  have hlow : ¬ (0xdc00 ≤ n ∧ n < 0xe000) := by omega
  simp only [loadCodePoint, hload, Option.bind_eq_bind, Option.bind_some, if_neg hhigh, if_neg hlow]

/-- Two surrogates. -/
theorem loadCodePoint_pair {n low : Nat} (hhigh : 0xd800 ≤ n ∧ n < 0xdc00)
    (hlow : 0xdc00 ≤ low ∧ low < 0xe000) {text lows rest : Text}
    (hload : loadUnit text = some (n, '\\' :: 'u' :: lows))
    (hloadLow : loadUnit lows = some (low, rest)) :
    loadCodePoint text =
      some (Char.ofNat (0x10000 + (n - 0xd800) * 0x400 + (low - 0xdc00)), rest) := by
  simp only [loadCodePoint, hload, hloadLow, Option.bind_eq_bind, Option.bind_some, if_pos hhigh,
    if_pos hlow]

/-- A character of the first plane that is written as a code unit. -/
theorem loadChar_escapeUnit {c : Char} (h : c.toNat < 0x10000) (rest : Text) :
    loadChar (escapeUnit c.toNat ++ rest) = some (c, rest) := by
  have hvalid : c.toNat < 0xd800 ∨ 0xdfff < c.toNat ∧ c.toNat < 0x110000 := c.valid
  obtain ⟨digits, hdigits, hload⟩ := loadUnit_escapeUnit h rest
  rw [hdigits, List.cons_append, List.cons_append, loadChar,
    loadCodePoint_unit (hvalid.imp_right And.left) hload, Char.ofNat_toNat]

/-- Another one that is written as two. -/
theorem loadChar_escapePair {c : Char} (h : 0x10000 ≤ c.toNat) (rest : Text) :
    loadChar (escapeUnit (0xd800 + (c.toNat - 0x10000) / 0x400) ++
      (escapeUnit (0xdc00 + (c.toNat - 0x10000) % 0x400) ++ rest)) = some (c, rest) := by
  have hvalid : c.toNat < 0xd800 ∨ 0xdfff < c.toNat ∧ c.toNat < 0x110000 := c.valid
  have hhigh : 0xd800 + (c.toNat - 0x10000) / 0x400 < 0xdc00 := by omega
  have hlow : 0xdc00 + (c.toNat - 0x10000) % 0x400 < 0xe000 := by omega
  have hsum : 0x10000 + (0xd800 + (c.toNat - 0x10000) / 0x400 - 0xd800) * 0x400 +
      (0xdc00 + (c.toNat - 0x10000) % 0x400 - 0xdc00) = c.toNat := by omega
  obtain ⟨lows, hlows, hloadLow⟩ := loadUnit_escapeUnit (hlow.trans (by decide)) rest
  obtain ⟨highs, hhighs, hloadHigh⟩ :=
    loadUnit_escapeUnit (hhigh.trans (by decide)) ('\\' :: 'u' :: (lows ++ rest))
  rw [hhighs, hlows, List.cons_append, List.cons_append, List.cons_append, List.cons_append, loadChar,
    loadCodePoint_pair ⟨Nat.le_add_right .., hhigh⟩ ⟨Nat.le_add_right .., hlow⟩ hloadHigh hloadLow,
    hsum, Char.ofNat_toNat]

/-- A character with a letter for it. -/
theorem loadChar_shortEscape {e : Char × Char} (h : e ∈ shortEscapes) (rest : Text) :
    loadChar ('\\' :: e.2 :: rest) = some (e.1, rest) := by
  have hall : ∀ e ∈ shortEscapes, e.2 ≠ 'u' ∧
      (('/', '/') :: shortEscapes).find? (fun e' => e'.2 = e.2) = some e := by decide
  obtain ⟨hu, hfind⟩ := hall e h
  unfold loadChar
  split
  · next heq => cases heq
  · next heq => exact absurd (List.cons.inj (List.cons.inj heq).2).1 hu
  · next heq =>
      obtain ⟨-, heq⟩ := List.cons.inj heq
      obtain ⟨rfl, rfl⟩ := List.cons.inj heq
      rw [hfind]
      rfl
  · next hnot heq =>
      obtain ⟨rfl, rfl⟩ := List.cons.inj heq
      exact absurd rfl (hnot e.2 rest rfl)
  · next heq => cases heq

/-- A character that stands for itself. -/
theorem loadChar_plain {c : Char} (hcontrol : 0x20 ≤ c.toNat) (hquote : c ≠ '"') (hslash : c ≠ '\\')
    (rest : Text) : loadChar (c :: rest) = some (c, rest) := by
  unfold loadChar
  split
  · next heq => exact absurd (List.cons.inj heq).1 hquote
  · next heq => exact absurd (List.cons.inj heq).1 hslash
  · next heq => exact absurd (List.cons.inj heq).1 hslash
  · next heq =>
      obtain ⟨rfl, rfl⟩ := List.cons.inj heq
      rw [if_neg (by simp only [not_or]; exact ⟨by omega, hslash⟩)]
  · next heq => cases heq

/-- The characters without a letter. -/
theorem plain_of_find?_eq_none {c : Char} (h : (shortEscapes.find? fun e => e.1 = c) = none) :
    c ≠ '"' ∧ c ≠ '\\' := by
  rw [List.find?_eq_none] at h
  constructor
  · rintro rfl
    exact h ('"', '"') (by decide) (by decide)
  · rintro rfl
    exact h ('\\', '\\') (by decide) (by decide)

theorem loadChar_escapeChar (c : Char) (rest : Text) :
    loadChar (escapeChar c ++ rest) = some (c, rest) := by
  unfold escapeChar
  cases hshort : shortEscapes.find? fun e => e.1 = c with
  | some e =>
      have hc : e.1 = c := by simpa using List.find?_some hshort
      exact hc ▸ loadChar_shortEscape (List.mem_of_find?_eq_some hshort) rest
  | none =>
      obtain ⟨hquote, hslash⟩ := plain_of_find?_eq_none hshort
      dsimp only
      split
      · next hprintable => exact loadChar_plain hprintable.1 hquote hslash rest
      · split
        · next hsmall => exact loadChar_escapeUnit hsmall rest
        · next hlarge =>
            rw [List.append_assoc]
            exact loadChar_escapePair (Nat.not_lt.mp hlarge) rest

/-- `ensure_ascii=True`, which is the default. -/
def asciiStyle (indent : Option Nat) : JsonStyle := ⟨escapeChar, indent, loadChar_escapeChar⟩

/-! ### Strings -/

section Style

variable (style : JsonStyle)

theorem JsonStyle.escape_ne_nil (c : Char) : style.escape c ≠ [] := by
  intro hnil
  have hload := style.loadChar_escape c []
  rw [hnil] at hload
  cases hload

/-- No character is written like the end of a string. -/
theorem JsonStyle.escape_append_ne (c : Char) (text rest : Text) :
    style.escape c ++ text ≠ '"' :: rest := by
  intro heq
  have hload := style.loadChar_escape c text
  rw [heq] at hload
  cases hload

theorem JsonStyle.length_le_flatMap (text : Text) :
    text.length ≤ (text.flatMap style.escape).length := by
  induction text with
  | nil => exact Nat.le_refl 0
  | cons c text ih =>
      have hpos := List.length_pos_iff.mpr (style.escape_ne_nil c)
      rw [List.flatMap_cons, List.length_append, List.length_cons]
      omega

theorem loadString_flatMap (text rest : Text) {fuel : Nat} (h : text.length < fuel) :
    loadString fuel (text.flatMap style.escape ++ '"' :: rest) = some (text, rest) := by
  induction text generalizing fuel with
  | nil =>
      cases fuel with
      | zero => exact absurd h (Nat.lt_irrefl 0)
      | succ fuel => rfl
  | cons c text ih =>
      cases fuel with
      | zero => exact absurd h (Nat.not_lt_zero _)
      | succ fuel =>
          rw [List.flatMap_cons, List.append_assoc, loadString]
          · simp only [style.loadChar_escape, Option.bind_eq_bind, Option.bind_some,
              ih (Nat.lt_of_succ_lt_succ h)]
          · exact fun rest => style.escape_append_ne c _ rest

/-- A string that was written, after its opening quote. -/
theorem loadString_string (text rest : Text) :
    loadString ((text.flatMap style.escape ++ '"' :: rest).length + 1)
      (text.flatMap style.escape ++ '"' :: rest) = some (text, rest) := by
  refine loadString_flatMap style text rest ?_
  have hle := style.length_le_flatMap text
  rw [List.length_append]
  omega

end Style

end PxManager.Core
