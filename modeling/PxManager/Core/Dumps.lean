import PxManager.Core.Python

/-!
# PxManager.Core.Dumps

`json.dumps` of strings, with `ensure_ascii` as by default: what is not printable ASCII is escaped,
in UTF-16 code units. A string can be read back from its escapes, so it can be cut off the front of
a text in one way only.

`json.dumps` of any value with `ensure_ascii=False` keeps what is not ASCII. Control characters are
escaped all the same, so the text has no newline.
-/

namespace PxManager.Core

/-- `f"\\u{n:04x}"`. -/
def escapeUnit (n : Nat) : Text :=
  ['\\', 'u', lowerHexDigit (n / 4096), lowerHexDigit (n / 256 % 16), lowerHexDigit (n / 16 % 16),
    lowerHexDigit (n % 16)]

/-- The characters that are escaped with a letter. -/
def shortEscapes : List (Char × Char) :=
  [('"', '"'), ('\\', '\\'), ('\n', 'n'), ('\r', 'r'), ('\t', 't'), ('\x0c', 'f'), ('\x08', 'b')]

/-- A character of a string in JSON. -/
def escapeChar (c : Char) : Text :=
  match shortEscapes.find? fun e => e.1 = c with
  | some e => ['\\', e.2]
  | none =>
      let n := c.toNat
      if 0x20 ≤ n ∧ n < 0x7f then [c]
      else if n < 0x10000 then escapeUnit n
      else
        let n := n - 0x10000
        escapeUnit (0xd800 + n / 0x400) ++ escapeUnit (0xdc00 + n % 0x400)

/-- `json.dumps(text)`. -/
def dumpsString (text : Text) : Text := '"' :: text.flatMap escapeChar ++ ['"']

/-! ### Reading back -/

/-- The value of a hexadecimal digit. -/
def hexDigitValue (c : Char) : Nat :=
  if c.toNat < 'a'.toNat then c.toNat - '0'.toNat else c.toNat - 'a'.toNat + 10

/-- The value of four hexadecimal digits. -/
def hexValue (a b c d : Char) : Nat :=
  4096 * hexDigitValue a + 256 * hexDigitValue b + 16 * hexDigitValue c + hexDigitValue d

/-- A code unit in front of a text. -/
def readUnit : Text → Option (Nat × Text)
  | '\\' :: 'u' :: a :: b :: c :: d :: text => some (hexValue a b c d, text)
  | _ => none

/-- The character in front of the rest of a string in JSON, if the string does not end there. -/
def readChar (text : Text) : Option (Char × Text) :=
  match readUnit text with
  | some (n, rest) =>
      if 0xd800 ≤ n ∧ n < 0xdc00 then
        (readUnit rest).map fun low =>
          (Char.ofNat (0x10000 + (n - 0xd800) * 0x400 + (low.1 - 0xdc00)), low.2)
      else some (Char.ofNat n, rest)
  | none =>
      match text with
      | '\\' :: letter :: rest =>
          (shortEscapes.find? fun e => e.2 = letter).map fun e => (e.1, rest)
      | '"' :: _ => none
      | c :: rest => some (c, rest)
      | [] => none

theorem hexDigitValue_lowerHexDigit {n : Nat} (h : n < 16) :
    hexDigitValue (lowerHexDigit n) = n := by
  have hall : ∀ n < 16, hexDigitValue (lowerHexDigit n) = n := by decide
  exact hall n h

theorem readUnit_escapeUnit {n : Nat} (h : n < 0x10000) (text : Text) :
    readUnit (escapeUnit n ++ text) = some (n, text) := by
  simp only [escapeUnit, List.cons_append, List.nil_append, readUnit, hexValue]
  rw [hexDigitValue_lowerHexDigit (by omega), hexDigitValue_lowerHexDigit (by omega),
    hexDigitValue_lowerHexDigit (by omega), hexDigitValue_lowerHexDigit (by omega)]
  congr 2
  omega

/-- A letter stands for one character, and none is the `u` of a code unit. -/
theorem find?_shortEscapes {e : Char × Char} (h : e ∈ shortEscapes) :
    (shortEscapes.find? fun e' => e'.2 = e.2) = some e ∧ e.2 ≠ 'u' := by
  have hall : ∀ e ∈ shortEscapes, (shortEscapes.find? fun e' => e'.2 = e.2) = some e ∧
      e.2 ≠ 'u' := by decide
  exact hall e h

theorem readUnit_eq_none {c : Char} {text : Text} (h : c ≠ '\\' ∨ text.head? ≠ some 'u') :
    readUnit (c :: text) = none := by
  unfold readUnit
  split
  · next heq =>
      obtain ⟨rfl, rfl⟩ := List.cons.inj heq
      rcases h with h | h <;> exact absurd rfl h
  · rfl

/-- A character that is written can be read. -/
theorem readChar_escapeChar (c : Char) (text : Text) :
    readChar (escapeChar c ++ text) = some (c, text) := by
  unfold escapeChar
  cases hshort : shortEscapes.find? fun e => e.1 = c with
  | some e =>
      obtain ⟨hletter, hu⟩ := find?_shortEscapes (List.mem_of_find?_eq_some hshort)
      have hc : e.1 = c := by simpa using List.find?_some hshort
      have hunit : readUnit ('\\' :: e.2 :: text) = none :=
        readUnit_eq_none (.inr (by simpa using hu))
      simp only [List.cons_append, List.nil_append, readChar, hunit, hletter, Option.map_some, hc]
  | none =>
      have hplain : c ≠ '"' ∧ c ≠ '\\' := by
        rw [List.find?_eq_none] at hshort
        constructor
        · rintro rfl
          exact hshort ('"', '"') (by decide) (by decide)
        · rintro rfl
          exact hshort ('\\', '\\') (by decide) (by decide)
      have hvalid : c.toNat < 0xd800 ∨ 0xdfff < c.toNat ∧ c.toNat < 0x110000 := c.valid
      dsimp only
      split
      · have hunit : readUnit (c :: text) = none := readUnit_eq_none (.inl hplain.2)
        simp [readChar, hunit, hplain]
      · split
        · next hsmall =>
            simp only [readChar, readUnit_escapeUnit hsmall]
            rw [if_neg (by omega), Char.ofNat_toNat]
        · next hlarge =>
            -- two code units
            have hhigh : 0xd800 + (c.toNat - 0x10000) / 0x400 < 0x10000 := by omega
            have hlow : 0xdc00 + (c.toNat - 0x10000) % 0x400 < 0x10000 := by omega
            simp only [List.append_assoc, readChar, readUnit_escapeUnit hhigh,
              readUnit_escapeUnit hlow]
            rw [if_pos (by omega), Option.map_some]
            have hsum : 0x10000 + (0xd800 + (c.toNat - 0x10000) / 0x400 - 0xd800) * 0x400 +
                (0xdc00 + (c.toNat - 0x10000) % 0x400 - 0xdc00) = c.toNat := by omega
            rw [hsum, Char.ofNat_toNat]

/-! ### Cutting -/

/-- A string in front of a text is there in one way only. -/
theorem dumpsString_append_inj {s t x y : Text} (h : dumpsString s ++ x = dumpsString t ++ y) :
    s = t ∧ x = y := by
  have hend : ∀ (c : Char) (s x y : Text), '"' :: x ≠ escapeChar c ++ s ++ y := by
    intro c s x y heq
    have hread := readChar_escapeChar c (s ++ y)
    rw [← List.append_assoc, ← heq] at hread
    cases hread
  simp only [dumpsString, List.cons_append, List.cons.injEq, true_and, List.append_assoc,
    List.nil_append] at h
  induction s generalizing t with
  | nil =>
      cases t with
      | nil => exact ⟨rfl, (List.cons.inj h).2⟩
      | cons c t =>
          rw [List.flatMap_cons] at h
          exact absurd h (hend c _ x _)
  | cons c s ih =>
      cases t with
      | nil =>
          rw [List.flatMap_cons] at h
          exact absurd h.symm (hend c _ y _)
      | cons d t =>
          simp only [List.flatMap_cons, List.append_assoc] at h
          have hread := readChar_escapeChar c (s.flatMap escapeChar ++ '"' :: x)
          rw [h, readChar_escapeChar, Option.some.injEq, Prod.mk.injEq] at hread
          obtain ⟨hst, hxy⟩ := ih hread.2.symm
          exact ⟨by rw [hread.1, hst], hxy⟩

/-! ### Keeping what is not ASCII -/

/-- A character of a string in JSON, with `ensure_ascii=False`. -/
def escapeControl (c : Char) : Text :=
  match shortEscapes.find? fun e => e.1 = c with
  | some e => ['\\', e.2]
  | none => if c.toNat < 0x20 then escapeUnit c.toNat else [c]

/-- `json.dumps(text, ensure_ascii=False)` of a string. -/
def dumpsText (text : Text) : Text := '"' :: text.flatMap escapeControl ++ ['"']

/-- A float in JSON. -/
def Builtins.dumpsFloat (py : Builtins) : PyFloat → Text
  | .finite q => py.repr (.float (.finite q))
  | .inf => "Infinity".toList
  | .negInf => "-Infinity".toList
  | .nan => "NaN".toList

mutual

/-- `json.dumps(value, ensure_ascii=False)`. -/
def Builtins.dumps (py : Builtins) : Json → Text
  | .null => "null".toList
  | .bool true => "true".toList
  | .bool false => "false".toList
  | .int n => decimal n
  | .float x => py.dumpsFloat x
  | .str s => dumpsText s.toList
  | .arr items => '[' :: py.dumpsItems items ++ [']']
  | .obj members => '{' :: py.dumpsMembers members ++ ['}']

/-- The items of a list. -/
def Builtins.dumpsItems (py : Builtins) : List Json → Text
  | [] => []
  | [item] => py.dumps item
  | item :: items => py.dumps item ++ ", ".toList ++ py.dumpsItems items

/-- The members of a dictionary. -/
def Builtins.dumpsMembers (py : Builtins) : List (String × Json) → Text
  | [] => []
  | [(key, value)] => dumpsText key.toList ++ ": ".toList ++ py.dumps value
  | (key, value) :: members =>
      dumpsText key.toList ++ ": ".toList ++ py.dumps value ++ ", ".toList ++
        py.dumpsMembers members

end

theorem newline_notMem_escapeControl (c : Char) : '\n' ∉ escapeControl c := by
  have hshort : ∀ e ∈ shortEscapes, '\n' ∉ ['\\', e.2] := by decide
  have hunit : ∀ n < 0x20, '\n' ∉ escapeUnit n := by decide
  unfold escapeControl
  split
  · next e he => exact hshort e (List.mem_of_find?_eq_some he)
  · next hnone =>
      split
      · next hcontrol => exact hunit _ hcontrol
      · next hplain =>
          rw [List.mem_singleton]
          intro heq
          exact hplain (heq ▸ by decide)

theorem newline_notMem_dumpsText (text : Text) : '\n' ∉ dumpsText text := by
  simp [dumpsText, newline_notMem_escapeControl]

theorem newline_notMem_decimal (n : ℤ) : '\n' ∉ decimal n := by
  intro h
  rcases isDigit_of_mem_decimal h with h | h
  · exact absurd h (by decide)
  · exact absurd h (by decide)

mutual

/-- A document takes one line. -/
theorem newline_notMem_dumps {py : Builtins} (hpy : ∀ q, '\n' ∉ py.repr (.float (.finite q)))
    (value : Json) : '\n' ∉ py.dumps value := by
  cases value with
  | null => exact (by decide : '\n' ∉ "null".toList)
  | bool b =>
      cases b with
      | false => exact (by decide : '\n' ∉ "false".toList)
      | true => exact (by decide : '\n' ∉ "true".toList)
  | int n => exact newline_notMem_decimal n
  | float x =>
      cases x with
      | finite q => exact hpy q
      | inf => exact (by decide : '\n' ∉ "Infinity".toList)
      | negInf => exact (by decide : '\n' ∉ "-Infinity".toList)
      | nan => exact (by decide : '\n' ∉ "NaN".toList)
  | str s => exact newline_notMem_dumpsText s.toList
  | arr items => simp [Builtins.dumps, newline_notMem_dumpsItems hpy items]
  | obj members => simp [Builtins.dumps, newline_notMem_dumpsMembers hpy members]

theorem newline_notMem_dumpsItems {py : Builtins}
    (hpy : ∀ q, '\n' ∉ py.repr (.float (.finite q))) (items : List Json) :
    '\n' ∉ py.dumpsItems items := by
  match items with
  | [] => simp [Builtins.dumpsItems]
  | [item] => simpa [Builtins.dumpsItems] using newline_notMem_dumps hpy item
  | item :: item' :: items =>
      simp [Builtins.dumpsItems, newline_notMem_dumps hpy item,
        newline_notMem_dumpsItems hpy (item' :: items)]

theorem newline_notMem_dumpsMembers {py : Builtins}
    (hpy : ∀ q, '\n' ∉ py.repr (.float (.finite q))) (members : List (String × Json)) :
    '\n' ∉ py.dumpsMembers members := by
  match members with
  | [] => simp [Builtins.dumpsMembers]
  | [(key, value)] =>
      simp [Builtins.dumpsMembers, newline_notMem_dumpsText, newline_notMem_dumps hpy value]
  | (key, value) :: member :: members =>
      simp [Builtins.dumpsMembers, newline_notMem_dumpsText, newline_notMem_dumps hpy value,
        newline_notMem_dumpsMembers hpy (member :: members)]

end

end PxManager.Core
