import PxManager.Core.Except
import PxManager.Core.JsonText

/-!
# PxManager.Core.JsonRoundTrip

What is written in a style is read as the same document (`loads_dumps`).

The proof goes along with the writer: at each place the text that follows cannot prolong what was
written (`Ends`). `float` is open, and it is only asked to read what `repr` has written. Integers
have to be short enough to be read.
-/

namespace PxManager.Core

/-! ### Numbers -/

/-- The text does not go on like a number. -/
def Ends (rest : Text) : Prop :=
  ∀ c ∈ rest.head?, c.isDigit = false ∧ c ≠ '.' ∧ c ≠ 'e' ∧ c ≠ 'E'

theorem span_digits {digits rest : Text} (hdigits : ∀ c ∈ digits, c.isDigit = true)
    (hrest : ∀ c ∈ rest.head?, c.isDigit = false) :
    (digits ++ rest).span Char.isDigit = (digits, rest) := by
  rw [List.span_eq_takeWhile_dropWhile]
  have htake : rest.takeWhile Char.isDigit = [] ∧ rest.dropWhile Char.isDigit = rest := by
    cases rest with
    | nil => exact ⟨rfl, rfl⟩
    | cons c rest =>
        have hc : ¬ c.isDigit = true := by simp [hrest c rfl]
        exact ⟨List.takeWhile_cons_of_neg hc, List.dropWhile_cons_of_neg hc⟩
  rw [List.takeWhile_append_of_pos hdigits, List.dropWhile_append_of_pos hdigits, htake.1, htake.2,
    List.append_nil]

/-- The text of a number: what JSON allows. -/
structure NumberText where
  sign : Text
  whole : Text
  fraction : Text
  exponent : Text
  sign_eq : sign = [] ∨ sign = ['-']
  whole_isDigit : ∀ c ∈ whole, c.isDigit = true
  whole_ne_nil : whole ≠ []
  /-- Only zero itself starts with a zero. -/
  zero_of_head : whole.head? = some '0' → whole = ['0']
  fraction_eq : fraction = [] ∨
    ∃ digits, digits ≠ [] ∧ (∀ c ∈ digits, c.isDigit = true) ∧ fraction = '.' :: digits
  exponent_eq : exponent = [] ∨ ∃ e sign digits, (e = 'e' ∨ e = 'E') ∧
    (sign = [] ∨ sign = ['-'] ∨ sign = ['+']) ∧ digits ≠ [] ∧
    (∀ c ∈ digits, c.isDigit = true) ∧ exponent = e :: sign ++ digits

namespace NumberText

variable (number : NumberText)

/-- The whole text. -/
def text : Text := number.sign ++ number.whole ++ number.fraction ++ number.exponent

variable {number} {rest : Text}

theorem loadSign_text : loadSign (number.sign ++ (number.whole ++ rest)) =
    (number.sign, number.whole ++ rest) := by
  rcases number.sign_eq with hsign | hsign
  · rw [hsign, List.nil_append]
    obtain ⟨c, whole, hwhole⟩ := List.exists_cons_of_ne_nil number.whole_ne_nil
    have hc := number.whole_isDigit c (by simp [hwhole])
    rw [hwhole, List.cons_append, loadSign]
    intro rest' heq
    rw [(List.cons.inj heq).1] at hc
    exact absurd hc (by decide)
  · rw [hsign]
    rfl

theorem loadWhole_text (hrest : ∀ c ∈ rest.head?, c.isDigit = false) :
    loadWhole (number.whole ++ rest) = (number.whole, rest) := by
  by_cases hzero : number.whole.head? = some '0'
  · rw [number.zero_of_head hzero]
    rfl
  · rw [loadWhole, span_digits number.whole_isDigit hrest]
    intro rest' heq
    obtain ⟨c, whole, hwhole⟩ := List.exists_cons_of_ne_nil number.whole_ne_nil
    rw [hwhole] at heq hzero
    exact hzero (by rw [(List.cons.inj heq).1]; rfl)

theorem loadFraction_text (hrest : ∀ c ∈ rest.head?, c.isDigit = false ∧ c ≠ '.') :
    loadFraction (number.fraction ++ rest) = (number.fraction, rest) := by
  rcases number.fraction_eq with hnil | ⟨digits, hne, hdigits, heq⟩
  · rw [hnil, List.nil_append]
    cases rest with
    | nil => rfl
    | cons c rest =>
        rw [loadFraction]
        intro rest' heq
        exact (hrest c rfl).2 (List.cons.inj heq).1
  · rw [heq, List.cons_append, loadFraction, span_digits hdigits fun c hc => (hrest c hc).1]
    cases digits with
    | nil => exact absurd rfl hne
    | cons c digits => rfl

theorem loadExponentSign_of {sign digits : Text} (hsign : sign = [] ∨ sign = ['-'] ∨ sign = ['+'])
    (hne : digits ≠ []) (hdigits : ∀ c ∈ digits, c.isDigit = true) :
    loadExponentSign (sign ++ (digits ++ rest)) = (sign, digits ++ rest) := by
  rcases hsign with rfl | rfl | rfl
  · obtain ⟨c, digits, rfl⟩ := List.exists_cons_of_ne_nil hne
    have hc := hdigits c (by simp)
    rw [List.nil_append, List.cons_append, loadExponentSign]
    · intro rest' heq
      rw [(List.cons.inj heq).1] at hc
      exact absurd hc (by decide)
    · intro rest' heq
      rw [(List.cons.inj heq).1] at hc
      exact absurd hc (by decide)
  · rfl
  · rfl

theorem loadExponent_text (hrest : Ends rest) :
    loadExponent (number.exponent ++ rest) = (number.exponent, rest) := by
  rcases number.exponent_eq with hnil | ⟨e, sign, digits, he, hsign, hne, hdigits, heq⟩
  · rw [hnil, List.nil_append]
    cases rest with
    | nil => rfl
    | cons c rest =>
        obtain ⟨-, -, hlower, hupper⟩ := hrest c rfl
        rw [loadExponent, if_neg (by simp [hlower, hupper])]
  · rw [heq, List.cons_append, List.cons_append, List.append_assoc, loadExponent, if_pos he,
      loadExponentSign_of hsign hne hdigits]
    simp only [span_digits hdigits fun c hc => (hrest c hc).1]
    cases digits with
    | nil => exact absurd rfl hne
    | cons c digits => rfl

/-- What follows a part of a number does not go on like the part. -/
theorem head_exponent {c : Char} (hrest : Ends rest) (hc : c ∈ (number.exponent ++ rest).head?) :
    c.isDigit = false ∧ c ≠ '.' := by
  rcases number.exponent_eq with hnil | ⟨e, sign, digits, he, -, -, -, heq⟩
  · rw [hnil, List.nil_append] at hc
    exact ⟨(hrest c hc).1, (hrest c hc).2.1⟩
  · rw [heq, List.cons_append, List.cons_append, List.head?_cons, Option.mem_some_iff] at hc
    subst hc
    rcases he with rfl | rfl
    · exact ⟨by decide, by decide⟩
    · exact ⟨by decide, by decide⟩

theorem head_fraction {c : Char} (hrest : Ends rest)
    (hc : c ∈ (number.fraction ++ (number.exponent ++ rest)).head?) : c.isDigit = false := by
  rcases number.fraction_eq with hnil | ⟨digits, -, -, heq⟩
  · rw [hnil, List.nil_append] at hc
    exact (head_exponent hrest hc).1
  · rw [heq, List.cons_append, List.head?_cons, Option.mem_some_iff] at hc
    subst hc
    decide

/-- A number is read to its end. -/
theorem loadNumber_text (float : Text → PyFloat) (hrest : Ends rest) :
    loadNumber float (number.text ++ rest) =
      if number.fraction = [] ∧ number.exponent = [] then
        if maxStrDigits < number.whole.length then .error .tooLong
        else .ok (.int (signedInt number.sign number.whole), rest)
      else .ok (.float (float number.text), rest) := by
  have hsign : loadSign (number.sign ++ (number.whole ++
      (number.fraction ++ (number.exponent ++ rest)))) = _ := loadSign_text
  have hwhole : loadWhole (number.whole ++ (number.fraction ++ (number.exponent ++ rest))) = _ :=
    loadWhole_text fun c hc => head_fraction hrest hc
  have hfraction : loadFraction (number.fraction ++ (number.exponent ++ rest)) = _ :=
    loadFraction_text fun c hc => head_exponent hrest hc
  have hexponent : loadExponent (number.exponent ++ rest) = _ := loadExponent_text hrest
  simp only [text, List.append_assoc, loadNumber, hsign, hwhole, hfraction, hexponent]
  rw [if_neg number.whole_ne_nil]

end NumberText

/-- Only the digits of zero start with a zero. -/
theorem zero_of_head_toDigits {n : Nat} (h : (Nat.toDigits 10 n).head? = some '0') :
    Nat.toDigits 10 n = ['0'] := by
  induction n using Nat.strong_induction_on with
  | _ n ih =>
      rcases Nat.lt_or_ge n 10 with hlt | hge
      · have hall : ∀ n < 10, n.digitChar = '0' → n = 0 := by decide
        rw [Nat.toDigits_of_lt_base hlt, List.head?_cons, Option.some.injEq] at h
        rw [hall n hlt h]
        rfl
      · have hpos : 0 < n / 10 := Nat.div_pos hge (by decide)
        rw [Nat.toDigits_of_base_le (by decide) hge, List.head?_append_of_ne_nil _
          Nat.toDigits_ne_nil] at h
        have hzero : Nat.toDigits 10 (n / 10) = Nat.toDigits 10 0 :=
          ih (n / 10) (Nat.div_lt_self (by omega) (by decide)) h
        exact absurd (toDigits_injective hzero) (Nat.ne_of_gt hpos)

/-- An integer as a number. -/
def NumberText.ofInt (n : ℤ) : NumberText where
  sign := if n < 0 then ['-'] else []
  whole := Nat.toDigits 10 n.natAbs
  fraction := []
  exponent := []
  sign_eq := by split <;> simp
  whole_isDigit _ hc := isDigit_of_mem_toDigits hc
  whole_ne_nil := Nat.toDigits_ne_nil
  zero_of_head h := zero_of_head_toDigits h
  fraction_eq := .inl rfl
  exponent_eq := .inl rfl

theorem text_ofInt (n : ℤ) : (NumberText.ofInt n).text = decimal n := by
  cases n with
  | ofNat n => simp [NumberText.text, NumberText.ofInt, decimal]
  | negSucc n => simp [NumberText.text, NumberText.ofInt, decimal, Int.negSucc_lt_zero]

theorem signedInt_ofInt (n : ℤ) :
    signedInt (NumberText.ofInt n).sign (NumberText.ofInt n).whole = n := by
  cases n with
  | ofNat n => simp [signedInt, NumberText.ofInt, Nat.ofDigitChars_ten_toDigits]
  | negSucc n =>
      simp only [signedInt, NumberText.ofInt, Int.negSucc_lt_zero, if_true, reduceCtorEq, if_false,
        Nat.ofDigitChars_ten_toDigits, Int.natAbs_negSucc]
      rfl

/-! ### Words and numbers as values -/

section Scalars

variable {float : Text → PyFloat} {rest : Text} {fuel : Nat}

theorem loadValue_scalar {c : Char} {text : Text} (hquote : c ≠ '"') (hbracket : c ≠ '[')
    (hbrace : c ≠ '{') :
    loadValue float (fuel + 1) (c :: text) =
      ((loadWord (c :: text)).map .ok).getD (loadNumber float (c :: text)) := by
  rw [loadValue]
  · cases loadWord (c :: text) <;> rfl
  · intro rest heq
    exact hquote (List.cons.inj heq).1
  · intro rest heq
    exact hbracket (List.cons.inj heq).1
  · intro rest heq
    exact hbrace (List.cons.inj heq).1

theorem loadWord_word {word : Text} {value : Json} (h : (word, value) ∈ jsonWords) :
    loadWord (word ++ rest) = some (value, rest) := by
  simp only [jsonWords, List.mem_cons, Prod.mk.injEq, List.not_mem_nil, or_false] at h
  rcases h with ⟨rfl, rfl⟩ | ⟨rfl, rfl⟩ | ⟨rfl, rfl⟩ | ⟨rfl, rfl⟩ | ⟨rfl, rfl⟩ | ⟨rfl, rfl⟩ <;>
    simp [loadWord, jsonWords, List.dropPrefix?]

theorem loadValue_word {word : Text} {value : Json} (h : (word, value) ∈ jsonWords) :
    loadValue float (fuel + 1) (word ++ rest) = .ok (value, rest) := by
  have hhead : ∀ e ∈ jsonWords, e.1.head? ∉ [none, some '"', some '[', some '{'] := by decide
  have hword : loadWord (word ++ rest) = some (value, rest) := loadWord_word h
  cases word with
  | nil => exact absurd (by simp) (hhead _ h)
  | cons c text =>
      have hc := hhead _ h
      simp only [List.head?_cons, List.mem_cons, reduceCtorEq, Option.some.injEq, List.not_mem_nil,
        or_false, false_or, not_or] at hc
      rw [List.cons_append] at hword ⊢
      rw [loadValue_scalar hc.1 hc.2.1 hc.2.2, hword]
      rfl

/-- The first character of a number, and what comes after a minus sign. -/
theorem NumberText.head_text (number : NumberText) :
    ∃ c text, number.text = c :: text ∧ (c.isDigit = true ∨
      c = '-' ∧ ∃ d text', text = d :: text' ∧ d.isDigit = true) := by
  obtain ⟨d, whole, hwhole⟩ := List.exists_cons_of_ne_nil number.whole_ne_nil
  have hd := number.whole_isDigit d (by simp [hwhole])
  rcases number.sign_eq with hsign | hsign
  · exact ⟨d, _, by rw [NumberText.text, hsign, hwhole]; rfl, .inl hd⟩
  · exact ⟨'-', _, by rw [NumberText.text, hsign, hwhole]; rfl, .inr ⟨rfl, d, _, rfl, hd⟩⟩

theorem loadWord_number (number : NumberText) : loadWord (number.text ++ rest) = none := by
  have hne : ∀ {c : Char}, c.isDigit = true → ∀ d ∈ ['n', 't', 'f', 'N', 'I', '-'], c ≠ d := by
    intro c hc d hd heq
    have hall : ∀ d ∈ ['n', 't', 'f', 'N', 'I', '-'], d.isDigit = false := by decide
    rw [heq, hall d hd] at hc
    cases hc
  obtain ⟨c, text, htext, hc | ⟨rfl, d, text', rfl, hd⟩⟩ := number.head_text
  · have hother := hne hc
    simp only [List.forall_mem_cons] at hother
    rw [htext]
    simp [loadWord, jsonWords, List.dropPrefix?, hother]
  · have hother := hne hd
    simp only [List.forall_mem_cons] at hother
    rw [htext]
    simp [loadWord, jsonWords, List.dropPrefix?, hother]

theorem loadValue_number (number : NumberText) (hrest : Ends rest) :
    loadValue float (fuel + 1) (number.text ++ rest) =
      if number.fraction = [] ∧ number.exponent = [] then
        if maxStrDigits < number.whole.length then .error .tooLong
        else .ok (.int (signedInt number.sign number.whole), rest)
      else .ok (.float (float number.text), rest) := by
  rw [← NumberText.loadNumber_text float hrest]
  obtain ⟨c, text, htext, hc⟩ := number.head_text
  have hhead : ∀ d, d.isDigit = false → d ≠ '-' → c ≠ d := by
    rintro d hd hminus rfl
    rcases hc with hc | ⟨rfl, -⟩
    · rw [hc] at hd
      cases hd
    · exact hminus rfl
  have hword : loadWord (number.text ++ rest) = none := loadWord_number number
  rw [htext, List.cons_append] at hword ⊢
  rw [loadValue_scalar (hhead _ (by decide) (by decide)) (hhead _ (by decide) (by decide))
    (hhead _ (by decide) (by decide)), hword]
  rfl

end Scalars

/-! ### Documents -/

/-- `repr` writes a float as a number with a fraction or an exponent, and `float` reads it back. -/
def Builtins.ReadsFloat (py : Builtins) (float : Text → PyFloat) (q : ℚ) : Prop :=
  ∃ number : NumberText, ¬ (number.fraction = [] ∧ number.exponent = []) ∧
    py.repr (.float (.finite q)) = number.text ∧ float number.text = .finite q

/-- A number can be written and read back. -/
def Builtins.ReadsNumber (py : Builtins) (float : Text → PyFloat) : Json → Prop
  | .int n => n.natAbs < 10 ^ maxStrDigits
  | .float (.finite q) => py.ReadsFloat float q
  | _ => True

section RoundTrip

variable {py : Builtins} {style : JsonStyle} {float : Text → PyFloat}

theorem dumpsValue_float (level : Nat) (x : PyFloat) :
    dumpsValue py style level (.float x) = py.dumpsFloat x := by
  rw [dumpsValue]

theorem dumpsFloat_finite (q : ℚ) :
    py.dumpsFloat (.finite q) = py.repr (.float (.finite q)) := rfl

theorem dumpsValue_arr (level : Nat) {items : List Json} (hne : items ≠ []) :
    dumpsValue py style level (.arr items) = '[' :: style.newline (level + 1) ++
      dumpsItems py style (level + 1) items ++ style.newline level ++ [']'] := by
  rw [dumpsValue]
  exact hne

theorem dumpsValue_obj (level : Nat) {members : List (String × Json)} (hne : members ≠ []) :
    dumpsValue py style level (.obj members) = '{' :: style.newline (level + 1) ++
      dumpsMembers py style (level + 1) members ++ style.newline level ++ ['}'] := by
  rw [dumpsValue]
  exact hne

theorem skipSpaces_cons {c : Char} (h : isJsonSpace c = false) (text : Text) :
    skipSpaces (c :: text) = c :: text := by
  rw [skipSpaces, List.dropWhile_cons_of_neg (by simp [h])]

theorem skipSpaces_append {spaces : Text} (h : ∀ c ∈ spaces, isJsonSpace c = true) (text : Text) :
    skipSpaces (spaces ++ text) = skipSpaces text := by
  rw [skipSpaces, List.dropWhile_append_of_pos h, skipSpaces]

theorem isJsonSpace_of_mem_newline {level : Nat} {c : Char} (h : c ∈ style.newline level) :
    isJsonSpace c = true := by
  unfold JsonStyle.newline at h
  cases hindent : style.indent with
  | none => simp [hindent] at h
  | some width =>
      rw [hindent] at h
      rcases List.mem_cons.mp h with rfl | h
      · rfl
      · rw [List.eq_of_mem_replicate h]
        rfl

theorem skipSpaces_newline (level : Nat) {c : Char} (h : isJsonSpace c = false) (text : Text) :
    skipSpaces (style.newline level ++ c :: text) = c :: text := by
  rw [skipSpaces_append fun _ hc => isJsonSpace_of_mem_newline hc, skipSpaces_cons h]

variable (style) in
/-- A separator is a comma and white space. -/
theorem separator_eq (level : Nat) :
    ∃ spaces, style.separator level = ',' :: spaces ∧ ∀ c ∈ spaces, isJsonSpace c = true := by
  unfold JsonStyle.separator
  cases style.indent with
  | none => exact ⟨[' '], rfl, by decide⟩
  | some width => exact ⟨_, rfl, fun _ hc => isJsonSpace_of_mem_newline hc⟩

theorem ends_of_head {c : Char} (h : c ∈ [',', ']', '}', '\n']) (text : Text) : Ends (c :: text) := by
  intro d hd
  cases hd
  have hall : ∀ c ∈ [',', ']', '}', '\n'], c.isDigit = false ∧ c ≠ '.' ∧ c ≠ 'e' ∧ c ≠ 'E' := by
    decide
  exact hall _ h

theorem ends_newline (level : Nat) {c : Char} (h : c ∈ [',', ']', '}', '\n']) (text : Text) :
    Ends (style.newline level ++ c :: text) := by
  unfold JsonStyle.newline
  cases style.indent with
  | none => exact ends_of_head h text
  | some width => exact ends_of_head (by decide) _

theorem ends_separator (level : Nat) (text : Text) : Ends (style.separator level ++ text) := by
  obtain ⟨spaces, hspaces, -⟩ := separator_eq style level
  rw [hspaces]
  exact ends_of_head (by decide) _

variable (style) in
/-- A value starts with a character that is neither white space nor a closing bracket. -/
theorem head_dumpsValue (level : Nat) {value : Json}
    (hnumbers : ∀ x ∈ value.numbers, py.ReadsNumber float x) :
    ∃ c text, dumpsValue py style level value = c :: text ∧ isJsonSpace c = false ∧ c ≠ ']' := by
  have hnumber (number : NumberText) :
      ∃ c text, number.text = c :: text ∧ isJsonSpace c = false ∧ c ≠ ']' := by
    obtain ⟨c, text, htext, hc | ⟨rfl, -⟩⟩ := number.head_text
    · refine ⟨c, text, htext, ?_, ?_⟩
      · simp only [isJsonSpace, decide_eq_false_iff_not]
        intro hmem
        have hall : ∀ c ∈ [' ', '\t', '\n', '\r'], c.isDigit = false := by decide
        rw [hall c hmem] at hc
        cases hc
      · rintro rfl
        exact absurd hc (by decide)
    · exact ⟨'-', text, htext, rfl, by decide⟩
  cases value with
  | null => exact ⟨'n', _, rfl, rfl, by decide⟩
  | bool b => cases b with
    | true => exact ⟨'t', _, rfl, rfl, by decide⟩
    | false => exact ⟨'f', _, rfl, rfl, by decide⟩
  | int n =>
      have hvalue : dumpsValue py style level (.int n) = (NumberText.ofInt n).text := by
        rw [dumpsValue, text_ofInt]
      rw [hvalue]
      exact hnumber (.ofInt n)
  | float x =>
      cases x with
      | finite q =>
          rw [Json.numbers] at hnumbers
          obtain ⟨number, -, hrepr, -⟩ := hnumbers _ List.mem_cons_self
          rw [dumpsValue_float, dumpsFloat_finite, hrepr]
          exact hnumber number
      | inf => exact ⟨'I', _, rfl, rfl, by decide⟩
      | negInf => exact ⟨'-', _, rfl, rfl, by decide⟩
      | nan => exact ⟨'N', _, rfl, rfl, by decide⟩
  | str s => exact ⟨'"', _, rfl, rfl, by decide⟩
  | arr items => cases items with
    | nil => exact ⟨'[', _, rfl, rfl, by decide⟩
    | cons item items =>
        exact ⟨'[', _, dumpsValue_arr level (List.cons_ne_nil _ _), rfl, by decide⟩
  | obj members => cases members with
    | nil => exact ⟨'{', _, rfl, rfl, by decide⟩
    | cons member members =>
        exact ⟨'{', _, dumpsValue_obj level (List.cons_ne_nil _ _), rfl, by decide⟩

/-- Before a value there may be white space. -/
theorem skipSpaces_dumpsValue {spaces : Text} (hspaces : ∀ c ∈ spaces, isJsonSpace c = true)
    (level : Nat) {value : Json} (hnumbers : ∀ x ∈ value.numbers, py.ReadsNumber float x)
    (text : Text) :
    skipSpaces (spaces ++ (dumpsValue py style level value ++ text)) =
      dumpsValue py style level value ++ text := by
  obtain ⟨c, front, heq, hc, -⟩ := head_dumpsValue style level hnumbers
  rw [skipSpaces_append hspaces, heq, List.cons_append, skipSpaces_cons hc]

theorem JsonStyle.length_string_pos (style : JsonStyle) (text : Text) :
    0 < (style.string text).length := by
  simp [JsonStyle.string]

/-- A string as a value. -/
theorem loadValue_string (text rest : Text) (fuel : Nat) :
    loadValue float (fuel + 1) (style.string text ++ rest) =
      .ok (.str (String.ofList text), rest) := by
  have hstring : style.string text ++ rest = '"' :: (text.flatMap style.escape ++ '"' :: rest) := by
    simp [JsonStyle.string]
  rw [hstring, loadValue, loadString_string]
  rfl

/-- A value that is written as a word. -/
theorem loadValue_dumpsWord {level fuel : Nat} {value : Json} {word rest : Text}
    (hvalue : dumpsValue py style level value = word) (hword : (word, value) ∈ jsonWords) :
    loadValue float (fuel + 1) (dumpsValue py style level value ++ rest) = .ok (value, rest) := by
  rw [hvalue]
  exact loadValue_word hword

/-- A list that is not empty, when its items can be read. -/
theorem loadValue_arr {fuel level : Nat} {items : List Json} {inner rest : Text}
    {c : Char} {front : Text} (hinner : inner = c :: front) (hspace : isJsonSpace c = false)
    (hbracket : c ≠ ']') (hitems : loadItems float fuel inner = .ok (items, rest)) :
    loadValue float (fuel + 1) ('[' :: (style.newline level ++ inner)) =
      .ok (.arr items, rest) := by
  have hskip : skipSpaces (style.newline level ++ inner) = inner := by
    rw [hinner, skipSpaces_newline level hspace]
  rw [loadValue, hskip]
  split
  · exact absurd (List.cons.inj hinner).1.symm hbracket
  · rw [hitems]
    rfl

/-- An object that is not empty, when its members can be read. -/
theorem loadValue_obj {fuel level : Nat} {members : List (String × Json)} {inner rest : Text}
    {front : Text} (hinner : inner = '"' :: front)
    (hmembers : loadMembers float fuel inner = .ok (members, rest)) :
    loadValue float (fuel + 1) ('{' :: (style.newline level ++ inner)) =
      .ok (.obj members, rest) := by
  have hskip : skipSpaces (style.newline level ++ inner) = inner := by
    rw [hinner, skipSpaces_newline level rfl]
  rw [loadValue, hskip]
  split
  · exact absurd (List.cons.inj hinner).1 (by decide)
  · rw [hmembers]
    rfl

/-- The last item. -/
theorem loadItems_last {fuel level : Nat} {item : Json} {text rest : Text}
    (hitem : loadValue float fuel text = .ok (item, style.newline level ++ ']' :: rest)) :
    loadItems float (fuel + 1) text = .ok ([item], rest) := by
  rw [loadItems, hitem]
  simp only [ok_bind, skipSpaces_newline (c := ']') level rfl]

/-- An item before others. -/
theorem loadItems_cons {fuel level : Nat} {item : Json} {items : List Json} {text inner rest : Text}
    (hitem : loadValue float fuel text = .ok (item, style.separator level ++ inner))
    (hinner : ∀ spaces, (∀ c ∈ spaces, isJsonSpace c = true) → skipSpaces (spaces ++ inner) = inner)
    (hitems : loadItems float fuel inner = .ok (items, rest)) :
    loadItems float (fuel + 1) text = .ok (item :: items, rest) := by
  obtain ⟨spaces, hseparator, hspaces⟩ := separator_eq style level
  rw [hseparator, List.cons_append] at hitem
  rw [loadItems, hitem]
  simp only [ok_bind, skipSpaces_cons (c := ',') rfl,
    hinner spaces hspaces, hitems]

/-- A key and its colon. -/
theorem string_colon (key inner : Text) : style.string key ++ (": ".toList ++ inner) =
    '"' :: (key.flatMap style.escape ++ '"' :: (':' :: ' ' :: inner)) := by
  simp [JsonStyle.string]

/-- The last member. -/
theorem loadMembers_last {fuel level : Nat} {key : Text} {value : Json} {inner rest : Text}
    (hinner : ∀ spaces, (∀ c ∈ spaces, isJsonSpace c = true) → skipSpaces (spaces ++ inner) = inner)
    (hvalue : loadValue float fuel inner = .ok (value, style.newline level ++ '}' :: rest)) :
    loadMembers float (fuel + 1) (style.string key ++ (": ".toList ++ inner)) =
      .ok ([(String.ofList key, value)], rest) := by
  have hspace := hinner [' '] (by decide)
  rw [List.singleton_append] at hspace
  rw [string_colon, loadMembers, loadString_string]
  simp only [orDecodeError, ok_bind, skipSpaces_cons (c := ':') rfl, hspace, hvalue,
    skipSpaces_newline (c := '}') level rfl]

/-- A member before others. -/
theorem loadMembers_cons {fuel level : Nat} {key : Text} {value : Json} {inner more rest : Text}
    {members : List (String × Json)}
    (hinner : ∀ spaces, (∀ c ∈ spaces, isJsonSpace c = true) → skipSpaces (spaces ++ inner) = inner)
    (hvalue : loadValue float fuel inner = .ok (value, style.separator level ++ more))
    (hmore : ∀ spaces, (∀ c ∈ spaces, isJsonSpace c = true) → skipSpaces (spaces ++ more) = more)
    (hmembers : loadMembers float fuel more = .ok (members, rest)) :
    loadMembers float (fuel + 1) (style.string key ++ (": ".toList ++ inner)) =
      .ok ((String.ofList key, value) :: members, rest) := by
  obtain ⟨spaces, hseparator, hspaces⟩ := separator_eq style level
  rw [hseparator, List.cons_append] at hvalue
  have hspace := hinner [' '] (by decide)
  rw [List.singleton_append] at hspace
  rw [string_colon, loadMembers, loadString_string]
  simp only [orDecodeError, ok_bind, skipSpaces_cons (c := ':') rfl, hspace, hvalue,
    skipSpaces_cons (c := ',') rfl, hmore spaces hspaces, hmembers]

theorem dumpsItems_cons (level : Nat) (item next : Json) (items : List Json) :
    dumpsItems py style level (item :: next :: items) = dumpsValue py style level item ++
      style.separator level ++ dumpsItems py style level (next :: items) := by
  rw [dumpsItems]
  exact List.cons_ne_nil _ _

theorem dumpsMembers_cons (level : Nat) (member next : String × Json)
    (members : List (String × Json)) :
    dumpsMembers py style level (member :: next :: members) = style.string member.1.toList ++
      ": ".toList ++ dumpsValue py style level member.2 ++ style.separator level ++
      dumpsMembers py style level (next :: members) := by
  rw [dumpsMembers]
  exact List.cons_ne_nil _ _

variable (py style) in
/-- Items start like the first of them. -/
theorem dumpsItems_eq_append (level : Nat) (item : Json) (items : List Json) :
    ∃ text, dumpsItems py style level (item :: items) = dumpsValue py style level item ++ text := by
  cases items with
  | nil => exact ⟨[], by rw [dumpsItems, List.append_nil]⟩
  | cons next items => exact ⟨_, by rw [dumpsItems_cons, List.append_assoc]⟩

variable (py style) in
theorem dumpsMembers_eq_append (level : Nat) (member : String × Json)
    (members : List (String × Json)) :
    ∃ text, dumpsMembers py style level (member :: members) = '"' :: text := by
  cases members with
  | nil => exact ⟨_, by rw [dumpsMembers, JsonStyle.string]; rfl⟩
  | cons next members => exact ⟨_, by rw [dumpsMembers_cons, JsonStyle.string]; rfl⟩

variable (style) in
theorem head_dumpsItems (level : Nat) (item : Json) (items : List Json)
    (hnumbers : ∀ x ∈ item.numbers, py.ReadsNumber float x) (text : Text) :
    ∃ c front, dumpsItems py style level (item :: items) ++ text = c :: front ∧
      isJsonSpace c = false ∧ c ≠ ']' := by
  obtain ⟨c, front, hfront, hc⟩ := head_dumpsValue style level hnumbers
  obtain ⟨after, hafter⟩ := dumpsItems_eq_append py style level item items
  exact ⟨c, front ++ after ++ text, by rw [hafter, hfront]; simp, hc⟩

/-- Before items there may be white space. -/
theorem skipSpaces_dumpsItems {spaces : Text} (hspaces : ∀ c ∈ spaces, isJsonSpace c = true)
    (level : Nat) (item : Json) (items : List Json)
    (hnumbers : ∀ x ∈ item.numbers, py.ReadsNumber float x) (text : Text) :
    skipSpaces (spaces ++ (dumpsItems py style level (item :: items) ++ text)) =
      dumpsItems py style level (item :: items) ++ text := by
  obtain ⟨c, front, hfront, hc, -⟩ := head_dumpsItems style level item items
    hnumbers text
  rw [skipSpaces_append hspaces, hfront, skipSpaces_cons hc]

theorem skipSpaces_dumpsMembers {spaces : Text} (hspaces : ∀ c ∈ spaces, isJsonSpace c = true)
    (level : Nat) (member : String × Json) (members : List (String × Json)) (text : Text) :
    skipSpaces (spaces ++ (dumpsMembers py style level (member :: members) ++ text)) =
      dumpsMembers py style level (member :: members) ++ text := by
  obtain ⟨front, hfront⟩ := dumpsMembers_eq_append py style level member members
  rw [skipSpaces_append hspaces, hfront, List.cons_append, skipSpaces_cons (c := '"') rfl]

mutual

/-- A document that was written is read. -/
theorem loadValue_dumpsValue (value : Json) (hnumbers : ∀ x ∈ value.numbers, py.ReadsNumber float x)
    (level : Nat) {rest : Text} (hrest : Ends rest) {fuel : Nat}
    (hfuel : 2 * (dumpsValue py style level value).length < fuel) :
    loadValue float fuel (dumpsValue py style level value ++ rest) = .ok (value, rest) := by
  obtain ⟨fuel, rfl⟩ := Nat.exists_eq_succ_of_ne_zero (Nat.ne_zero_of_lt hfuel)
  match hmatch : value with
  | .null => exact loadValue_dumpsWord (by rw [dumpsValue]) (by simp [jsonWords])
  | .bool true => exact loadValue_dumpsWord (by rw [dumpsValue]) (by simp [jsonWords])
  | .bool false => exact loadValue_dumpsWord (by rw [dumpsValue]) (by simp [jsonWords])
  | .int n =>
      have hvalue : dumpsValue py style level (.int n) = (NumberText.ofInt n).text := by
        rw [dumpsValue, text_ofInt]
      have hshort : n.natAbs < 10 ^ maxStrDigits := hnumbers (.int n) List.mem_cons_self
      have hlength : (NumberText.ofInt n).whole.length ≤ maxStrDigits :=
        (Nat.length_toDigits_le_iff (by decide) (by decide)).mpr hshort
      rw [hvalue, loadValue_number _ hrest, if_pos ⟨rfl, rfl⟩, signedInt_ofInt,
        if_neg (Nat.not_lt.mpr hlength)]
  | .float .inf =>
      have hvalue : dumpsValue py style level (.float .inf) = "Infinity".toList :=
        dumpsValue_float level _
      exact loadValue_dumpsWord hvalue (by simp [jsonWords])
  | .float .negInf =>
      have hvalue : dumpsValue py style level (.float .negInf) = "-Infinity".toList :=
        dumpsValue_float level _
      exact loadValue_dumpsWord hvalue (by simp [jsonWords])
  | .float .nan =>
      have hvalue : dumpsValue py style level (.float .nan) = "NaN".toList :=
        dumpsValue_float level _
      exact loadValue_dumpsWord hvalue (by simp [jsonWords])
  | .float (.finite q) =>
      rw [Json.numbers] at hnumbers
      obtain ⟨number, hnotInt, hrepr, hread⟩ := hnumbers _ List.mem_cons_self
      rw [dumpsValue_float, dumpsFloat_finite, hrepr, loadValue_number _ hrest, if_neg hnotInt,
        hread]
  | .str s =>
      rw [dumpsValue, loadValue_string, String.ofList_toList]
  | .arr [] => rfl
  | .arr (item :: items) =>
      rw [Json.numbers] at hnumbers
      rw [dumpsValue_arr level (List.cons_ne_nil _ _)] at hfuel ⊢
      simp only [List.length_append, List.length_cons, List.length_nil] at hfuel
      have hitems := loadItems_dumpsItems item items hnumbers (level + 1) level rest fuel (by omega)
      rw [Json.numbersOfItems] at hnumbers
      obtain ⟨c, front, hfront, hspace, hbracket⟩ := head_dumpsItems style (level + 1) item items
        (fun x hx => hnumbers x (List.mem_append_left _ hx)) (style.newline level ++ ']' :: rest)
      have hvalue : loadValue float (fuel + 1) ('[' :: (style.newline (level + 1) ++ _)) = _ :=
        loadValue_arr hfront hspace hbracket hitems
      simpa only [List.cons_append, List.append_assoc, List.nil_append] using hvalue
  | .obj [] => rfl
  | .obj ((key, value) :: members) =>
      rw [Json.numbers] at hnumbers
      rw [dumpsValue_obj level (List.cons_ne_nil _ _)] at hfuel ⊢
      simp only [List.length_append, List.length_cons, List.length_nil] at hfuel
      have hmembers := loadMembers_dumpsMembers key value members hnumbers (level + 1) level rest
        fuel (by omega)
      obtain ⟨front, hfront⟩ := dumpsMembers_eq_append py style (level + 1)
        (key, value) members
      have hinner : dumpsMembers py style (level + 1) ((key, value) :: members) ++
          (style.newline level ++ '}' :: rest) =
            '"' :: (front ++ (style.newline level ++ '}' :: rest)) := by
        rw [hfront, List.cons_append]
      have hvalue : loadValue float (fuel + 1) ('{' :: (style.newline (level + 1) ++ _)) = _ :=
        loadValue_obj hinner hmembers
      simpa only [List.cons_append, List.append_assoc, List.nil_append] using hvalue
termination_by sizeOf value

/-- So are items, up to the closing bracket. -/
theorem loadItems_dumpsItems (item : Json) (items : List Json)
    (hnumbers : ∀ x ∈ Json.numbersOfItems (item :: items), py.ReadsNumber float x)
    (level closing : Nat) (rest : Text) (fuel : Nat)
    (hfuel : 2 * (dumpsItems py style level (item :: items)).length + 1 < fuel) :
    loadItems float fuel
      (dumpsItems py style level (item :: items) ++ (style.newline closing ++ ']' :: rest)) =
        .ok (item :: items, rest) := by
  obtain ⟨fuel, rfl⟩ := Nat.exists_eq_succ_of_ne_zero (Nat.ne_zero_of_lt hfuel)
  rw [Json.numbersOfItems] at hnumbers
  have hitem : ∀ x ∈ item.numbers, py.ReadsNumber float x :=
    fun x hx => hnumbers x (List.mem_append_left _ hx)
  match hmatch : items with
  | [] =>
      rw [dumpsItems] at hfuel ⊢
      exact loadItems_last (loadValue_dumpsValue item hitem level
        (ends_newline closing (by decide) rest) (by omega))
  | next :: items =>
      have hothers : ∀ x ∈ Json.numbersOfItems (next :: items), py.ReadsNumber float x :=
        fun x hx => hnumbers x (List.mem_append_right _ hx)
      rw [dumpsItems_cons] at hfuel ⊢
      rw [List.length_append, List.length_append] at hfuel
      obtain ⟨spaces, hseparator, -⟩ := separator_eq style level
      have hcomma : 0 < (style.separator level).length := by
        rw [hseparator]
        exact Nat.succ_pos _
      rw [List.append_assoc, List.append_assoc]
      refine loadItems_cons (loadValue_dumpsValue item hitem level (ends_separator level _)
        (by omega)) ?_ (loadItems_dumpsItems next items hothers level closing rest fuel (by omega))
      intro spaces hspaces
      rw [Json.numbersOfItems] at hothers
      exact skipSpaces_dumpsItems hspaces level next items
        (fun x hx => hothers x (List.mem_append_left _ hx)) _
termination_by sizeOf item + sizeOf items + 1

/-- And members, up to the closing brace. -/
theorem loadMembers_dumpsMembers (key : String) (value : Json) (members : List (String × Json))
    (hnumbers : ∀ x ∈ Json.numbersOfMembers ((key, value) :: members), py.ReadsNumber float x)
    (level closing : Nat) (rest : Text) (fuel : Nat)
    (hfuel : 2 * (dumpsMembers py style level ((key, value) :: members)).length + 1 < fuel) :
    loadMembers float fuel
      (dumpsMembers py style level ((key, value) :: members) ++
        (style.newline closing ++ '}' :: rest)) =
        .ok ((key, value) :: members, rest) := by
  obtain ⟨fuel, rfl⟩ := Nat.exists_eq_succ_of_ne_zero (Nat.ne_zero_of_lt hfuel)
  rw [Json.numbersOfMembers] at hnumbers
  have hvalue : ∀ x ∈ value.numbers, py.ReadsNumber float x :=
    fun x hx => hnumbers x (List.mem_append_left _ hx)
  match hmatch : members with
  | [] =>
      rw [dumpsMembers] at hfuel ⊢
      simp only [List.length_append] at hfuel
      rw [List.append_assoc, List.append_assoc]
      rw [loadMembers_last (fun spaces hspaces => skipSpaces_dumpsValue hspaces level hvalue _)
        (loadValue_dumpsValue value hvalue level (ends_newline closing (by decide) rest)
          (by omega)),
        String.ofList_toList]
  | (nextKey, next) :: members =>
      have hothers : ∀ x ∈ Json.numbersOfMembers ((nextKey, next) :: members),
          py.ReadsNumber float x :=
        fun x hx => hnumbers x (List.mem_append_right _ hx)
      rw [dumpsMembers_cons] at hfuel ⊢
      simp only [List.length_append] at hfuel
      have hkey := style.length_string_pos key.toList
      have hmembers :=
        loadMembers_dumpsMembers nextKey next members hothers level closing rest fuel (by omega)
      simp only [List.append_assoc]
      rw [loadMembers_cons (fun spaces hspaces => skipSpaces_dumpsValue hspaces level hvalue _)
        (loadValue_dumpsValue value hvalue level (ends_separator level _) (by omega))
        (fun spaces hspaces => skipSpaces_dumpsMembers hspaces level (nextKey, next) members _)
        hmembers, String.ofList_toList]
termination_by sizeOf value + sizeOf members + 1

end

/-- What is written in a style is read as the same document. -/
theorem loads_dumps (value : Json) (hnumbers : ∀ x ∈ value.numbers, py.ReadsNumber float x)
    {after : Text} (hafter : ∀ c ∈ after, isJsonSpace c = true) :
    loads float (dumpsValue py style 0 value ++ after) = .ok value := by
  have hends : Ends after := by
    intro c hc
    have hall : ∀ c ∈ [' ', '\t', '\n', '\r'], c.isDigit = false ∧ c ≠ '.' ∧ c ≠ 'e' ∧ c ≠ 'E' := by
      decide
    exact hall c (of_decide_eq_true (hafter c (List.mem_of_head? hc)))
  have hskip : skipSpaces after = [] := by
    have hempty := skipSpaces_append hafter []
    rwa [List.append_nil] at hempty
  have hread : loadValue float (2 * (dumpsValue py style 0 value ++ after).length + 1)
      (dumpsValue py style 0 value ++ after) = .ok (value, after) := by
    refine loadValue_dumpsValue value hnumbers 0 hends ?_
    rw [List.length_append]
    omega
  have hstart : skipSpaces ([] ++ (dumpsValue py style 0 value ++ after)) = _ :=
    skipSpaces_dumpsValue (by simp) 0 hnumbers after
  rw [List.nil_append] at hstart
  rw [loads, hstart, hread, ok_bind]
  exact if_pos hskip

end RoundTrip

end PxManager.Core
