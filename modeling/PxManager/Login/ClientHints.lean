import PxManager.Core.Newlines
import PxManager.Core.Replace
import PxManager.Login.Handler

/-!
# PxManager.Login.ClientHints

`parse_client_hint_string` of `main.py`, which reads quoted texts as `format_log_value` writes them.
-/

namespace PxManager.Login

open PxManager.Core

/-- `parse_client_hint_string`. -/
def parseClientHintString : Option Text → Text
  | none => []
  | some [] => []
  | some (c :: value) =>
      let value := strip (c :: value)
      if 2 ≤ value.length ∧ value.head? = some '"' ∧ value.getLast? = some '"' then
        replace ['\\', '\\'] ['\\'] (replace ['\\', '"'] ['"'] (value.drop 1).dropLast)
      else value

/-- What `format_log_value` does with a text that is neither empty nor `-`. -/
theorem formatLogValue_eq_replace {value : Text} (hnil : value ≠ []) (hdash : value ≠ ['-']) :
    formatLogValue value =
      '"' :: replace ['"'] ['\\', '"'] (replace ['\\'] ['\\', '\\'] value) ++ ['"'] := by
  rw [formatLogValue, if_neg (not_or.mpr ⟨hnil, hdash⟩), replace_singleton, replace_singleton]

/-- Of a quoted text, the two replacements get what is between the quotes. -/
theorem parseClientHintString_quoted (text : Text) :
    parseClientHintString (some ('"' :: text ++ ['"'])) =
      replace ['\\', '\\'] ['\\'] (replace ['\\', '"'] ['"'] text) := by
  have hlast : ('"' :: text ++ ['"']).getLast? = some '"' := List.getLast?_concat
  have hstrip : strip ('"' :: text ++ ['"']) = '"' :: text ++ ['"'] := by
    refine strip_eq_self_iff.mpr ⟨rfl, ?_⟩
    rw [hlast]
    rfl
  have hquoted : 2 ≤ ('"' :: text ++ ['"']).length ∧ ('"' :: text ++ ['"']).head? = some '"' ∧
      ('"' :: text ++ ['"']).getLast? = some '"' :=
    ⟨by simp, rfl, hlast⟩
  calc parseClientHintString (some ('"' :: text ++ ['"']))
      = replace ['\\', '\\'] ['\\']
          (replace ['\\', '"'] ['"'] (('"' :: text ++ ['"']).drop 1).dropLast) := by
        rw [List.cons_append, parseClientHintString, ← List.cons_append, hstrip, if_pos hquoted]
    _ = replace ['\\', '\\'] ['\\'] (replace ['\\', '"'] ['"'] text) := by
        rw [List.cons_append, List.drop_one, List.tail_cons, List.dropLast_concat]

/-- **A quoted text is read as the text.** -/
theorem parseClientHintString_formatLogValue {text : Text} (hnil : text ≠ [])
    (hdash : text ≠ ['-']) : parseClientHintString (some (formatLogValue text)) = text := by
  have hquote : '"' ≠ '\\' := by decide
  rw [formatLogValue_eq_replace hnil hdash, parseClientHintString_quoted,
    replace_replace_eq_escapeChars hquote, replace_quote_escapeChars hquote,
    replace_backslashes_escapeChars]

/-- A backslash before a quote, and one at the end. -/
theorem parseClientHintString_backslashes :
    formatLogValue "a\\\" \\".toList = "\"a\\\\\\\" \\\\\"".toList ∧
      parseClientHintString (some (formatLogValue "a\\\" \\".toList)) = "a\\\" \\".toList :=
  ⟨rfl, parseClientHintString_formatLogValue (List.cons_ne_nil _ _) (by decide)⟩

end PxManager.Login
