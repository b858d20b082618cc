import PxManager.Core.Utf8

/-!
# PxManager.Core.UrlQuery

`urllib.parse.parse_qs`: a query as pairs of a name and a value, with percent-escapes decoded and
bytes that are no UTF-8 replaced.
-/

namespace PxManager.Core

/-- `_generate_unquoted_parts(string, "utf-8", "replace")`, with `run` the ASCII run read so far. -/
def unquotePartsReplace (run : Text) : Text → Text
  | [] => decodeReplace (unquoteImpl (encodeUtf8 run))
  | c :: s =>
      if isAscii c then unquotePartsReplace (run ++ [c]) s
      else decodeReplace (unquoteImpl (encodeUtf8 run)) ++ c :: unquotePartsReplace [] s

/-- `unquote_plus(string)`. -/
def unquotePlus (string : Text) : Text :=
  let string := string.map fun c => if c = '+' then ' ' else c
  if '%' ∈ string then unquotePartsReplace [] string else string

/-- `parse_qsl(query, keep_blank_values=True)`. -/
def parseQsl (query : Text) : List (Text × Text) :=
  ((query.splitOn '&').filter (· ≠ [])).map fun nameValue =>
    (unquotePlus (nameValue.takeWhile (· ≠ '=')),
      unquotePlus ((nameValue.dropWhile (· ≠ '=')).drop 1))

/-- `parse_qs(query, keep_blank_values=True).get(name) or []`. -/
def queryValues (query : List (Text × Text)) (name : Text) : List Text :=
  (query.filter (·.1 = name)).map Prod.snd

end PxManager.Core
