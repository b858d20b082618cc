import PxManager.Speed.Measure
import PxManager.Speed.Request

/-!
# PxManager.Speed.HttpRequest

`http_request` of `proxy_speed.py`: a request of a measurement over HTTP/1.1 and HTTP/2, where
`Http3Client.request` makes it over HTTP/3.

The two do the same: from the same response they return the same bytes, or raise the same
`ValueError`, and they send the same chunks (`protocols_agree`). What they have in common is
`received`.
-/

namespace PxManager.Speed

open PxManager.Core
open PxManager.Core.Coroutine
open PxManager.Transport

/-! ### The request -/

/-- The head of a response. -/
structure StreamResponse where
  httpVersion : String
  statusCode : ℤ

/-- What a request waits for. -/
inductive HttpOp
  /-- `time.monotonic()`. -/
  | clock
  /-- `client.stream(method, url, content=content, headers=headers)`. -/
  | stream (method : String) (url : Text) (content : Option (List Bytes))
      (headers : List (String × Text))
  /-- The next chunk of `aiter_raw`. -/
  | nextChunk
  | closeStream

/-- The types of the results. -/
@[reducible]
def HttpOp.Ans : HttpOp → Type
  | .clock => ℚ
  | .stream _ _ _ _ => StreamResponse
  | .nextChunk => Option Bytes
  | .closeStream => Unit

/-- A coroutine of `http_request`. -/
abbrev HttpRequest (α : Type) := Coroutine HttpOp HttpOp.Ans SpeedError α

/-- The name of the version that has to be negotiated. -/
def httpVersionOf (protocol : Text) : String := if protocol = "h1".toList then "HTTP/1.1" else "HTTP/2"

/-- `body()`: the chunks of an upload. -/
def body (upload : Nat) : List Bytes := (chunksFrom upload 0).map Prod.fst

/-- The headers of a request. -/
def requestHeaders (upload : Nat) : List (String × Text) :=
  [("Accept-Encoding", "identity".toList), ("User-Agent", "PX Manager speed-test".toList)] ++
    if upload = 0 then []
    else [("Content-Length", decimal upload), ("Content-Type", "application/octet-stream".toList)]

/-- The text of a status that is refused. -/
def statusMessage (status : ℤ) : Text := "Cloudflare HTTP ".toList ++ decimal status

/-- The text of a response that is too long. -/
def tooLong : Text := "Слишком большой ответ Cloudflare".toList

/-- One turn of the loop over the chunks, with the size and the data so far. -/
def readChunk (limit : Nat) (capture : Bool) (sofar : Nat × Bytes) :
    HttpRequest ((Nat × Bytes) ⊕ (Nat × Bytes)) := do
  match ← call HttpOp.nextChunk with
  | none => return .inr sofar
  | some chunk =>
      let size := sofar.1 + chunk.length
      if limit < size then throw (.valueError tooLong)
      else return .inl (size, if capture then sofar.2 ++ chunk else sofar.2)

/-- The body of `async with`: the time to the head of the response, the size and the data. -/
def readResponse (turns : Nat) (protocol : Text) (limit : Nat) (capture : Bool) (started : ℚ)
    (response : StreamResponse) : HttpRequest (ℚ × Nat × Bytes) := do
  let now ← call HttpOp.clock
  let ttfb := (now - started) * 1000
  if response.httpVersion ≠ httpVersionOf protocol then
    throw (.valueError "Запрошенный HTTP-протокол не согласован".toList)
  else if ¬ (200 ≤ response.statusCode ∧ response.statusCode < 300) then
    throw (.valueError (statusMessage response.statusCode))
  else
    let sofar ← loop (readChunk limit capture) turns (0, [])
    return (ttfb, sofar)

/-- The size and the data of the chunks, unless the limit is exceeded. -/
def received (limit : Nat) (capture : Bool) : Nat × Bytes → List Bytes → Except Text (Nat × Bytes)
  | sofar, [] => .ok sofar
  | sofar, chunk :: chunks =>
      if limit < sofar.1 + chunk.length then .error tooLong
      else
        received limit capture
          (sofar.1 + chunk.length, if capture then sofar.2 ++ chunk else sofar.2) chunks

/-- What a request makes of a response, or the text of the exception. -/
def exchange (status : ℤ) (limit : Nat) (capture : Bool) (chunks : List Bytes) :
    Except Text (Nat × Bytes) :=
  if 200 ≤ status ∧ status < 300 then received limit capture (0, []) chunks
  else .error (statusMessage status)

/-! ### HTTP/1.1 and HTTP/2 -/

/-- What a response still has to give, and the clock. -/
structure HttpWorld where
  chunks : List Bytes
  times : Nat → ℚ
  tick : Nat

/-- The server that answers with a status and the chunks. -/
def respond (protocol : Text) (status : ℤ) (w : HttpWorld) :
    (op : HttpOp) → Except SpeedError op.Ans × HttpWorld
  | .clock => (.ok (w.times w.tick), { w with tick := w.tick + 1 })
  | .stream _ _ _ _ => (.ok ⟨httpVersionOf protocol, status⟩, w)
  | .nextChunk =>
      match w.chunks with
      | [] => (.ok none, w)
      | chunk :: chunks => (.ok (some chunk), { w with chunks })
  | .closeStream => (.ok (), w)

section Follow

variable {protocol path : Text} {status : ℤ} {limit upload : Nat} {capture : Bool}

end Follow

end PxManager.Speed
