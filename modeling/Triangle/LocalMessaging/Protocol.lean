import Triangle.Std.JsonFinite
import Triangle.Std.Splitter
import Triangle.Std.Utf8

/-!
# Frames of the local messaging protocol

A frame is the length of its body in four bytes and the body, a message as JSON.
`encodeFrame` writes one and `createMessageParser` reads a stream of them, of
which every call of `feed` gets a chunk.
-/

namespace Triangle.LocalMessaging.Protocol

open Triangle.Std

/-- `MAX_PAYLOAD_BYTES`. -/
def maxPayloadBytes : Nat := 256 * 1024

/-- `MAX_FRAME_BYTES`. -/
def maxFrameBytes : Nat := 320 * 1024

/-- The codes that the protocol throws or reports. -/
inductive ProtocolErrorCode
  | invalidMessage
  | payloadTooLarge
  | frameTooLarge
  | invalidJson
  deriving DecidableEq, Repr

/-- `coded`. -/
structure ProtocolError where
  code : ProtocolErrorCode
  message : String
  deriving DecidableEq, Repr

/-- `buffer.writeUInt32BE(value, 0)` of a buffer that starts with these four bytes. -/
def writeUInt32BE (value : Nat) : List UInt8 :=
  [UInt8.ofNat (value / 0x1000000), UInt8.ofNat (value / 0x10000), UInt8.ofNat (value / 0x100),
    UInt8.ofNat value]

/-- `buffer.readUInt32BE(0)`; a shorter buffer has none. -/
def readUInt32BE : List UInt8 → Option Nat
  | a :: b :: c :: d :: _ =>
      some (((a.toNat * 0x100 + b.toNat) * 0x100 + c.toNat) * 0x100 + d.toNat)
  | _ => none

/-- `typeof message === "object"`, and not `null`. -/
def isObject : Json → Bool
  | .arr _ | .obj _ => true
  | .null | .bool _ | .int _ | .float _ | .str _ => false

/-- `encodeFrame`. -/
def encodeFrame (message : Json) : Except ProtocolError (List UInt8) :=
  if isObject message then
    let body := Utf8.encode message.text
    if maxPayloadBytes < body.length then
      .error ⟨.payloadTooLarge, "Message payload size " ++ toString body.length ++
        " exceeds limit " ++ toString maxPayloadBytes⟩
    else
      let frame := writeUInt32BE body.length ++ body
      if maxFrameBytes < frame.length then
        .error ⟨.frameTooLarge, "Frame size " ++ toString frame.length ++ " exceeds limit " ++
          toString maxFrameBytes⟩
      else .ok frame
  else .error ⟨.invalidMessage, "Message must be an object"⟩

/-- A call of `onMessage` or `onError`. -/
inductive ParserCall
  | onMessage (parsed : Json)
  | onError (error : ProtocolError)

section

-- The option `maxFrameBytes`, and the messages at which the callback throws.
variable (frameLimit : Nat) (throws : Json → Bool)

/-- The error of a frame that announces too long a body. -/
def lengthExceeded (bodyLength : Nat) : ProtocolError :=
  ⟨.frameTooLarge, "Frame length " ++ toString bodyLength ++
    " exceeds maximum allowed frame size of " ++ toString frameLimit⟩

/-- The error of a body that is not JSON. -/
def bodyUnparsed : ProtocolError :=
  ⟨.invalidJson, "Failed to parse frame JSON payload"⟩

/-- The calls that a body leads to. The `catch` is also that of an `onMessage` that
throws. -/
def deliver (body : List UInt8) : List ParserCall :=
  match Json.parse (Utf8.decode body) with
  | none => [.onError bodyUnparsed]
  | some parsed =>
      if throws parsed then [.onMessage parsed, .onError bodyUnparsed] else [.onMessage parsed]

/-- The loop of `feed`: its calls, the buffer after it, and whether `feed` has returned
from it. -/
def readFrames (buffer : List UInt8) : List ParserCall × List UInt8 × Bool :=
  match readUInt32BE buffer with
  | none => ([], buffer, false)
  | some bodyLength =>
      if frameLimit < bodyLength then
        ([.onError (lengthExceeded frameLimit bodyLength)], [], true)
      else if _enough : buffer.length < 4 + bodyLength then ([], buffer, false)
      else
        let calls := deliver throws ((buffer.drop 4).take bodyLength)
        let rest := readFrames (buffer.drop (4 + bodyLength))
        (calls ++ rest.1, rest.2)
termination_by buffer.length
decreasing_by
  rw [List.length_drop]
  omega

/-- `feed`: its calls and the buffer after it. -/
def feed (buffer chunk : List UInt8) : List ParserCall × List UInt8 :=
  if chunk = [] then ([], buffer)
  else
    let (calls, left, returned) := readFrames frameLimit throws (buffer ++ chunk)
    if returned then (calls, left)
    else if frameLimit + 4 < left.length then
      (calls ++ [.onError ⟨.frameTooLarge,
        "Partial frame buffer exceeded maximum allowed frame size"⟩], [])
    else (calls, left)

/-- Feed chunks one after the other. -/
def feedAll : List UInt8 → List (List UInt8) → List ParserCall × List UInt8
  | buffer, [] => ([], buffer)
  | buffer, chunk :: rest =>
      let fed := feed frameLimit throws buffer chunk
      let later := feedAll fed.2 rest
      (fed.1 ++ later.1, later.2)

end

/-- The error that ends a stream. -/
def ParserCall.isFrameTooLarge : ParserCall → Bool
  | .onError error => error.code = .frameTooLarge
  | .onMessage _ => false

/-- The calls up to and including the first `frame_too_large`. -/
def untilTooLarge : List ParserCall → List ParserCall
  | [] => []
  | call :: rest => if call.isFrameTooLarge then [call] else call :: untilTooLarge rest

end Triangle.LocalMessaging.Protocol
