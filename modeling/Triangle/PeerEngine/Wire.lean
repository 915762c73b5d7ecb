import Triangle.PeerEngine.Engine
import Triangle.Std.SerdeJson

/-!
# Envelopes on the wire

`#[derive(Serialize)]` with a tag: the tag stands first, then the fields of the
variant as they are declared.
-/

namespace Triangle.PeerEngine

open Triangle.Std

/-- The object that an envelope is serialised as. -/
def WireEnvelope.toJson : WireEnvelope → Json
  | .message sent =>
      .obj
        [("type", .str "message"), ("message_id", .str sent.messageId),
          ("payload_hash", .str sent.payloadHash), ("payload", .str sent.payload),
          ("sender_endpoint_id", .str sent.senderEndpointId),
          ("created_at_unix_ms", .int sent.createdAtUnixMs)]
  | .receipt answer =>
      .obj
        [("type", .str "receipt"), ("message_id", .str answer.messageId),
          ("payload_hash", .str answer.payloadHash), ("status", .str answer.status),
          ("receiver_endpoint_id", .str answer.receiverEndpointId),
          ("duplicate", .bool answer.duplicate),
          ("received_at_unix_ms", .int answer.receivedAtUnixMs)]
  | .reject refusal =>
      .obj
        [("type", .str "reject"), ("message_id", .str refusal.messageId),
          ("code", .str refusal.code), ("reason", .str refusal.reason)]

/-- `encoded_frame_len`. -/
def encodedFrameLen (envelope : WireEnvelope) : Nat :=
  (SerdeJson.toVec envelope.toJson).length

end Triangle.PeerEngine
