import Triangle.LocalMessaging.Protocol
import Triangle.Std.Bisect
import Triangle.Std.JsonLength

/-!
# Listings of replies that fit a frame

`boundRepliesToEnvelope` keeps as many replies as fit by an estimate of the response,
and cuts the text of a first reply that is too large on its own. The estimate counts
neither the commas nor the envelope; the bytes it leaves free are enough for both.

The id of a request is any JavaScript string of bounded length, also one that holds
half a surrogate pair, so a response is put together from the text of its id.
-/

namespace Triangle.LocalMessaging.Protocol

open Triangle.Std

/-- A decorated reply: an object with a value for each of its keys. -/
structure ListedReply where
  fields : List (String × Json)
  distinct : (fields.map Prod.fst).Nodup

namespace ListedReply

/-- The reply as JSON. -/
def json (reply : ListedReply) : Json :=
  .obj reply.fields

/-- `{ ...reply, [key]: value }`. -/
def set (reply : ListedReply) (key : String) (value : Json) : ListedReply where
  fields := Json.setField reply.fields key value
  distinct := Json.setField_distinct reply.distinct key value

/-- `typeof reply.text === "string" ? reply.text : ""`. -/
def text (reply : ListedReply) : String :=
  match Json.property? reply.fields "text" with
  | some (.str text) => text
  | _ => ""

/-- `framed`. -/
def framed (base : ListedReply) (slice : String) (originalTextBytes : Nat) : ListedReply :=
  ((base.set "text" (.str slice)).set "truncated" (.bool true)).set "originalTextBytes"
    (.int originalTextBytes)

end ListedReply

/-- The id of a request: the units of a string, or a finite number as it is written. -/
inductive RpcId
  | text (units : List Nat)
  | number (literal : String)

/-- `validId`. No finite number is written in more than 25 characters. -/
def RpcId.Valid : RpcId → Prop
  | .text units => 0 < units.length ∧ units.length ≤ 128
  | .number literal => literal.utf8ByteSize ≤ 25

end Triangle.LocalMessaging.Protocol
