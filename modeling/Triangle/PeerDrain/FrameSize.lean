import Triangle.PeerDrain.Service
import Triangle.PeerEngine.PlainRuntime
import Triangle.PeerEngine.Wire

/-!
# One frame size on both sides

The drain estimates the frame of a message before it hands the message to the
engine: with the endpoint of the peer where the engine writes its own, and with
the time of the estimate. Endpoints and hashes are 64 hexadecimal digits and the
clock has as many digits either way, so the estimate is the exact length.
-/

namespace Triangle.PeerDrain

open Triangle.Std
open Triangle.PeerEngine (EngineConfig JournalLimits PeerMessage encodedFrameLen plainRuntime)

/-- A character that JSON does not escape and UTF-8 writes as one byte. -/
def IsPlain (c : Char) : Prop :=
  Json.escapeChar c = [c] ∧ c.utf8Size = 1

instance (c : Char) : Decidable (IsPlain c) :=
  inferInstanceAs (Decidable (_ ∧ _))

private theorem isPlain_ascii : ∀ code < 128, Text.isLowerHex (Char.ofNat code) = true →
    IsPlain (Char.ofNat code) := by decide +kernel

/-- A hexadecimal digit is plain. -/
theorem isPlain_of_isLowerHex {c : Char} (isHex : Text.isLowerHex c = true) : IsPlain c := by
  have isAscii : c.toNat < 128 := by
    rw [Text.isLowerHex, Bool.or_eq_true, Bool.and_eq_true, decide_eq_true_eq,
      decide_eq_true_eq] at isHex
    rcases isHex with ⟨-, toF⟩ | isDigit
    · exact Nat.lt_of_le_of_lt (show c.toNat ≤ 'f'.toNat from toF) (by decide)
    · rw [Char.isDigit, Bool.and_eq_true, decide_eq_true_eq, decide_eq_true_eq] at isDigit
      exact Nat.lt_of_le_of_lt (show c.toNat ≤ '9'.toNat from isDigit.2) (by decide)
  have plain := isPlain_ascii c.toNat isAscii
  rw [Char.ofNat_toNat] at plain
  exact plain isHex

variable {chars : List Char} {text : String}

/-- Plain characters stay as they are. -/
theorem flatMap_escapeChar (plain : ∀ c ∈ chars, IsPlain c) :
    chars.flatMap Json.escapeChar = chars := by
  induction chars with
  | nil => rfl
  | cons c rest ih =>
      rw [List.flatMap_cons, (plain c List.mem_cons_self).1,
        ih fun other member => plain other (List.mem_cons_of_mem _ member)]
      rfl

/-- Plain text has one byte a character. -/
theorem utf8ByteSize_plain (plain : ∀ c ∈ chars, IsPlain c) :
    (String.ofList chars).utf8ByteSize = chars.length := by
  rw [← Utf8.length_encode, Utf8.encode, String.toList_ofList]
  induction chars with
  | nil => rfl
  | cons c rest ih =>
      rw [List.flatMap_cons, List.length_append, String.length_utf8EncodeChar,
        (plain c List.mem_cons_self).2, List.length_cons, Nat.add_comm,
        ih fun other member => plain other (List.mem_cons_of_mem _ member)]

/-- Quoted plain text has two bytes more. -/
theorem utf8ByteSize_quote (plain : ∀ c ∈ text.toList, IsPlain c) :
    (Json.quote text).utf8ByteSize = text.toList.length + 2 := by
  rw [Json.quote, flatMap_escapeChar plain]
  have bytes : (String.ofList ('"' :: text.toList ++ ['"'])) =
      "\"" ++ String.ofList text.toList ++ "\"" := by
    apply String.toList_injective
    simp
  rw [bytes, String.utf8ByteSize_append, String.utf8ByteSize_append, utf8ByteSize_plain plain]
  have quoteSize : "\"".utf8ByteSize = 1 := by decide
  omega

/-- A hash or an endpoint takes 66 bytes in a frame. -/
theorem utf8ByteSize_quote_hex64 (isHex : Text.isHex64 text = true) :
    (Json.quote text).utf8ByteSize = 66 := by
  simp only [Text.isHex64, Text.matchesClass, Text.matchesLedClass, Bool.and_eq_true,
    decide_eq_true_eq, List.all_eq_true] at isHex
  obtain ⟨⟨⟨-, atLeast⟩, atMost⟩, allHex⟩ := isHex
  have noLead : "".toList.length = 0 := rfl
  rw [noLead, List.drop_zero] at atLeast atMost allHex
  rw [utf8ByteSize_quote fun c member => isPlain_of_isLowerHex (allHex c member)]
  omega

/-- A number takes one byte a digit. -/
theorem utf8ByteSize_toString (number : Nat) :
    (toString (number : Int)).utf8ByteSize = (Nat.toDigits 10 number).length := by
  have isText : toString (number : Int) = String.ofList (Nat.toDigits 10 number) := rfl
  rw [isText]
  apply utf8ByteSize_plain
  intro c member
  apply isPlain_of_isLowerHex
  rw [Text.isLowerHex, Nat.isDigit_of_mem_toDigits (by decide) (by decide) member, Bool.or_true]

/-- The estimate of the drain is the length of the engine's frame. -/
theorem estimateWireFrameLen_eq {digest : String → String} (messageId : String)
    {payload peer own hash : String} {estimated now : Nat} (hexDigest : Text.isHex64 (digest payload) = true)
    (hexHash : Text.isHex64 hash = true) (isPeer : isEndpoint peer = true)
    (isOwn : isEndpoint own = true)
    (sameDigits : (Nat.toDigits 10 estimated).length = (Nat.toDigits 10 now).length) :
    estimateWireFrameLen digest messageId payload peer estimated =
      encodedFrameLen (.message ⟨messageId, hash, payload, own, now⟩) := by
  rw [estimateWireFrameLen, encodedFrameLen, SerdeJson.length_toVec, PeerEngine.WireEnvelope.toJson]
  simp only [Json.byteLength, Json.text, Json.textFields, Json.textField, String.utf8ByteSize_append,
    utf8ByteSize_quote_hex64 hexDigest, utf8ByteSize_quote_hex64 hexHash,
    utf8ByteSize_quote_hex64 isPeer, utf8ByteSize_quote_hex64 isOwn, utf8ByteSize_toString,
    sameDigits]

/-- `PeerMessage::new` and `check_frame_size` accept a payload and its frame. -/
def EngineAccepts {Addr : Type} (config : EngineConfig Addr)
    (messageId payload own : String) (now : Nat) : Prop :=
  ∃ message, PeerMessage.new config messageId payload own now = .ok message ∧
    message.checkFrameSize config = .ok ()

/-- The engine accepts what fits a payload and whose frame fits. -/
theorem engineAccepts_iff {Addr : Type} {config : EngineConfig Addr}
    {messageId payload own : String} {now : Nat} :
    EngineAccepts config messageId payload own now ↔
      payload.utf8ByteSize ≤ maxPayloadBytes ∧
        config.encodedFrameLen ⟨messageId, config.runtime.payloadHashHex payload, payload, own,
          now⟩ ≤ maxFrameBytes := by
  unfold EngineAccepts PeerMessage.new
  constructor
  · rintro ⟨message, isNew, fits⟩
    split at isNew
    · cases isNew
    next notLarge =>
      obtain rfl := Except.ok.inj isNew
      refine ⟨Nat.not_lt.mp notLarge, ?_⟩
      unfold PeerMessage.checkFrameSize at fits
      split at fits
      · cases fits
      next notLong => exact Nat.not_lt.mp notLong
  · rintro ⟨notLarge, notLong⟩
    refine ⟨_, if_neg (Nat.not_lt.mpr notLarge), ?_⟩
    unfold PeerMessage.checkFrameSize
    exact if_neg (Nat.not_lt.mpr notLong)

/-- The drain accepts a payload and its frame exactly when the engine does, and
estimates the exact length, for any payload, any message id, any two endpoints
and clock readings of as many digits. -/
theorem frame_checks_agree {Addr : Type} (config : EngineConfig Addr) (digest : String → String)
    (serde : ∀ message, config.encodedFrameLen message = encodedFrameLen (.message message))
    (hexDigest : ∀ payload, Text.isHex64 (digest payload) = true)
    (hexHash : ∀ payload, Text.isHex64 (config.runtime.payloadHashHex payload) = true)
    (payload messageId peer own : String) (estimated now : Nat)
    (isId : isIdentifier messageId = true) (isPeer : isEndpoint peer = true)
    (isOwn : isEndpoint own = true)
    (sameDigits : (Nat.toDigits 10 estimated).length = (Nat.toDigits 10 now).length) :
    estimateWireFrameLen digest messageId payload peer estimated =
        encodedFrameLen (.message ⟨messageId, config.runtime.payloadHashHex payload, payload, own,
          now⟩) ∧
      (checkPayloadAndFrame digest payload messageId peer estimated = true ↔
        EngineAccepts config messageId payload own now) := by
  have sameLength := estimateWireFrameLen_eq messageId (hexDigest payload)
    (hexHash payload) isPeer isOwn sameDigits
  have hasId : messageId ≠ "" := by
    rintro rfl
    exact absurd isId (by decide)
  have hasPeer : peer ≠ "" := by
    rintro rfl
    exact absurd isPeer (by decide)
  refine ⟨sameLength, ?_⟩
  rw [engineAccepts_iff, serde, ← sameLength, checkPayloadAndFrame]
  split
  next large =>
    exact ⟨fun isTrue => (nomatch isTrue), fun fits => absurd fits.1 (Nat.not_le.mpr large)⟩
  next notLarge =>
    rw [if_pos ⟨hasId, hasPeer⟩, decide_eq_true_eq]
    exact ⟨fun fits => ⟨Nat.not_lt.mp notLarge, fits⟩, fun fits => fits.2⟩

/-- The SHA-256 of the payload of the witness. -/
private def exampleHash : String :=
  "b88bc5061a3e0a96d0e6f7d7213cbffce7c29aaa11f3764f6d35301ba10206e7"

/-- An engine whose hash is right on that payload and whose frames are those of
`serde_json`. -/
private def exampleConfig : EngineConfig String where
  runtime := { plainRuntime with payloadHashHex := fun _ => exampleHash }
  encodedFrameLen message := encodedFrameLen (.message message)
  addrId := id
  endpointIdHex := exampleHash
  limits := .default
  retry := { initialBackoff := 0, maxBackoff := 0, expiry := 0, attemptTimeout := 0 }
  roster := []

/-- A quote, a newline and a character of two bytes. -/
theorem frame_checks_agree_escaped :
    checkPayloadAndFrame (fun _ => exampleHash) "\"\né" "m" exampleHash 1 = true ∧
      EngineAccepts exampleConfig "m" "\"\né" exampleHash 2 := by
  have fits : checkPayloadAndFrame (fun _ => exampleHash) "\"\né" "m" exampleHash 1 = true := by
    decide +kernel
  have isHex : Text.isHex64 exampleHash = true := by decide +kernel
  refine ⟨fits, (frame_checks_agree exampleConfig (fun _ => exampleHash) (fun _ => rfl)
    (fun _ => isHex) (fun _ => isHex) "\"\né" "m" exampleHash exampleHash 1 2 (by decide) isHex isHex
    (by decide)).2.mp fits⟩

end Triangle.PeerDrain
