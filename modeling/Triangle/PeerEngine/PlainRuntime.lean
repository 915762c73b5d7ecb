import Triangle.PeerEngine.Journal
import Triangle.Std.NumberLine

/-!
# A journal that evaluates

A line format of journal records that stands for their JSON: every field as
numbers on one line. With it a journal can be run, restarts included. Payloads
stand for their own hashes and their own hex.
-/

namespace Triangle.PeerEngine

open Triangle.Std

/-- A string as its length and its characters. -/
def writeText (text : String) : List Nat :=
  text.toList.length :: text.toList.map Char.toNat

/-- Read a string, with what comes after it. -/
def readText : List Nat → String × List Nat
  | [] => ("", [])
  | length :: rest => (String.ofList ((rest.take length).map Char.ofNat), rest.drop length)

/-- An optional value as a mark and the value. -/
def writeOption {α : Type} (write : α → List Nat) : Option α → List Nat
  | none => [0]
  | some value => 1 :: write value

/-- Read an optional value, with what comes after it. -/
def readOption {α : Type} (read : List Nat → α × List Nat) : List Nat → Option α × List Nat
  | [] => (none, [])
  | mark :: rest =>
      if mark = 0 then (none, rest)
      else
        let found := read rest
        (some found.1, found.2)

/-- A number, with what comes after it. -/
def readNat : List Nat → Nat × List Nat
  | [] => (0, [])
  | number :: rest => (number, rest)

/-- The number of a state. -/
def DeliveryState.code : DeliveryState → Nat
  | .queuedLocal => 0
  | .receivedPeer => 1
  | .settled => 2
  | .duplicateSuppressed => 3
  | .refused => 4
  | .expired => 5
  | .consumed => 6
  | .addressUpdated => 7
  | .checkpoint => 8

/-- The state of a number. -/
def DeliveryState.ofCode : Nat → DeliveryState
  | 0 => .queuedLocal
  | 1 => .receivedPeer
  | 2 => .settled
  | 3 => .duplicateSuppressed
  | 4 => .refused
  | 5 => .expired
  | 6 => .consumed
  | 7 => .addressUpdated
  | _ => .checkpoint

/-- A record as numbers. -/
def writeEntry (entry : JournalEntry String) : List Nat :=
  entry.seq :: entry.tsUnixMs :: entry.state.code ::
    (writeText entry.messageId ++ (writeText entry.payloadHash ++
      (writeOption writeText entry.payloadHex ++ (writeOption writeText entry.peerEndpointId ++
        (writeOption writeText entry.peerAddr ++
          (writeOption (fun time => [time]) entry.queuedAtUnixMs ++
            writeOption writeText entry.reason))))))

/-- Read a record. -/
def readEntry (numbers : List Nat) : JournalEntry String :=
  let seq := readNat numbers
  let tsUnixMs := readNat seq.2
  let state := readNat tsUnixMs.2
  let messageId := readText state.2
  let payloadHash := readText messageId.2
  let payloadHex := readOption readText payloadHash.2
  let peerEndpointId := readOption readText payloadHex.2
  let peerAddr := readOption readText peerEndpointId.2
  let queuedAtUnixMs := readOption readNat peerAddr.2
  let reason := readOption readText queuedAtUnixMs.2
  { seq := seq.1
    state := .ofCode state.1
    messageId := messageId.1
    payloadHash := payloadHash.1
    payloadHex := payloadHex.1
    peerEndpointId := peerEndpointId.1
    peerAddr := peerAddr.1
    queuedAtUnixMs := queuedAtUnixMs.1
    reason := reason.1
    tsUnixMs := tsUnixMs.1 }

@[simp] theorem readText_writeText (text : String) (rest : List Nat) :
    readText (writeText text ++ rest) = (text, rest) := by
  have chars : (text.toList.map Char.toNat).map Char.ofNat = text.toList := by
    simp [List.map_map, Function.comp_def]
  have length : text.toList.length = (text.toList.map Char.toNat).length := by simp
  rw [writeText, List.cons_append, readText, length, List.take_left, List.drop_left, chars,
    String.ofList_toList]

@[simp] theorem readOption_writeOption {α : Type} {write : α → List Nat}
    {read : List Nat → α × List Nat} (readsBack : ∀ value rest, read (write value ++ rest) = (value, rest))
    (value : Option α) (rest : List Nat) :
    readOption read (writeOption write value ++ rest) = (value, rest) := by
  cases value with
  | none => rfl
  | some value => simp [writeOption, readOption, readsBack]

@[simp] theorem DeliveryState.ofCode_code (state : DeliveryState) : ofCode state.code = state := by
  cases state <;> rfl

theorem readEntry_writeEntry (entry : JournalEntry String) :
    readEntry (writeEntry entry) = entry := by
  have lastReason : readOption readText (writeOption writeText entry.reason) =
      (entry.reason, []) := by
    have readBack := readOption_writeOption readText_writeText entry.reason []
    rwa [List.append_nil] at readBack
  have readsTime : ∀ time rest, readNat ([time] ++ rest) = (time, rest) := fun _ _ => rfl
  simp [readEntry, writeEntry, readNat, readOption_writeOption readText_writeText,
    readOption_writeOption readsTime, lastReason]

/-- Records as lines of numbers. -/
def plainCodec : LineCodec (JournalEntry String) where
  encode entry := NumberLine.encode (writeEntry entry)
  decode bytes := some (readEntry (NumberLine.decode bytes))
  decode_encode entry := by rw [NumberLine.decode_encode, readEntry_writeEntry]
  encode_oneLine entry := by
    intro member
    rcases NumberLine.mem_encode member with isComma | ⟨digit, isDigit, same⟩
    · cases isComma
    · exact @NumberLine.digitByte_ne digit 10 isDigit (by omega) same.symm
  encode_solid entry := by
    cases isEncoding : NumberLine.encode (writeEntry entry) with
    | nil =>
        have lost := NumberLine.decode_encode (writeEntry entry)
        rw [isEncoding] at lost
        cases lost
    | cons first rest =>
        have member : first ∈ NumberLine.encode (writeEntry entry) := by simp [isEncoding]
        refine ⟨first, rest, rfl, ?_⟩
        rcases NumberLine.mem_encode member with rfl | ⟨digit, isDigit, rfl⟩
        · rfl
        · have solid : ∀ byte, byte < 48 → NumberLine.digitByte digit ≠ UInt8.ofNat byte :=
            fun byte outside => NumberLine.digitByte_ne isDigit outside
          simp only [isAsciiWhitespace, Bool.or_eq_false_iff, decide_eq_false_iff_not]
          exact ⟨⟨⟨⟨solid 32 (by omega), solid 9 (by omega)⟩, solid 10 (by omega)⟩,
            solid 12 (by omega)⟩, solid 13 (by omega)⟩

/-- A runtime over these lines. -/
def plainRuntime : JournalRuntime String where
  payloadHashHex payload := payload
  hexEncode payload := payload
  hexDecode text := some text
  hexDecode_hexEncode _ := rfl
  codec := plainCodec

end Triangle.PeerEngine
