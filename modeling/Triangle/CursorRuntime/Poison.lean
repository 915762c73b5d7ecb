import Triangle.Mailbox.Service
import Triangle.Std.CodeUnits

/-!
# Deliveries that keep failing

An attempt of the Cursor drain on the delivery that the helper has open: the resolver reads the
inbound event, the runtime runs the delivery, and a handler around the run alone records a
failure. Five recorded failures stop the delivery, but what the resolver throws is not recorded.
-/

namespace Triangle.CursorRuntime

open Triangle.Mailbox Triangle.Std

/-- The errors of the resolver and of the helper's `readInbound`. -/
inductive ResolveError
  | transactionStuck
  | invalidState
  | upstreamUnavailable
  | invalidUpstreamResponse
  | invalidInboundEvent
  deriving DecidableEq

/-- What an attempt meets: the text that claim-next sends along, the event that the server has,
and how the run ends before its reply is stored. The code of an error is given by its units in
lower case. -/
structure Attempt where
  admitText : Option String
  readInboundEvent : Except ResolveError String
  run : Except (List Nat) Unit

/-- The helper's `readInbound`. -/
def readInbound (record : OpenTransaction) (attempt : Attempt) : Except ResolveError String := do
  require (record.state = .claimed ∧ record.inboundEventID.isSome = true ∧
    record.inboundRoomSequence.isSome = true) .invalidState
  let text ← attempt.readInboundEvent
  require (isReplyText text = true) .invalidUpstreamResponse
  pure text

/-- A text of claim-next that the resolver takes: not empty, and 32768 units at most. -/
def isAdmitText (text : String) : Bool :=
  text ≠ "" && (Json.codeUnits text).length ≤ 32 * 1024

/-- `resolveDelivery` on a record without a reply; `none` starts no run. -/
def resolveDelivery (record : OpenTransaction) (attempt : Attempt) :
    Except ResolveError (Option String) := do
  require (record.isStuck = false) .transactionStuck
  if Json.isSafe record.deliveryID = false then return none
  match attempt.admitText.filter isAdmitText with
  | some text => return some text
  | none =>
      let text ← readInbound record attempt
      require (isReplyText text = true) .invalidInboundEvent
      return some text

/-- `/[a-z0-9_]/`. -/
def isReasonUnit (unit : Nat) : Bool :=
  (97 ≤ unit && unit ≤ 122) || (48 ≤ unit && unit ≤ 57) || unit = 95

/-- The reason that `onDeliveryFailure` records for a code. -/
def failureReason (code : List Nat) : String :=
  let reason := (code.map fun unit => if isReasonUnit unit then Char.ofNat unit else '_').take 64
  String.ofList (if reason.head?.any Char.isLower then reason else "cursor_acp_".toList ++ reason)

section

variable (sha256Hex : String → String)

/-- `onDeliveryFailure`: what `recordFailure` throws is logged only. -/
def onDeliveryFailure (record : OpenTransaction) (code : List Nat) : OpenTransaction :=
  match record.recordingFailure sha256Hex (failureReason code) with
  | .ok next => next
  | .error _ => record

/-- `runDrainAttempt` on the open record; `none` is a settled delivery. A record with a reply is
acknowledged before anything else. -/
def runDrainAttempt (record : OpenTransaction) (attempt : Attempt) : Option OpenTransaction :=
  if record.state = .replied ∧ Json.isSafe record.deliveryID = true then none
  else
    match resolveDelivery record attempt with
    | .ok (some _) =>
        match attempt.run with
        | .ok _ => none
        | .error code => some (onDeliveryFailure sha256Hex record code)
    | _ => some record

/-- Attempts one after the other, as long as the record is open. -/
def drainRun (record : OpenTransaction) : List Attempt → Option OpenTransaction
  | [] => some record
  | attempt :: rest =>
      (runDrainAttempt sha256Hex record attempt).bind fun next => drainRun next rest

end

/-- The failure of the attempt reaches the handler, which finds a reason that the helper takes. -/
def Recordable (record : OpenTransaction) (attempt : Attempt) : Prop :=
  Json.isSafe record.deliveryID = true ∧
    ((∃ text, attempt.admitText = some text ∧ isAdmitText text = true) ∨
      record.state = .claimed ∧ record.inboundEventID.isSome = true ∧
        record.inboundRoomSequence.isSome = true ∧
          ∃ text, attempt.readInboundEvent = .ok text ∧ isReplyText text = true) ∧
    ∀ code, attempt.run = .error code → isFailureReason (failureReason code) = true

section

variable {sha256Hex : String → String} {record next : OpenTransaction} {attempt : Attempt}
  {attempts : List Attempt}

/-- The delivery is resolved when its text is given or can be read. -/
theorem resolveDelivery_some (live : record.isStuck = false) :
    (∃ text, resolveDelivery record attempt = .ok (some text)) ↔
      Json.isSafe record.deliveryID = true ∧
        ((∃ text, attempt.admitText = some text ∧ isAdmitText text = true) ∨
          record.state = .claimed ∧ record.inboundEventID.isSome = true ∧
            record.inboundRoomSequence.isSome = true ∧
              ∃ text, attempt.readInboundEvent = .ok text ∧ isReplyText text = true) := by
  unfold resolveDelivery
  simp only [require_bind_ok, live, true_and]
  by_cases isSafe : Json.isSafe record.deliveryID = true
  · rw [if_neg (by rw [isSafe]; rintro ⟨⟩)]
    cases isText : attempt.admitText.filter isAdmitText with
    | some text =>
        obtain ⟨given, fits⟩ := Option.filter_eq_some_iff.mp isText
        exact ⟨fun _ => ⟨isSafe, .inl ⟨text, given, fits⟩⟩, fun _ => ⟨text, rfl⟩⟩
    | none =>
        have notGiven : ¬∃ text, attempt.admitText = some text ∧ isAdmitText text = true := by
          rintro ⟨text, given, fits⟩
          rw [given, Option.filter_some, if_pos fits] at isText
          cases isText
        have isRead : ∀ text, readInbound record attempt = .ok text ↔
            (record.state = .claimed ∧ record.inboundEventID.isSome = true ∧
              record.inboundRoomSequence.isSome = true) ∧
              attempt.readInboundEvent = .ok text ∧ isReplyText text = true := by
          intro text
          simp only [readInbound, require_bind_ok, bind_ok attempt.readInboundEvent]
          refine and_congr_right fun _ => ⟨?_, fun both => ⟨text, both.1, both.2, rfl⟩⟩
          rintro ⟨other, given, fits, same⟩
          obtain rfl := Except.ok.inj same
          exact ⟨given, fits⟩
        simp only [bind_ok (readInbound record attempt), require_bind_ok, isRead, isSafe, notGiven,
          true_and, false_or]
        constructor
        · rintro ⟨_, text, ⟨⟨state, event, sequence⟩, given, fits⟩, -, -⟩
          exact ⟨state, event, sequence, text, given, fits⟩
        · rintro ⟨state, event, sequence, text, given, fits⟩
          exact ⟨text, text, ⟨⟨state, event, sequence⟩, given, fits⟩, fits, rfl⟩
  · rw [if_pos (Bool.eq_false_of_not_eq_true isSafe)]
    refine ⟨?_, fun holds => absurd holds.1 isSafe⟩
    rintro ⟨_, ⟨⟩⟩

/-- Whether a failure can be recorded does not depend on those recorded before. -/
theorem recordable_congr (delivery : next.deliveryID = record.deliveryID)
    (state : next.state = record.state) (event : next.inboundEventID = record.inboundEventID)
    (sequence : next.inboundRoomSequence = record.inboundRoomSequence) :
    Recordable next attempt ↔ Recordable record attempt := by
  rw [Recordable, Recordable, delivery, state, event, sequence]

section

variable (wellFormed : record.WellFormed sha256Hex)
include wellFormed

theorem recordingFailure_eq {reason : String} (isReason : isFailureReason reason = true) :
    let failed := { record with
      failureCount := min (record.failureCount + 1) 10000, lastFailureReason := some reason }
    record.recordingFailure sha256Hex reason = .ok failed ∧ failed.WellFormed sha256Hex := by
  obtain ⟨⟨delivery, inbound, -, -, created⟩, derived, consistent⟩ := wellFormed
  have fields : ({ record with
      failureCount := min (record.failureCount + 1) 10000,
      lastFailureReason := some reason } : OpenTransaction).HasValidFields :=
    ⟨delivery, inbound, min_le_right _ _, fun _ same => Option.some.inj same ▸ isReason, created⟩
  refine ⟨?_, fields, derived, consistent⟩
  rw [OpenTransaction.recordingFailure]
  exact require_bind_ok.mpr ⟨isReason, OpenTransaction.make_of_derived fields derived⟩

/-- A failing attempt on a live record keeps it open, and records one failure exactly when the
failure is recordable. -/
theorem runDrainAttempt_fails (unreplied : record.state ≠ .replied) (live : record.failureCount < 5)
    (fails : attempt.run ≠ .ok ()) :
    ∃ next, runDrainAttempt sha256Hex record attempt = some next ∧ next.WellFormed sha256Hex ∧
      next.state = record.state ∧ (∀ later, Recordable next later ↔ Recordable record later) ∧
      next.failureCount ≤ record.failureCount + 1 ∧
      (next.failureCount = record.failureCount + 1 ↔ Recordable record attempt) := by
  have notStuck : record.isStuck = false := decide_eq_false (Nat.not_le.mpr live)
  have resolves := @resolveDelivery_some record attempt notStuck
  obtain ⟨code, isCode⟩ : ∃ code, attempt.run = .error code := by
    cases isRun : attempt.run with
    | ok => exact absurd isRun fails
    | error code => exact ⟨code, rfl⟩
  have unchanged : ¬Recordable record attempt →
      runDrainAttempt sha256Hex record attempt = some record → ∃ next,
        runDrainAttempt sha256Hex record attempt = some next ∧ next.WellFormed sha256Hex ∧
        next.state = record.state ∧ (∀ later, Recordable next later ↔ Recordable record later) ∧
        next.failureCount ≤ record.failureCount + 1 ∧
        (next.failureCount = record.failureCount + 1 ↔ Recordable record attempt) :=
    fun unrecorded same => ⟨record, same, wellFormed, rfl, fun _ => Iff.rfl, Nat.le_succ _,
      fun isMore => absurd isMore (Nat.ne_of_lt (Nat.lt_succ_self _)),
      fun recorded => absurd recorded unrecorded⟩
  by_cases resolved : ∃ text, resolveDelivery record attempt = .ok (some text)
  · obtain ⟨text, isText⟩ := resolved
    have reaches : runDrainAttempt sha256Hex record attempt =
        some (onDeliveryFailure sha256Hex record code) := by
      rw [runDrainAttempt, if_neg fun replied => unreplied replied.1, isText, isCode]
    by_cases isReason : isFailureReason (failureReason code) = true
    · obtain ⟨recorded, keeps⟩ := recordingFailure_eq wellFormed isReason
      have counted : min (record.failureCount + 1) 10000 = record.failureCount + 1 := by omega
      refine ⟨_, ?_, keeps, rfl, fun _ => recordable_congr rfl rfl rfl rfl, ?_, ?_⟩
      · rw [reaches, onDeliveryFailure, recorded]
      · exact counted.le
      · refine ⟨fun _ => ?_, fun _ => counted⟩
        obtain ⟨isSafe, readable⟩ := resolves.mp ⟨text, isText⟩
        refine ⟨isSafe, readable, fun other isOther => ?_⟩
        obtain rfl := Except.error.inj (isCode.symm.trans isOther)
        exact isReason
    · refine unchanged (fun recorded => isReason (recorded.2.2 code isCode)) ?_
      rw [reaches, onDeliveryFailure, OpenTransaction.recordingFailure, require, if_neg isReason]
      rfl
  · refine unchanged (fun recorded => resolved (resolves.mpr ⟨recorded.1, recorded.2.1⟩)) ?_
    rw [runDrainAttempt, if_neg fun replied => unreplied replied.1]
    split
    next text isText => exact absurd ⟨text, isText⟩ resolved
    · rfl

/-- Up to the threshold, every attempt counts exactly when every failure is recordable. -/
theorem counts_iff (unreplied : record.state ≠ .replied)
    (room : record.failureCount + attempts.length ≤ 5)
    (fails : ∀ attempt ∈ attempts, attempt.run ≠ .ok ()) :
    (∀ count ≤ attempts.length, ∃ after,
      drainRun sha256Hex record (attempts.take count) = some after ∧
        after.failureCount = record.failureCount + count) ↔
      ∀ attempt ∈ attempts, Recordable record attempt := by
  induction attempts generalizing record with
  | nil =>
      refine ⟨nofun, fun _ count isCount => ⟨record, ?_, ?_⟩⟩
      · rw [List.take_nil, drainRun]
      · exact (Nat.le_zero.mp isCount) ▸ rfl
  | cons attempt rest ih =>
      rw [List.length_cons] at room
      obtain ⟨next, isNext, keeps, state, same, -, counted⟩ := runDrainAttempt_fails wellFormed
        unreplied (by omega) (fails attempt List.mem_cons_self)
      have runs : ∀ later, drainRun sha256Hex record (attempt :: later) =
          drainRun sha256Hex next later := by
        intro later
        rw [drainRun, isNext, Option.bind_some]
      rw [List.forall_mem_cons]
      by_cases recorded : Recordable record attempt
      · have isMore := counted.mpr recorded
        have later := ih keeps (state ▸ unreplied) (by omega) fun other member =>
          fails other (List.mem_cons_of_mem _ member)
        simp only [same] at later
        rw [and_iff_right recorded, ← later]
        constructor
        · intro all count isCount
          obtain ⟨after, isAfter, total⟩ := all (count + 1) (Nat.succ_le_succ isCount)
          rw [List.take_succ_cons, runs] at isAfter
          exact ⟨after, isAfter, by omega⟩
        · intro all count isCount
          cases count with
          | zero => exact ⟨record, rfl, rfl⟩
          | succ count =>
              obtain ⟨after, isAfter, total⟩ := all count (Nat.le_of_succ_le_succ isCount)
              exact ⟨after, (runs _).trans isAfter, by omega⟩
      · refine ⟨fun all => absurd ?_ recorded, fun all => absurd all.1 recorded⟩
        obtain ⟨after, isAfter, total⟩ := all 1 (Nat.succ_le_succ (Nat.zero_le _))
        rw [List.take_succ_cons, runs, List.take_zero, drainRun] at isAfter
        obtain rfl := Option.some.inj isAfter
        exact counted.mp total

end

/-- A freshly claimed delivery that keeps failing has every failure recorded up to the threshold
exactly when its text is there at each of these attempts and the reasons fit; after five attempts
claim-next then reports it as stuck. -/
theorem failures_recorded_iff (sha256Hex : String → String) {record : OpenTransaction}
    (wellFormed : record.WellFormed sha256Hex) (fresh : record.failureCount = 0)
    (unreplied : record.state ≠ .replied) (attempts : List Attempt)
    (fails : ∀ attempt ∈ attempts, attempt.run ≠ .ok ()) :
    ((∀ count ≤ min 5 attempts.length, ∃ after,
        drainRun sha256Hex record (attempts.take count) = some after ∧
          after.failureCount = count) ↔
      ∀ attempt ∈ attempts.take 5, Recordable record attempt) ∧
    ((∀ attempt ∈ attempts.take 5, Recordable record attempt) → 5 ≤ attempts.length →
      ∃ after, drainRun sha256Hex record (attempts.take 5) = some after ∧
        ∀ attempt, resolveDelivery after attempt = .error .transactionStuck) := by
  have room : record.failureCount + (attempts.take 5).length ≤ 5 := by
    rw [fresh, List.length_take]
    omega
  have counts := counts_iff wellFormed unreplied room fun attempt member =>
    fails attempt (List.mem_of_mem_take member)
  have exactly : (∀ count ≤ min 5 attempts.length, ∃ after,
      drainRun sha256Hex record (attempts.take count) = some after ∧ after.failureCount = count) ↔
      ∀ attempt ∈ attempts.take 5, Recordable record attempt := by
    rw [← counts, List.length_take]
    refine forall_congr' fun count => imp_congr_right fun isCount => ?_
    rw [List.take_take, Nat.min_eq_left (le_trans isCount (Nat.min_le_left _ _)), fresh,
      Nat.zero_add]
  refine ⟨exactly, fun recordable long => ?_⟩
  obtain ⟨after, isAfter, total⟩ := exactly.mpr recordable 5 (by omega)
  refine ⟨after, isAfter, fun attempt => ?_⟩
  have stuck : after.isStuck = true := decide_eq_true total.ge
  rw [resolveDelivery, stuck]
  rfl

end

/-- A digest of the right form. -/
def plainDigest (_ : String) : String :=
  String.ofList (List.replicate 64 'a')

theorem claimedRoom_valid : Text.matchesLedClass "room_" Text.isLowerHex 32 32
    "room_00000000000000000000000000000000" = true := by
  decide +kernel

/-- A delivery that was claimed just now. -/
def claimedRecord : OpenTransaction where
  instanceID := ⟨plainDigest "", by decide +kernel⟩
  protocolOwnership := .selfServeDrain
  deliveryID := 1
  roomID := ⟨"room_00000000000000000000000000000000", claimedRoom_valid⟩
  inboundEventID := some ⟨"event_00000000000000000000000000000000", by decide +kernel⟩
  inboundRoomSequence := some 1
  replyRequired := true
  claimID := claimId plainDigest ⟨plainDigest "", by decide +kernel⟩ 1
  replyIdempotencyKey := replyIdempotencyKey plainDigest ⟨plainDigest "", by decide +kernel⟩ 1
  state := .claimed
  replyEventID := none
  replyResolution := .none
  failureCount := 0
  lastFailureReason := none
  createdAt := "2026-01-01T00:00:00Z"

/-- An attempt on an event with this text whose run would time out. -/
def timedOut (text : String) : Attempt where
  admitText := none
  readInboundEvent := .ok text
  run := .error (Json.codeUnits "acp_timeout")

/-- Six attempts that time out. -/
theorem failures_recorded_timedOut : ∃ after,
    drainRun plainDigest claimedRecord ((List.replicate 6 (timedOut "hello")).take 5) =
      some after ∧ ∀ attempt, resolveDelivery after attempt = .error .transactionStuck := by
  refine (failures_recorded_iff plainDigest (by decide +kernel) rfl (by decide) _
    fun attempt member => ?_).2 (fun attempt member => ?_) (by decide)
  · obtain rfl := List.eq_of_mem_replicate member
    exact fun settled => nomatch settled
  · obtain rfl := List.eq_of_mem_replicate (List.mem_of_mem_take member)
    refine ⟨rfl, .inr ⟨rfl, rfl, rfl, _, rfl, by decide +kernel⟩, fun code isCode => ?_⟩
    obtain rfl := Except.error.inj isCode
    decide +kernel

/-- An event without text is offered again and again, and no failure is recorded. -/
theorem emptyEvent_unrecorded :
    drainRun plainDigest claimedRecord (List.replicate 6 (timedOut "")) = some claimedRecord ∧
      claimedRecord.failureCount = 0 ∧ claimedRecord.isStuck = false ∧
        resolveDelivery claimedRecord (timedOut "") = .error .invalidUpstreamResponse := by
  decide +kernel

end Triangle.CursorRuntime
