import Triangle.Std.Text
import Triangle.Std.Outcome

/-!
# The durable profile record and its store

`profile.json` holds one lease record per profile. The store validates a record
before it replaces the file, and every reader and writer of the lease holds the
store's exclusive lock across its compare and its write, so one lease operation
is one atomic step on `ProfileStore`.

Timestamps are integer milliseconds: the file holds their ISO text, which
`Date.parse` reads back exactly. A field the source leaves out of a record reads
like `null` (or like `false` for `admission_frozen`) in every function, so
absent and `null` are one value here.
-/

namespace Triangle.Lease

open Triangle.Std Triangle.Std.Text

/-- `runtime_mode`. -/
inductive RuntimeMode
  | headless
  | desktop
  deriving DecidableEq, Repr

/-- `ownership_state`. -/
inductive OwnershipState
  | owned
  | transferring
  deriving DecidableEq, Repr

/-- `chatgpt_attachment_state`. -/
inductive AttachmentState
  | attached
  | absent
  | unknown
  deriving DecidableEq, Repr

/-- `EXECUTION_STATES`. -/
inductive ExecutionState
  | idle
  | admitted
  | running
  | resultReady
  | replyPersisted
  | acked
  deriving DecidableEq, Repr

/-- `NON_IDLE_EXECUTION_STATES`: the states that keep a lease from being stolen. -/
def ExecutionState.isNonIdle : ExecutionState → Bool
  | .admitted | .running | .resultReady | .replyPersisted => true
  | .idle | .acked => false

/-- The fields of a conversation record that the lease reads. -/
structure Conversation where
  meshRoomId : String
  executionState : ExecutionState
  activeDeliveryId : Option Nat
  deriving DecidableEq, Repr

/-- The lease record of one profile. -/
structure ProfileRecord where
  profileInstanceId : String
  runtimeMode : RuntimeMode
  ownerInstanceId : String
  ownerGeneration : Nat
  ownershipState : OwnershipState
  leaseRenewedAt : Int
  leaseExpiresAt : Int
  activeMeshRoomId : Option String := none
  desktopServerIdentity : Option String := none
  chatgptAttachmentState : Option AttachmentState := none
  boundCodexThreadId : Option String := none
  admissionFrozen : Bool := false
  transferFromOwnerInstanceId : Option String := none
  transferFromRuntimeMode : Option RuntimeMode := none
  transferFromGeneration : Option Nat := none
  deriving DecidableEq, Repr

/-- One profile's files: the lease record and the conversation records. -/
structure ProfileStore where
  profile : Option ProfileRecord
  conversations : List Conversation
  deriving DecidableEq, Repr

/-- The coded errors of the lease and of its store. -/
inductive LeaseErrorCode
  | typeError
  | rangeError
  | durableStoreInvalid
  | durableStoreRefused
  | leaseCasConflict
  | leaseClockSkew
  | leaseConflict
  | leaseMissing
  | leaseNonIdleNoSteal
  | leaseNotExpired
  | leaseStaleGeneration
  | leaseTransferring
  | handoffAdmissionFrozen
  | handoffNotIdle
  | handoffNotOwned
  | handoffNotTransferring
  | handoffOpenDelivery
  | handoffRollbackIncomplete
  | handoffWrongMode
  deriving DecidableEq, Repr

/-- A thrown error with its message. -/
structure LeaseError where
  code : LeaseErrorCode
  message : String
  deriving DecidableEq, Repr

/-- What a lease function returns or throws. -/
abbrev Outcome (α : Type) := Except LeaseError α

/-- `Number.isSafeInteger`. -/
def isSafeInteger (n : Int) : Bool :=
  -9007199254740991 ≤ n && n ≤ 9007199254740991

/-- `ROOM_ID`. -/
def isRoomId (text : String) : Bool :=
  matchesLedClass "room_" isLowerHex 32 32 text

/-- `OWNER_ID`. -/
def isOwnerId (text : String) : Bool :=
  matchesClass isIdentifierChar 1 128 text

/-- `new Date(ms).toISOString()`, which throws outside the time range of `Date`. -/
def isoFromMs (ms : Int) : Outcome Int := do
  require (-8640000000000000 ≤ ms ∧ ms ≤ 8640000000000000) ⟨.rangeError, "Invalid time value"⟩
  return ms

section

-- The size and secret-material checks of `atomicWriteJson`, and the file write itself.
variable (atomicWriteJson : ProfileRecord → Bool)

/-- `readProfile`. -/
def readProfile (store : ProfileStore) (profileInstanceId : String) :
    Outcome (Option ProfileRecord) := do
  require (isHex64 profileInstanceId = true)
    ⟨.durableStoreInvalid, "profileInstanceId must be a 64-hex instance id"⟩
  match store.profile with
  | none => return none
  | some record =>
      require (record.profileInstanceId = profileInstanceId)
        ⟨.durableStoreInvalid, "profile_instance_id mismatch"⟩
      return some record

/-- `writeProfileUnlocked`: validate the record, then replace the file. -/
def writeProfileUnlocked (record : ProfileRecord) : Outcome ProfileRecord := do
  require (isHex64 record.profileInstanceId = true)
    ⟨.durableStoreInvalid, "profileInstanceId must be a 64-hex instance id"⟩
  require (isOwnerId record.ownerInstanceId = true)
    ⟨.durableStoreInvalid, "owner_instance_id is invalid"⟩
  require (isSafeInteger record.ownerGeneration = true ∧ 1 ≤ record.ownerGeneration)
    ⟨.durableStoreInvalid, "owner_generation must be >= 1"⟩
  require (∀ identity ∈ record.desktopServerIdentity,
      1 ≤ utf16Length identity ∧ utf16Length identity ≤ 200)
    ⟨.durableStoreInvalid, "desktop_server_identity is invalid"⟩
  require (∀ thread ∈ record.boundCodexThreadId, thread ≠ "")
    ⟨.durableStoreInvalid, "bound_codex_thread_id is invalid"⟩
  require (∀ owner ∈ record.transferFromOwnerInstanceId, isOwnerId owner = true)
    ⟨.durableStoreInvalid, "transfer_from_owner_instance_id is invalid"⟩
  require (∀ generation ∈ record.transferFromGeneration,
      isSafeInteger generation = true ∧ 1 ≤ generation)
    ⟨.durableStoreInvalid, "transfer_from_generation is invalid"⟩
  require (∀ room ∈ record.activeMeshRoomId, isRoomId room = true)
    ⟨.durableStoreInvalid, "meshRoomId must be a room_<32-hex> id"⟩
  require (atomicWriteJson record = true) ⟨.durableStoreRefused, "record could not be written"⟩
  return record

/-- `listConversations` filtered by `NON_IDLE_EXECUTION_STATES`. -/
def listNonIdle (store : ProfileStore) : List Conversation :=
  store.conversations.filter (·.executionState.isNonIdle)

variable {atomicWriteJson}

/-- A write that succeeds stores exactly the record it was given. -/
theorem writeProfileUnlocked_ok {record stored : ProfileRecord}
    (written : writeProfileUnlocked atomicWriteJson record = .ok stored) : stored = record := by
  simp only [writeProfileUnlocked, require_bind_ok] at written
  obtain ⟨-, -, -, -, -, -, -, -, -, same⟩ := written
  exact (Except.ok.inj same).symm

/-- A successful read returns the stored record. -/
theorem readProfile_ok {store : ProfileStore} {profileInstanceId : String}
    {found : Option ProfileRecord}
    (read : readProfile store profileInstanceId = .ok found) : store.profile = found := by
  simp only [readProfile, require_bind_ok] at read
  obtain ⟨-, read⟩ := read
  cases held : store.profile with
  | none =>
      rw [held] at read
      exact Except.ok.inj read
  | some record =>
      simp only [held, require_bind_ok] at read
      exact Except.ok.inj read.2

end

end Triangle.Lease
