import Mathlib.Data.List.Sort
import Triangle.Mailbox.Models

/-!
# The transaction store

`FileMailboxTransactionStore` keeps the open record in `open.json` and one file
for each abandoned transaction under `quarantine/`. A write goes to a temporary
file that is renamed into place under the directory lock, so each operation
here is one step; `abandon` renames one file and removes another, and what is
between the two has a name of its own.
-/

namespace Triangle.Mailbox

open Triangle.Std

/-- One file under `quarantine/`, named by its correlation. -/
structure Quarantined where
  deliveryID : Int
  protocolOwnership : TransactionProtocol
  correlationID : String
  quarantinedAt : String
  deriving DecidableEq

/-- `open.json` and the files under `quarantine/`. -/
structure Store where
  openFile : Option OpenTransaction
  quarantine : List Quarantined

/-- `"q_" + claimID.dropFirst(6).prefix(16)`. -/
def correlationOf (claimID : String) : String :=
  "q_" ++ String.ofList ((claimID.toList.drop 6).take 16)

/-- What listing the quarantine checks of a file. -/
def Quarantined.isReadable (entry : Quarantined) : Bool :=
  0 < entry.deliveryID && Text.matchesLedClass "q_" Text.isLowerHex 16 16 entry.correlationID

namespace Store

variable (sha256Hex : String → String) (store : Store)

def readOpenFile : Except StoreError OpenTransaction :=
  match store.openFile with
  | none => .error .notFound
  | some current =>
      if current.WellFormed sha256Hex then .ok current else .error .invalidRecord

def readOpen (instanceID : ClientInstanceId) : Except StoreError (Option OpenTransaction) :=
  match store.readOpenFile sha256Hex with
  | .ok current => if current.instanceID = instanceID then .ok (some current) else .error .invalidRecord
  | .error .notFound => .ok none
  | .error problem => .error problem

def prepare (transaction : OpenTransaction) : Except StoreError Store :=
  match store.readOpenFile sha256Hex with
  | .ok _ => .error .alreadyOpen
  | .error .notFound => .ok { store with openFile := some transaction }
  | .error problem => .error problem

/-- The fields of the stored record that a new version must repeat. -/
def SameTransaction (current next : OpenTransaction) : Prop :=
  current.instanceID = next.instanceID ∧ current.deliveryID = next.deliveryID ∧
    current.protocolOwnership = next.protocolOwnership ∧ current.claimID = next.claimID ∧
    current.replyIdempotencyKey = next.replyIdempotencyKey ∧ current.createdAt = next.createdAt

instance (current next : OpenTransaction) : Decidable (SameTransaction current next) :=
  inferInstanceAs (Decidable (_ ∧ _ ∧ _ ∧ _ ∧ _ ∧ _))

def replace (transaction : OpenTransaction) : Except StoreError Store := do
  let current ← store.readOpenFile sha256Hex
  require (SameTransaction current transaction) .invalidRecord
  pure { store with openFile := some transaction }

def clear (instanceID : ClientInstanceId) (expectedDeliveryID : Option Int) :
    Except StoreError Store := do
  let current ← store.readOpenFile sha256Hex
  require (current.instanceID = instanceID) .invalidRecord
  require (∀ expected ∈ expectedDeliveryID, current.deliveryID = expected) .unrelatedAcknowledgement
  pure { store with openFile := none }

/-- The quarantine file that `abandon` writes. Its exclusive rename fails when
a file of that name is there. -/
def quarantineEntry (instanceID : ClientInstanceId) (now : String) :
    Except StoreError Quarantined := do
  let current ← store.readOpenFile sha256Hex
  require (current.instanceID = instanceID) .invalidRecord
  let correlation := correlationOf current.claimID
  require (∀ entry ∈ store.quarantine, entry.correlationID ≠ correlation) .alreadyOpen
  pure { deliveryID := current.deliveryID, protocolOwnership := current.protocolOwnership,
         correlationID := correlation, quarantinedAt := now }

/-- The store between the two file operations of `abandon`. -/
def withQuarantined (entry : Quarantined) : Store :=
  { store with quarantine := store.quarantine ++ [entry] }

def listQuarantined : Except StoreError (List Quarantined) := do
  require (store.quarantine.all Quarantined.isReadable = true) .invalidRecord
  pure (store.quarantine.insertionSort fun first second => first.deliveryID ≤ second.deliveryID)

variable {sha256Hex store} {current transaction : OpenTransaction}

theorem readOpenFile_ok (read : store.readOpenFile sha256Hex = .ok current) :
    store.openFile = some current ∧ current.WellFormed sha256Hex := by
  unfold readOpenFile at read
  split at read
  next => cases read
  next found isOpen =>
    by_cases wellFormed : found.WellFormed sha256Hex
    · rw [if_pos wellFormed] at read
      cases read
      exact ⟨isOpen, wellFormed⟩
    · rw [if_neg wellFormed] at read
      cases read

theorem readOpenFile_notFound (read : store.readOpenFile sha256Hex = .error .notFound) :
    store.openFile = none := by
  unfold readOpenFile at read
  split at read
  next isOpen => exact isOpen
  next found isOpen =>
    by_cases wellFormed : found.WellFormed sha256Hex
    · rw [if_pos wellFormed] at read
      cases read
    · rw [if_neg wellFormed] at read
      cases read

theorem readOpenFile_of_open (isOpen : store.openFile = some current)
    (wellFormed : current.WellFormed sha256Hex) : store.readOpenFile sha256Hex = .ok current := by
  simp [readOpenFile, isOpen, wellFormed]

variable {instanceID : ClientInstanceId}

/-- A record that was read is the stored one. -/
theorem readOpen_some (read : store.readOpen sha256Hex instanceID = .ok (some current)) :
    store.openFile = some current ∧ current.WellFormed sha256Hex ∧
      current.instanceID = instanceID := by
  unfold readOpen at read
  split at read
  next found isFound =>
    obtain ⟨isOpen, wellFormed⟩ := readOpenFile_ok isFound
    by_cases same : found.instanceID = instanceID
    · rw [if_pos same] at read
      cases read
      exact ⟨isOpen, wellFormed, same⟩
    · rw [if_neg same] at read
      cases read
  next => cases read
  next => cases read

theorem readOpen_of_open (isOpen : store.openFile = some current)
    (wellFormed : current.WellFormed sha256Hex) (same : current.instanceID = instanceID) :
    store.readOpen sha256Hex instanceID = .ok (some current) := by
  simp [readOpen, readOpenFile_of_open isOpen wellFormed, same]

theorem prepare_ok {next : Store} (prepared : store.prepare sha256Hex transaction = .ok next) :
    store.openFile = none ∧ next = { store with openFile := some transaction } := by
  unfold prepare at prepared
  split at prepared
  next => cases prepared
  next isFound => exact ⟨readOpenFile_notFound isFound, (Except.ok.inj prepared).symm⟩
  next => cases prepared

theorem replace_ok {next : Store} (replaced : store.replace sha256Hex transaction = .ok next) :
    ∃ current, store.openFile = some current ∧ SameTransaction current transaction ∧
      next = { store with openFile := some transaction } := by
  unfold replace at replaced
  rw [bind_ok] at replaced
  obtain ⟨current, read, replaced⟩ := replaced
  rw [require_bind_ok, pure_ok] at replaced
  exact ⟨current, (readOpenFile_ok read).1, replaced.1, replaced.2.symm⟩

theorem clear_ok {expected : Option Int} {next : Store}
    (cleared : store.clear sha256Hex instanceID expected = .ok next) :
    ∃ current, store.openFile = some current ∧ (∀ delivery ∈ expected, current.deliveryID = delivery) ∧
      next = { store with openFile := none } := by
  unfold clear at cleared
  rw [bind_ok] at cleared
  obtain ⟨current, read, cleared⟩ := cleared
  rw [require_bind_ok, require_bind_ok, pure_ok] at cleared
  exact ⟨current, (readOpenFile_ok read).1, cleared.2.1, cleared.2.2.symm⟩

theorem quarantineEntry_ok {now : String} {entry : Quarantined}
    (written : store.quarantineEntry sha256Hex instanceID now = .ok entry) :
    ∃ current, store.openFile = some current ∧ current.WellFormed sha256Hex ∧
      (∀ other ∈ store.quarantine, other.correlationID ≠ correlationOf current.claimID) ∧
      entry = ⟨current.deliveryID, current.protocolOwnership, correlationOf current.claimID, now⟩ := by
  unfold quarantineEntry at written
  rw [bind_ok] at written
  obtain ⟨current, read, written⟩ := written
  rw [require_bind_ok, require_bind_ok, pure_ok] at written
  obtain ⟨isOpen, wellFormed⟩ := readOpenFile_ok read
  exact ⟨current, isOpen, wellFormed, written.2.1, written.2.2.symm⟩

/-- The quarantine file of a well-formed record can be read back. -/
theorem correlationOf_isReadable (wellFormed : transaction.WellFormed sha256Hex) (now : String) :
    Quarantined.isReadable ⟨transaction.deliveryID, transaction.protocolOwnership,
      correlationOf transaction.claimID, now⟩ = true := by
  obtain ⟨fields, derived, -⟩ := wellFormed
  have claimPattern := derived.2.2.1
  simp only [Text.matchesLedClass, Bool.and_eq_true, decide_eq_true_eq] at claimPattern
  obtain ⟨⟨⟨-, longEnough⟩, -⟩, hexDigits⟩ := claimPattern
  have rest : transaction.claimID.toList.drop "claim_".toList.length =
      transaction.claimID.toList.drop 6 := rfl
  rw [rest] at longEnough hexDigits
  simp only [Quarantined.isReadable, Text.matchesLedClass, correlationOf, Bool.and_eq_true,
    decide_eq_true_eq, String.toList_append, String.toList_ofList, List.drop_left,
    List.length_take]
  refine ⟨fields.1, ⟨⟨?_, by omega⟩, by omega⟩, ?_⟩
  · exact List.isPrefixOf_iff_prefix.mpr (List.prefix_append _ _)
  · rw [List.all_eq_true] at hexDigits ⊢
    exact fun c member => hexDigits c (List.mem_of_mem_take member)

end Store

end Triangle.Mailbox
