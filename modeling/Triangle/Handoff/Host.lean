import Triangle.Handoff.Controller
import Triangle.Lease.Writes
import Triangle.Semantics.Runs

/-!
# A handoff among other parties

A handoff operation runs over a profile store that others use as well. Before
each of its calls other parties carry out any lease operations, and a `Turn`
holds whatever the call itself does not decide: the clock, whether the store
accepts a write, and what the desktop owner and the headless runtime answer or
throw.

`base` is the record as others left it last: the one before the operation, or
the last one that another party wrote. `writes` are the writes of the operation,
and `reopenFailed` says that desktop admission could not be reopened. None of
the three is read by the code.
-/

namespace Triangle.Handoff

open Triangle.Std Triangle.Lease Triangle.Semantics

/-- What the environment decides about one call. -/
structure Turn where
  others : List LeaseLabel
  clock : Clock
  readable : Bool
  atomicWriteJson : ProfileRecord → Bool
  codexThreadId : String → Option String
  hasPendingApproval : Bool
  isIdle : Bool
  isAdmissionOpen : Bool
  pauseAdmission : Except String Unit
  resumeAdmission : Except String Unit
  attachAndVerify : Except String Bool
  health : Except String Bool
  recoverAttachment : Except String String
  verifyResume : Except String (Option String)
  now : Int

/-- A write of the operation; `copies` for a record that it had read and writes back. -/
structure ProfileWrite where
  overwritten : Option ProfileRecord
  written : ProfileRecord
  copies : Bool

/-- The store, the operation's flag, and the history. -/
structure World where
  store : ProfileStore
  admissionPaused : Bool
  base : Option ProfileRecord
  writes : List ProfileWrite
  reopenFailed : Bool

namespace World

/-- The world in which an operation starts. -/
def start (store : ProfileStore) (admissionPaused : Bool) : World where
  store
  admissionPaused
  base := store.profile
  writes := []
  reopenFailed := false

/-- A step of another party. -/
def otherStep (world : World) (label : LeaseLabel) : World :=
  let store := leaseStep world.store label
  { world with
    store
    base := if store.profile = world.store.profile then world.base else store.profile }

/-- Steps of other parties. -/
def others (world : World) (labels : List LeaseLabel) : World :=
  labels.foldl otherStep world

/-- A write of the operation. -/
def write (world : World) (record : ProfileRecord) (copies : Bool) : World :=
  { world with
    store := { world.store with profile := some record }
    writes := world.writes ++ [⟨world.store.profile, record, copies⟩] }

end World

/-- The stored conversations with their threads. -/
def conversationsOf (store : ProfileStore) (codexThreadId : String → Option String) :
    List HandoffConversation :=
  store.conversations.map fun row =>
    { toConversation := row, codexThreadId := codexThreadId row.meshRoomId }

/-- A read of the store, which may fail as a whole. -/
def readStore {α : Type} (readable : Bool) (result : Outcome α) : Outcome α :=
  if readable then result else .error ⟨.durableStoreRefused, "record could not be read"⟩

section

variable (controller : Controller) (manager : LeaseManager)

/-- Carry out one call in the world that the other parties left. -/
def performNow (world : World) (turn : Turn) : (request : Call) → World × Answer request
  | .readProfile =>
      (world, readStore turn.readable (Lease.readProfile world.store controller.profileInstanceId))
  | .listConversations =>
      (world, readStore turn.readable (.ok (conversationsOf world.store turn.codexThreadId)))
  | .readConversation meshRoomId =>
      (world, readStore turn.readable (.ok ((conversationsOf world.store turn.codexThreadId).find?
        fun row => row.meshRoomId = meshRoomId)))
  | .writeProfile record =>
      match writeProfileUnlocked turn.atomicWriteJson record with
      | .ok written => (world.write written true, .ok written)
      | .error problem => (world, .error problem)
  | .lease operation =>
      match operation.perform turn.atomicWriteJson manager turn.clock world.store with
      | .ok written => (world.write written false, .ok written)
      | .error problem => (world, .error problem)
  | .hasPendingApproval => (world, turn.hasPendingApproval)
  | .isIdle => (world, turn.isIdle)
  | .isAdmissionOpen => (world, turn.isAdmissionOpen)
  | .pauseAdmission => (world, turn.pauseAdmission)
  | .resumeAdmission =>
      match turn.resumeAdmission with
      | .ok _ => (world, .ok ())
      | .error problem => ({ world with reopenFailed := true }, .error problem)
  | .attachAndVerify _ => (world, turn.attachAndVerify)
  | .health => (world, turn.health)
  | .recoverAttachment _ => (world, turn.recoverAttachment)
  | .verifyResume _ => (world, turn.verifyResume)
  | .admissionPaused paused => ({ world with admissionPaused := paused }, ())
  | .now => (world, turn.now)

/-- A turn: the other parties, then the call. -/
def perform (world : World) (request : Call) (turn : Turn) : World × Answer request :=
  performNow controller manager (world.others turn.others) turn request

/-- The turns that meet a condition on the world the other parties left. -/
def turnsWith (condition : World → Call → Turn → Prop) :
    Program.Environment World Call Answer := fun world request outcome =>
  ∃ turn, condition (world.others turn.others) request turn ∧
    outcome = perform controller manager world request turn

end

/-! ## All or nothing -/

namespace World

/-- The record stands as the others left it. -/
def Untouched (world : World) : Prop :=
  world.store.profile.map standing = world.base.map standing

instance (world : World) : Decidable world.Untouched :=
  inferInstanceAs (Decidable (_ = _))

end World

/-- The committed target of an operation. It is frozen when desktop admission
was to be reopened and could not be. -/
def Operation.target (controller : Controller) (reopenFailed : Bool) : Operation → Standing
  | .handoffToDesktop _ _ | .recoverDesktop _ _ =>
      ⟨controller.desktopOwnerInstanceId, .desktop, reopenFailed, .owned⟩
  | .handoffToHeadless _ _ _ | .rollbackHeadless _ _ _ =>
      ⟨controller.headlessOwnerInstanceId, .headless, false, .owned⟩

/-- The generation of a record does not decrease, and a record is not removed. -/
def Grows (before after : Option ProfileRecord) : Prop :=
  ∀ record ∈ before, ∃ next ∈ after, record.ownerGeneration ≤ next.ownerGeneration

/-- A write goes over a record of no later generation, and a copy over the very
record that was copied. -/
def ProfileWrite.Fresh (write : ProfileWrite) : Prop :=
  Grows write.overwritten (some write.written) ∧
    (write.copies = true → ∀ record ∈ write.overwritten,
      write.written = { record with admissionFrozen := write.written.admissionFrozen })

/-- The record stands as others left it, which includes that it is not left
transferring on behalf of the operation, or at the whole target; no write went
over a newer record, and the generation did not decrease. -/
structure AllOrNothing (controller : Controller) (operation : Operation) (before : ProfileStore)
    (final : World) : Prop where
  settled : final.Untouched ∨
    final.store.profile.map standing = some (operation.target controller final.reopenFailed)
  fresh : ∀ write ∈ final.writes, write.Fresh
  grows : Grows before.profile final.store.profile

end Triangle.Handoff
