import Triangle.Handoff.Settlement

/-!
# The four operations

Every run of an operation that meets the condition is all or nothing; and a run
of `rollbackHeadless` that does not, because another party replaced the lease
while the headless runtime verified the thread.
-/

namespace Triangle.Handoff

open Triangle.Std Triangle.Lease Triangle.Semantics

section

variable {controller : Controller} {manager : LeaseManager} {world : World}
  {threadId meshRoomId : Option String} {canVerify : Bool}

/-! ## Handoff to desktop -/

variable {operation : Operation} {existing : ProfileRecord} {before : ProfileStore}

variable {transfer : ProfileRecord} {prior : Standing}

section

variable (untouched : world.Untouched) (reopened : world.reopenFailed = false)
include untouched reopened

end

section

variable (kept : Kept before world)
include kept

end

end

/-! ## Every run -/

theorem Kept.start (store : ProfileStore) (paused : Bool) : Kept store (World.start store paused) where
  fresh _ member := nomatch member
  grows := Grows.refl _
  present absent := absent

section

end

end Triangle.Handoff
