import Triangle.Handoff.AllOrNothing

/-!
# Every end of a handoff

What one lease call of an operation may do to the phase it is in, and from that,
program by program, what every run of the operation ends in.
-/

namespace Triangle.Handoff

open Triangle.Std Triangle.Lease Triangle.Semantics

/-! ## Quiet calls -/

/-- A call that changes neither the record nor what is known about admission. -/
def IsQuiet : Call → Prop
  | .writeProfile _ | .lease _ | .resumeAdmission => False
  | _ => True

/-- A program of quiet calls. -/
abbrev Quiet {α : Type} (program : HandoffProgram α) : Prop :=
  Program.Meets (fun _ : Unit => IsQuiet) (fun _ _ => True) (fun known _ _ => known) ()
    program fun _ _ => True

section

variable {α β : Type}

theorem Quiet.bind {program : HandoffProgram α} {rest : α → HandoffProgram β}
    (first : Quiet program) (second : ∀ value, Quiet (rest value)) : Quiet (program >>= rest) := by
  apply Program.Meets.bind
  apply Program.Meets.imp _ first
  intro _ result _
  cases result with
  | ok value => exact second value
  | error problem => trivial

variable (request : Call)

variable (controller : Controller)

end

section

variable {controller : Controller} {manager : LeaseManager} {operation : Operation}
  {world : World} {holds : World → Prop} {α β : Type}

/-- Before a call is carried out others may act. -/
theorem Steady.others (steady : Steady holds) (labels : List LeaseLabel) (start : holds world) :
    holds (world.others labels) :=
  World.others_induction steady.other labels start

theorem Steady.quietStep (steady : Steady holds) {request : Call}
    {outcome : World × Answer request} (start : holds world) (quiet : IsQuiet request)
    (possible : sparedTurns controller manager operation world request outcome) :
    holds outcome.1 := by
  obtain ⟨turn, -, rfl⟩ := possible
  have left := steady.others turn.others start
  cases request with
  | writeProfile _ | lease _ | resumeAdmission => exact quiet.elim
  | admissionPaused paused => exact steady.paused _ paused left
  | readProfile | listConversations | readConversation _ | hasPendingApproval | isIdle
  | isAdmissionOpen | pauseAdmission | attachAndVerify _ | health | recoverAttachment _
  | verifyResume _ | now => exact left

variable {program : HandoffProgram α} {owner : String} {mode : RuntimeMode}

section

variable (steady : Steady holds) (start : holds world) (quiet : Quiet program)
include steady start quiet

/-- A quiet program keeps what others keep. -/
theorem Steady.always :
    program.Always (sparedTurns controller manager operation) world fun final _ => holds final := by
  have meets := @Program.Always.of_meets _ _ _ _ _ (sparedTurns controller manager operation) _
    _ _ _ _ (fun after _ => holds after)
    (fun _ _ _ _ does isQuiet possible => ⟨trivial, steady.quietStep does isQuiet possible⟩) ()
    start program _ quiet
  exact meets.imp fun _ _ known => known.elim fun _ facts => facts.1

/-- After a quiet program that returned, the rest runs where `holds` still does. -/
theorem Steady.then {rest : α → HandoffProgram β} {post : World → Except HandoffError β → Prop}
    (goesOn : ∀ after value, holds after →
      (rest value).Always (sparedTurns controller manager operation) after post)
    (throws : ∀ after problem, holds after → post after (.error problem)) :
    (program >>= rest).Always (sparedTurns controller manager operation) world post := by
  apply Program.Always.bind
  apply (steady.always start quiet).imp
  intro after result kept
  cases result with
  | ok value => exact goesOn after value kept
  | error problem => exact throws after problem kept

end

/-! ## Lease calls -/

/-- A run may end here. -/
def Settled (controller : Controller) (operation : Operation) (final : World) : Prop :=
  final.Untouched ∨
    final.store.profile.map standing = some (operation.target controller final.reopenFailed)

theorem StandsAs.settled {given : Standing} (stands : StandsAs given world)
    (isTarget : operation.target controller world.reopenFailed = given) :
    Settled controller operation world := by
  rw [← isTarget] at stands
  exact stands

end

end Triangle.Handoff
