import Triangle.WorkerPool.Pool

/-!
# What an operation of the pool holds

An operation holds one slot at a time, from its reservation, its visit or the
start of its warming to the end of the work on it, and with the slot the child
that it starts or closes there.
-/

namespace Triangle.WorkerPool

open Triangle.Semantics

/-- The slot that an operation holds with the work it does there, and the child
that it starts or closes. -/
structure Knowledge where
  work : Option (Nat × Work)
  opening : Option Nat

/-- An operation that holds nothing. -/
def Knowledge.nothing : Knowledge :=
  ⟨none, none⟩

/-- An operation that holds a slot, and no child there. -/
def Knowledge.holding (slot : Nat) (work : Work) : Knowledge :=
  ⟨some (slot, work), none⟩

/-- An operation that starts or closes a child of its slot. -/
def Knowledge.moving (slot : Nat) (work : Work) (child : Nat) : Knowledge :=
  ⟨some (slot, work), some child⟩

def Allowed (known : Knowledge) : Call → Prop
  | .acquire _ => known = .nothing
  | .takeGrant => known = .nothing
  | .beginWork _ => known = .nothing
  | .visitSlot _ => known = .nothing
  | .openProcess slot => ∃ work, known = .holding slot work
  | .startProcess slot child => ∃ work, known = .moving slot work child
  | .initializeProcess slot child => ∃ work, known = .moving slot work child
  | .installProcess slot child => ∃ work, known = .moving slot work child
  | .closeProcess slot child => known = .moving slot .maintenance child
  | .finishGrant slot _ => known = .holding slot .grant
  | .failGrant slot => known = .holding slot .grant
  | .endWork slot => ∃ work, work ≠ .grant ∧ known = .holding slot work
  | _ => True

def learn (known : Knowledge) : (request : Call) → Answer request → Knowledge
  | .acquire _, .ok (.reserved slot) => .holding slot .grant
  | .takeGrant, some grant => .holding grant.slot .grant
  | .beginWork slot, _ => .holding slot .warming
  | .visitSlot slot, previous => ⟨some (slot, .maintenance), previous⟩
  | .openProcess _, some child => { known with opening := some child }
  | .startProcess _ _, .error _ => { known with opening := none }
  | .initializeProcess _ _, .error _ => { known with opening := none }
  | .installProcess _ _, _ => { known with opening := none }
  | .closeProcess _ _, _ => { known with opening := none }
  | .finishGrant _ _, _ => .nothing
  | .failGrant _, _ => .nothing
  | .endWork _, _ => .nothing
  | _, _ => known

/-- A program that takes an operation from what it holds to what it holds then,
whether it returns or throws. -/
def Moves {α : Type} (before : Knowledge) (program : Pool α) (after : Knowledge) : Prop :=
  Program.Meets Allowed (fun _ _ => True) learn before program fun later _ => later = after

section

variable {before middle after : Knowledge} {α β : Type}

variable {program : Pool α} {request : Call}

/-- A sequence whose first part ends where the whole may end. -/
theorem Moves.bind {rest : α → Pool β} (first : Moves before program after)
    (goesOn : ∀ value, Moves after (rest value) after) : Moves before (program >>= rest) after := by
  refine Program.Meets.bind (Program.Meets.imp ?_ first)
  intro later result isLater
  subst isLater
  cases result with
  | ok value => exact goesOn value
  | error problem => rfl

/-- After a caught program the rest starts from where the program ended. -/
theorem Moves.outcome {rest : Except PoolError α → Pool β} (first : Moves before program middle)
    (goesOn : ∀ result, Moves middle (rest result) after) :
    Moves before (program.outcome >>= rest) after := by
  refine Program.Meets.bind (Program.Meets.outcome (Program.Meets.imp ?_ first))
  intro later result isLater
  subst isLater
  exact goesOn result

theorem Moves.call {rest : Answer request → Pool β} (isAllowed : Allowed before request)
    (goesOn : ∀ answer, Moves (learn before request answer) (rest answer) after) :
    Moves before (WorkerPool.call request >>= rest) after :=
  Program.Meets.request isAllowed fun answer _ => goesOn answer

theorem Moves.last (isAllowed : Allowed before request)
    (ends : ∀ answer, learn before request answer = after) :
    Moves before (WorkerPool.call request) after :=
  ⟨isAllowed, fun answer _ => ends answer⟩

theorem Moves.pure (value : α) : Moves after (Pure.pure value) after := rfl

theorem Moves.fail (problem : PoolError) : Moves after (Program.fail problem : Pool α) after := rfl

theorem Moves.ofExcept (result : Except PoolError α) :
    Moves after (Program.ofExcept result) after := rfl

/-- A call that may fail, with both ends. -/
theorem Moves.attempt {Value : Type} {read : Answer request → Except PoolError Value}
    {problem : PoolError → PoolError} {rest : Value → Pool β} (isAllowed : Allowed before request)
    (returns : ∀ answer value, read answer = .ok value →
      Moves (learn before request answer) (rest value) after)
    (throws : ∀ answer cause, read answer = .error cause → learn before request answer = after) :
    Moves before (Program.attempt request read problem >>= rest) after :=
  Program.Meets.attempt isAllowed (fun answer value _ isRead => returns answer value isRead)
    fun answer cause _ isRead => throws answer cause isRead

end

/-! ## The operations -/

variable {options : Options} {slot : Nat} {work : Work}

theorem ensureSlotProcess_moves :
    Moves (.holding slot work) (ensureSlotProcess slot) (.holding slot work) := by
  refine Moves.call ⟨work, rfl⟩ fun opened => ?_
  cases opened with
  | none => exact Moves.pure ()
  | some child =>
      refine Moves.attempt ⟨work, rfl⟩ (fun answer _ isOk => ?_) fun answer cause isError => ?_
      · cases isOk
        refine Moves.attempt ⟨work, rfl⟩ (fun answer _ isOk => ?_) fun answer cause isError => ?_
        · cases isOk
          exact Moves.last ⟨work, rfl⟩ fun _ => rfl
        · cases isError
          rfl
      · cases isError
        rfl

theorem grantReservedSlot_moves {conversationKey : Option String} :
    Moves (.holding slot .grant) (grantReservedSlot slot conversationKey) .nothing := by
  refine Moves.outcome ensureSlotProcess_moves fun result => ?_
  cases result with
  | ok _ =>
      refine ⟨rfl, fun answer _ => ?_⟩
      cases answer with
      | ok lease => exact Moves.pure lease
      | error error => exact Moves.fail error
  | error error => exact Moves.call rfl fun _ => Moves.fail error

theorem acquire_moves {arguments : AcquireOptions} :
    Moves .nothing (acquire arguments) .nothing := by
  refine Moves.attempt rfl (fun answer acquired isOk => ?_) fun answer cause isError => ?_
  · cases isOk
    cases acquired with
    | reserved slot => exact Moves.bind grantReservedSlot_moves fun lease => Moves.pure (some lease)
    | waiting waiter => exact Moves.pure none
  · cases isError
    rfl

theorem grantWaiter_moves : Moves .nothing grantWaiter .nothing := by
  refine Moves.call rfl fun taken => ?_
  cases taken with
  | none => exact Moves.pure none
  | some grant =>
      refine Moves.outcome grantReservedSlot_moves fun result => ?_
      cases result with
      | ok lease => exact Moves.pure (some lease)
      | error error => exact Moves.call trivial fun _ => Moves.fail error

theorem warmSlot_moves : Moves .nothing (warmSlot slot) .nothing := by
  refine Moves.call rfl fun _ => ?_
  refine Moves.outcome ensureSlotProcess_moves fun result => ?_
  exact Moves.call ⟨.warming, nofun, rfl⟩ fun _ => Moves.ofExcept result

theorem forSlots_moves {each : Nat → Pool Unit} (moves : ∀ slot, Moves .nothing (each slot) .nothing)
    (slots : List Nat) : Moves .nothing (forSlots each slots) .nothing := by
  induction slots with
  | nil => exact Moves.pure ()
  | cons slot rest ih => exact Moves.bind (moves slot) fun _ => ih

theorem start_moves : Moves .nothing (start options) .nothing := by
  refine Moves.call trivial fun already => ?_
  split
  · exact Moves.pure ()
  · refine Moves.bind (forSlots_moves (fun _ => warmSlot_moves) _) fun _ => ?_
    exact Moves.last trivial fun _ => rfl

/-- The first part of `stop` and `restartSlot` on a slot. -/
theorem visitAndClose_moves {rest : Pool Unit}
    (goesOn : Moves (.holding slot .maintenance) rest .nothing) :
    Moves .nothing (do
      match ← call (.visitSlot slot) with
      | some child => call (.closeProcess slot child)
      | none => pure ()
      rest) .nothing := by
  refine Moves.call rfl fun previous => ?_
  cases previous with
  | none => exact goesOn
  | some child => exact Moves.call rfl fun _ => goesOn

theorem stopSlot_moves : Moves .nothing (stopSlot slot) .nothing :=
  visitAndClose_moves (Moves.last ⟨.maintenance, nofun, rfl⟩ fun _ => rfl)

theorem stop_moves : Moves .nothing (stop options) .nothing := by
  refine Moves.call trivial fun _ => ?_
  refine Moves.bind (forSlots_moves (fun _ => stopSlot_moves) _) fun _ => ?_
  exact Moves.last trivial fun _ => rfl

variable {recordCrash : Bool}

theorem replaceSlot_moves : Moves .nothing (replaceSlot recordCrash slot) .nothing := by
  have reopens : Moves (.holding slot .maintenance) (do
      if ← call (.isCircuitOpen slot) then call (.endWork slot)
      else
        let result ← (ensureSlotProcess slot).outcome
        call (.endWork slot)
        Program.ofExcept result) .nothing := by
    refine Moves.call trivial fun isOpen => ?_
    split
    · exact Moves.last ⟨.maintenance, nofun, rfl⟩ fun _ => rfl
    · refine Moves.outcome ensureSlotProcess_moves fun result => ?_
      exact Moves.call ⟨.maintenance, nofun, rfl⟩ fun _ => Moves.ofExcept result
  apply visitAndClose_moves
  cases recordCrash with
  | true => exact Moves.call trivial fun _ => reopens
  | false => exact reopens

theorem restartSlot_moves {target : Option Nat} :
    Moves .nothing (restartSlot options target recordCrash) .nothing := by
  refine Moves.attempt trivial (fun answer _ isOk => ?_) fun answer cause isError => ?_
  · refine Program.Meets.ensure (fun _ => ?_) rfl
    refine Moves.bind (forSlots_moves (fun _ => replaceSlot_moves) _) fun _ => ?_
    exact Moves.last trivial fun _ => rfl
  · rfl

theorem noteCrash_moves : Moves .nothing (noteCrash options slot) .nothing :=
  Program.Meets.ensure (fun _ => Moves.last trivial fun _ => rfl) rfl

/-- Every operation starts and ends with nothing. -/
theorem code_moves (command : Command) : Moves .nothing (code options command) .nothing := by
  cases command with
  | start => exact start_moves
  | stop => exact stop_moves
  | restartSlot slot recordCrash => exact restartSlot_moves
  | noteCrash slot => exact noteCrash_moves
  | acquire arguments => exact Moves.bind acquire_moves fun _ => Moves.pure ()
  | grantWaiter => exact Moves.bind grantWaiter_moves fun _ => Moves.pure ()
  | release | rememberSticky | timeoutWaiter | passTime | childExit =>
      exact Moves.last trivial fun _ => rfl

end Triangle.WorkerPool
