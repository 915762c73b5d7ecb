import Triangle.Semantics.Machine

/-!
# Interleaved programs

A `Program` is a tree of calls: each call waits for its answer, and the program
goes on with it. Everything between two calls is local, so the calls are the
only points at which another process can come in between or a crash can strike.

`Meets` is the rule of pre- and postconditions. What a process knows is a value
of its own type that grows by the answers it gets; a program meets a contract
when each call it makes is allowed by what it knows then, whatever answers of
the possible ones it got before.

`Interleaving` runs any number of processes over one shared world. Its
invariant rule needs, besides the contract, that a call allowed to one process
keeps the invariant of the world and what every other process knows.
-/

namespace Triangle.Semantics

/-- A program that makes calls and returns or throws. -/
inductive Program (Call : Type) (Answer : Call → Type) (ε α : Type) : Type
  | done (result : Except ε α)
  | call (request : Call) (next : Answer request → Program Call Answer ε α)

namespace Program

variable {Call : Type} {Answer : Call → Type} {ε α β : Type}

/-- Go on with the value of a program that returns. -/
def bind : Program Call Answer ε α → (α → Program Call Answer ε β) → Program Call Answer ε β
  | .done (.ok value), rest => rest value
  | .done (.error problem), _ => .done (.error problem)
  | .call request next, rest => .call request fun answer => (next answer).bind rest

instance : Monad (Program Call Answer ε) where
  pure value := .done (.ok value)
  bind := bind

/-- Throw. -/
def fail (problem : ε) : Program Call Answer ε α :=
  .done (.error problem)

/-- Throw unless the condition holds. -/
def ensure (condition : Prop) [Decidable condition] (problem : ε) : Program Call Answer ε Unit :=
  if condition then pure () else fail problem

/-- Go on with the result of a computation without calls. -/
def ofExcept (result : Except ε α) : Program Call Answer ε α :=
  .done result

/-- One call. -/
def request (request : Call) : Program Call Answer ε (Answer request) :=
  .call request fun answer => pure answer

/-- One call whose answer may be an error; `problem` is what the program throws then. -/
def attempt {Value Problem : Type} (request : Call)
    (read : Answer request → Except Problem Value) (problem : Problem → ε) :
    Program Call Answer ε Value :=
  .call request fun answer =>
    match read answer with
    | .ok value => pure value
    | .error cause => fail (problem cause)

/-- Run a program and return what it returned or threw; `catch` and `finally` go on from there. -/
def outcome : Program Call Answer ε α → Program Call Answer ε (Except ε α)
  | .done result => .done (.ok result)
  | .call request next => .call request fun answer => (next answer).outcome

/-- Throw a changed error. -/
def mapError {δ : Type} (change : ε → δ) : Program Call Answer ε α → Program Call Answer δ α
  | .done (.ok value) => .done (.ok value)
  | .done (.error problem) => .done (.error (change problem))
  | .call request next => .call request fun answer => (next answer).mapError change

section

variable {World : Type} (handle : World → (request : Call) → World × Answer request)

/-- Run a program to its end, with every call carried out at once. -/
def exec : World → Program Call Answer ε α → World × Except ε α
  | world, .done result => (world, result)
  | world, .call request next => exec (handle world request).1 (next (handle world request).2)

variable {handle} {world : World}

@[simp] theorem exec_done (result : Except ε α) :
    exec handle world (.done result : Program Call Answer ε α) = (world, result) := rfl

@[simp] theorem exec_pure (value : α) :
    exec handle world (pure value : Program Call Answer ε α) = (world, .ok value) := rfl

@[simp] theorem exec_fail (problem : ε) :
    exec handle world (fail problem : Program Call Answer ε α) = (world, .error problem) := rfl

/-- A changed error leaves the world as it is. -/
theorem exec_mapError {δ : Type} (change : ε → δ) (program : Program Call Answer ε α) :
    exec handle world (program.mapError change) =
      ((exec handle world program).1, (exec handle world program).2.mapError change) := by
  induction program generalizing world with
  | done result => cases result <;> rfl
  | call request next ih => exact ih _

/-- A caught program leaves the world as it is. -/
theorem exec_outcome (program : Program Call Answer ε α) :
    exec handle world program.outcome =
      ((exec handle world program).1, .ok (exec handle world program).2) := by
  induction program generalizing world with
  | done result => rfl
  | call request next ih => exact ih _

/-- A sequence goes on where its first part has returned. -/
theorem exec_bind (program : Program Call Answer ε α) (rest : α → Program Call Answer ε β) :
    exec handle world (program >>= rest) =
      match exec handle world program with
      | (after, .ok value) => exec handle after (rest value)
      | (after, .error problem) => (after, .error problem) := by
  induction program generalizing world with
  | done result => cases result <;> rfl
  | call request next ih => exact ih _

variable {after : World}

variable {program : Program Call Answer ε α} {condition : Prop}

theorem exec_bind_ok {value : α} (returns : exec handle world program = (after, .ok value))
    (rest : α → Program Call Answer ε β) :
    exec handle world (program >>= rest) = exec handle after (rest value) := by
  rw [exec_bind, returns]

theorem exec_bind_error {problem : ε} (throws : exec handle world program = (after, .error problem))
    (rest : α → Program Call Answer ε β) :
    exec handle world (program >>= rest) = (after, .error problem) := by
  rw [exec_bind, throws]

theorem exec_ensure [Decidable condition] (holds : condition) (problem : ε)
    (rest : Unit → Program Call Answer ε β) :
    exec handle world (ensure condition problem >>= rest) = exec handle world (rest ()) := by
  rw [ensure, if_pos holds]
  rfl

theorem exec_ensure_not [Decidable condition] (fails : ¬ condition) (problem : ε)
    (rest : Unit → Program Call Answer ε β) :
    exec handle world (ensure condition problem >>= rest) = (world, .error problem) := by
  rw [ensure, if_neg fails]
  rfl

/-- One call that is answered by a value. -/
theorem exec_attempt {Value Problem : Type} {request : Call}
    {read : Answer request → Except Problem Value} {problem : Problem → ε} {answer : Answer request}
    {value : Value} (handled : handle world request = (after, answer))
    (isRead : read answer = .ok value) :
    exec handle world (attempt request read problem : Program Call Answer ε Value) =
      (after, .ok value) := by
  simp [attempt, exec, handled, isRead]

/-- One call that is answered by an error. -/
theorem exec_attempt_error {Value Problem : Type} {request : Call}
    {read : Answer request → Except Problem Value} {problem : Problem → ε} {answer : Answer request}
    {cause : Problem} (handled : handle world request = (after, answer))
    (isRead : read answer = .error cause) :
    exec handle world (attempt request read problem : Program Call Answer ε Value) =
      (after, .error (problem cause)) := by
  simp [attempt, exec, handled, isRead]

end

section

variable {Knowledge : Type} (allowed : Knowledge → Call → Prop)
  (possible : (request : Call) → Answer request → Prop)
  (learn : Knowledge → (request : Call) → Answer request → Knowledge)

/-- Each call of the program is allowed by what it knows then, and at its end
what it knows and its result meet the postcondition. -/
def Meets : Knowledge → Program Call Answer ε α → (Knowledge → Except ε α → Prop) → Prop
  | known, .done result, post => post known result
  | known, .call request next, post =>
      allowed known request ∧ ∀ answer, possible request answer →
        Meets (learn known request answer) (next answer) post

variable {allowed possible learn} {known : Knowledge}

variable {program : Program Call Answer ε α} {post : Knowledge → Except ε β → Prop}

/-- A weaker postcondition is met too. -/
theorem Meets.imp {first second : Knowledge → Except ε α → Prop}
    (implies : ∀ known result, first known result → second known result)
    (meets : Meets allowed possible learn known program first) :
    Meets allowed possible learn known program second := by
  induction program generalizing known with
  | done result => exact implies known result meets
  | call request next ih =>
      exact ⟨meets.1, fun answer isPossible => ih answer (meets.2 answer isPossible)⟩

/-- A sequence meets a postcondition when its first part ends where the rest meets it. -/
theorem Meets.bind {rest : α → Program Call Answer ε β}
    (meets : Meets allowed possible learn known program fun known result =>
      match result with
      | .ok value => Meets allowed possible learn known (rest value) post
      | .error problem => post known (.error problem)) :
    Meets allowed possible learn known (program >>= rest) post := by
  induction program generalizing known with
  | done result =>
      cases result with
      | ok | error => exact meets
  | call request next ih =>
      exact ⟨meets.1, fun answer isPossible => ih answer (meets.2 answer isPossible)⟩

theorem Meets.outcome {post : Knowledge → Except ε (Except ε α) → Prop}
    (meets : Meets allowed possible learn known program fun known result =>
      post known (.ok result)) : Meets allowed possible learn known program.outcome post := by
  induction program generalizing known with
  | done result => exact meets
  | call request next ih =>
      exact ⟨meets.1, fun answer isPossible => ih answer (meets.2 answer isPossible)⟩

/-- A changed error meets what is met for the changed error. -/
theorem Meets.mapError {δ : Type} {change : ε → δ} {post : Knowledge → Except δ α → Prop}
    (meets : Meets allowed possible learn known program fun known result =>
      post known (result.mapError change)) :
    Meets allowed possible learn known (program.mapError change) post := by
  induction program generalizing known with
  | done result => cases result <;> exact meets
  | call request next ih =>
      exact ⟨meets.1, fun answer isPossible => ih answer (meets.2 answer isPossible)⟩

/-- One call whose answer is used as it is. -/
theorem Meets.request {request : Call} {rest : Answer request → Program Call Answer ε β}
    (isAllowed : allowed known request) (goesOn : ∀ answer, possible request answer →
      Meets allowed possible learn (learn known request answer) (rest answer) post) :
    Meets allowed possible learn known (Program.request request >>= rest) post :=
  ⟨isAllowed, goesOn⟩

/-- After a guard its condition may be used. -/
theorem Meets.ensure {condition : Prop} [Decidable condition] {problem : ε}
    {rest : Unit → Program Call Answer ε β}
    (passes : condition → Meets allowed possible learn known (rest ()) post)
    (throws : post known (.error problem)) :
    Meets allowed possible learn known (Program.ensure condition problem >>= rest) post := by
  by_cases holds : condition
  · rw [Program.ensure, if_pos holds]
    exact passes holds
  · rw [Program.ensure, if_neg holds]
    exact throws

/-- One call, with what its answer teaches. -/
theorem Meets.attempt {Value Problem : Type} {request : Call}
    {read : Answer request → Except Problem Value} {problem : Problem → ε}
    {rest : Value → Program Call Answer ε β} (isAllowed : allowed known request)
    (returns : ∀ answer value, possible request answer → read answer = .ok value →
      Meets allowed possible learn (learn known request answer) (rest value) post)
    (throws : ∀ answer cause, possible request answer → read answer = .error cause →
      post (learn known request answer) (.error (problem cause))) :
    Meets allowed possible learn known (Program.attempt request read problem >>= rest) post := by
  refine ⟨isAllowed, fun answer isPossible => ?_⟩
  change Meets allowed possible learn _
    ((match read answer with
      | .ok value => Pure.pure value
      | .error cause => Program.fail (problem cause)) >>= rest) post
  cases isRead : read answer with
  | ok value => exact returns answer value isPossible isRead
  | error cause => exact throws answer cause isPossible isRead

end

end Program

/-- Processes that run commands over one world. `enter` prepares the world for
a command of a process, and `perform` carries out one call; what the caller
does not decide is in the choice. -/
structure Interleaving (Pid Command Call : Type) (Answer : Call → Type) (ε α World Choice : Type)
    where
  code : Command → Program Call Answer ε α
  enter : Pid → World → World
  perform : Pid → World → (request : Call) → Choice → World × Answer request

namespace Interleaving

variable {Pid Command Call : Type} {Answer : Call → Type} {ε α World Choice : Type}
  [DecidableEq Pid]

/-- The world and the programs that run. -/
structure State (Pid Call : Type) (Answer : Call → Type) (ε α World : Type) where
  world : World
  running : Pid → Option (Program Call Answer ε α)

/-- What happens next: a process starts a command, goes on with its next call,
or is killed. -/
inductive Event (Pid Command Choice : Type)
  | start (process : Pid) (command : Command)
  | resume (process : Pid) (choice : Choice)
  | crash (process : Pid)

variable (system : Interleaving Pid Command Call Answer ε α World Choice)

/-- One event. A process runs one command at a time. -/
def step (state : State Pid Call Answer ε α World) :
    Event Pid Command Choice → State Pid Call Answer ε α World
  | .start process command =>
      match state.running process with
      | some _ => state
      | none =>
          { world := system.enter process state.world
            running := Function.update state.running process (some (system.code command)) }
  | .resume process choice =>
      match state.running process with
      | none => state
      | some (.done _) => { state with running := Function.update state.running process none }
      | some (.call request next) =>
          let outcome := system.perform process state.world request choice
          { world := outcome.1
            running := Function.update state.running process (some (next outcome.2)) }
  | .crash process => { state with running := Function.update state.running process none }

/-- The machine that starts without processes. -/
def machine (initial : World) :
    Machine (State Pid Call Answer ε α World) (Event Pid Command Choice) where
  initial := ⟨initial, fun _ => none⟩
  step := system.step

/-- The call that an event carries out. -/
def calls (state : State Pid Call Answer ε α World) (event : Event Pid Command Choice) :
    Option (Pid × Call) :=
  match event with
  | .resume process _ =>
      match state.running process with
      | some (.call request _) => some (process, request)
      | _ => none
  | _ => none

section

variable {system} {state : State Pid Call Answer ε α World} {process : Pid}

theorem step_start_busy {program : Program Call Answer ε α}
    (running : state.running process = some program) (command : Command) :
    system.step state (.start process command) = state := by
  simp [step, running]

theorem step_start (free : state.running process = none) (command : Command) :
    system.step state (.start process command) =
      { world := system.enter process state.world
        running := Function.update state.running process (some (system.code command)) } := by
  simp [step, free]

theorem step_resume_idle (free : state.running process = none) (choice : Choice) :
    system.step state (.resume process choice) = state := by
  simp [step, free]

theorem step_resume_done {result : Except ε α}
    (running : state.running process = some (.done result)) (choice : Choice) :
    system.step state (.resume process choice) =
      { state with running := Function.update state.running process none } := by
  simp [step, running]

theorem step_resume_call {request : Call} {next : Answer request → Program Call Answer ε α}
    (running : state.running process = some (.call request next)) (choice : Choice) :
    system.step state (.resume process choice) =
      { world := (system.perform process state.world request choice).1
        running := Function.update state.running process
          (some (next (system.perform process state.world request choice).2)) } := by
  simp [step, running]

end

section

variable (environment : Call → Choice)

/-- A call of one process, with what the environment decides about it. -/
def handles (process : Pid) (world : World) (request : Call) : World × Answer request :=
  system.perform process world request (environment request)

variable {system environment}

end

section

variable {Knowledge : Type} (allowed : Knowledge → Call → Prop)
  (possible : (request : Call) → Answer request → Prop)
  (learn : Knowledge → (request : Call) → Answer request → Knowledge)
  (holds : World → Prop) (knows : Pid → World → Knowledge → Prop)

/-- The world keeps its invariant, and each running program meets its contract
from something it does know. -/
structure Sound (state : State Pid Call Answer ε α World) : Prop where
  world : holds state.world
  contract : ∀ process program, state.running process = some program →
    ∃ known, knows process state.world known ∧
      Program.Meets allowed possible learn known program fun _ _ => True

variable {system allowed possible learn holds knows}

/-- A process that is gone takes nothing with it. -/
theorem Sound.forget {state : State Pid Call Answer ε α World}
    (sound : Sound allowed possible learn holds knows state) (process : Pid) :
    Sound allowed possible learn holds knows
      { state with running := Function.update state.running process none } := by
  refine ⟨sound.world, fun other program isRunning => ?_⟩
  by_cases same : other = process
  · subst same
    simp at isRunning
  · simp only [Function.update_of_ne same] at isRunning
    exact sound.contract other program isRunning

/-- The invariant rule. A command starts with `start` known. An allowed call
keeps the invariant, has a possible answer that teaches its caller what `learn`
says, and takes nothing from what others know. -/
theorem Sound.step {condition : State Pid Call Answer ε α World → Event Pid Command Choice → Prop}
    (start : Knowledge)
    (code : ∀ command, Program.Meets allowed possible learn start (system.code command) fun _ _ => True)
    (enterHolds : ∀ process world, holds world → holds (system.enter process world))
    (enterKnows : ∀ process world, holds world → knows process (system.enter process world) start)
    (enterOthers : ∀ process other world known, other ≠ process → knows other world known →
      knows other (system.enter process world) known)
    (performs : ∀ state process request next choice known,
      condition state (.resume process choice) →
      state.running process = some (.call request next) → holds state.world →
      knows process state.world known → allowed known request →
      holds (system.perform process state.world request choice).1 ∧
        possible request (system.perform process state.world request choice).2 ∧
        knows process (system.perform process state.world request choice).1
          (learn known request (system.perform process state.world request choice).2))
    (performsOthers : ∀ state process other request next choice known otherKnown,
      condition state (.resume process choice) →
      state.running process = some (.call request next) → other ≠ process → holds state.world →
      knows process state.world known → allowed known request →
      knows other state.world otherKnown →
      knows other (system.perform process state.world request choice).1 otherKnown)
    {state : State Pid Call Answer ε α World} {event : Event Pid Command Choice}
    (meets : condition state event) (sound : Sound allowed possible learn holds knows state) :
    Sound allowed possible learn holds knows (system.step state event) := by
  cases event with
  | start process command =>
      cases running : state.running process with
      | some program =>
          rw [step_start_busy running]
          exact sound
      | none =>
          rw [step_start running]
          refine ⟨enterHolds process state.world sound.world, fun other program isRunning => ?_⟩
          by_cases same : other = process
          · subst same
            simp only [Function.update_self, Option.some.injEq] at isRunning
            subst isRunning
            exact ⟨start, enterKnows other state.world sound.world, code command⟩
          · simp only [Function.update_of_ne same] at isRunning
            obtain ⟨known, does, contract⟩ := sound.contract other program isRunning
            exact ⟨known, enterOthers process other state.world known same does, contract⟩
  | crash process => exact sound.forget process
  | resume process choice =>
      cases running : state.running process with
      | none =>
          rw [step_resume_idle running]
          exact sound
      | some program =>
          cases program with
          | done result =>
              rw [step_resume_done running]
              exact sound.forget process
          | call request next =>
              obtain ⟨known, does, isAllowed, contract⟩ := sound.contract process _ running
              obtain ⟨kept, isPossible, learned⟩ := performs state process request next choice known meets
                running sound.world does isAllowed
              rw [step_resume_call running]
              refine ⟨kept, fun other program isRunning => ?_⟩
              by_cases same : other = process
              · subst same
                simp only [Function.update_self, Option.some.injEq] at isRunning
                subst isRunning
                exact ⟨_, learned, contract _ isPossible⟩
              · simp only [Function.update_of_ne same] at isRunning
                obtain ⟨otherKnown, otherDoes, otherContract⟩ :=
                  sound.contract other program isRunning
                exact ⟨otherKnown, performsOthers state process other request next choice known
                  otherKnown meets running same sound.world does isAllowed otherDoes, otherContract⟩

end

end Interleaving

end Triangle.Semantics
