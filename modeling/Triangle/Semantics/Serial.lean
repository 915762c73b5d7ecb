import Triangle.Semantics.Runs

/-!
# Commands one after the other, with crashes

`Keeps` is a program logic for code that may be cut off between any two calls:
an invariant holds before each call and at the end, whatever the environment
answers. `Serial` runs one command at a time over one world, as under one lock,
and a crash at any point leaves the world as it is. What every command keeps
holds in every state of every run.
-/

namespace Triangle.Semantics

namespace Program

variable {Call : Type} {Answer : Call → Type} {ε α β World : Type}

/-- The invariant holds before each call and at the end of every run of the program, and so
does the postcondition at the end. -/
def Keeps (environment : Environment World Call Answer) (holds : World → Prop) :
    World → Program Call Answer ε α → (World → Except ε α → Prop) → Prop
  | world, .done result, post => holds world ∧ post world result
  | world, .call request next, post =>
      holds world ∧ ∀ outcome, environment world request outcome →
        Keeps environment holds outcome.1 (next outcome.2) post

variable {environment : Environment World Call Answer} {holds : World → Prop} {world : World}

variable {program : Program Call Answer ε α}

theorem Keeps.here {post : World → Except ε α → Prop}
    (keeps : Keeps environment holds world program post) : holds world := by
  cases program with
  | done | call => exact keeps.1

/-- A weaker postcondition is met too. -/
theorem Keeps.imp {first second : World → Except ε α → Prop}
    (implies : ∀ final result, holds final → first final result → second final result)
    (keeps : Keeps environment holds world program first) :
    Keeps environment holds world program second := by
  induction program generalizing world with
  | done result => exact ⟨keeps.1, implies world result keeps.1 keeps.2⟩
  | call request next ih =>
      exact ⟨keeps.1, fun outcome possible =>
        ih outcome.2 (keeps.2 outcome possible)⟩

/-- A sequence meets a postcondition when its first part ends where the rest meets it. -/
theorem Keeps.bind {rest : α → Program Call Answer ε β} {post : World → Except ε β → Prop}
    (keeps : Keeps environment holds world program fun after result =>
      match result with
      | .ok value => Keeps environment holds after (rest value) post
      | .error problem => post after (.error problem)) :
    Keeps environment holds world (program >>= rest) post := by
  induction program generalizing world with
  | done result =>
      cases result with
      | ok value => exact keeps.2
      | error problem => exact keeps
  | call request next ih =>
      exact ⟨keeps.1, fun outcome possible =>
        ih outcome.2 (keeps.2 outcome possible)⟩

/-- A caught program ends where the program ends. -/
theorem Keeps.outcome {post : World → Except ε (Except ε α) → Prop}
    (keeps : Keeps environment holds world program fun after result => post after (.ok result)) :
    Keeps environment holds world program.outcome post := by
  induction program generalizing world with
  | done result => exact keeps
  | call request next ih =>
      exact ⟨keeps.1, fun outcome possible =>
        ih outcome.2 (keeps.2 outcome possible)⟩

/-- One call whose answer is used as it is. -/
theorem Keeps.request {request : Call} {post : World → Except ε (Answer request) → Prop}
    (here : holds world)
    (goesOn : ∀ after answer, environment world request (after, answer) →
      holds after ∧ post after (.ok answer)) :
    Keeps environment holds world (Program.request request) post :=
  ⟨here, fun outcome possible => goesOn outcome.1 outcome.2 possible⟩

/-- One call that returns a value or throws. -/
theorem Keeps.attempt {Value Problem : Type} {request : Call}
    {read : Answer request → Except Problem Value} {problem : Problem → ε}
    {post : World → Except ε Value → Prop} (here : holds world)
    (returns : ∀ after answer value, environment world request (after, answer) →
      read answer = .ok value → holds after ∧ post after (.ok value))
    (throws : ∀ after answer cause, environment world request (after, answer) →
      read answer = .error cause → holds after ∧ post after (.error (problem cause))) :
    Keeps environment holds world (Program.attempt request read problem) post := by
  refine ⟨here, fun outcome possible => ?_⟩
  dsimp only
  cases isRead : read outcome.2 with
  | ok value => exact returns outcome.1 outcome.2 value possible isRead
  | error cause => exact throws outcome.1 outcome.2 cause possible isRead

/-- A guard, with its condition where it returns. -/
theorem Keeps.ensure {condition : Prop} [Decidable condition] {problem : ε}
    {post : World → Except ε Unit → Prop} (here : holds world)
    (passes : condition → post world (.ok ())) (throws : ¬ condition → post world (.error problem)) :
    Keeps environment holds world (Program.ensure condition problem : Program Call Answer ε Unit)
      post := by
  by_cases does : condition
  · rw [Program.ensure, if_pos does]
    exact ⟨here, passes does⟩
  · rw [Program.ensure, if_neg does]
    exact ⟨here, throws does⟩

end Program

/-- Commands that run one at a time over one world. `perform` carries out one call, with
what the caller does not decide in the choice; `possible` says which choices there are. -/
structure Serial (Command Call : Type) (Answer : Call → Type) (ε α World Choice : Type) where
  code : Command → Program Call Answer ε α
  enter : Command → World → World
  possible : World → Call → Choice → Prop
  perform : World → (request : Call) → Choice → World × Answer request

namespace Serial

variable {Command Call : Type} {Answer : Call → Type} {ε α World Choice : Type}

/-- The world, and the rest of the command that runs. -/
structure State (Call : Type) (Answer : Call → Type) (ε α World : Type) where
  world : World
  running : Option (Program Call Answer ε α)

/-- What happens next: a command starts, goes on with its next call, or is cut off. -/
inductive Event (Command Choice : Type)
  | start (command : Command)
  | resume (choice : Choice)
  | crash

variable (system : Serial Command Call Answer ε α World Choice)
  [∀ world request choice, Decidable (system.possible world request choice)]

/-- One event. A command starts when no other runs. -/
def step (state : State Call Answer ε α World) :
    Event Command Choice → State Call Answer ε α World
  | .start command =>
      match state.running with
      | some _ => state
      | none => ⟨system.enter command state.world, some (system.code command)⟩
  | .resume choice =>
      match state.running with
      | none => state
      | some (.done _) => { state with running := none }
      | some (.call request next) =>
          if system.possible state.world request choice then
            ⟨(system.perform state.world request choice).1,
              some (next (system.perform state.world request choice).2)⟩
          else state
  | .crash => { state with running := none }

/-- The machine that starts in a world. -/
def machine (initial : World) : Machine (State Call Answer ε α World) (Event Command Choice) where
  initial := ⟨initial, none⟩
  step := system.step

/-- What a call may do under a condition on calls. -/
def environment (allows : World → Call → Choice → Prop) : Program.Environment World Call Answer :=
  fun world request outcome => ∃ choice, system.possible world request choice ∧
    allows world request choice ∧ outcome = system.perform world request choice

/-- The call that an event carries out meets the condition. -/
def Meets (allows : World → Call → Choice → Prop) (state : State Call Answer ε α World)
    (event : Event Command Choice) : Prop :=
  match event, state.running with
  | .resume choice, some (.call request _) => allows state.world request choice
  | _, _ => True

/-- The invariant holds, and what still runs keeps it. -/
structure Sound (allows : World → Call → Choice → Prop) (holds : World → Prop)
    (state : State Call Answer ε α World) : Prop where
  world : holds state.world
  keeps : ∀ program, state.running = some program →
    Program.Keeps (system.environment allows) holds state.world program fun _ _ => True

variable {system} {allows : World → Call → Choice → Prop} {holds : World → Prop}

/-- A step keeps what every command keeps. -/
theorem Sound.step (enter : ∀ command world, holds world → holds (system.enter command world))
    (code : ∀ command world, holds world →
      Program.Keeps (system.environment allows) holds (system.enter command world)
        (system.code command) fun _ _ => True)
    {state : State Call Answer ε α World} {event : Event Command Choice}
    (meets : Meets allows state event) (sound : Sound system allows holds state) :
    Sound system allows holds (system.step state event) := by
  obtain ⟨world, running⟩ := state
  cases event with
  | start command =>
      cases running with
      | some program => exact sound
      | none =>
          refine ⟨enter command world sound.world, fun program isRunning => ?_⟩
          obtain rfl := Option.some.inj isRunning
          exact code command world sound.world
  | crash => exact ⟨sound.world, nofun⟩
  | resume choice =>
      cases running with
      | none => exact sound
      | some program =>
          cases program with
          | done result => exact ⟨sound.world, nofun⟩
          | call request next =>
              simp only [Serial.step]
              split
              next isPossible =>
                have rest := (sound.keeps _ rfl).2 _ ⟨choice, isPossible, meets, rfl⟩
                refine ⟨rest.here, fun program isRunning => ?_⟩
                obtain rfl := Option.some.inj isRunning
                exact rest
              next => exact sound

/-- What every command keeps holds in every state of every run whose calls meet the condition. -/
theorem invariant_run (enter : ∀ command world, holds world → holds (system.enter command world))
    (code : ∀ command world, holds world →
      Program.Keeps (system.environment allows) holds (system.enter command world)
        (system.code command) fun _ _ => True)
    {initial : World} (start : holds initial) {events : List (Event Command Choice)}
    (along : (system.machine initial).Along (Meets allows) (system.machine initial).initial events) :
    holds ((system.machine initial).run events).world := by
  have atStart : Sound system allows holds ⟨initial, none⟩ :=
    ⟨start, nofun⟩
  have sound : Sound system allows holds ((system.machine initial).run events) :=
    @Machine.Along.invariant _ _ (system.machine initial) (Meets allows) (Sound system allows holds)
      (fun _ _ meets sound => sound.step enter code meets) _
      atStart _ along
  exact sound.world

end Serial

end Triangle.Semantics
