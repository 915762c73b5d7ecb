import Triangle.Semantics.Program

/-!
# Programs that take turns

On one thread a program runs on until it waits. A turn carries out the call that a
process waits with and then the calls that only read, up to the next call that it waits
with, and nothing comes in between. That call is issued at the end of the turn, so what
the reads before it saw is still so. `issue` notes it in the world.

`Turned` is the program logic. A process may rely on `later`, which the turns of the
others keep, and each call that it issues is `allowed` in the world in which it is
issued.
-/

namespace Triangle.Semantics

/-- Processes on one thread. `reads` are the calls that leave the world as it is. -/
structure Turns (Pid Command Call : Type) (Answer : Call → Type) (ε α World Choice : Type) where
  code : Command → Program Call Answer ε α
  perform : Pid → World → (request : Call) → Choice → World × Answer request
  issue : Pid → Command → World → Call → World
  reads : Call → Bool
  readsOnly : ∀ process world request choice, reads request = true →
    (perform process world request choice).1 = world

namespace Turns

variable {Pid Command Call : Type} {Answer : Call → Type} {ε α World Choice : Type}

/-- The world, and the command of each process with the rest of its program. -/
structure State (Pid Command Call : Type) (Answer : Call → Type) (ε α World : Type) where
  world : World
  running : Pid → Option (Command × Program Call Answer ε α)

/-- What happens next: a process starts a command, or its call is answered. -/
inductive Event (Pid Command Choice : Type)
  | start (process : Pid) (command : Command) (choice : Choice)
  | turn (process : Pid) (choice : Choice)

variable (system : Turns Pid Command Call Answer ε α World Choice)

/-- The program after the reads that come next. -/
def readOn {β : Type} (process : Pid) (world : World) (choice : Choice) :
    Program Call Answer ε β → Program Call Answer ε β
  | .done result => .done result
  | .call request next =>
      if system.reads request then
        readOn process world choice (next (system.perform process world request choice).2)
      else .call request next

/-- The call at which a program waits. -/
def pending {β : Type} : Program Call Answer ε β → Option Call
  | .done _ => none
  | .call request _ => some request

section

variable [DecidableEq Pid]

/-- The process goes on with a program in a world. -/
def goOn (state : State Pid Command Call Answer ε α World) (process : Pid) (command : Command)
    (world : World) (choice : Choice) (program : Program Call Answer ε α) :
    State Pid Command Call Answer ε α World :=
  let rest := system.readOn process world choice program
  { world := (pending rest).elim world (system.issue process command world)
    running := Function.update state.running process (some (command, rest)) }

/-- One event. A process runs one command at a time. -/
def step (state : State Pid Command Call Answer ε α World) :
    Event Pid Command Choice → State Pid Command Call Answer ε α World
  | .start process command choice =>
      match state.running process with
      | some _ => state
      | none => system.goOn state process command state.world choice (system.code command)
  | .turn process choice =>
      match state.running process with
      | none => state
      | some (_, .done _) => { state with running := Function.update state.running process none }
      | some (command, .call request next) =>
          let outcome := system.perform process state.world request choice
          system.goOn state process command outcome.1 choice (next outcome.2)

/-- The machine that starts without processes. -/
def machine (initial : World) :
    Machine (State Pid Command Call Answer ε α World) (Event Pid Command Choice) where
  initial := ⟨initial, fun _ => none⟩
  step := system.step

end

/-- The command of a process and the call at which it waits. -/
def waiting (state : State Pid Command Call Answer ε α World) (process : Pid) :
    Option (Command × Call) :=
  (state.running process).bind fun (command, program) =>
    (pending program).map fun request => (command, request)

/-- The call that an event carries out, with its process and command. -/
def carried (state : State Pid Command Call Answer ε α World) :
    Event Pid Command Choice → Option (Pid × Command × Call)
  | .start _ _ _ => none
  | .turn process _ => (waiting state process).map fun (command, request) =>
      (process, command, request)

/-- The call that an event issues: the one at which its process waits then. -/
def issued [DecidableEq Pid] (state : State Pid Command Call Answer ε α World)
    (event : Event Pid Command Choice) : Option (Pid × Command × Call) :=
  match event with
  | .start process _ _ =>
      if (state.running process).isNone then
        (waiting (system.step state event) process).map fun (command, request) =>
          (process, command, request)
      else none
  | .turn process _ =>
      (waiting (system.step state event) process).map fun (command, request) =>
        (process, command, request)

/-! ## The program logic -/

section

variable (allowed : Pid → Command → World → Call → Prop) (later : Pid → World → World → Prop)
  (holds : World → Prop) (possible : Pid → Command → World → Call → Choice → Prop)
  (process : Pid) (command : Command)

/-- Every call that the program issues is allowed then, and its end meets the
postcondition. -/
def Turned {β : Type} : World → Program Call Answer ε β → (World → Except ε β → Prop) → Prop
  | world, .done result, post => post world result
  | world, .call request next, post =>
      if system.reads request = true then
        ∀ choice, Turned world (next (system.perform process world request choice).2) post
      else
        allowed process command world request ∧
          ∀ after, later process (system.issue process command world request) after →
            holds after → ∀ choice, possible process command after request choice →
              holds (system.perform process after request choice).1 →
              Turned (system.perform process after request choice).1
                (next (system.perform process after request choice).2) post

variable {system allowed later holds possible process command} {world : World} {β γ : Type}

variable {program : Program Call Answer ε β} {post : World → Except ε β → Prop}

/-- A weaker postcondition is met too. -/
theorem Turned.imp {first second : World → Except ε β → Prop}
    (implies : ∀ after result, first after result → second after result)
    (turned : Turned system allowed later holds possible process command world program first) :
    Turned system allowed later holds possible process command world program second := by
  induction program generalizing world with
  | done result => exact implies world result turned
  | call request next ih =>
      unfold Turned at turned ⊢
      split
      next isRead =>
        rw [if_pos isRead] at turned
        exact fun choice => ih _ (turned choice)
      next waits =>
        rw [if_neg waits] at turned
        exact ⟨turned.1, fun after isLater kept choice isPossible keptThen =>
          ih _ (turned.2 after isLater kept choice isPossible keptThen)⟩

/-- A sequence meets a postcondition when its first part ends where the rest meets it. -/
theorem Turned.bind {rest : β → Program Call Answer ε γ} {post : World → Except ε γ → Prop}
    (turned : Turned system allowed later holds possible process command world program
      fun after result =>
        match result with
        | .ok value =>
            Turned system allowed later holds possible process command after (rest value) post
        | .error problem => post after (.error problem)) :
    Turned system allowed later holds possible process command world (program >>= rest) post := by
  induction program generalizing world with
  | done result =>
      cases result with
      | ok | error => exact turned
  | call request next ih =>
      change Turned system allowed later holds possible process command world
        (.call request fun answer => (next answer).bind rest) post
      unfold Turned at turned ⊢
      split
      next isRead =>
        rw [if_pos isRead] at turned
        exact fun choice => ih _ (turned choice)
      next waits =>
        rw [if_neg waits] at turned
        exact ⟨turned.1, fun after isLater kept choice isPossible keptThen =>
          ih _ (turned.2 after isLater kept choice isPossible keptThen)⟩

/-- A caught program ends where the program ends. -/
theorem Turned.outcome {post : World → Except ε (Except ε β) → Prop}
    (turned : Turned system allowed later holds possible process command world program
      fun after result => post after (.ok result)) :
    Turned system allowed later holds possible process command world program.outcome post := by
  induction program generalizing world with
  | done result => exact turned
  | call request next ih =>
      change Turned system allowed later holds possible process command world
        (.call request fun answer => (next answer).outcome) post
      unfold Turned at turned ⊢
      split
      next isRead =>
        rw [if_pos isRead] at turned
        exact fun choice => ih _ (turned choice)
      next waits =>
        rw [if_neg waits] at turned
        exact ⟨turned.1, fun after isLater kept choice isPossible keptThen =>
          ih _ (turned.2 after isLater kept choice isPossible keptThen)⟩

/-- A read, whose answer is of the world that the program is in. -/
theorem Turned.read {request : Call} {post : World → Except ε (Answer request) → Prop}
    (isRead : system.reads request = true)
    (goesOn : ∀ choice, post world (.ok (system.perform process world request choice).2)) :
    Turned system allowed later holds possible process command world
      (Program.request request) post := by
  unfold Program.request Turned
  rw [if_pos isRead]
  exact goesOn

/-- A call that the program waits with. -/
theorem Turned.request {request : Call} {post : World → Except ε (Answer request) → Prop}
    (waits : system.reads request = false) (isAllowed : allowed process command world request)
    (goesOn : ∀ after, later process (system.issue process command world request) after →
      holds after → ∀ choice, possible process command after request choice →
        holds (system.perform process after request choice).1 →
        post (system.perform process after request choice).1
          (.ok (system.perform process after request choice).2)) :
    Turned system allowed later holds possible process command world
      (Program.request request) post := by
  unfold Program.request Turned
  rw [if_neg (ne_true_of_eq_false waits)]
  exact ⟨isAllowed, goesOn⟩

/-- A call that returns a value or throws. -/
theorem Turned.attempt {Value Problem : Type} {request : Call}
    {read : Answer request → Except Problem Value} {problem : Problem → ε}
    {post : World → Except ε Value → Prop} (waits : system.reads request = false)
    (isAllowed : allowed process command world request)
    (goesOn : ∀ after, later process (system.issue process command world request) after →
      holds after → ∀ choice, possible process command after request choice →
        holds (system.perform process after request choice).1 →
        (∀ value, read (system.perform process after request choice).2 = .ok value →
          post (system.perform process after request choice).1 (.ok value)) ∧
        ∀ cause, read (system.perform process after request choice).2 = .error cause →
          post (system.perform process after request choice).1 (.error (problem cause))) :
    Turned system allowed later holds possible process command world
      (Program.attempt request read problem) post := by
  unfold Program.attempt Turned
  rw [if_neg (ne_true_of_eq_false waits)]
  refine ⟨isAllowed, fun after isLater kept choice isPossible keptThen => ?_⟩
  obtain ⟨returns, throws⟩ := goesOn after isLater kept choice isPossible keptThen
  dsimp only
  cases isAnswer : read (system.perform process after request choice).2 with
  | ok value => exact returns value isAnswer
  | error cause => exact throws cause isAnswer

theorem Turned.pure {value : β} (holdsThen : post world (.ok value)) :
    Turned system allowed later holds possible process command world
      (Pure.pure value : Program Call Answer ε β) post :=
  holdsThen

variable {problem : ε}

theorem Turned.fail (holdsThen : post world (.error problem)) :
    Turned system allowed later holds possible process command world
      (Program.fail problem : Program Call Answer ε β) post :=
  holdsThen

theorem Turned.ofExcept {result : Except ε β} (holdsThen : post world result) :
    Turned system allowed later holds possible process command world
      (Program.ofExcept result : Program Call Answer ε β) post :=
  holdsThen

/-- A guard, with its condition where it returns. -/
theorem Turned.ensure {condition : Prop} [Decidable condition] {post : World → Except ε Unit → Prop}
    (passes : condition → post world (.ok ()))
    (throws : ¬ condition → post world (.error problem)) :
    Turned system allowed later holds possible process command world
      (Program.ensure condition problem : Program Call Answer ε Unit) post := by
  by_cases does : condition
  · rw [Program.ensure, if_pos does]
    exact passes does
  · rw [Program.ensure, if_neg does]
    exact throws does

/-- After its reads, a program still meets what it meets, and it waits. -/
theorem Turned.readOn
    (turned : Turned system allowed later holds possible process command world program post)
    (choice : Choice) :
    Turned system allowed later holds possible process command world
        (system.readOn process world choice program) post ∧
      ∀ request, pending (system.readOn process world choice program) = some request →
        system.reads request = false := by
  induction program with
  | done result => exact ⟨turned, nofun⟩
  | call request next ih =>
      unfold Turns.readOn
      split
      next isRead =>
        unfold Turned at turned
        rw [if_pos isRead] at turned
        exact ih _ (turned choice)
      next waits =>
        refine ⟨turned, fun other isOther => ?_⟩
        rw [← Option.some.inj isOther]
        exact eq_false_of_ne_true waits

end

/-! ## Soundness -/

section

variable (allowed : Pid → Command → World → Call → Prop) (later : Pid → World → World → Prop)
  (holds : World → Prop) (possible : Pid → Command → World → Call → Choice → Prop)

/-- What is to be shown of a system. -/
structure Rules : Prop where
  refl : ∀ process world, later process world world
  trans : ∀ process first second third, later process first second → later process second third →
    later process first third
  code : ∀ process command world, holds world →
    Turned system allowed later holds possible process command world (system.code command)
      fun _ _ => True
  issues : ∀ process command world request, allowed process command world request → holds world →
    holds (system.issue process command world request) ∧
      ∀ other, other ≠ process → later other world (system.issue process command world request)
  performs : ∀ process command world after request choice,
    allowed process command world request →
    later process (system.issue process command world request) after → holds after →
    possible process command after request choice →
    holds (system.perform process after request choice).1 ∧
      ∀ other, other ≠ process → later other after (system.perform process after request choice).1

/-- A program that waits at a call which it issued by the rules, with nothing but the
turns of others since. -/
def Sits (process : Pid) (command : Command) (world : World) :
    Program Call Answer ε α → Prop
  | .done _ => True
  | .call request next =>
      system.reads request = false ∧ ∃ before,
        allowed process command before request ∧
        later process (system.issue process command before request) world ∧
        Turned system allowed later holds possible process command before
          (.call request next) fun _ _ => True

/-- The invariant holds, and every program that runs has been going by the rules. -/
structure Sound (state : State Pid Command Call Answer ε α World) : Prop where
  world : holds state.world
  sits : ∀ process command program, state.running process = some (command, program) →
    Sits system allowed later holds possible process command state.world program

/-- What an event carries out is possible. -/
def Meets (state : State Pid Command Call Answer ε α World) (event : Event Pid Command Choice) :
    Prop :=
  match event with
  | .start _ _ _ => True
  | .turn _ choice => ∀ process command request,
      carried state event = some (process, command, request) →
      possible process command state.world request choice

variable {system allowed later holds possible} [DecidableEq Pid]
  {state : State Pid Command Call Answer ε α World}

variable {process : Pid} {command : Command} {program : Program Call Answer ε α} {choice : Choice}
  {request : Call}

omit [DecidableEq Pid] in
theorem Sits.mono (rules : Rules system allowed later holds possible) {world after : World}
    (sits : Sits system allowed later holds possible process command world program)
    (isLater : later process world after) :
    Sits system allowed later holds possible process command after program := by
  cases program with
  | done result => trivial
  | call request next =>
      obtain ⟨waits, before, isAllowed, since, turned⟩ := sits
      exact ⟨waits, before, isAllowed, rules.trans process _ _ _ since isLater, turned⟩

variable {world : World}

/-- A process that goes on in a new world, from where its program meets its contract. -/
theorem Sound.goOn (rules : Rules system allowed later holds possible)
    (sound : Sound system allowed later holds possible state) (kept : holds world)
    (turned : Turned system allowed later holds possible process command world program
      fun _ _ => True) (others : ∀ other, other ≠ process → later other state.world world) :
    Sound system allowed later holds possible
      (system.goOn state process command world choice program) := by
  obtain ⟨turnedThen, waits⟩ := turned.readOn choice
  -- What the process waits with, noted in the world.
  have noted : holds ((pending (system.readOn process world choice program)).elim world
        (system.issue process command world)) ∧
      (∀ other, other ≠ process → later other world
        ((pending (system.readOn process world choice program)).elim world
          (system.issue process command world))) ∧
      Sits system allowed later holds possible process command
        ((pending (system.readOn process world choice program)).elim world
          (system.issue process command world)) (system.readOn process world choice program) := by
    cases isRest : system.readOn process world choice program with
    | done result => exact ⟨kept, fun other _ => rules.refl other world, trivial⟩
    | call request next =>
        rw [isRest] at turnedThen waits
        have isWaiting := waits request rfl
        have contract := turnedThen
        unfold Turned at contract
        rw [if_neg (ne_true_of_eq_false isWaiting)] at contract
        obtain ⟨keptThen, othersThen⟩ := rules.issues process command world request contract.1 kept
        exact ⟨keptThen, othersThen, isWaiting, world, contract.1, rules.refl process _, turnedThen⟩
  obtain ⟨keptThen, othersThen, sits⟩ := noted
  refine ⟨keptThen, fun other otherCommand otherProgram isRunning => ?_⟩
  by_cases same : other = process
  · subst same
    have isOwn : some (command, system.readOn other world choice program) =
        some (otherCommand, otherProgram) := by
      rw [← isRunning]
      change _ = Function.update state.running other _ other
      rw [Function.update_self]
    obtain ⟨rfl, rfl⟩ := Prod.mk.inj (Option.some.inj isOwn)
    exact sits
  · have isOther : state.running other = some (otherCommand, otherProgram) := by
      rw [← isRunning]
      change _ = Function.update state.running process _ other
      rw [Function.update_of_ne same]
    exact (sound.sits other _ _ isOther).mono rules
      (rules.trans other _ _ _ (others other same) (othersThen other same))

omit [DecidableEq Pid] in
/-- What carrying out the call of a process leads to. -/
theorem Sound.answer (rules : Rules system allowed later holds possible)
    (sound : Sound system allowed later holds possible state)
    {next : Answer request → Program Call Answer ε α}
    (isRunning : state.running process = some (command, .call request next))
    (isPossible : possible process command state.world request choice) :
    (holds (system.perform process state.world request choice).1 ∧
      ∀ other, other ≠ process →
        later other state.world (system.perform process state.world request choice).1) ∧
    Turned system allowed later holds possible process command
      (system.perform process state.world request choice).1
      (next (system.perform process state.world request choice).2) fun _ _ => True := by
  obtain ⟨waits, before, isAllowed, since, turned⟩ := sound.sits process _ _ isRunning
  unfold Turned at turned
  rw [if_neg (ne_true_of_eq_false waits)] at turned
  have performed := rules.performs process command before state.world request choice isAllowed since
    sound.world isPossible
  exact ⟨performed, turned.2 _ since sound.world choice isPossible performed.1⟩

theorem Sound.step (rules : Rules system allowed later holds possible)
    (sound : Sound system allowed later holds possible state) {event : Event Pid Command Choice}
    (meets : Meets possible state event) :
    Sound system allowed later holds possible (system.step state event) := by
  cases event with
  | start process command choice =>
      unfold Turns.step
      dsimp only
      split
      · exact sound
      · exact sound.goOn rules sound.world (rules.code process command _ sound.world)
          fun other _ => rules.refl other _
  | turn process choice =>
      unfold Turns.step
      dsimp only
      split
      · exact sound
      next command result isRunning =>
        refine ⟨sound.world, fun other otherCommand otherProgram isOther => ?_⟩
        by_cases same : other = process
        · subst same
          simp at isOther
        · change Function.update state.running process none other = _ at isOther
          rw [Function.update_of_ne same] at isOther
          exact sound.sits other _ _ isOther
      next command request next isRunning =>
        have isPossible := meets process command request
          (by simp [carried, waiting, isRunning, Turns.pending])
        obtain ⟨⟨kept, others⟩, turned⟩ := sound.answer rules isRunning isPossible
        exact sound.goOn rules kept turned others

/-- Every run by the rules stays sound. -/
theorem sound_run (rules : Rules system allowed later holds possible) {initial : World}
    (start : holds initial) {events : List (Event Pid Command Choice)}
    (along : (system.machine initial).Along (Meets possible) (system.machine initial).initial
      events) :
    Sound system allowed later holds possible ((system.machine initial).run events) := by
  have atStart : Sound system allowed later holds possible ⟨initial, fun _ => none⟩ :=
    ⟨start, nofun⟩
  exact @Machine.Along.invariant _ _ (system.machine initial) (Meets possible)
    (Sound system allowed later holds possible)
    (fun _ _ meets sound => sound.step rules meets) _ atStart _ along

omit [DecidableEq Pid] in
/-- A call at which a process waits was allowed when it was issued. -/
theorem Sound.waiting (sound : Sound system allowed later holds possible state)
    (isWaiting : Turns.waiting state process = some (command, request)) :
    ∃ before, allowed process command before request ∧
      later process (system.issue process command before request) state.world := by
  unfold Turns.waiting at isWaiting
  cases isRunning : state.running process with
  | none =>
      rw [isRunning] at isWaiting
      cases isWaiting
  | some entry =>
      obtain ⟨own, program⟩ := entry
      rw [isRunning] at isWaiting
      cases program with
      | done result => cases isWaiting
      | call other next =>
          obtain ⟨rfl, rfl⟩ := Prod.mk.inj (Option.some.inj isWaiting)
          obtain ⟨-, before, isAllowed, since, -⟩ := sound.sits process _ _ isRunning
          exact ⟨before, isAllowed, since⟩

omit [DecidableEq Pid] in
theorem allowed_readOn
    (turned : Turned system allowed later holds possible process command world program
      fun _ _ => True)
    (isPending : pending (system.readOn process world choice program) = some request) :
    allowed process command world request := by
  obtain ⟨turnedThen, waits⟩ := turned.readOn choice
  have isWaiting := waits request isPending
  cases isProgram : system.readOn process world choice program with
  | done result =>
      rw [isProgram] at isPending
      cases isPending
  | call other next =>
      rw [isProgram] at isPending turnedThen
      obtain rfl := Option.some.inj isPending
      unfold Turned at turnedThen
      rw [if_neg (ne_true_of_eq_false isWaiting)] at turnedThen
      exact turnedThen.1

theorem waiting_goOn (process : Pid) (command : Command) (world : World) (choice : Choice)
    (program : Program Call Answer ε α) :
    Turns.waiting (system.goOn state process command world choice program) process =
      (pending (system.readOn process world choice program)).map fun request =>
        (command, request) := by
  unfold Turns.waiting
  change (Function.update state.running process _ process).bind _ = _
  rw [Function.update_self]
  rfl

/-- A process that goes on issues an allowed call. -/
theorem allowed_goOn {process other : Pid} {command otherCommand : Command}
    (turned : Turned system allowed later holds possible process command world program
      fun _ _ => True)
    (isIssued : (Turns.waiting (system.goOn state process command world choice program) process).map
      (fun (command, request) => (process, command, request)) =
        some (other, otherCommand, request)) :
    ∃ before, allowed other otherCommand before request ∧
      (system.goOn state process command world choice program).world =
        system.issue other otherCommand before request := by
  rw [waiting_goOn, Option.map_map, Option.map_eq_some_iff] at isIssued
  obtain ⟨own, isPending, same⟩ := isIssued
  obtain ⟨rfl, rfl, rfl⟩ := (Prod.mk.injEq ..).mp same |>.imp_right (Prod.mk.injEq ..).mp
  refine ⟨world, allowed_readOn turned isPending, ?_⟩
  unfold Turns.goOn
  dsimp only
  rw [isPending]
  rfl

/-- What an event leaves: the world after the call that it carries out, and in it what is
noted of the call that it issues. -/
theorem step_world (event : Event Pid Command Choice) :
    ∃ between, (between = state.world ∨ ∃ process command request choice,
        carried state event = some (process, command, request) ∧
          between = (system.perform process state.world request choice).1) ∧
      (system.step state event).world =
        (system.issued state event).elim between fun (process, command, request) =>
          system.issue process command between request := by
  -- A process that goes on notes what it issues.
  have goesOn : ∀ process command world choice program,
      (system.goOn state process command world choice program).world =
        ((Turns.waiting (system.goOn state process command world choice program) process).map
          fun (command, request) => (process, command, request)).elim world
            fun (process, command, request) => system.issue process command world request := by
    intro process command world choice program
    rw [waiting_goOn]
    unfold Turns.goOn
    dsimp only
    cases pending (system.readOn process world choice program) <;> rfl
  cases event with
  | start process command choice =>
      refine ⟨state.world, .inl rfl, ?_⟩
      cases isRunning : state.running process with
      | some entry => simp [Turns.issued, Turns.step, isRunning]
      | none =>
          simp only [Turns.issued, Turns.step, isRunning, Option.isNone_none, if_true]
          exact goesOn process command state.world choice _
  | turn process choice =>
      cases isRunning : state.running process with
      | none =>
          refine ⟨state.world, .inl rfl, ?_⟩
          simp [Turns.issued, Turns.step, isRunning, Turns.waiting]
      | some entry =>
          obtain ⟨command, program⟩ := entry
          cases program with
          | done result =>
              refine ⟨state.world, .inl rfl, ?_⟩
              simp [Turns.issued, Turns.step, isRunning, Turns.waiting]
          | call request next =>
              refine ⟨(system.perform process state.world request choice).1,
                .inr ⟨process, command, request, choice, ?_, rfl⟩, ?_⟩
              · simp [carried, Turns.waiting, isRunning, pending]
              · simp only [Turns.issued, Turns.step, isRunning]
                exact goesOn process command _ choice _

/-- A call is allowed in the world in which it is issued. -/
theorem Sound.issued (rules : Rules system allowed later holds possible)
    (sound : Sound system allowed later holds possible state) {event : Event Pid Command Choice}
    (meets : Meets possible state event)
    (isIssued : system.issued state event = some (process, command, request)) :
    ∃ before, allowed process command before request ∧
      (system.step state event).world = system.issue process command before request := by
  cases event with
  | start starter started choice =>
      unfold Turns.issued at isIssued
      dsimp only at isIssued
      split at isIssued
      next isFree =>
        rw [Option.isNone_iff_eq_none] at isFree
        simp only [Turns.step, isFree] at isIssued ⊢
        exact allowed_goOn (rules.code starter started _ sound.world) isIssued
      next => cases isIssued
  | turn taker choice =>
      unfold Turns.issued at isIssued
      cases isRunning : state.running taker with
      | none => simp [Turns.step, isRunning, Turns.waiting] at isIssued
      | some entry =>
          obtain ⟨own, program⟩ := entry
          cases program with
          | done result => simp [Turns.step, isRunning, Turns.waiting] at isIssued
          | call carriedRequest next =>
              have isPossible := meets taker own carriedRequest
                (by simp [carried, Turns.waiting, isRunning, pending])
              have turned := (sound.answer rules isRunning isPossible).2
              simp only [Turns.step, isRunning] at isIssued ⊢
              exact allowed_goOn turned isIssued

end

end Turns

end Triangle.Semantics
