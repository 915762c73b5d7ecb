import Triangle.Semantics.Program

/-!
# Runs of one program in an environment

An environment is a relation: what may become of the world, and which answer a
call may get. Whatever the caller does not control is in it, other processes and
failures included. `Runs` are the runs of a program in an environment, and
`Always` is the weakest precondition over all of them.
-/

namespace Triangle.Semantics.Program

variable {Call : Type} {Answer : Call → Type} {ε α β World : Type}

/-- What may become of the world, and which answer a call may get. -/
abbrev Environment (World Call : Type) (Answer : Call → Type) : Type :=
  World → (request : Call) → World × Answer request → Prop

/-- The runs of a program, each with the world it ends in and its result. -/
inductive Runs (environment : Environment World Call Answer) :
    World → Program Call Answer ε α → World → Except ε α → Prop
  | done {world : World} {result : Except ε α} : Runs environment world (.done result) world result
  | call {world final : World} {request : Call} {next : Answer request → Program Call Answer ε α}
      {outcome : World × Answer request} {result : Except ε α}
      (possible : environment world request outcome)
      (rest : Runs environment outcome.1 (next outcome.2) final result) :
      Runs environment world (.call request next) final result

/-- Every run of the program ends with the postcondition. -/
def Always (environment : Environment World Call Answer) :
    World → Program Call Answer ε α → (World → Except ε α → Prop) → Prop
  | world, .done result, post => post world result
  | world, .call request next, post =>
      ∀ outcome, environment world request outcome →
        Always environment outcome.1 (next outcome.2) post

variable {environment : Environment World Call Answer} {world : World}

variable {program : Program Call Answer ε α}

/-- A postcondition of all runs holds of each. -/
theorem Runs.meets {post : World → Except ε α → Prop} {final : World} {result : Except ε α}
    (run : Runs environment world program final result)
    (always : Always environment world program post) : post final result := by
  induction run with
  | done => exact always
  | call possible _ ih => exact ih (always _ possible)

/-- Every call that `exec` carries out meets a condition. -/
def ExecMeets (condition : World → Call → Prop)
    (handle : World → (request : Call) → World × Answer request) :
    World → Program Call Answer ε α → Prop
  | _, .done _ => True
  | world, .call request next =>
      condition world request ∧
        ExecMeets condition handle (handle world request).1 (next (handle world request).2)

instance decidableExecMeets (condition : World → Call → Prop)
    [∀ world request, Decidable (condition world request)]
    (handle : World → (request : Call) → World × Answer request) :
    (world : World) → (program : Program Call Answer ε α) →
      Decidable (ExecMeets condition handle world program)
  | _, .done _ => isTrue trivial
  | world, .call request next =>
      have := decidableExecMeets condition handle (handle world request).1
        (next (handle world request).2)
      inferInstanceAs (Decidable (_ ∧ _))

variable {first second : World → Except ε α → Prop} {post : World → Except ε β → Prop}

/-- A weaker postcondition is met too. -/
theorem Always.imp (implies : ∀ final result, first final result → second final result)
    (always : Always environment world program first) :
    Always environment world program second := by
  induction program generalizing world with
  | done result => exact implies world result always
  | call request next ih =>
      exact fun outcome possible => ih outcome.2 (always outcome possible)

/-- A sequence meets a postcondition when its first part ends where the rest meets it. -/
theorem Always.bind {rest : α → Program Call Answer ε β}
    (always : Always environment world program fun after result =>
      match result with
      | .ok value => Always environment after (rest value) post
      | .error problem => post after (.error problem)) :
    Always environment world (program >>= rest) post := by
  induction program generalizing world with
  | done result =>
      cases result with
      | ok | error => exact always
  | call request next ih =>
      exact fun outcome possible => ih outcome.2 (always outcome possible)

/-- A caught program ends where the program ends. -/
theorem Always.outcome {post : World → Except ε (Except ε α) → Prop}
    (always : Always environment world program fun after result => post after (.ok result)) :
    Always environment world program.outcome post := by
  induction program generalizing world with
  | done result => exact always
  | call request next ih =>
      exact fun outcome possible => ih outcome.2 (always outcome possible)

/-- After a guard its condition may be used. -/
theorem Always.ensure {condition : Prop} [Decidable condition] {problem : ε}
    {rest : Unit → Program Call Answer ε β}
    (passes : condition → Always environment world (rest ()) post)
    (throws : post world (.error problem)) :
    Always environment world (Program.ensure condition problem >>= rest) post := by
  by_cases holds : condition
  · rw [Program.ensure, if_pos holds]
    exact passes holds
  · rw [Program.ensure, if_neg holds]
    exact throws

/-- One call that returns a value or throws. -/
theorem Always.attempt {Value Problem : Type} {request : Call}
    {read : Answer request → Except Problem Value} {problem : Problem → ε}
    {post : World → Except ε Value → Prop}
    (returns : ∀ after answer value, environment world request (after, answer) →
      read answer = .ok value → post after (.ok value))
    (throws : ∀ after answer cause, environment world request (after, answer) →
      read answer = .error cause → post after (.error (problem cause))) :
    Always environment world (Program.attempt request read problem) post := by
  intro outcome possible
  dsimp only
  cases isRead : read outcome.2 with
  | ok value => exact returns outcome.1 outcome.2 value possible isRead
  | error cause => exact throws outcome.1 outcome.2 cause possible isRead

/-- What every step keeps holds at the end of every run. -/
theorem Always.invariant {holds : World → Prop}
    (step : ∀ world request outcome, holds world → environment world request outcome →
      holds outcome.1)
    (start : holds world) (program : Program Call Answer ε α) :
    Always environment world program fun final _ => holds final := by
  induction program generalizing world with
  | done result => exact start
  | call request next ih =>
      exact fun outcome possible =>
        ih outcome.2 (step world request outcome start possible)

/-- A contract of a program holds in an environment whose answers are the
possible ones and teach what they are said to teach. -/
theorem Always.of_meets {Knowledge : Type} {allowed : Knowledge → Call → Prop}
    {possible : (request : Call) → Answer request → Prop}
    {learn : Knowledge → (request : Call) → Answer request → Knowledge}
    {knows : World → Knowledge → Prop}
    (step : ∀ world known request outcome, knows world known → allowed known request →
      environment world request outcome →
      possible request outcome.2 ∧ knows outcome.1 (learn known request outcome.2))
    {known : Knowledge} (does : knows world known) {program : Program Call Answer ε α}
    {post : Knowledge → Except ε α → Prop}
    (meets : Meets allowed possible learn known program post) :
    Always environment world program fun final result =>
      ∃ known, knows final known ∧ post known result := by
  induction program generalizing world known with
  | done result => exact ⟨known, does, meets⟩
  | call request next ih =>
      intro outcome isPossible
      obtain ⟨answered, learned⟩ := step world known request outcome does meets.1 isPossible
      exact ih outcome.2 learned (meets.2 outcome.2 answered)

/-- Two postconditions of one program. -/
theorem Always.and (left : Always environment world program first)
    (right : Always environment world program second) :
    Always environment world program fun final result =>
      first final result ∧ second final result := by
  induction program generalizing world with
  | done result => exact ⟨left, right⟩
  | call request next ih =>
      exact fun outcome possible =>
        ih outcome.2 (left outcome possible) (right outcome possible)

end Triangle.Semantics.Program
