import Triangle.MailboxClient.Host

/-!
# What an operation of the client knows

An operation moves the cursor, quarantines and creates messages for deliveries
only that the server has issued, and keeps a message for a retry only under the
delivery that the message is about.
-/

namespace Triangle.MailboxClient

open Triangle.Std Triangle.Semantics

/-- The issued deliveries and the messages, each with its delivery, that an
operation has come across. -/
structure Knowledge where
  issued : List Nat
  messages : List (Nat × Nat)

/-- What an operation knows before its first call. -/
def Knowledge.nothing : Knowledge :=
  ⟨[], []⟩

/-- What is known once a message was read. -/
def Knowledge.withMessage (known : Knowledge) (ref : Nat) (message : Message) : Knowledge :=
  ⟨message.id :: known.issued, (message.id, ref) :: known.messages⟩

def Allowed (known : Knowledge) : Call → Prop
  | .advanceListCursor id => id ∈ known.issued
  | .quarantineDelivery id _ _ => id ∈ known.issued
  | .createMessage _ delivery _ => delivery.id ∈ known.issued
  | .setRetry id ref => (id, ref) ∈ known.messages
  | _ => True

def learn (known : Knowledge) : (request : Call) → Answer request → Knowledge
  | .listMailbox _ _, .ok page =>
      { known with issued := page.map Delivery.id ++ known.issued }
  | .message ref, some message => known.withMessage ref message
  | .changeMetadata ref _, some message => known.withMessage ref message
  | _, _ => known

/-- The contract of a program of the client. -/
abbrev ClientMeets {α : Type} (known : Knowledge) (program : Client α)
    (post : Knowledge → Except Failure α → Prop) : Prop :=
  Program.Meets Allowed (fun _ _ => True) learn known program post

/-- What is known is kept. -/
structure Knowledge.Grows (before after : Knowledge) : Prop where
  issued : ∀ id ∈ before.issued, id ∈ after.issued
  messages : ∀ entry ∈ before.messages, entry ∈ after.messages

namespace Knowledge.Grows

variable {first second third : Knowledge}

theorem refl (known : Knowledge) : known.Grows known :=
  ⟨fun _ member => member, fun _ member => member⟩

theorem trans (early : first.Grows second) (late : second.Grows third) : first.Grows third :=
  ⟨fun id member => late.issued id (early.issued id member),
    fun entry member => late.messages entry (early.messages entry member)⟩

end Knowledge.Grows

theorem Knowledge.grows_withMessage (known : Knowledge) (ref : Nat) (message : Message) :
    known.Grows (known.withMessage ref message) :=
  ⟨fun _ member => List.mem_cons_of_mem _ member, fun _ member => List.mem_cons_of_mem _ member⟩

/-- No answer makes an operation forget. -/
theorem grows_learn (known : Knowledge) (request : Call) (answer : Answer request) :
    known.Grows (learn known request answer) := by
  cases request with
  | listMailbox after limit =>
      cases answer with
      | ok page => exact ⟨fun _ member => List.mem_append_right _ member, fun _ member => member⟩
      | error error => exact .refl known
  | message ref | changeMetadata ref =>
      cases answer with
      | some message => exact known.grows_withMessage ref message
      | none => exact .refl known
  | _ => exact .refl known

/-- The program keeps to what it may do, forgets nothing, and ends with a value
that meets the postcondition if it returns. -/
def Fine {α : Type} (known : Knowledge) (program : Client α) (post : Knowledge → α → Prop) : Prop :=
  ClientMeets known program fun later result =>
    known.Grows later ∧ ∀ value, result = .ok value → post later value

section

variable {known : Knowledge} {ref id : Nat} {α β : Type}

variable {program : Client α} {problem : Failure} {request : Call} {claimId : String}

theorem Fine.imp {first second : Knowledge → α → Prop}
    (implies : ∀ later value, known.Grows later → first later value → second later value)
    (fine : Fine known program first) : Fine known program second := by
  refine Program.Meets.imp ?_ fine
  intro later result holds
  exact ⟨holds.1, fun value isValue => implies later value holds.1 (holds.2 value isValue)⟩

theorem Fine.bind {rest : α → Client β} {middle : Knowledge → α → Prop}
    {post : Knowledge → β → Prop} (first : Fine known program middle)
    (goesOn : ∀ later value, known.Grows later → middle later value →
      Fine later (rest value) post) : Fine known (program >>= rest) post := by
  refine Program.Meets.bind (Program.Meets.imp ?_ first)
  intro later result holds
  cases result with
  | ok value =>
      refine Program.Meets.imp ?_ (goesOn later value holds.1 (holds.2 value rfl))
      intro last result rest
      exact ⟨holds.1.trans rest.1, rest.2⟩
  | error problem => exact ⟨holds.1, nofun⟩

variable {post : Knowledge → α → Prop}

theorem Fine.pure {value : α} (holds : post known value) : Fine known (Pure.pure value) post := by
  refine ⟨.refl known, fun other isValue => ?_⟩
  cases isValue
  exact holds

theorem Fine.fail : Fine known (Program.fail problem) post :=
  ⟨.refl known, nofun⟩

theorem Fine.ofExcept {result : Except Failure α} :
    Fine known (Program.ofExcept result) fun _ _ => True :=
  ⟨.refl known, fun _ _ => trivial⟩

theorem Fine.outcome (fine : Fine known program post) :
    Fine known program.outcome fun later result => ∀ value, result = .ok value → post later value := by
  refine Program.Meets.outcome (Program.Meets.imp ?_ fine)
  intro later result holds
  refine ⟨holds.1, fun other isOther => ?_⟩
  cases isOther
  exact holds.2

theorem Fine.ensure {condition : Prop} [Decidable condition] :
    Fine known (Program.ensure condition problem) fun _ _ => condition := by
  by_cases holds : condition
  · rw [Program.ensure, if_pos holds]
    exact Fine.pure holds
  · rw [Program.ensure, if_neg holds]
    exact Fine.fail

/-- A call teaches what its answer says. -/
theorem Fine.call (isAllowed : Allowed known request) :
    Fine known (MailboxClient.call request) fun later answer =>
      later = learn known request answer := by
  refine ⟨isAllowed, fun answer _ => ⟨grows_learn known request answer, ?_⟩⟩
  intro value isValue
  cases isValue
  rfl

/-- A call that is allowed to everyone. -/
theorem Fine.open (isAllowed : Allowed known request) :
    Fine known (MailboxClient.call request) fun _ _ => True :=
  (Fine.call isAllowed).imp fun _ _ _ _ => trivial

theorem Fine.attempt {Value : Type} {read : Answer request → Except Failure Value}
    {problem : Failure → Failure} (isAllowed : Allowed known request) :
    Fine known (Program.attempt request read problem : Client Value) fun later value =>
      ∃ answer, read answer = .ok value ∧ later = learn known request answer := by
  refine ⟨isAllowed, fun answer _ => ?_⟩
  have grown := grows_learn known request answer
  dsimp only
  cases isRead : read answer with
  | ok value =>
      refine ⟨grown, fun other isOther => ?_⟩
      cases isOther
      exact ⟨answer, isRead, rfl⟩
  | error cause => exact ⟨grown, nofun⟩

/-! ## The operations -/

section

variable {options : Options}

end

end

end Triangle.MailboxClient
