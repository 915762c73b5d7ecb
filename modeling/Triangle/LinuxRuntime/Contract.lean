import Triangle.LinuxRuntime.Host

/-!
# What a process may do

A process knows what it holds (the lock, and the journal as it last read or
saved it) and facts about the server: events that it saw and deliveries that it
acknowledged. It saves a record only by one of nine moves, starts the runner only
on an execution that it just admitted, and acknowledges only for a reason.
-/

namespace Triangle.LinuxRuntime

open Triangle.Std Triangle.Semantics

/-- What a process holds: `ready` says that the execution in the journal was
admitted by it and not started yet. -/
inductive Hold
  | outside
  | unread
  | empty
  | choosing (delivery : Delivery)
  | journal (record : Record) (begun : Option Phase) (ready : Bool)

/-- Something about the server that stays. -/
inductive Fact
  | event (event : Event)
  | acked (deliveryId : Int)

/-- What a process knows. -/
structure Known where
  hold : Hold
  facts : List Fact

/-- The phases before a start. -/
def Phase.isOpen (phase : Phase) : Bool :=
  phase ∈ [Phase.prepared, .claimed, .failed]

/-- The phase that the cycle began with. -/
def Hold.begun : Hold → Option Phase
  | .journal _ begun _ => begun
  | _ => none

/-- A cycle that began with this may start the runner. -/
def MayStart (begun : Option Phase) : Prop :=
  ∀ phase ∈ begun, phase.isOpen = true

/-- The journal is this record, in one of these phases. -/
def Hold.IsIn (hold : Hold) (record : Record) (phases : List Phase) : Prop :=
  (∃ begun ready, hold = .journal record begun ready) ∧ record.phase ∈ phases

/-- The saves of a cycle and of a retry. -/
inductive Move (custodian : Custodian) (known : Known) : Record → Prop
  | prepare {delivery : Delivery} (choosing : known.hold = .choosing delivery)
      (createdAt updatedAt : Int) :
      Move custodian known (custodian.prepared delivery createdAt updatedAt)
  | claimed {record : Record} (isIn : known.hold.IsIn record [.prepared, .claimed, .failed])
      (now : Int) : Move custodian known (record.enter .claimed now)
  | receipt {record : Record} {event : Event} (isIn : known.hold.IsIn record [.claimed])
      (seen : Fact.event event ∈ known.facts) (isInbound : IsInbound custodian record event)
      (isReceipt : event.replyRequired = .flag false) (now : Int) :
      Move custodian known ({ record with receiptOnly := some true }.enter .replied now)
  | executing {record : Record} {event : Event} (isIn : known.hold.IsIn record [.claimed])
      (mayStart : MayStart known.hold.begun) (seen : Fact.event event ∈ known.facts)
      (isInbound : IsInbound custodian record event) (now : Int) :
      Move custodian known (record.enter .executing now)
  | failed {record : Record} (isIn : known.hold.IsIn record [.executing]) (next now : Int) :
      Move custodian known
        ({ record with
            failureCount := record.failureCount + 1, reason := some .runnerFailed,
            nextAttemptAt := some next }.enter
          (if 3 ≤ record.failureCount + 1 then .quarantined else .failed) now)
  | quarantined {record : Record} (isIn : known.hold.IsIn record [.executing, .replying, .replied])
      (reason : Reason) (now : Int) :
      Move custodian known ({ record with reason := some reason }.enter .quarantined now)
  | replying {record : Record} (isIn : known.hold.IsIn record [.executing]) (digest : String)
      (now : Int) :
      Move custodian known ({ record with replyDigest := some digest }.enter .replying now)
  | replied {record : Record} {event : Event}
      (isIn : known.hold.IsIn record [.executing, .replying, .replied])
      (seen : Fact.event event ∈ known.facts) (isReply : IsReply custodian record event)
      (now : Int) :
      Move custodian known ({ record with replyEventId := some event.id }.enter .replied now)
  | retried {record : Record} (isIn : known.hold.IsIn record [.failed, .quarantined]) (now : Int) :
      Move custodian known (record.retried now)

/-- Why a delivery may be acknowledged. -/
def AckReason (custodian : Custodian) (known : Known) (record : Record) : Prop :=
  record.receiptOnly = some true ∨
    ∃ event, Fact.event event ∈ known.facts ∧ IsReply custodian record event

section

variable (custodian : Custodian)

/-- The calls that a process is entitled to. -/
def Allowed (known : Known) : Call → Prop
  | .lock => known.hold = .outside
  | .unlock => known.hold ≠ .outside
  | .readJournal => known.hold ≠ .outside
  | .writeJournal record => Move custodian known record ∧ record.Checked custodian
  | .removeJournal => ∃ record begun ready, known.hold = .journal record begun ready ∧
      Fact.acked record.deliveryId ∈ known.facts
  | .claimDelivery record => record.IsBound custodian
  | .schedule record _ => record.IsBound custodian
  | .postEvent record _ => record.IsBound custodian
  | .ackDelivery record => record.IsBound custodian ∧ known.hold.IsIn record [.replied] ∧
      AckReason custodian known record
  | .run record _ => ∃ begun, known.hold = .journal record begun true
  | _ => True

/-- Only the server answers with the authority's error. -/
def Possible : (request : Call) → Answer request → Prop
  | .readJournal, .error problem => problem ≠ .invalidAuthorityResponse
  | .writeJournal _, .error problem => problem ≠ .invalidAuthorityResponse
  | .removeJournal, .error problem => problem ≠ .invalidAuthorityResponse
  | .writeHealth _, .error problem => problem ≠ .invalidAuthorityResponse
  | _, _ => True

/-- What a process holds after an answer. -/
def holdAfter (hold : Hold) : (request : Call) → Answer request → Hold
  | .lock, true => .unread
  | .unlock, _ => .outside
  | .readJournal, .ok none => .empty
  | .readJournal, .ok (some record) => .journal record (some record.phase) false
  | .writeJournal record, .ok _ => .journal record hold.begun (record.phase = .executing)
  | .writeJournal _, .error _ => .unread
  | .removeJournal, _ => .unread
  | .listMailbox, .ok (delivery :: _) =>
      match hold with
      | .empty => .choosing delivery
      | other => other
  | .run _ _, _ =>
      match hold with
      | .journal record begun _ => .journal record begun false
      | other => other
  | _, _ => hold

/-- The facts in an answer. -/
def factsOf : (request : Call) → Answer request → List Fact
  | .history _ _ _, .ok items => items.map .event
  | .postEvent _ _, .ok (some event) => [.event event]
  | .ackDelivery record, .ok _ => [.acked record.deliveryId]
  | _, _ => []

/-- What a process knows after an answer. -/
def learn (known : Known) (request : Call) (answer : Answer request) : Known :=
  ⟨holdAfter known.hold request answer, factsOf request answer ++ known.facts⟩

/-- The task keeps to what it may do, forgets no fact, and ends with one of the
two postconditions. -/
def Fine {ε α : Type} (known : Known) (task : Program Call Answer ε α)
    (post : Known → α → Prop) (throws : Known → ε → Prop) : Prop :=
  Program.Meets (Allowed custodian) Possible learn known task fun later result =>
    known.facts ⊆ later.facts ∧
      match result with
      | .ok value => post later value
      | .error problem => throws later problem

end

section

variable {custodian : Custodian} {known : Known} {ε α β : Type} {throws : Known → ε → Prop}

/-! ## Rules -/

variable {task : Program Call Answer ε α} {post : Known → α → Prop} {record : Record}

variable {others : Known → ε → Prop} {problem : ε} {condition : Prop} {ready : Bool} {later : Known}
  {eventId : String}

theorem Fine.imp {first second : Known → α → Prop} (fine : Fine custodian known task first throws)
    (returns : ∀ later value, known.facts ⊆ later.facts → first later value → second later value)
    (raises : ∀ later problem, known.facts ⊆ later.facts → throws later problem →
      others later problem) : Fine custodian known task second others := by
  apply Program.Meets.imp _ fine
  rintro later result ⟨grows, holds⟩
  refine ⟨grows, ?_⟩
  cases result with
  | ok value => exact returns later value grows holds
  | error problem => exact raises later problem grows holds

theorem Fine.bind {rest : α → Program Call Answer ε β} {middle : Known → α → Prop}
    {post : Known → β → Prop} (first : Fine custodian known task middle throws)
    (goesOn : ∀ later value, known.facts ⊆ later.facts → middle later value →
      Fine custodian later (rest value) post throws) :
    Fine custodian known (task >>= rest) post throws := by
  apply Program.Meets.bind
  apply Program.Meets.imp _ first
  rintro later result ⟨grows, holds⟩
  cases result with
  | ok value =>
      apply Program.Meets.imp _ (goesOn later value grows holds)
      rintro last result ⟨further, ends⟩
      exact ⟨List.Subset.trans grows further, ends⟩
  | error problem => exact ⟨grows, holds⟩

theorem Fine.pure {value : α} (holds : post known value) :
    Fine custodian known (pure value : Program Call Answer ε α) post throws :=
  ⟨List.Subset.refl _, holds⟩

theorem Fine.fail (holds : throws known problem) :
    Fine custodian known (Program.fail problem : Program Call Answer ε α) post throws :=
  ⟨List.Subset.refl _, holds⟩

theorem Fine.ofExcept {result : Except ε α}
    (returns : ∀ value, result = .ok value → post known value)
    (raises : ∀ problem, result = .error problem → throws known problem) :
    Fine custodian known (Program.ofExcept result : Program Call Answer ε α) post throws := by
  cases result with
  | ok value => exact ⟨List.Subset.refl _, returns value rfl⟩
  | error problem => exact ⟨List.Subset.refl _, raises problem rfl⟩

/-- After a guard its condition may be used. -/
theorem Fine.ensure [Decidable condition] (raises : ¬ condition → throws known problem) :
    Fine custodian known (Program.ensure condition problem)
      (fun later _ => condition ∧ later = known) throws := by
  by_cases holds : condition
  · rw [Program.ensure, if_pos holds]
    exact Fine.pure ⟨holds, rfl⟩
  · rw [Program.ensure, if_neg holds]
    exact Fine.fail (raises holds)

/-- A guard and what follows it. -/
theorem Fine.guard [Decidable condition] {rest : Unit → Program Call Answer ε α}
    (raises : throws known problem)
    (passes : condition → Fine custodian known (rest ()) post throws) :
    Fine custodian known (Program.ensure condition problem >>= rest) post throws := by
  apply Fine.bind (Fine.ensure fun _ => raises)
  rintro later _ - ⟨holds, rfl⟩
  exact passes holds

section

variable (request : Call) (allowed : Allowed custodian known request)
include request allowed

/-- One call. -/
theorem Fine.ask :
    Fine custodian known (ask request : Program Call Answer ε (Answer request))
      (fun later answer => later = learn known request answer ∧ Possible request answer) throws := by
  refine ⟨allowed, fun answer possible => ?_⟩
  exact ⟨List.subset_append_right _ _, rfl, possible⟩

/-- One call that may throw. -/
theorem Fine.attempt {read : Answer request → Except CustodianError α}
    {throws : Known → CustodianError → Prop}
    (raises : ∀ answer problem, read answer = .error problem → Possible request answer →
      throws (learn known request answer) problem) :
    Fine custodian known (ask! request read)
      (fun later value => ∃ answer, read answer = .ok value ∧
        later = learn known request answer) throws := by
  refine ⟨allowed, fun answer possible => ?_⟩
  dsimp only
  cases isRead : read answer with
  | error problem =>
      exact ⟨List.subset_append_right _ _, raises answer problem isRead possible⟩
  | ok value => exact ⟨List.subset_append_right _ _, answer, isRead, rfl⟩

end

/-- A part of the guarded block throws with the record. -/
theorem Fine.within {task : Task α} {throws : Known → CustodianError × Record → Prop}
    (fine : Fine custodian known task post fun later problem => throws later (problem, record)) :
    Fine custodian known (within record task) post throws := by
  apply Program.Meets.mapError
  apply Program.Meets.imp _ fine
  rintro later result ⟨grows, holds⟩
  refine ⟨grows, ?_⟩
  cases result with
  | ok | error => exact holds

/-- A caught task does not throw. -/
theorem Fine.outcome (fine : Fine custodian known task post others) :
    Fine custodian known task.outcome
      (fun later result => match result with
        | .ok value => post later value
        | .error problem => others later problem) throws := by
  apply Program.Meets.outcome
  exact Program.Meets.imp (fun _ _ holds => holds) fine

/-! ## Requests -/

/-- What a process holds has not changed. -/
abbrev Keeps (known later : Known) : Prop :=
  later.hold = known.hold

/-- The process holds the lock. -/
abbrev Held (known : Known) : Prop :=
  known.hold ≠ .outside

theorem held_of_empty (hold : known.hold = .empty) : Held known := by
  rw [Held, hold]
  exact nofun

theorem held_of_hold {begun : Option Phase} (hold : known.hold = .journal record begun ready) :
    Held known := by
  rw [Held, hold]
  exact nofun

theorem Keeps.held (keeps : Keeps known later) (held : Held known) : Held later := by
  rw [Held, keeps]
  exact held

theorem health_fine (state : Health) :
    Fine custodian known (health state) (fun later _ => Keeps known later)
      fun later problem => Keeps known later ∧ problem ≠ .invalidAuthorityResponse := by
  apply (Fine.attempt (.writeHealth state) trivial ?_).imp
  · rintro later _ _ ⟨answer, -, rfl⟩
    rfl
  · exact fun _ _ _ throws => throws
  · rintro (problem | _) _ isRead possible
    · cases isRead
      exact ⟨rfl, possible⟩
    · cases isRead

theorem verify_fine :
    Fine custodian known verify (fun later _ => Keeps known later)
      fun later _ => Keeps known later := by
  refine (Fine.attempt .verify trivial ?_).imp ?_ fun _ _ _ throws => throws
  · exact fun _ _ _ _ => rfl
  · rintro later _ _ ⟨answer, -, rfl⟩
    rfl

/-- Over an empty journal the first listed delivery is the chosen one. -/
theorem list_fine (isEmpty : known.hold = .empty) :
    Fine custodian known list
      (fun later items => Held later ∧ ∀ delivery rest, items = delivery :: rest →
        later.hold = .choosing delivery)
      fun later _ => Held later := by
  have held : ∀ answer, Held (learn known .listMailbox answer) := by
    intro answer
    rcases answer with problem | _ | ⟨delivery, rest⟩
    · simp [Held, learn, holdAfter, isEmpty]
    · simp [Held, learn, holdAfter, isEmpty]
    · simp [Held, learn, holdAfter, isEmpty]
  refine Fine.bind (Fine.attempt .listMailbox trivial fun answer _ _ _ => held answer) ?_
  rintro listed items - ⟨answer, isRead, rfl⟩
  apply Fine.guard (held answer)
  intro _
  refine Fine.pure ⟨held answer, ?_⟩
  rintro delivery rest rfl
  cases answer with
  | error _ => cases isRead
  | ok value =>
      obtain rfl := Except.ok.inj isRead
      simp [learn, holdAfter, isEmpty]

theorem claim_fine (bound : record.IsBound custodian) :
    Fine custodian known (claim record) (fun later _ => Keeps known later)
      fun later _ => Keeps known later := by
  apply Fine.guard
  · rfl
  intro _
  refine (Fine.attempt (.claimDelivery record) bound ?_).imp ?_ fun _ _ _ throws => throws
  · exact fun _ _ _ _ => rfl
  · rintro later _ _ ⟨answer, -, rfl⟩
    rfl

/-- The items of a page are events of the room. -/
theorem history_fine (record : Record) (after : Int) (limit : Nat) :
    Fine custodian known (history record after limit)
      (fun later items => Keeps known later ∧ ∀ event ∈ items, Fact.event event ∈ later.facts)
      fun later _ => Keeps known later := by
  refine Fine.bind (Fine.attempt (.history record after limit) trivial ?_) ?_
  · exact fun _ _ _ _ => rfl
  rintro read items - ⟨answer, isRead, rfl⟩
  apply Fine.guard
  · rfl
  intro _
  cases answer with
  | error _ => cases isRead
  | ok value =>
      obtain rfl := Except.ok.inj isRead
      refine Fine.pure ⟨rfl, fun event member => ?_⟩
      exact List.mem_append_left _ (List.mem_map_of_mem member)

/-- An inbound request comes from an event of the room. -/
theorem inbound_fine (record : Record) :
    Fine custodian known (inbound custodian record)
      (fun later request => Keeps known later ∧ ∃ event, Fact.event event ∈ later.facts ∧
        IsInbound custodian record event ∧ request = inboundOf custodian record event)
      fun later _ => Keeps known later := by
  apply Fine.guard
  · rfl
  intro _
  apply (history_fine record _ 1).bind
  rintro read items - ⟨keeps, seen⟩
  cases items with
  | nil => exact Fine.fail keeps
  | cons event rest =>
      refine Fine.guard keeps fun isInbound => ?_
      exact Fine.pure ⟨keeps, event, seen event List.mem_cons_self, isInbound, rfl⟩

theorem matchReply_ok {event : Option Event}
    (isMatch : matchReply custodian record event = .ok eventId) :
    ∃ found ∈ event, IsReply custodian record found ∧ found.id = eventId := by
  cases event with
  | none => cases isMatch
  | some found =>
      rw [matchReply] at isMatch
      split at isMatch
      next isReply => exact ⟨found, rfl, isReply, Except.ok.inj isMatch⟩
      next => cases isMatch

/-- What a page finds is a reply among its events. -/
theorem scanPage_found {items : List Event} {last after : Int}
    (scanned : scanPage custodian record last items = .ok (some eventId, after)) :
    ∃ event ∈ items, IsReply custodian record event ∧ event.id = eventId := by
  induction items generalizing last with
  | nil => cases scanned
  | cons event rest ih =>
      rw [scanPage] at scanned
      split at scanned
      next =>
        split at scanned
        next => cases scanned
        next =>
          split at scanned
          next =>
            obtain ⟨value, isMatch, same⟩ := map_ok scanned
            obtain ⟨found, isFound, isReply, isId⟩ := matchReply_ok isMatch
            obtain rfl := Option.some.inj isFound
            obtain ⟨sameId, -⟩ := Prod.mk.inj same
            obtain rfl := Option.some.inj sameId
            exact ⟨event, List.mem_cons_self, isReply, isId⟩
          next =>
            obtain ⟨found, isFound, holds⟩ := ih scanned
            exact ⟨found, List.mem_cons_of_mem _ isFound, holds⟩
      next => cases scanned

/-- The room holds the reply with this id. -/
def Replied (custodian : Custodian) (record : Record) (known : Known) (eventId : String) : Prop :=
  ∃ event, Fact.event event ∈ known.facts ∧ IsReply custodian record event ∧ event.id = eventId

theorem findPages_fine (record : Record) (pages : Nat) (after : Int) :
    Fine custodian known (findPages custodian record pages after)
      (fun later found => Keeps known later ∧
        ∀ eventId ∈ found, Replied custodian record later eventId)
      fun later _ => Keeps known later := by
  induction pages generalizing known after with
  | zero => exact Fine.fail rfl
  | succ pages ih =>
      apply (history_fine record after 100).bind
      rintro read items - ⟨keeps, seen⟩
      have scans : Fine custodian read (Program.ofExcept (scanPage custodian record after items))
          (fun later scanned => later = read ∧ scanPage custodian record after items = .ok scanned)
          fun later _ => Keeps known later :=
        Fine.ofExcept (fun _ isOk => ⟨rfl, isOk⟩) fun _ _ => keeps
      apply scans.bind
      rintro last ⟨found, next⟩ - ⟨rfl, scanned⟩
      cases found with
      | some eventId =>
          refine Fine.pure ⟨keeps, fun other same => ?_⟩
          obtain rfl := Option.some.inj same
          obtain ⟨event, member, isReply, isId⟩ := scanPage_found scanned
          exact ⟨event, seen event member, isReply, isId⟩
      | none =>
          by_cases short : items.length < 100
          · simp only [if_pos short]
            exact Fine.pure ⟨keeps, fun _ none => by cases none⟩
          · simp only [if_neg short]
            apply (ih next).imp
            · exact fun later _ _ holds => ⟨holds.1.trans keeps, holds.2⟩
            · exact fun later _ _ same => same.trans keeps

theorem findReply_fine (record : Record) :
    Fine custodian known (findReply custodian record)
      (fun later found => Keeps known later ∧
        ∀ eventId ∈ found, Replied custodian record later eventId)
      fun later _ => Keeps known later := by
  apply Fine.guard
  · rfl
  intro _
  exact findPages_fine record 100 _

theorem reply_fine (bound : record.IsBound custodian) (text : String) :
    Fine custodian known (reply custodian record text)
      (fun later eventId => Keeps known later ∧ Replied custodian record later eventId)
      fun later _ => Keeps known later := by
  apply Fine.guard
  · rfl
  intro _
  apply Fine.guard
  · rfl
  intro _
  refine Fine.bind (Fine.attempt (.postEvent record text) bound ?_) ?_
  · exact fun _ _ _ _ => rfl
  rintro posted event - ⟨answer, isRead, rfl⟩
  apply Fine.ofExcept
  · intro eventId isMatch
    obtain ⟨found, isFound, isReply, isId⟩ := matchReply_ok isMatch
    obtain rfl := Option.mem_def.mp isFound
    cases answer with
    | error _ => cases isRead
    | ok value =>
        obtain rfl := Except.ok.inj isRead
        exact ⟨rfl, found, List.mem_cons_self, isReply, isId⟩
  · exact fun _ _ => rfl

theorem ack_fine (bound : record.IsBound custodian) (isIn : known.hold.IsIn record [.replied])
    (reason : AckReason custodian known record) :
    Fine custodian known (ack record)
      (fun later _ => Keeps known later ∧ Fact.acked record.deliveryId ∈ later.facts)
      fun later _ => Keeps known later := by
  apply Fine.guard
  · rfl
  intro _
  apply Fine.guard
  · rfl
  intro _
  refine Fine.bind (Fine.attempt (.ackDelivery record) ⟨bound, isIn, reason⟩ ?_) ?_
  · exact fun _ _ _ _ => rfl
  rintro acked count - ⟨answer, isRead, rfl⟩
  cases answer with
  | error _ => cases isRead
  | ok value =>
      refine (Fine.ensure ?_).imp ?_ fun _ _ _ throws => throws
      · exact fun _ => rfl
      · rintro later _ _ ⟨-, rfl⟩
        exact ⟨rfl, List.mem_cons_self⟩

/-! ## The store -/

/-- What a process holds is known after it has read the journal. -/
theorem get_fine (held : known.hold ≠ .outside) :
    Fine custodian known (get custodian)
      (fun later found => match found with
        | none => later.hold = .empty
        | some record => later.hold = .journal record (some record.phase) false ∧
            record.Checked custodian)
      fun later _ => later.hold ≠ .outside := by
  have stays : ∀ answer, (learn known .readJournal answer).hold ≠ .outside := by
    intro answer
    rcases answer with problem | _ | record
    · exact held
    · exact nofun
    · exact nofun
  refine Fine.bind (Fine.attempt .readJournal held fun answer _ _ _ => stays answer) ?_
  rintro read found - ⟨answer, isRead, rfl⟩
  cases answer with
  | error _ => cases isRead
  | ok value =>
      obtain rfl := Except.ok.inj isRead
      cases value with
      | none => exact Fine.pure rfl
      | some record =>
          refine Fine.guard (stays _) fun checked => ?_
          exact Fine.pure ⟨rfl, checked⟩

/-- A move is saved, and the journal is known then. -/
theorem storeSave_fine {record : Record} (move : Move custodian known record)
    (held : known.hold ≠ .outside) :
    Fine custodian known (storeSave custodian record)
      (fun later _ => later.hold = .journal record known.hold.begun (record.phase = .executing) ∧
        record.Checked custodian)
      fun later problem => later.hold ≠ .outside ∧ problem ≠ .invalidAuthorityResponse := by
  refine Fine.guard ⟨held, nofun⟩ fun checked => ?_
  refine (Fine.attempt (.writeJournal record) ⟨move, checked⟩ ?_).imp ?_ fun _ _ _ throws => throws
  · rintro (problem | _) _ isRead possible
    · cases isRead
      exact ⟨nofun, possible⟩
    · cases isRead
  · rintro later _ - ⟨answer, isRead, rfl⟩
    cases answer with
    | error _ => cases isRead
    | ok _ => exact ⟨rfl, checked⟩

/-! ## The guarded block -/

/-- What is left when the guarded block throws: after an error of the authority
the journal is the record in memory. -/
def Thrown (later : Known) (problem : CustodianError × Record) : Prop :=
  later.hold ≠ .outside ∧
    (problem.1 = .invalidAuthorityResponse →
      ∃ begun ready, later.hold = .journal problem.2 begun ready)

/-- A process that holds the journal. -/
theorem thrown_of_hold {begun : Option Phase} (hold : known.hold = .journal record begun ready)
    (problem : CustodianError) : Thrown known (problem, record) :=
  ⟨held_of_hold hold, fun _ => ⟨begun, ready, hold⟩⟩

/-- An error of the store. -/
theorem thrown_of_store {problem : CustodianError}
    (throws : later.hold ≠ .outside ∧ problem ≠ .invalidAuthorityResponse) :
    Thrown later (problem, record) :=
  ⟨throws.1, fun same => absurd same throws.2⟩

section

variable {record : Record} {begun : Option Phase} {ready : Bool}

theorem save_fine {phase : Phase} (move : ∀ now, Move custodian known (record.enter phase now))
    (held : known.hold ≠ .outside) :
    Fine custodian known (save custodian record phase)
      (fun later saved => saved.Checked custodian ∧ ∃ now, saved = record.enter phase now ∧
        later.hold = .journal saved known.hold.begun (phase = .executing))
      Thrown := by
  apply Fine.bind (Fine.ask .now trivial)
  rintro stamped now - ⟨rfl, -⟩
  apply Fine.bind
  · apply Fine.within
    exact (storeSave_fine (move now) held).imp (fun _ _ _ holds => holds)
      fun _ _ _ throws => thrown_of_store throws
  · rintro later _ - ⟨hold, checked⟩
    exact Fine.pure ⟨checked, now, rfl, hold⟩

theorem assertOwner_fine (hold : known.hold = .journal record begun ready) :
    Fine custodian known (assertOwner record) (fun later _ => later = known) Thrown := by
  apply Fine.bind (Fine.ask .assertOwner trivial)
  rintro later owner - ⟨rfl, -⟩
  refine (Fine.ensure ?_).imp ?_ fun _ _ _ throws => throws
  · exact fun _ => thrown_of_hold hold _
  · rintro last _ - ⟨-, rfl⟩
    rfl

/-- A request of the guarded block. -/
theorem within_fine {task : Task α} {post : Known → α → Prop}
    (hold : known.hold = .journal record begun ready)
    (fine : Fine custodian known task post fun later _ => Keeps known later) :
    Fine custodian known (within record task) post Thrown := by
  apply Fine.within
  exact fine.imp (fun _ _ _ holds => holds)
    fun _ problem _ keeps => thrown_of_hold (keeps.trans hold) problem

/-- A health report of the guarded block. -/
theorem report_fine (state : Health) (held : known.hold ≠ .outside) :
    Fine custodian known (within record (health state)) (fun later _ => Keeps known later)
      Thrown := by
  apply Fine.within
  exact (health_fine state).imp (fun _ _ _ keeps => keeps)
    fun _ _ _ throws => thrown_of_store ⟨throws.1.held held, throws.2⟩

theorem quarantine_fine (hold : known.hold = .journal record begun ready)
    (phase : record.phase ∈ [Phase.executing, .replying, .replied]) (reason : Reason) :
    Fine custodian known (quarantine custodian record reason) (fun later _ => Held later) Thrown := by
  apply (save_fine (fun now => Move.quarantined ⟨⟨begun, ready, hold⟩, phase⟩ reason now)
    (held_of_hold hold)).bind
  rintro saved quarantined - ⟨-, now, rfl, isSaved⟩
  apply (report_fine .quarantined (held_of_hold isSaved)).bind
  rintro later _ - keeps
  exact Fine.pure (keeps.held (held_of_hold isSaved))

theorem acknowledge_fine (hold : known.hold = .journal record begun ready)
    (checked : record.Checked custodian) (replied : record.phase = .replied)
    (reason : AckReason custodian known record) :
    Fine custodian known (acknowledge record) (fun later _ => Held later) Thrown := by
  apply (assertOwner_fine hold).bind
  rintro _ _ - rfl
  have isIn : Hold.IsIn _ record [.replied] := ⟨⟨begun, ready, hold⟩, by rw [replied]; decide⟩
  apply (within_fine hold (ack_fine checked.bound isIn reason)).bind
  rintro acked _ - ⟨keeps, isAcked⟩
  have still := keeps.trans hold
  apply (assertOwner_fine still).bind
  rintro owning _ - rfl
  apply Fine.bind
  · apply Fine.within
    refine (Fine.attempt .removeJournal ⟨record, begun, ready, still, isAcked⟩ ?_).imp
      (fun _ _ _ holds => holds) fun _ _ _ throws => thrown_of_store throws
    intro answer problem isRead possible
    cases answer with
    | error _ =>
        cases isRead
        exact ⟨nofun, possible⟩
    | ok _ => cases isRead
  rintro cleared _ - ⟨answer, -, rfl⟩
  have held : Held (learn owning .removeJournal answer) := by
    cases answer <;> exact nofun
  apply (report_fine .completed held).bind
  rintro later _ - keeps
  exact Fine.pure (keeps.held held)

theorem confirm_fine (hold : known.hold = .journal record begun ready)
    (phase : record.phase ∈ [Phase.executing, .replying, .replied]) {eventId : String}
    (isReplied : Replied custodian record known eventId) :
    Fine custodian known (confirm custodian record eventId) (fun later _ => Held later) Thrown := by
  obtain ⟨event, seen, isReply, rfl⟩ := isReplied
  apply (save_fine (fun now => Move.replied ⟨⟨begun, ready, hold⟩, phase⟩ seen isReply now)
    (held_of_hold hold)).bind
  rintro saved replied grows ⟨checked, now, rfl, isSaved⟩
  refine acknowledge_fine isSaved checked rfl (.inr ⟨event, grows seen, ?_⟩)
  exact ⟨isReply.id, isReply.room, isReply.sequence, isReply.later, isReply.type, isReply.sender,
    isReply.key, isReply.replyRequired, isReply.inReplyTo, isReply.text⟩

theorem lookUp_fine (hold : known.hold = .journal record begun ready) :
    Fine custodian known (lookUp custodian record)
      (fun later found => Keeps known later ∧
        ∀ eventId ∈ found, Replied custodian record later eventId) Thrown := by
  rw [lookUp]
  split
  · exact Fine.pure ⟨rfl, fun _ none => by cases none⟩
  · exact within_fine hold (findReply_fine record)

theorem recover_fine (hold : known.hold = .journal record begun ready)
    (checked : record.Checked custodian)
    (phase : record.phase ∈ [Phase.executing, .replying, .replied]) :
    Fine custodian known (recover custodian record) (fun later _ => Held later) Thrown := by
  apply (lookUp_fine hold).bind
  rintro _ found - ⟨keeps, isReplied⟩
  have still := keeps.trans hold
  apply (assertOwner_fine still).bind
  rintro looked _ - rfl
  have otherwise : Fine custodian looked
      (if record.phase ≠ .replied ∨ record.receiptOnly ≠ some true then
        quarantine custodian record .unknownExecution
      else acknowledge record) (fun later _ => Held later) Thrown := by
    split
    next => exact quarantine_fine still phase _
    next isReceipt =>
      rw [not_or, not_not, not_not] at isReceipt
      exact acknowledge_fine still checked isReceipt.1 (.inl isReceipt.2)
  cases found with
  | none => exact otherwise
  | some eventId =>
      cases record.replyDigest with
      | none => exact otherwise
      | some digest => exact confirm_fine still phase (isReplied eventId rfl)

theorem recordFailure_fine (hold : known.hold = .journal record begun ready)
    (phase : record.phase = .executing) :
    Fine custodian known (recordFailure custodian record) (fun later _ => Held later) Thrown := by
  apply Fine.bind (Fine.ask .now trivial)
  rintro _ now - ⟨rfl, -⟩
  have isIn : Hold.IsIn known.hold record [.executing] :=
    ⟨⟨begun, ready, hold⟩, by rw [phase]; decide⟩
  refine Fine.bind (save_fine (fun later => Move.failed isIn (now + backoff (record.failureCount + 1)) later) ?_) ?_
  · exact hold ▸ nofun
  rintro saved failed - ⟨-, stamp, rfl, isSaved⟩
  apply (report_fine _ (held_of_hold isSaved)).bind
  rintro later _ - keeps
  exact Fine.pure (keeps.held (held_of_hold isSaved))

theorem resolveReply_fine (hold : known.hold = .journal record begun ready)
    (phase : record.phase ∈ [Phase.executing, .replying, .replied]) :
    Fine custodian known (resolveReply custodian record) (fun later _ => Held later) Thrown := by
  apply (assertOwner_fine hold).bind
  rintro _ _ - rfl
  apply (within_fine hold (findReply_fine record)).bind
  rintro looked found - ⟨keeps, isReplied⟩
  have still := keeps.trans hold
  cases found with
  | none => exact quarantine_fine still phase _
  | some eventId =>
      apply (assertOwner_fine still).bind
      rintro _ _ - rfl
      exact confirm_fine still phase (isReplied eventId rfl)

theorem deliver_fine (hold : known.hold = .journal record begun ready)
    (phase : record.phase = .executing) (text : String) :
    Fine custodian known (deliver custodian record text) (fun later _ => Held later) Thrown := by
  have isIn : Hold.IsIn known.hold record [.executing] :=
    ⟨⟨begun, ready, hold⟩, by rw [phase]; decide⟩
  apply (save_fine (fun now => Move.replying isIn (custodian.digest text) now)
    (held_of_hold hold)).bind
  rintro saved replying - ⟨checked, now, same, isSaved⟩
  have recovers : replying.phase ∈ [Phase.executing, .replying, .replied] := by
    rw [same]
    exact List.mem_cons_of_mem _ List.mem_cons_self
  apply (assertOwner_fine isSaved).bind
  rintro _ _ - rfl
  have answers : Fine custodian _ (within replying (reply custodian replying text)) _
      fun later _ => later.hold = .journal replying _ _ :=
    Fine.within ((reply_fine checked.bound text).imp (fun _ _ _ holds => holds)
      fun _ _ _ keeps => Eq.trans keeps isSaved)
  apply Fine.bind (Fine.outcome answers)
  rintro answered result - holds
  cases result with
  | ok eventId =>
      have still := holds.1.trans isSaved
      apply (assertOwner_fine still).bind
      rintro _ _ - rfl
      exact confirm_fine still recovers holds.2
  | error problem => exact resolveReply_fine holds recovers

theorem settleRun_fine (hold : known.hold = .journal record begun ready)
    (phase : record.phase = .executing) (answer : RunAnswer) :
    Fine custodian known (settleRun custodian record answer) (fun later _ => Held later) Thrown := by
  have recovers : record.phase ∈ [Phase.executing, .replying, .replied] := by
    rw [phase]
    decide
  cases answer with
  | failed knownFailure =>
      apply (assertOwner_fine hold).bind
      rintro _ _ - rfl
      cases knownFailure with
      | true => exact recordFailure_fine hold phase
      | false => exact quarantine_fine hold recovers _
  | result status text =>
      apply (assertOwner_fine hold).bind
      rintro _ _ - rfl
      split
      next => exact quarantine_fine hold recovers _
      next accepted _ => exact deliver_fine hold phase accepted

theorem admitRun_fine (hold : known.hold = .journal record begun ready)
    (phase : record.phase = .claimed) (mayStart : MayStart begun) {event : Event}
    (seen : Fact.event event ∈ known.facts) (isInbound : IsInbound custodian record event)
    (request : Inbound) :
    Fine custodian known (admitRun custodian record request) (fun later _ => Held later) Thrown := by
  have isIn : Hold.IsIn known.hold record [.claimed] := ⟨⟨begun, ready, hold⟩, by rw [phase]; decide⟩
  have starts : MayStart known.hold.begun := by rw [hold]; exact mayStart
  apply (save_fine (fun now => Move.executing isIn starts seen isInbound now) (held_of_hold hold)).bind
  rintro saved executing - ⟨-, now, rfl, isSaved⟩
  apply (assertOwner_fine isSaved).bind
  rintro _ _ - rfl
  apply Fine.bind (Fine.ask (.run _ request) ⟨_, isSaved⟩)
  rintro ran answer - ⟨rfl, -⟩
  apply settleRun_fine _ rfl
  · exact known.hold.begun
  · exact false
  · change holdAfter _ (.run _ request) answer = _
    rw [isSaved]
    rfl

theorem execute_fine (hold : known.hold = .journal record begun ready)
    (phase : record.phase ∈ [Phase.prepared, .claimed, .failed]) (mayStart : MayStart begun) :
    Fine custodian known (execute custodian record) (fun later _ => Held later) Thrown := by
  have isIn : Hold.IsIn known.hold record [.prepared, .claimed, .failed] :=
    ⟨⟨begun, ready, hold⟩, phase⟩
  apply (save_fine (fun now => Move.claimed isIn now) (held_of_hold hold)).bind
  rintro saved claimed - ⟨checked, now, rfl, isSaved⟩
  apply (within_fine isSaved (inbound_fine _)).bind
  rintro read request - ⟨keeps, event, seen, isInbound, rfl⟩
  have still := keeps.trans isSaved
  apply (assertOwner_fine still).bind
  rintro _ _ - rfl
  split
  next isReceipt =>
    have required : event.replyRequired = .flag false := by
      simpa [inboundOf] using isReceipt
    have isClaimed : Hold.IsIn _ (record.enter .claimed now) [.claimed] := ⟨⟨_, _, still⟩, List.mem_singleton.mpr rfl⟩
    apply (save_fine (fun later => Move.receipt isClaimed seen isInbound required later)
      (held_of_hold still)).bind
    rintro last replied - ⟨checked, stamp, rfl, isLast⟩
    exact acknowledge_fine isLast checked rfl (.inl rfl)
  next =>
    apply admitRun_fine still rfl _ seen isInbound
    rw [hold]
    exact mayStart

theorem guarded_fine (hold : known.hold = .journal record begun ready)
    (checked : record.Checked custodian) (notQuarantined : record.phase ≠ .quarantined)
    (mayStart : record.phase.isRecovery = false → MayStart begun) :
    Fine custodian known (guarded custodian record) (fun later _ => Held later) Thrown := by
  apply (assertOwner_fine hold).bind
  rintro _ _ - rfl
  apply (report_fine .working (held_of_hold hold)).bind
  rintro reported _ - keeps
  have still := keeps.trans hold
  split
  next isRecovery =>
    apply recover_fine still checked
    simpa [Phase.isRecovery] using isRecovery
  next isOpen =>
    apply execute_fine still
    · cases phase : record.phase with
      | quarantined => exact absurd phase notQuarantined
      | prepared | claimed | failed => decide
      | executing | replying | replied => rw [phase] at isOpen; exact absurd rfl isOpen
    · exact mayStart (by simpa using isOpen)

end

/-! ## Cycles and retries -/

/-- The handler quarantines only the record that the journal holds. -/
theorem handleError_fine {problem : CustodianError × Record} (thrown : Thrown known problem) :
    Fine custodian known (handleError custodian problem) (fun later _ => Held later)
      fun later _ => Held later := by
  apply Fine.bind (Fine.ask .signals trivial)
  rintro signalled ⟨owned, lost⟩ - ⟨rfl, -⟩
  dsimp only
  split
  next unresolved =>
    obtain ⟨begun, ready, hold⟩ := thrown.2 unresolved.2.1
    apply Program.Meets.mapError
    have recovers : problem.2.phase ∈ [Phase.executing, .replying, .replied] := by
      simpa [Phase.isRecovery] using unresolved.2.2
    have fine := @quarantine_fine custodian
      (learn known .signals (owned, lost)) problem.2 begun ready hold recovers .replyUnresolved
    apply Program.Meets.imp _ fine
    rintro later result ⟨grows, holds⟩
    refine ⟨grows, ?_⟩
    cases result with
    | ok _ => exact holds
    | error _ => exact holds.1
  next =>
    refine Fine.bind ((health_fine _).imp (fun _ _ _ keeps => keeps) ?_) ?_
    · exact fun _ _ _ throws => throws.1.held thrown.1
    · exact fun later _ _ keeps => Fine.fail (keeps.held thrown.1)

section

variable {record : Record} {begun : Option Phase} {ready : Bool}

/-- What is known after the guarded part of `owned`. -/
def AfterGuarded (later : Known) : Except (CustodianError × Record) CycleState → Prop
  | .ok _ => Held later
  | .error problem => Thrown later problem

theorem owned_fine (hold : known.hold = .journal record begun ready)
    (checked : record.Checked custodian) (notQuarantined : record.phase ≠ .quarantined)
    (mayStart : record.phase.isRecovery = false → MayStart begun) (leaseExpiresAt : Int) :
    Fine custodian known (owned custodian record leaseExpiresAt) (fun later _ => Held later)
      fun later _ => Held later := by
  apply Fine.bind (Fine.ask (.schedule record leaseExpiresAt) checked.bound)
  rintro _ _ - ⟨rfl, -⟩
  have block : Fine custodian (learn known (.schedule record leaseExpiresAt) ())
      ((guarded custodian record).outcome.mapError Prod.fst)
      AfterGuarded fun later (_ : CustodianError) => Held later := by
    have ends : Fine custodian (learn known (.schedule record leaseExpiresAt) ())
        (guarded custodian record) (fun later _ => Held later) Thrown :=
      guarded_fine hold checked notQuarantined mayStart
    have caught : Fine custodian (learn known (.schedule record leaseExpiresAt) ())
        (guarded custodian record).outcome _ fun _ (_ : CustodianError × Record) => False :=
      Fine.outcome ends
    apply Program.Meets.mapError
    apply Program.Meets.imp _ caught
    rintro later result ⟨grows, holds⟩
    refine ⟨grows, ?_⟩
    cases result with
    | ok ended => cases ended <;> exact holds
    | error _ => cases holds
  apply block.bind
  rintro ended result - holds
  have handled : Fine custodian ended
      (match result with
        | .ok state => (pure state : Task CycleState)
        | .error problem => handleError custodian problem).outcome
      (fun later _ => Held later) fun later (_ : CustodianError) => Held later := by
    have either : Fine custodian ended
        (match result with
          | .ok state => (pure state : Task CycleState)
          | .error problem => handleError custodian problem)
        (fun later _ => Held later) fun later _ => Held later := by
      cases result with
      | ok state => exact Fine.pure holds
      | error problem => exact handleError_fine holds
    refine (Fine.outcome either).imp ?_ fun _ _ _ throws => throws
    rintro later result - isHeld
    cases result with
    | ok | error => exact isHeld
  apply handled.bind
  rintro later outcome - isHeld
  apply Fine.bind (Fine.ask .endLease trivial)
  rintro last _ - ⟨rfl, -⟩
  exact Fine.ofExcept (fun _ _ => isHeld) fun _ _ => isHeld

theorem proceed_fine (hold : known.hold = .journal record begun ready)
    (checked : record.Checked custodian) (notQuarantined : record.phase ≠ .quarantined)
    (mayStart : record.phase.isRecovery = false → MayStart begun) :
    Fine custodian known (proceed custodian record) (fun later _ => Held later)
      fun later _ => Held later := by
  apply Fine.bind (Fine.outcome (claim_fine checked.bound))
  rintro claimed result - holds
  cases result with
  | error problem =>
      have still : Held claimed := by
        have keeps : Keeps known claimed := holds
        exact keeps.held (held_of_hold hold)
      refine Fine.bind ((health_fine .ownershipLost).imp (fun _ _ _ keeps => keeps) ?_) ?_
      · exact fun _ _ _ throws => throws.1.held still
      · exact fun later _ _ keeps => Fine.fail (keeps.held still)
  | ok leaseExpiresAt =>
      have keeps : Keeps known claimed := holds
      exact owned_fine (keeps.trans hold) checked notQuarantined mayStart leaseExpiresAt

theorem resume_fine (hold : known.hold = .journal record begun ready)
    (checked : record.Checked custodian)
    (mayStart : record.phase.isRecovery = false → record.phase ≠ .quarantined → MayStart begun) :
    Fine custodian known (resume custodian record) (fun later _ => Held later)
      fun later _ => Held later := by
  have held := held_of_hold hold
  have reports : ∀ state result, Fine custodian known
      (do health state; pure result : Task CycleState) (fun later _ => Held later)
      fun later _ => Held later := by
    intro state result
    refine Fine.bind ((health_fine state).imp (fun _ _ _ keeps => keeps) ?_) ?_
    · exact fun _ _ _ throws => throws.1.held held
    · exact fun later _ _ keeps => Fine.pure (keeps.held held)
  rw [resume]
  split
  next => exact reports .quarantined .quarantined
  next notQuarantined =>
    have goesOn := proceed_fine hold checked notQuarantined fun open? => mayStart open? notQuarantined
    split
    next =>
      apply Fine.bind (Fine.ask .now trivial)
      rintro _ now - ⟨rfl, -⟩
      split
      next => exact reports .failed .failed
      next => exact goesOn
    next => exact goesOn

end

theorem take_fine (isEmpty : known.hold = .empty) :
    Fine custodian known (take custodian) (fun later _ => Held later) fun later _ => Held later := by
  apply (list_fine isEmpty).bind
  rintro listed items - ⟨held, chosen⟩
  cases items with
  | nil =>
      refine Fine.bind ((health_fine .idle).imp (fun _ _ _ keeps => keeps) ?_) ?_
      · exact fun _ _ _ throws => throws.1.held held
      · exact fun later _ _ keeps => Fine.pure (keeps.held held)
  | cons delivery rest =>
      have choosing := chosen delivery rest rfl
      apply Fine.bind (Fine.ask .now trivial)
      rintro _ createdAt - ⟨rfl, -⟩
      apply Fine.bind (Fine.ask .now trivial)
      rintro _ updatedAt - ⟨rfl, -⟩
      have saved := @storeSave_fine custodian (learn (learn listed .now createdAt) .now updatedAt) _
        (Move.prepare choosing createdAt updatedAt) held
      apply (saved.imp (fun _ _ _ holds => holds) fun _ _ _ throws => throws.1).bind
      rintro later _ - ⟨hold, checked⟩
      apply resume_fine hold checked
      rintro - - phase isBegun
      change phase ∈ listed.hold.begun at isBegun
      rw [choosing] at isBegun
      cases isBegun

theorem cycleBody_fine (held : Held known) :
    Fine custodian known (cycleBody custodian) (fun later _ => Held later)
      fun later _ => Held later := by
  apply Fine.bind (Fine.ask .throwIfAborted trivial)
  rintro _ aborted - ⟨rfl, -⟩
  refine Fine.guard held fun _ => ?_
  apply Fine.bind (Fine.outcome verify_fine)
  rintro verified result - holds
  cases result with
  | error problem =>
      have keeps : Keeps _ verified := holds
      refine Fine.bind ((health_fine .paused).imp (fun _ _ _ keeps => keeps) ?_) ?_
      · exact fun _ _ _ throws => throws.1.held (keeps.held held)
      · exact fun later _ _ same => Fine.fail (same.held (keeps.held held))
  | ok _ =>
      have keeps : Keeps _ verified := holds
      apply (get_fine (keeps.held held)).bind
      rintro read found - isFound
      cases found with
      | none => exact take_fine isFound
      | some record =>
          obtain ⟨hold, checked⟩ := isFound
          apply resume_fine hold checked
          intro isOpen notQuarantined phase isPhase
          obtain rfl := Option.some.inj isPhase
          cases same : record.phase with
          | prepared | claimed | failed => rfl
          | executing | replying | replied => rw [same] at isOpen; cases isOpen
          | quarantined => exact absurd same notQuarantined

theorem retryBody_fine (held : Held known) (deliveryId : Int) :
    Fine custodian known (retryBody custodian deliveryId) (fun later _ => Held later)
      fun later _ => Held later := by
  apply (get_fine held).bind
  rintro read found - isFound
  cases found with
  | none =>
      exact Fine.fail (held_of_empty isFound)
  | some record =>
      obtain ⟨hold, -⟩ := isFound
      have still := held_of_hold hold
      refine Fine.guard still fun eligible => ?_
      apply Fine.bind (Fine.ask .now trivial)
      rintro _ now - ⟨rfl, -⟩
      have isIn : Hold.IsIn (learn read .now now).hold record [.failed, .quarantined] := by
        refine ⟨⟨_, _, hold⟩, ?_⟩
        rcases eligible.2 with failed | quarantined
        · rw [failed]
          decide
        · rw [quarantined]
          decide
      have saved := @storeSave_fine custodian _ _ (Move.retried isIn now) still
      apply (saved.imp (fun _ _ _ holds => holds) fun _ _ _ throws => throws.1).bind
      rintro later _ - ⟨isSaved, -⟩
      apply (get_fine (held_of_hold isSaved)).bind
      rintro last found - isFound
      have isHeld : Held last := by
        cases found with
        | none => exact held_of_empty isFound
        | some record => exact held_of_hold isFound.1
      refine (Fine.attempt .readHealth trivial ?_).imp ?_ fun _ _ _ throws => throws
      · exact fun _ _ _ _ => isHeld
      · rintro _ _ - ⟨answer, -, rfl⟩
        exact isHeld

/-- A body that keeps the lock runs under the lock. -/
theorem withLock_fine {body : Task α} (isOutside : known.hold = .outside)
    (fine : ∀ locked, Held locked → Fine custodian locked body (fun later _ => Held later)
      fun later _ => Held later) :
    Fine custodian known (withLock body) (fun _ _ => True) fun _ _ => True := by
  apply Fine.bind (Fine.ask .lock isOutside)
  rintro _ locked - ⟨rfl, -⟩
  refine Fine.guard trivial fun isLocked => ?_
  subst isLocked
  apply Fine.bind (Fine.outcome (fine (learn known .lock true) nofun))
  rintro ended result - holds
  have held : Held ended := by
    cases result with
    | ok | error => exact holds
  apply Fine.bind (Fine.ask .unlock held)
  rintro _ _ - -
  exact Fine.ofExcept (fun _ _ => trivial) fun _ _ => trivial

/-- Every command keeps to what it may do. -/
theorem code_fine (command : Command) (isOutside : known.hold = .outside) :
    Fine custodian known (code custodian command) (fun _ _ => True) fun _ _ => True := by
  cases command with
  | cycle =>
      apply (withLock_fine isOutside fun _ held => cycleBody_fine held).bind
      exact fun _ _ _ _ => Fine.pure trivial
  | retry deliveryId => exact withLock_fine isOutside fun _ held => retryBody_fine held deliveryId

end

end Triangle.LinuxRuntime
