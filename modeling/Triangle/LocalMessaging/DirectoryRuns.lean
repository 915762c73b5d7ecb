import Triangle.LocalMessaging.DirectoryBook
import Triangle.Semantics.Machine

/-!
# Runs of the session directory

From the empty directory, any sequence of events with any clock readings. As
long as no event finds the directory full, the directory of `maxSessions` rows
gives the answers of the one that never evicts, because both give those of the
book.
-/

namespace Triangle.LocalMessaging

open Triangle.Std Triangle.Semantics

/-- The directory before any event. -/
def Directory.empty : Directory where
  sessions := .empty
  ended := .empty
  events := .empty
  attachments := .empty
  wakes := { bindings := .empty, history := .empty }

section

variable (runtime : DirectoryRuntime) (capacity : Option Nat)

/-- The directory under its events. -/
def directoryMachine : Machine Directory DiscoveryCall where
  initial := .empty
  step directory call := ((recordDiscoveryEvent runtime capacity call).perform directory).2

/-- What the events of a run are answered with. -/
def answersFrom : Directory → List DiscoveryCall → List (Outcome DiscoveryResult)
  | _, [] => []
  | directory, call :: rest =>
      ((recordDiscoveryEvent runtime capacity call).perform directory).1 ::
        answersFrom ((directoryMachine runtime capacity).step directory call) rest

/-- What the book answers along a run. -/
def bookAnswers : SessionBook → List DiscoveryCall → List (Outcome DiscoveryResult)
  | _, [] => []
  | book, call :: rest =>
      (bookStep runtime call book).1 :: bookAnswers (bookStep runtime call book).2 rest

/-- A call keeps what is known of a session unless it is answered anew and the
session has aged out. -/
def Retains (id : String) (directory : Directory) (call : DiscoveryCall) : Prop :=
  ∀ result, ((recordDiscoveryEvent runtime capacity call).perform directory).1 = .ok result →
    result.duplicate = false →
    ∀ known ∈ directory.known? id, call.receivedAt - retentionMs ≤ known.lastSeenAt

/-- An answer is that of a start, not stale, of the session after its end. -/
def Restarts (call : DiscoveryCall) (answer : Outcome DiscoveryResult) (id : String)
    (known : Known) : Prop :=
  known.lifecycle = .ended ∧ call.event.kind = .start ∧
    ∃ result, answer = .ok result ∧ result.id = id ∧ result.stale = false ∧
      result.duplicate = false

end

section

variable {runtime : DirectoryRuntime} {capacity : Option Nat} {call : DiscoveryCall}
  {directory : Directory}

/-- A step is answered and moves as the book does, or the directory is full. -/
theorem directoryStep_refines (runtime : DirectoryRuntime) (capacity : Option Nat)
    (consistent : directory.Consistent) (call : DiscoveryCall) :
    (((recordDiscoveryEvent runtime capacity call).perform directory).1 = .error directoryFull ∧
        capacity.isSome ∧ (directoryMachine runtime capacity).step directory call = directory) ∨
      (((directoryMachine runtime capacity).step directory call).Consistent ∧
        ((recordDiscoveryEvent runtime capacity call).perform directory).1 =
          (bookStep runtime call directory.book).1 ∧
        ((directoryMachine runtime capacity).step directory call).book =
          (bookStep runtime call directory.book).2) := by
  rcases performed : (recordDiscoveryEvent runtime capacity call).perform directory with
    ⟨answer, after⟩
  have isStep : (directoryMachine runtime capacity).step directory call = after :=
    congrArg Prod.snd performed
  rw [isStep]
  rcases recordDiscoveryEvent_refines consistent performed with isFull | ⟨afterConsistent, isBook⟩
  · exact .inl isFull
  · exact .inr ⟨afterConsistent, congrArg Prod.fst isBook, congrArg Prod.snd isBook⟩

/-- Every step keeps each row beside its tombstone. -/
theorem directoryStep_consistent (directory : Directory) (call : DiscoveryCall)
    (consistent : directory.Consistent) :
    ((directoryMachine runtime capacity).step directory call).Consistent := by
  rcases directoryStep_refines runtime capacity consistent call with ⟨-, -, isSame⟩ | ⟨after, -⟩
  · rw [isSame]
    exact consistent
  · exact after

/-- The empty directory has no rows. -/
theorem empty_consistent : Directory.empty.Consistent :=
  nofun

/-- Every state of a run is consistent. -/
theorem run_consistent (calls : List DiscoveryCall) :
    ((directoryMachine runtime capacity).run calls).Consistent :=
  Machine.invariant_runFrom directoryStep_consistent empty_consistent calls

variable {calls : List DiscoveryCall} {known : Known}

/-- Answers that are never `directory_full` are the book's. -/
theorem answersFrom_eq_bookAnswers (consistent : directory.Consistent)
    (neverFull : ∀ answer ∈ answersFrom runtime capacity directory calls,
      answer ≠ .error directoryFull) :
    answersFrom runtime capacity directory calls = bookAnswers runtime directory.book calls := by
  induction calls generalizing directory with
  | nil => rfl
  | cons call rest ih =>
      have first := neverFull _ List.mem_cons_self
      have later := fun answer member => neverFull answer (List.mem_cons_of_mem _ member)
      rcases directoryStep_refines runtime capacity consistent call with
        ⟨isFull, -⟩ | ⟨after, sameAnswer, sameBook⟩
      · exact absurd isFull first
      · rw [bookAnswers, ← sameAnswer, ← sameBook, ← ih after later]
        rfl

/-- The book is never full. -/
theorem bookStep_ne_full (call : DiscoveryCall) (book : SessionBook) :
    (bookStep runtime call book).1 ≠ .error directoryFull := by
  unfold bookStep
  split
  · intro isFull
    cases isFull
  · split
    · split
      · intro isFull
        cases isFull
      · intro isFull
        cases isFull
    · intro isFull
      cases isFull

/-- A directory without a capacity always answers as the book does. -/
theorem unbounded_neverFull (consistent : directory.Consistent) :
    ∀ answer ∈ answersFrom runtime none directory calls, answer ≠ .error directoryFull := by
  induction calls generalizing directory with
  | nil => exact nofun
  | cons call rest ih =>
      rcases directoryStep_refines runtime none consistent call with
        ⟨-, bounded, -⟩ | ⟨after, sameAnswer, -⟩
      · cases bounded
      · intro answer member
        rw [answersFrom, List.mem_cons, sameAnswer] at member
        rcases member with isFirst | later
        · rw [isFirst]
          exact bookStep_ne_full call directory.book
        · exact ih after answer later

variable {limit : Nat} {harness : Harness} {id : String}

/-- A written row is one more only when its session had none. -/
theorem length_upsertSession (row : SessionRow) (kind : DiscoveryKind)
    (sessions : Table SessionRow.id) :
    (upsertSession row kind sessions).rows.length =
      if sessions.find? row.id = none then sessions.rows.length + 1
      else sessions.rows.length := by
  unfold upsertSession
  cases found : sessions.find? row.id with
  | none => rw [Table.length_upsert, found]
  | some old =>
      have isOld : sessions.find? (old.merge row kind).id = some old := by
        change sessions.find? old.id = some old
        obtain ⟨-, oldId⟩ := Table.find?_some found
        rw [oldId, found]
      rw [Table.length_upsert, isOld]
/-- Room for a new row leaves one free, and no room is made otherwise. -/
theorem roomed_length {isNew : Bool} {room : Directory} {evicted : Nat}
    (bounded : directory.sessions.rows.length ≤ limit)
    (isRoom : roomed (some limit) isNew directory = .ok (room, evicted)) :
    if isNew then room.sessions.rows.length < limit
    else room.sessions = directory.sessions := by
  unfold roomed at isRoom
  cases isNew with
  | false =>
      obtain ⟨rfl, -⟩ := pair_ok isRoom
      rfl
  | true =>
      rw [if_pos rfl]
      split at isRoom
      · split at isRoom
        · cases isRoom
        next row isLongest =>
          obtain ⟨rfl, -⟩ := pair_ok isRoom
          have fewer := Table.length_delete_key (longestEnded?_some isLongest).1
          change (directory.sessions.delete _).rows.length < limit
          omega
      next isFree =>
        obtain ⟨rfl, -⟩ := pair_ok isRoom
        simpa using isFree

/-- What an event writes, in the table of the sessions. -/
theorem written_sessions {old : Option Known} {removed : Nat} :
    (written runtime call harness old removed directory).sessions =
      if isStale old call.event.kind call.event.observedAt then directory.sessions
      else upsertSession (call.row runtime harness (nextGeneration old call.event.kind
        (isStale old call.event.kind call.event.observedAt))) call.event.kind
          directory.sessions := by
  unfold written
  cases isStale old call.event.kind call.event.observedAt with
  | true | false => split <;> rfl

/-- The directory never holds more rows than its capacity. -/
theorem directoryStep_length (directory : Directory) (call : DiscoveryCall)
    (bounded : directory.sessions.rows.length ≤ limit) :
    ((directoryMachine runtime (some limit)).step directory call).sessions.rows.length ≤ limit := by
  change ((recordDiscoveryEvent runtime (some limit) call).perform directory).2.sessions.rows.length
    ≤ limit
  unfold recordDiscoveryEvent
  split
  · exact bounded
  next harness _ =>
    rw [Work.perform_transaction, Work.outcome_read_bind]
    split
    next after answer isOutcome =>
      split at isOutcome
      · rw [Work.outcome_demand_bind, require_bind_ok] at isOutcome
        obtain ⟨-, isAnswer⟩ := isOutcome
        obtain ⟨rfl, -⟩ := pair_ok isAnswer
        exact bounded
      · rw [outcome_recordNewEvent] at isOutcome
        obtain ⟨⟨room, evicted⟩, isRoom, isWritten⟩ := map_ok isOutcome
        obtain ⟨rfl, -⟩ := Prod.mk.inj isWritten
        have keptBounded : (dropAged (call.receivedAt - retentionMs) directory).sessions.rows.length ≤
            limit := Nat.le_trans (List.length_filter_le _ _) bounded
        generalize dropAged (call.receivedAt - retentionMs) directory = kept at isRoom keptBounded ⊢
        have roomLength := roomed_length keptBounded isRoom
        rw [written_sessions]
        generalize kept.known? (call.address runtime harness) = old at roomLength ⊢
        generalize isStale old call.event.kind call.event.observedAt = stale at roomLength ⊢
        cases stale with
        | true =>
            rw [if_neg (by simp)] at roomLength
            rw [if_pos rfl, roomLength]
            exact keptBounded
        | false =>
            rw [if_neg (by simp), length_upsertSession]
            change (if room.sessions.find? (call.address runtime harness) = none then _ else _) ≤ limit
            cases found : kept.sessions.find? (call.address runtime harness) with
            | none =>
                rw [found, if_pos (by simp)] at roomLength
                split <;> omega
            | some row =>
                rw [found, if_neg (by simp)] at roomLength
                have isStored : room.sessions.find? (call.address runtime harness) ≠ none := by
                  rw [roomLength, found]
                  exact Option.some_ne_none row
                rw [if_neg isStored, roomLength]
                exact keptBounded
    · exact bounded

/-- Restart or not, with the generation that follows. -/
def Follows (call : DiscoveryCall) (answer : Outcome DiscoveryResult) (id : String)
    (known next : Known) : Prop :=
  (Restarts call answer id known ∧ next.generation = known.generation + 1) ∨
    (¬ Restarts call answer id known ∧ next.generation = known.generation)

/-- Nothing restarts without a new answer. -/
theorem follows_self {answer : Outcome DiscoveryResult}
    (notNew : ∀ result, answer = .ok result → result.duplicate = true ∨ result.stale = true ∨
      result.id ≠ id) : Follows call answer id known known := by
  refine .inr ⟨?_, rfl⟩
  rintro ⟨-, -, result, isAnswer, sameId, notStale, notDuplicate⟩
  rcases notNew result isAnswer with isDuplicate | isStale | otherId
  · rw [notDuplicate] at isDuplicate
    cases isDuplicate
  · rw [notStale] at isStale
    cases isStale
  · exact otherId sameId

/-- In the book the generation of a session that is kept rises by one with a
start after its end, and stays otherwise. -/
theorem record_generation {book : SessionBook} (isKnown : book.known id = some known) :
    ∃ next, (book.record runtime call harness).2.known id = some next ∧
      Follows call (.ok (book.record runtime call harness).1) id known next := by
  by_cases isStale : isStale (book.known (call.address runtime harness)) call.event.kind
      call.event.observedAt = true
  · refine ⟨known, ?_, follows_self fun result isAnswer => .inr (.inl ?_)⟩
    · simp only [SessionBook.record, isStale, if_true]
      exact isKnown
    · obtain rfl := Except.ok.inj isAnswer
      exact isStale
  · have notStale := eq_false_of_ne_true isStale
    by_cases isOwn : id = call.address runtime harness
    · subst isOwn
      rw [isKnown] at notStale
      have stored : (book.record runtime call harness).2.known (call.address runtime harness) =
          some (call.row runtime harness
            (nextGeneration (some known) call.event.kind false)).known := by
        simp only [SessionBook.record, isKnown, notStale]
        exact Function.update_self (call.address runtime harness) _ book.known
      refine ⟨_, stored, ?_⟩
      have generation : (call.row runtime harness
          (nextGeneration (some known) call.event.kind false)).known.generation =
          known.generation + if known.lifecycle = .ended ∧ call.event.kind = .start then 1
            else 0 := by
        simp [DiscoveryCall.row, SessionRow.known, nextGeneration]
      by_cases restarts : known.lifecycle = .ended ∧ call.event.kind = .start
      · rw [if_pos restarts] at generation
        refine .inl ⟨⟨restarts.1, restarts.2, _, rfl, rfl, ?_, rfl⟩, generation⟩
        simp only [SessionBook.record, isKnown, notStale]
      · rw [if_neg restarts, Int.add_zero] at generation
        exact .inr ⟨fun isRestart => restarts ⟨isRestart.1, isRestart.2.1⟩, generation⟩
    · refine ⟨known, ?_, follows_self fun result isAnswer => .inr (.inr ?_)⟩
      · simp only [SessionBook.record, notStale]
        exact (Function.update_of_ne isOwn _ _).trans isKnown
      · obtain rfl := Except.ok.inj isAnswer
        exact fun same => isOwn same.symm

/-- So it is with every step of the book that keeps the session. -/
theorem bookStep_generation {book : SessionBook} {id : String} {known : Known}
    (isKnown : book.known id = some known)
    (retained : ∀ result, (bookStep runtime call book).1 = .ok result →
      result.duplicate = false → call.receivedAt - retentionMs ≤ known.lastSeenAt) :
    ∃ next, (bookStep runtime call book).2.known id = some next ∧
      Follows call (bookStep runtime call book).1 id known next := by
  unfold bookStep at retained ⊢
  generalize call.event.harness? = harness? at retained ⊢
  cases harness? with
  | none => exact ⟨known, isKnown, follows_self nofun⟩
  | some harness =>
      dsimp only at retained ⊢
      cases found : book.events.find? call.event.eventId with
      | some previous =>
          dsimp only
          split
          · refine ⟨known, isKnown, follows_self fun result isAnswer => .inl ?_⟩
            obtain rfl := Except.ok.inj isAnswer
            rfl
          · exact ⟨known, isKnown, follows_self nofun⟩
      | none =>
          rw [found] at retained
          have isRecent := retained
            ((book.kept (call.receivedAt - retentionMs)).record runtime call harness).1 rfl rfl
          apply record_generation
          change (book.known id).filter _ = _
          rw [isKnown, Option.filter_some, if_pos (decide_eq_true isRecent)]

section

variable (consistent : directory.Consistent) (isKnown : directory.known? id = some known)
include consistent isKnown

/-- And with every step of a directory. -/
theorem directoryStep_generation (retains : Retains runtime capacity id directory call) :
    ∃ next, ((directoryMachine runtime capacity).step directory call).known? id = some next ∧
      Follows call ((recordDiscoveryEvent runtime capacity call).perform directory).1 id known
        next := by
  unfold Retains at retains
  rcases directoryStep_refines runtime capacity consistent call with
    ⟨isFull, -, isSame⟩ | ⟨-, sameAnswer, sameBook⟩
  · rw [isSame, isFull]
    exact ⟨known, isKnown, follows_self nofun⟩
  · rw [sameAnswer] at retains ⊢
    have sameKnown := congrArg SessionBook.known sameBook
    change ((directoryMachine runtime capacity).step directory call).known? = _ at sameKnown
    rw [sameKnown]
    exact @bookStep_generation _ _ directory.book _ _ isKnown fun result isAnswer isNew =>
      retains result isAnswer isNew known (Option.mem_def.mpr isKnown)

/-- While a session is retained its generation never decreases. -/
theorem runFrom_generation
    (retained : (directoryMachine runtime capacity).Along (Retains runtime capacity id) directory
      calls) :
    ∃ later, ((directoryMachine runtime capacity).runFrom directory calls).known? id =
        some later ∧ known.generation ≤ later.generation := by
  induction calls generalizing directory known with
  | nil => exact ⟨known, isKnown, Int.le_refl _⟩
  | cons call rest ih =>
      obtain ⟨next, isNext, follows⟩ := directoryStep_generation consistent isKnown retained.1
      obtain ⟨later, isLater, grows⟩ :=
        ih (directoryStep_consistent directory call consistent) isNext retained.2
      refine ⟨later, isLater, ?_⟩
      rcases follows with ⟨-, risen⟩ | ⟨-, same⟩
      · omega
      · omega

end

/-- An event that throws changes nothing. -/
theorem recordDiscoveryEvent_allOrNothing :
    (recordDiscoveryEvent runtime capacity call).AllOrNothing := by
  unfold recordDiscoveryEvent
  split
  · exact Work.allOrNothing_throw
  · exact Work.allOrNothing_transaction

/-- The directory of `maxSessions` rows against the one that never evicts, after
any events: as long as none finds it full it gives the same answers; it holds at
most `maxSessions` rows; an event that throws changes nothing; and the
generation of a session whose row or tombstone is retained rises by one with a
start after its end, stays with any other event, and so never decreases. -/
theorem directory_refines_unbounded (runtime : DirectoryRuntime) (calls : List DiscoveryCall) :
    ((∀ answer ∈ answersFrom runtime (some maxSessions) .empty calls,
        answer ≠ .error directoryFull) →
      answersFrom runtime (some maxSessions) .empty calls = answersFrom runtime none .empty calls) ∧
    ((directoryMachine runtime (some maxSessions)).run calls).sessions.rows.length ≤
      maxSessions ∧
    (∀ call, (recordDiscoveryEvent runtime (some maxSessions) call).AllOrNothing) ∧
    (∀ id known, ((directoryMachine runtime (some maxSessions)).run calls).known? id = some known →
      (∀ call,
        Retains runtime (some maxSessions) id
            ((directoryMachine runtime (some maxSessions)).run calls) call →
          ∃ next, ((directoryMachine runtime (some maxSessions)).run
              (calls ++ [call])).known? id = some next ∧
            Follows call ((recordDiscoveryEvent runtime (some maxSessions) call).perform
              ((directoryMachine runtime (some maxSessions)).run calls)).1 id known next) ∧
      ∀ more,
        (directoryMachine runtime (some maxSessions)).Along (Retains runtime (some maxSessions) id)
            ((directoryMachine runtime (some maxSessions)).run calls) more →
          ∃ later, ((directoryMachine runtime (some maxSessions)).run
              (calls ++ more)).known? id = some later ∧
            known.generation ≤ later.generation) := by
  have consistent : ((directoryMachine runtime (some maxSessions)).run calls).Consistent :=
    run_consistent calls
  refine ⟨fun neverFull => ?_, ?_, fun call => recordDiscoveryEvent_allOrNothing,
    fun id known isKnown => ⟨fun call retains => ?_, fun more retained => ?_⟩⟩
  · rw [answersFrom_eq_bookAnswers empty_consistent neverFull,
      answersFrom_eq_bookAnswers empty_consistent (unbounded_neverFull empty_consistent)]
  · exact Machine.invariant_runFrom directoryStep_length (Nat.zero_le maxSessions) calls
  · rw [Machine.run_snoc]
    exact directoryStep_generation consistent isKnown retains
  · rw [Machine.run, Machine.runFrom_append]
    exact runFrom_generation consistent isKnown retained

end

/-- An event of one session, received when it was observed. -/
private def eventAt (eventId sessionId : String) (kind : DiscoveryKind) (observedAt : Int) :
    DiscoveryCall where
  installationId := ""
  event :=
    { eventId := eventId
      workspace := ""
      sessionId := sessionId
      kind := kind
      observedAt := observedAt }
  digest := eventId
  receivedAt := observedAt

/-- With room for one session, one that ended is evicted by the next and comes
back in its second generation. -/
example : (answersFrom { sha256Hex := id, toLowerCase := id } (some 1) .empty
    [eventAt "e1" "a" .start 1, eventAt "e2" "a" .end_ 2, eventAt "e3" "b" .start 3,
      eventAt "e4" "b" .end_ 4, eventAt "e5" "a" .start 5]).map
      (fun answer => answer.toOption.map DiscoveryResult.generation) =
    [some 1, some 1, some 1, some 1, some 2] := by decide +kernel

end Triangle.LocalMessaging
