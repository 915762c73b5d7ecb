import Triangle.WakeClient.Contract

/-!
# The cursor barrier

Along every run whose polls answer from an append-only feed, the persisted
cursor passes no event that was not delivered. A cursor is good when every event
of the feed up to it was delivered; the invariant is that every cursor that a
task holds or may write is good, and that a batch covers what is below it.
-/

namespace Triangle.WakeClient

open Triangle.Std Triangle.Semantics

section

variable (profiles : Profiles) (feed : Feed) (floor : Int)

/-- Every local event of the feed above the floor and up to the cursor was delivered. -/
def Good (history : List Entry) (cursor : Int) : Prop :=
  floor ≤ cursor ∧ ∀ entry ∈ feed, ∀ instanceId, profiles.instanceOf entry.1 = some instanceId →
    floor < entry.2 → entry.2 ≤ cursor → Delivered history instanceId entry.2

/-- What a batch does not hold itself below one of its watermarks was delivered. -/
def Covers (history : List Entry) (entries : Pending) : Prop :=
  ∀ bound ∈ entries, floor ≤ bound.2 ∧
    ∀ entry ∈ feed, ∀ instanceId, profiles.instanceOf entry.1 = some instanceId →
      floor < entry.2 → entry.2 ≤ bound.2 → Delivered history instanceId entry.2 ∨
        ∃ held ∈ entries, held.1 = instanceId ∧ entry.2 ≤ held.2

/-- What a fact says. -/
def Holds (history : List Entry) : Fact → Prop
  | .delivered cursor => Good profiles feed floor history cursor
  | .answered cursor answer =>
      Good profiles feed floor history cursor ∧ FromFeed profiles feed cursor answer
  | .batch entries => Covers profiles feed floor history entries
  | .accepted wake => Entry.accepted wake ∈ history
  | .lane cursor => cursor ≤ floor

/-- The facts that a task knows hold. -/
def Knows (_ : Nat) (world : World) (known : List Fact) : Prop :=
  ∀ fact ∈ known, Holds profiles feed floor world.history fact

/-- The invariant of the world. -/
structure Kept (world : World) : Prop where
  file : Good profiles feed floor world.history world.file
  cursor : ∀ cursor ∈ world.cursor, Good profiles feed floor world.history cursor
  pending : ∀ client, Covers profiles feed floor world.history (world.clients client).pending.rows
  returned : ∀ cursor event, Entry.returned cursor event ∈ world.history →
    floor ≤ cursor ∧ (event.agentId, event.highWatermark) ∈ feed ∧
      profiles.instanceOf event.agentId = some event.instanceId

end

section

variable {profiles : Profiles} {feed : Feed} {floor : Int} {history later : List Entry}
  {world : World} {known : List Fact}

/-! ## The history grows -/

variable {instanceId : String} {highWatermark cursor : Int} {pending : PendingMap}
  {found : LocalEvent} {events : List WakeEvent}

section

variable (grows : history ⊆ later)
include grows

theorem Delivered.grow (delivered : Delivered history instanceId highWatermark) :
    Delivered later instanceId highWatermark := by
  obtain ⟨wake, isAccepted, facts⟩ := delivered
  exact ⟨wake, grows isAccepted, facts⟩

theorem Good.grow (good : Good profiles feed floor history cursor) :
    Good profiles feed floor later cursor :=
  ⟨good.1, fun entry member instanceId isLocal above below =>
    (good.2 entry member instanceId isLocal above below).grow grows⟩

theorem Covers.grow {entries : Pending} (covers : Covers profiles feed floor history entries) :
    Covers profiles feed floor later entries := by
  intro bound member
  obtain ⟨atLeast, covered⟩ := covers bound member
  refine ⟨atLeast, fun entry inFeed instanceId isLocal above below => ?_⟩
  rcases covered entry inFeed instanceId isLocal above below with delivered | held
  · exact .inl (delivered.grow grows)
  · exact .inr held

theorem Holds.grow {fact : Fact} (holds : Holds profiles feed floor history fact) :
    Holds profiles feed floor later fact := by
  cases fact with
  | delivered cursor => exact Good.grow grows holds
  | answered cursor answer => exact ⟨Good.grow grows holds.1, holds.2⟩
  | batch entries => exact Covers.grow grows holds
  | accepted wake => exact grows holds
  | lane cursor => exact holds

end

/-- A cursor that may be written is good. -/
theorem Justified.good {next : Int} (justified : Justified profiles known next)
    (knows : ∀ fact ∈ known, Holds profiles feed floor history fact) :
    Good profiles feed floor history next := by
  cases justified with
  | again isKnown => exact knows _ isKnown
  | @foreign cursor events answered none grows =>
      obtain ⟨good, -, complete⟩ := knows _ answered
      have atLeast := good.1
      refine ⟨by omega, fun entry member instanceId isLocal above below => ?_⟩
      by_cases old : entry.2 ≤ cursor
      · exact good.2 entry member instanceId isLocal above old
      · -- A response without local events reports its cursor, and leaves nothing out below it.
        rw [none] at complete
        obtain ⟨event, isEvent, -⟩ := complete entry member (by rw [isLocal]; rfl) (by omega)
          ⟨next, List.mem_singleton.mpr rfl, below⟩
        cases isEvent
  | @flushed entries instanceId batch greatest above accepted =>
      obtain ⟨atLeast, covered⟩ := knows _ batch _ greatest
      refine ⟨atLeast, fun entry member holder isLocal past below => ?_⟩
      rcases covered entry member holder isLocal past below with delivered | ⟨held, isHeld, same, most⟩
      · exact delivered
      · obtain ⟨wake, isAccepted, ofHolder, watermark⟩ := accepted held isHeld
        exact ⟨wake, knows _ isAccepted, ofHolder.trans same, by omega⟩
  | migrated isDelivered lane greater =>
      have atLeast := (knows _ isDelivered).1
      have atMost : next ≤ floor := knows _ lane
      omega
  | @resynced cursor answered accepted =>
      obtain ⟨good, forward⟩ := knows _ answered
      have atLeast := good.1
      have further : cursor ≤ next := forward
      refine ⟨by omega, fun entry member instanceId isLocal _ below => ?_⟩
      have isInstance : instanceId ∈ profiles.instances := by
        obtain ⟨profile, found, rfl⟩ := Option.map_eq_some_iff.mp isLocal
        exact List.mem_map_of_mem (List.mem_of_find?_eq_some found)
      obtain ⟨wake, isAccepted, same, watermark⟩ := accepted instanceId isInstance
      exact ⟨wake, knows _ isAccepted, same, by omega⟩

/-! ## Accepting events -/

/-- A raised map holds no other watermark than before or the raised one. -/
theorem mem_raise {entry : String × Int}
    (member : entry ∈ (raise pending instanceId highWatermark).rows) :
    entry ∈ pending.rows ∨ entry = (instanceId, highWatermark) := by
  unfold raise at member
  split at member
  · have found := Table.mem_rows_iff.mp member
    rw [Table.find?_upsert] at found
    split at found
    · exact .inr (Option.some.inj found).symm
    · exact .inl (Table.mem_rows_iff.mpr found)
  · exact .inl member

/-- What the map held it still holds, at least as high. -/
theorem raise_keeps {held : String × Int} (member : held ∈ pending.rows) :
    ∃ entry ∈ (raise pending instanceId highWatermark).rows,
      entry.1 = held.1 ∧ held.2 ≤ entry.2 := by
  unfold raise
  split
  next less =>
    by_cases same : held.1 = instanceId
    · subst same
      rw [Table.mem_rows_iff.mp member] at less
      change held.2 < highWatermark at less
      refine ⟨(held.1, highWatermark), Table.mem_rows_iff.mpr ?_, rfl, by omega⟩
      rw [Table.find?_upsert, if_pos rfl]
    · refine ⟨held, Table.mem_rows_iff.mpr ?_, rfl, by omega⟩
      rw [Table.find?_upsert, if_neg same]
      exact Table.mem_rows_iff.mp member
  next => exact ⟨held, member, rfl, by omega⟩

/-- What was raised is held, at least as high. -/
theorem raise_holds {pending : PendingMap} {instanceId : String} {highWatermark : Int}
    (positive : 0 < highWatermark) :
    ∃ entry ∈ (raise pending instanceId highWatermark).rows,
      entry.1 = instanceId ∧ highWatermark ≤ entry.2 := by
  unfold raise
  split
  next less =>
    refine ⟨(instanceId, highWatermark), Table.mem_rows_iff.mpr ?_, rfl, by omega⟩
    rw [Table.find?_upsert, if_pos rfl]
  next notLess =>
    cases found : pending.find? instanceId with
    | none =>
        rw [found] at notLess
        exact absurd positive notLess
    | some entry =>
        rw [found] at notLess
        change ¬ entry.2 < highWatermark at notLess
        obtain ⟨member, same⟩ := Table.find?_some found
        exact ⟨entry, member, same, by omega⟩

/-- The same for all events of a response. -/
theorem raiseAll_spec (found : List LocalEvent) (positive : ∀ event ∈ found, 0 < event.highWatermark)
    (pending : PendingMap) :
    (∀ entry ∈ (raiseAll pending found).rows, entry ∈ pending.rows ∨
      ∃ event ∈ found, entry = (event.instanceId, event.highWatermark)) ∧
    (∀ held ∈ pending.rows, ∃ entry ∈ (raiseAll pending found).rows,
      entry.1 = held.1 ∧ held.2 ≤ entry.2) ∧
    ∀ event ∈ found, ∃ entry ∈ (raiseAll pending found).rows,
      entry.1 = event.instanceId ∧ event.highWatermark ≤ entry.2 := by
  induction found generalizing pending with
  | nil =>
      refine ⟨fun _ member => .inl member, fun held member => ?_, nofun⟩
      exact ⟨held, member, rfl, Int.le_refl _⟩
  | cons event rest ih =>
      obtain ⟨onlyThese, keeps, holds⟩ := ih
        (fun other member => positive other (List.mem_cons_of_mem _ member))
        (raise pending event.instanceId event.highWatermark)
      refine ⟨?_, ?_, ?_⟩
      · intro entry member
        rcases onlyThese entry member with earlier | ⟨other, isRest, same⟩
        · rcases mem_raise earlier with old | raised
          · exact .inl old
          · exact .inr ⟨event, List.mem_cons_self, raised⟩
        · exact .inr ⟨other, List.mem_cons_of_mem _ isRest, same⟩
      · intro held member
        obtain ⟨middle, isMiddle, sameKey, atLeast⟩ := raise_keeps member
        obtain ⟨entry, isEntry, sameAgain, atLeastAgain⟩ := keeps middle isMiddle
        exact ⟨entry, isEntry, sameAgain.trans sameKey, by omega⟩
      · intro other member
        rcases List.mem_cons.mp member with rfl | isRest
        · obtain ⟨middle, isMiddle, sameKey, atLeast⟩ :=
            @raise_holds pending other.instanceId other.highWatermark
              (positive other List.mem_cons_self)
          obtain ⟨entry, isEntry, sameAgain, atLeastAgain⟩ := keeps middle isMiddle
          exact ⟨entry, isEntry, sameAgain.trans sameKey, by omega⟩
        · exact holds other isRest

/-- What `acceptEvents` accepts is a valid event of a local profile. -/
theorem localEvent_spec {event : WakeEvent} (isLocal : localEvent profiles event = some found) :
    profiles.instanceOf found.agentId = some found.instanceId ∧ 0 < found.highWatermark := by
  unfold localEvent at isLocal
  simp only [Option.bind_eq_bind, Option.bind_eq_some_iff] at isLocal
  obtain ⟨agentId, -, instanceId, isInstance, highWatermark, -, checks⟩ := isLocal
  split at checks
  next valid =>
    obtain rfl := Option.some.inj checks
    have atLeast := valid.2
    exact ⟨isInstance, by change 0 < highWatermark; omega⟩
  next => cases checks

theorem localEvents_spec (member : found ∈ localEvents profiles events) :
    profiles.instanceOf found.agentId = some found.instanceId ∧ 0 < found.highWatermark := by
  obtain ⟨event, -, isLocal⟩ := List.mem_filterMap.mp member
  exact localEvent_spec isLocal

/-- Accepting a complete response keeps the map covering. -/
theorem Covers.accept {next : Option Int} (covers : Covers profiles feed floor history pending.rows)
    (good : Good profiles feed floor history cursor)
    (fromFeed : FromFeed profiles feed cursor (.response next events)) :
    Covers profiles feed floor history
      (raiseAll pending (localEvents profiles events)).rows := by
  obtain ⟨onlyThese, keeps, holds⟩ := raiseAll_spec (localEvents profiles events)
    (fun event member => (localEvents_spec member).2) pending
  obtain ⟨newer, complete⟩ := fromFeed
  intro bound member
  rcases onlyThese bound member with old | ⟨event, isEvent, rfl⟩
  · obtain ⟨atLeast, covered⟩ := covers bound old
    refine ⟨atLeast, fun entry inFeed instanceId isLocal above below => ?_⟩
    rcases covered entry inFeed instanceId isLocal above below with delivered | ⟨held, isHeld, same, most⟩
    · exact .inl delivered
    · obtain ⟨kept, isKept, sameKey, atLeastAgain⟩ := keeps held isHeld
      exact .inr ⟨kept, isKept, sameKey.trans same, by omega⟩
  · have above := (newer event isEvent).2
    have atLeast := good.1
    refine ⟨by omega, fun entry inFeed instanceId isLocal past below => ?_⟩
    by_cases isOld : entry.2 ≤ cursor
    · exact .inl (good.2 entry inFeed instanceId isLocal past isOld)
    · have reports : event.highWatermark ∈ reported (localEvents profiles events) next := by
        rw [reported, if_neg (List.ne_nil_of_mem isEvent)]
        exact List.mem_map_of_mem isEvent
      obtain ⟨other, isOther, sameAgent, most⟩ := complete entry inFeed (by rw [isLocal]; rfl)
        (by omega) ⟨_, reports, below⟩
      obtain ⟨held, isHeld, same, atLeastAgain⟩ := holds other isOther
      have sameInstance : other.instanceId = instanceId := by
        have ofAgent := (localEvents_spec isOther).1
        rw [sameAgent, isLocal] at ofAgent
        exact (Option.some.inj ofAgent).symm
      exact .inr ⟨held, isHeld, same.trans sameInstance, by omega⟩

/-! ## One call -/

/-- The invariant goes on to hold when the history grows and nothing else changes. -/
theorem Kept.note (kept : Kept profiles feed floor world) (entries : List Entry)
    (returned : ∀ cursor event, Entry.returned cursor event ∈ entries →
      floor ≤ cursor ∧ (event.agentId, event.highWatermark) ∈ feed ∧
        profiles.instanceOf event.agentId = some event.instanceId) :
    Kept profiles feed floor (world.note entries) where
  file := kept.file.grow (List.subset_append_left _ _)
  cursor cursor isLoaded := (kept.cursor cursor isLoaded).grow (List.subset_append_left _ _)
  pending client := (kept.pending client).grow (List.subset_append_left _ _)
  returned cursor event member := by
    rcases List.mem_append.mp member with old | new
    · exact kept.returned cursor event old
    · exact returned cursor event new

/-- A client may be left with any batch that covers what is below it. -/
theorem Kept.withClient (kept : Kept profiles feed floor world) (client : Nat)
    {state : ClientState} (covers : Covers profiles feed floor world.history state.pending.rows) :
    Kept profiles feed floor (world.withClient client state) where
  file := kept.file
  cursor := kept.cursor
  pending other := by
    by_cases same : other = client
    · subst same
      simpa only [World.withClient, Function.update_self] using covers
    · simpa only [World.withClient, Function.update_of_ne same] using kept.pending other
  returned := kept.returned

/-- No call takes anything from the history. -/
theorem history_perform (world : World) (request : Call) (choice : Choice) :
    world.history ⊆ (perform profiles world request choice).1.history := by
  cases request with
  | poll cursor => exact List.subset_append_left _ _
  | handler wake =>
      change world.history ⊆
        (if choice.handler = .accepted then world.note [.accepted wake] else world).history
      split
      · exact List.subset_append_left _ _
      · exact List.Subset.refl _
  | timer client =>
      dsimp only [perform]
      split <;> exact List.Subset.refl _
  | rename cursor =>
      dsimp only [perform]
      cases choice.fate <;> exact List.Subset.refl _
  | _ => exact List.Subset.refl _

section

variable (kept : Kept profiles feed floor world)
  (knows : ∀ fact ∈ known, Holds profiles feed floor world.history fact) (request : Call)
  (choice : Choice) (allowed : Allowed profiles known request)
  (replays : CallReplays profiles feed floor request choice)
include kept knows request choice allowed replays

/-- An allowed call keeps the invariant of the world. -/
theorem Kept.perform :
    Kept profiles feed floor (WakeClient.perform profiles world request choice).1 := by
  have none : Covers profiles feed floor world.history [] := nofun
  cases request with
  | stop client => exact kept.withClient client (kept.pending client)
  | clearTimer client => exact kept.withClient client (kept.pending client)
  | takePending client => exact kept.withClient client none
  | timer client =>
      dsimp only [WakeClient.perform]
      split
      · exact kept.withClient client none
      · exact kept
  | acceptEvents client events =>
      obtain ⟨cursor, next, answered⟩ := allowed
      obtain ⟨good, fromFeed⟩ := knows _ answered
      exact kept.withClient client ((kept.pending client).accept good fromFeed)
  | setCursor cursor =>
      refine ⟨kept.file, fun loaded isLoaded => ?_, kept.pending, kept.returned⟩
      obtain rfl := Option.some.inj isLoaded
      exact Justified.good allowed knows
  | rename cursor =>
      have renamed : Kept profiles feed floor { world with file := cursor } :=
        ⟨Justified.good allowed knows, kept.cursor, kept.pending, kept.returned⟩
      dsimp only [WakeClient.perform]
      cases choice.fate with
      | success | failAfter => exact renamed
      | failBefore => exact kept
  | handler wake =>
      dsimp only [WakeClient.perform]
      split
      · apply kept.note
        intro cursor event member
        cases List.mem_singleton.mp member
      · exact kept
  | poll cursor =>
      apply kept.note
      intro polled event member
      have isResponse : ∃ next events, choice.poll = .response next events := by
        cases answer : choice.poll with
        | response next events => exact ⟨next, events, rfl⟩
        | resyncRequired | failed => simp [returnedEntries, answer] at member
      obtain ⟨next, events, answer⟩ := isResponse
      simp only [answer, returnedEntries] at member
      obtain ⟨found, isFound, same⟩ := List.mem_map.mp member
      obtain ⟨rfl, rfl⟩ := Entry.returned.inj same
      have fromFeed : FromFeed profiles feed cursor (.response next events) := answer ▸ replays
      exact ⟨(knows _ allowed).1, (fromFeed.1 found isFound).1, (localEvents_spec isFound).1⟩
  | _ => exact kept

/-- What an answer teaches holds. -/
theorem Kept.learns :
    ∀ fact ∈ factsOf request (WakeClient.perform profiles world request choice).2,
      Holds profiles feed floor (WakeClient.perform profiles world request choice).1.history fact := by
  intro fact member
  cases request with
  | loadedCursor =>
      cases isLoaded : world.cursor with
      | none => simp [WakeClient.perform, isLoaded, factsOf] at member
      | some cursor =>
          simp only [WakeClient.perform, isLoaded, factsOf, List.mem_singleton] at member
          subst member
          exact kept.cursor cursor isLoaded
  | readFile =>
      dsimp only [WakeClient.perform] at member
      split at member
      · obtain rfl := List.mem_singleton.mp member
        exact kept.file
      · cases member
  | laneCursor lane =>
      cases answer : choice.laneCursor with
      | error _ => simp [WakeClient.perform, answer, factsOf] at member
      | ok cursor =>
          simp only [WakeClient.perform, answer, factsOf, List.mem_singleton] at member
          subst member
          exact replays cursor (by rw [answer]; rfl)
  | poll cursor =>
      obtain rfl := List.mem_singleton.mp member
      exact ⟨Good.grow (List.subset_append_left _ _) (knows _ allowed), replays⟩
  | timer client =>
      dsimp only [WakeClient.perform] at member ⊢
      split at member <;> obtain rfl := List.mem_singleton.mp member
      · rw [if_pos ‹_›]
        exact kept.pending client
      · exact nofun
  | takePending client =>
      obtain rfl := List.mem_singleton.mp member
      exact kept.pending client
  | handler wake =>
      dsimp only [WakeClient.perform] at member ⊢
      cases answer : choice.handler with
      | accepted =>
          rw [answer] at member
          obtain rfl := List.mem_singleton.mp member
          exact List.mem_append_right _ List.mem_cons_self
      | failed | threw => simp [answer, factsOf] at member
  | acceptEvents | isStopped | stop | isAborted | awaitTimer | clearTimer | setCursor | rename =>
      cases member

end

/-! ## A run -/

/-- The condition on a step of a task. -/
abbrev TaskReplays (profiles : Profiles) (feed : Feed) (floor : Int) (state : TaskState)
    (event : Interleaving.Event Nat Command Choice) : Prop :=
  Replays profiles feed floor state (.task event)

/-- The invariant of the tasks of an installation. -/
abbrev Safe (profiles : Profiles) (feed : Feed) (floor : Int) (state : TaskState) : Prop :=
  Interleaving.Sound (Allowed profiles) (Possible profiles) learn (Kept profiles feed floor)
    (Knows profiles feed floor) state

/-- A step of a task keeps the invariant. -/
theorem Safe.task {state : TaskState} {event : Interleaving.Event Nat Command Choice}
    (replays : TaskReplays profiles feed floor state event)
    (safe : Safe profiles feed floor state) :
    Safe profiles feed floor ((tasks profiles).step state event) := by
  have called : ∀ (state : TaskState) process request next choice,
      state.running process = some (.call request next) →
      TaskReplays profiles feed floor state (.resume process choice) →
      CallReplays profiles feed floor request choice := by
    intro state process request next choice running meets
    rwa [TaskReplays, Replays, running] at meets
  refine Interleaving.Sound.step [] ?_ ?_ ?_ ?_ ?_ ?_ replays safe
  · exact fun command => Program.Meets.imp (fun _ _ _ => trivial) (code_fine command)
  · exact fun _ _ kept => kept
  · exact fun _ _ _ _ member => absurd member List.not_mem_nil
  · exact fun _ _ _ _ _ does => does
  · intro state process request next choice known meets running kept knows allowed
    have answers := called state process request next choice running meets
    refine ⟨kept.perform knows request choice allowed answers, ?_, ?_⟩
    · cases request with
      | acceptEvents client events => rfl
      | _ => trivial
    · intro fact member
      rcases List.mem_append.mp member with learned | old
      · exact kept.learns knows request choice allowed answers fact learned
      · exact (knows fact old).grow (history_perform state.world request choice)
  · intro state process other request next choice known otherKnown _ _ _ _ _ _ does fact member
    exact (does fact member).grow (history_perform state.world request choice)

/-- Every step keeps the invariant; a crash leaves only the file. -/
theorem Safe.step {state : TaskState} (safe : Safe profiles feed floor state) (label : WakeLabel)
    (replays : Replays profiles feed floor state label) :
    Safe profiles feed floor (wakeStep profiles state label) := by
  cases label with
  | task event => exact safe.task replays
  | crash =>
      constructor
      · exact ⟨safe.world.file, nofun,
          nofun, safe.world.returned⟩
      · exact nofun

end

/-- At the start nothing above the floor is claimed. -/
theorem safe_initial (profiles : Profiles) (feed : Feed) (file : Int) :
    Safe profiles feed file (wakeMachine profiles file).initial := by
  constructor
  · refine ⟨⟨Int.le_refl _, fun _ _ _ _ above below => ?_⟩, nofun,
      nofun, nofun⟩
    change _ ≤ file at below
    omega
  · exact nofun

end Triangle.WakeClient
