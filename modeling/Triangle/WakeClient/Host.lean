import Triangle.Std.Table
import Triangle.WakeClient.Client

/-!
# Wake clients over one cursor file

Any number of tasks of any number of clients run over the cursor file of one
installation. A `Choice` holds what a call does not decide: whether the file
fails before or after it was renamed, what the poll comes back with, how a
handler ends. A crash ends all tasks and loses everything but the file.

The history of returned events and accepted wakes is not read by the code.
-/

namespace Triangle.WakeClient

open Triangle.Std Triangle.Semantics

/-- A valid event of a local profile. -/
structure LocalEvent where
  agentId : String
  instanceId : String
  highWatermark : Int
  deriving DecidableEq

/-- The checks of `acceptEvents` on one event. -/
def localEvent (profiles : Profiles) (event : WakeEvent) : Option LocalEvent := do
  let agentId ← event.agentId
  let instanceId ← profiles.instanceOf agentId
  let highWatermark ← event.highWatermark
  if isSafeInteger highWatermark = true ∧ 1 ≤ highWatermark then
    some ⟨agentId, instanceId, highWatermark⟩
  else none

/-- The events that `acceptEvents` accepts. -/
def localEvents (profiles : Profiles) (events : List WakeEvent) : List LocalEvent :=
  events.filterMap (localEvent profiles)

/-- The `pending` map: instances with the watermark to hand out. -/
abbrev PendingMap := Table (Prod.fst : String × Int → String)

/-- `if (highWatermark > previous) pending.set(instanceId, highWatermark)`. -/
def raise (pending : PendingMap) (instanceId : String) (highWatermark : Int) : PendingMap :=
  if ((pending.find? instanceId).map Prod.snd).getD 0 < highWatermark then
    pending.upsert (instanceId, highWatermark)
  else pending

/-- All accepted events of a response. -/
def raiseAll (pending : PendingMap) (found : List LocalEvent) : PendingMap :=
  found.foldl (fun pending event => raise pending event.instanceId event.highWatermark) pending

/-- The variables of one client. -/
structure ClientState where
  pending : PendingMap := .empty
  flushTimer : Bool := false
  stopped : Bool := false

/-- What has been returned by a poll and accepted by a handler. -/
inductive Entry
  | returned (cursor : Int) (event : LocalEvent)
  | accepted (wake : Wake)
  deriving DecidableEq

/-- The cursor file, the loaded cursor, the clients and the history. -/
structure World where
  file : Int
  cursor : Option Int
  clients : Nat → ClientState
  history : List Entry

/-- How a file operation ends. -/
inductive Fate
  | success
  | failBefore
  | failAfter
  deriving DecidableEq

/-- What the environment decides about one call. -/
structure Choice where
  fate : Fate := .success
  isAborted : Bool := false
  awaited : Except Unit Unit := .ok ()
  laneCursor : Except Unit Int := .error ()
  poll : PollAnswer := .failed
  handler : HandlerAnswer := .threw

namespace World

/-- Change the variables of a client. -/
def withClient (world : World) (client : Nat) (state : ClientState) : World :=
  { world with clients := Function.update world.clients client state }

/-- Add to the history. -/
def note (world : World) (entries : List Entry) : World :=
  { world with history := world.history ++ entries }

/-- Everything but the file and the history is lost. -/
def restart (world : World) : World :=
  { world with cursor := none, clients := fun _ => {} }

end World

section

variable (profiles : Profiles)

/-- What a poll returned, as far as local profiles are concerned. -/
def returnedEntries (cursor : Int) : PollAnswer → List Entry
  | .response _ events => (localEvents profiles events).map (.returned cursor)
  | _ => []

/-- Carry out one call. -/
def perform (world : World) : (request : Call) → Choice → World × Answer request
  | .isStopped client, _ => (world, (world.clients client).stopped)
  | .stop client, _ =>
      (world.withClient client { world.clients client with stopped := true }, ())
  | .isAborted _, choice => (world, choice.isAborted)
  | .acceptEvents client events, _ =>
      let state := world.clients client
      let found := localEvents profiles events
      let pending := raiseAll state.pending found
      (world.withClient client
        { state with pending, flushTimer := state.flushTimer || !pending.rows.isEmpty }, found.length)
  | .timer client, _ =>
      let state := world.clients client
      if state.flushTimer = true ∧ state.stopped = false then
        (world.withClient client { state with pending := .empty, flushTimer := false },
          state.pending.rows)
      else (world, [])
  | .takePending client, _ =>
      let state := world.clients client
      (world.withClient client { state with pending := .empty, flushTimer := false },
        state.pending.rows)
  | .awaitTimer _, choice => (world, choice.awaited)
  | .clearTimer client, _ =>
      (world.withClient client { world.clients client with flushTimer := false }, ())
  | .loadedCursor, _ => (world, world.cursor)
  | .readFile, choice =>
      (world, if choice.fate = .success then .ok world.file else .error ())
  | .setCursor cursor, _ => ({ world with cursor := some cursor }, ())
  | .rename cursor, choice =>
      match choice.fate with
      | .success => ({ world with file := cursor }, .ok ())
      | .failAfter => ({ world with file := cursor }, .error ())
      | .failBefore => (world, .error ())
  | .laneCursor _, choice => (world, choice.laneCursor)
  | .poll cursor, choice => (world.note (returnedEntries profiles cursor choice.poll), choice.poll)
  | .handler wake, choice =>
      (if choice.handler = .accepted then world.note [.accepted wake] else world, choice.handler)

/-- The tasks of one installation. -/
def tasks : Interleaving Nat Command Call Answer WakeError Unit World Choice where
  code := code profiles
  enter _ world := world
  perform _ := perform profiles

abbrev TaskState := Interleaving.State Nat Call Answer WakeError Unit World

/-- A task goes on, or the process crashes and starts again. -/
inductive WakeLabel
  | task (event : Interleaving.Event Nat Command Choice)
  | crash

/-- One step. -/
def wakeStep (state : TaskState) : WakeLabel → TaskState
  | .task event => (tasks profiles).step state event
  | .crash => ⟨state.world.restart, fun _ => none⟩

/-- A machine that starts with a persisted cursor. -/
def wakeMachine (file : Int) : Machine TaskState WakeLabel where
  initial := ⟨⟨file, none, fun _ => {}, []⟩, fun _ => none⟩
  step := wakeStep profiles

end

/-! ## The barrier -/

/-- A handler of the instance accepted a wake of at least this watermark. -/
def Delivered (history : List Entry) (instanceId : String) (highWatermark : Int) : Prop :=
  ∃ wake, Entry.accepted wake ∈ history ∧ wake.instanceId = instanceId ∧
    highWatermark ≤ wake.highWatermark

/-- What the server appends in the end: agents with watermarks. -/
abbrev Feed := List (String × Int)

/-- The watermarks up to which a response speaks: those of its local events, or
its cursor when there are none. -/
def reported (found : List LocalEvent) (cursor : Option Int) : List Int :=
  if found = [] then cursor.toList else found.map LocalEvent.highWatermark

/-- A poll answer out of the feed: events newer than the polled cursor, none left
out below what the response reports, and a resync does not go back. -/
def FromFeed (profiles : Profiles) (feed : Feed) (cursor : Int) : PollAnswer → Prop
  | .response next events =>
      (∀ event ∈ localEvents profiles events,
        (event.agentId, event.highWatermark) ∈ feed ∧ cursor < event.highWatermark) ∧
      ∀ entry ∈ feed, (profiles.instanceOf entry.1).isSome = true → cursor < entry.2 →
        (∃ bound ∈ reported (localEvents profiles events) next, entry.2 ≤ bound) →
        ∃ event ∈ localEvents profiles events,
          event.agentId = entry.1 ∧ entry.2 ≤ event.highWatermark
  | .resyncRequired restartCursor => cursor ≤ restartCursor
  | .failed => True

instance (profiles : Profiles) (feed : Feed) (cursor : Int) (answer : PollAnswer) :
    Decidable (FromFeed profiles feed cursor answer) := by
  cases answer <;> unfold FromFeed <;> infer_instance

/-- The step's call answers from the feed, and a retired lane cursor is not
above the cursor that the run started with. -/
def CallReplays (profiles : Profiles) (feed : Feed) (floor : Int) (request : Call)
    (choice : Choice) : Prop :=
  match request with
  | .poll cursor => FromFeed profiles feed cursor choice.poll
  | .laneCursor _ => ∀ cursor ∈ choice.laneCursor.toOption, cursor ≤ floor
  | _ => True

instance (profiles : Profiles) (feed : Feed) (floor : Int) (request : Call) (choice : Choice) :
    Decidable (CallReplays profiles feed floor request choice) := by
  unfold CallReplays
  split <;> infer_instance

/-- The condition on a step of the machine. -/
def Replays (profiles : Profiles) (feed : Feed) (floor : Int) (state : TaskState) :
    WakeLabel → Prop
  | .task (.resume process choice) =>
      match state.running process with
      | some (.call request _) => CallReplays profiles feed floor request choice
      | _ => True
  | _ => True

instance (profiles : Profiles) (feed : Feed) (floor : Int) (state : TaskState)
    (label : WakeLabel) : Decidable (Replays profiles feed floor state label) := by
  unfold Replays
  split
  · split <;> infer_instance
  · infer_instance

end Triangle.WakeClient
