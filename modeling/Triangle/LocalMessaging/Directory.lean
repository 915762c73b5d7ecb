import Triangle.LocalMessaging.Wake
import Triangle.Std.Transaction

/-!
# The session directory

`recordDiscoveryEvent`, statement by statement. A session is a row; one that
ended also has a tombstone, and at most `capacity` rows are kept: a new session
that finds the directory full evicts the ended one seen longest ago, which then
lives on as its tombstone. Rows, tombstones and answered events each age out
eight days after they were last seen.

`none` for the capacity is the directory that never evicts. The source has one
capacity, `maxSessions`.
-/

namespace Triangle.LocalMessaging

open Triangle.Std Triangle.Std.Text

/-- `lifecycle` of a session. -/
inductive Lifecycle
  | observed
  | ended
  deriving DecidableEq, Repr

/-- `harness` of a session. -/
inductive Harness
  | claude
  | codex
  deriving DecidableEq, Repr

/-- `kind` of a lifecycle event. -/
inductive DiscoveryKind
  | start
  | activity
  | end_
  deriving DecidableEq, Repr

/-- The host process of a session. -/
structure HostProcess where
  pid : Int
  start : String
  scope : String
  deriving DecidableEq, Repr

/-- A row of `local_discovered_sessions`. The three host columns are set together. -/
structure SessionRow where
  id : String
  installationId : String
  workspace : String
  sessionId : String
  lifecycle : Lifecycle
  generation : Int
  eventAt : Int
  lastSeenAt : Int
  harness : Harness
  origin : String
  title : Option String
  host : Option HostProcess

/-- A row of `local_discovery_ended`. -/
structure EndedRow where
  id : String
  eventAt : Int
  generation : Int
  lastSeenAt : Int

/-- What a lifecycle event is answered with. -/
structure DiscoveryResult where
  id : String
  generation : Int
  stale : Bool
  duplicate : Bool
  deriving DecidableEq, Repr

/-- A row of `local_discovery_events`. -/
structure DiscoveryEventRow where
  eventId : String
  digest : String
  result : DiscoveryResult
  receivedAt : Int

/-- A row of `local_session_attachments`. -/
structure AttachmentRow where
  id : String
  childId : String
  generation : Int
  installationId : String
  expiresAt : Int
  wakeCapable : Bool

/-- The tables that a lifecycle event reads and writes. -/
structure Directory where
  sessions : Table SessionRow.id
  ended : Table EndedRow.id
  events : Table DiscoveryEventRow.eventId
  attachments : Table AttachmentRow.id
  wakes : WakeStore

/-- A lifecycle event. -/
structure DiscoveryEvent where
  eventId : String
  workspace : String
  sessionId : String
  kind : DiscoveryKind
  observedAt : Int
  harness : Option String := none
  origin : Option String := none
  title : Option String := none
  host : Option HostProcess := none

/-- The arguments of `recordDiscoveryEvent`. -/
structure DiscoveryCall where
  installationId : String
  event : DiscoveryEvent
  digest : String
  receivedAt : Int

/-- What the directory takes from the platform and the configuration. -/
structure DirectoryRuntime where
  sha256Hex : String → String
  toLowerCase : String → String
  titles : Bool := true

/-- `RETENTION_MS`. -/
def retentionMs : Int := 8 * 24 * 60 * 60 * 1000

/-- The capacity that the source has. -/
def maxSessions : Nat := 128

/-- Work on the directory. -/
abbrev DirectoryWork (Answer : Type) := Work Directory MessagingError Answer

/-- `event.harness||'claude'`, when it is one of the two. -/
def DiscoveryEvent.harness? (event : DiscoveryEvent) : Option Harness :=
  match (event.harness.filter (· ≠ "")).getD "claude" with
  | "claude" => some .claude
  | "codex" => some .codex
  | _ => none

/-- The lifecycle that an event leaves its session in. -/
def DiscoveryKind.lifecycle : DiscoveryKind → Lifecycle
  | .end_ => .ended
  | .start | .activity => .observed

/-- What is known of a session: its row, or the tombstone of one that ended. -/
structure Known where
  lifecycle : Lifecycle
  generation : Int
  eventAt : Int
  lastSeenAt : Int
  deriving DecidableEq, Repr

/-- What a row says of its session. -/
def SessionRow.known (row : SessionRow) : Known where
  lifecycle := row.lifecycle
  generation := row.generation
  eventAt := row.eventAt
  lastSeenAt := row.lastSeenAt

/-- What a tombstone says of its session. -/
def EndedRow.known (row : EndedRow) : Known where
  lifecycle := .ended
  generation := row.generation
  eventAt := row.eventAt
  lastSeenAt := row.lastSeenAt

/-- The tombstone of a row. -/
def SessionRow.tombstone (row : SessionRow) : EndedRow where
  id := row.id
  eventAt := row.eventAt
  generation := row.generation
  lastSeenAt := row.lastSeenAt

/-- The row of a session, or else its tombstone. -/
def Directory.known? (directory : Directory) (id : String) : Option Known :=
  match directory.sessions.find? id with
  | some row => some row.known
  | none => (directory.ended.find? id).map EndedRow.known

/-- `stale`. -/
def isStale (old : Option Known) (kind : DiscoveryKind) (observedAt : Int) : Bool :=
  old.any fun known =>
    observedAt < known.eventAt || (observedAt = known.eventAt && kind ≠ .end_) ||
      (known.lifecycle = .ended && kind = .activity)

/-- `generation`. -/
def nextGeneration (old : Option Known) (kind : DiscoveryKind) (stale : Bool) : Int :=
  match old with
  | none => 1
  | some known =>
      known.generation + if known.lifecycle = .ended && kind = .start && !stale then 1 else 0

/-- The row an upsert leaves: what was excluded, over the columns that stay. A
start replaces the host process, another event only refines it. -/
def SessionRow.merge (old excluded : SessionRow) (kind : DiscoveryKind) : SessionRow :=
  { old with
    lifecycle := excluded.lifecycle
    generation := excluded.generation
    sessionId := excluded.sessionId
    eventAt := excluded.eventAt
    lastSeenAt := excluded.lastSeenAt
    origin := if excluded.origin = "unknown" then old.origin else excluded.origin
    title := excluded.title.orElse fun _ => old.title
    host := if excluded.host.isNone && kind ≠ .start then old.host else excluded.host }

/-- `INSERT … ON CONFLICT(id) DO UPDATE`. -/
def upsertSession (excluded : SessionRow) (kind : DiscoveryKind)
    (sessions : Table SessionRow.id) : Table SessionRow.id :=
  match sessions.find? excluded.id with
  | none => sessions.upsert excluded
  | some old => sessions.upsert (old.merge excluded kind)

/-- `WHERE lifecycle='ended' ORDER BY last_seen_at,id LIMIT 1`. -/
def longestEnded? (sessions : Table SessionRow.id) : Option SessionRow :=
  ((sessions.select (·.lifecycle = .ended)).mergeSort fun first second =>
    first.lastSeenAt < second.lastSeenAt ||
      (first.lastSeenAt = second.lastSeenAt && first.id ≤ second.id)).head?

/-- `pruneOrphanedSessionState`. -/
def pruneOrphanedSessionState (directory : Directory) : Directory :=
  let live := directory.sessions.rows.map SessionRow.id
  { directory with
    wakes := pruneOrphanedWakes live directory.wakes
    attachments := directory.attachments.delete fun row => !live.contains row.id }

/-- Delete what was last seen before the cutoff. -/
def dropAged (cutoff : Int) (directory : Directory) : Directory :=
  { directory with
    events := directory.events.delete (·.receivedAt < cutoff)
    sessions := directory.sessions.delete (·.lastSeenAt < cutoff)
    ended := directory.ended.delete (·.lastSeenAt < cutoff) }

/-- Turn a row into its tombstone. -/
def evict (row : SessionRow) (directory : Directory) : Directory :=
  { directory with
    ended := directory.ended.upsert row.tombstone
    sessions := directory.sessions.delete (·.id = row.id) }

section

variable (runtime : DirectoryRuntime)

/-- `sessionAddress`. -/
def sessionAddress (installationId workspace sessionId : String) : String :=
  "session-" ++ runtime.sha256Hex
    (installationId ++ "\x00" ++ workspace ++ "\x00" ++ runtime.toLowerCase sessionId)

/-- The address of the session an event is about. -/
def DiscoveryCall.address (call : DiscoveryCall) (harness : Harness) : String :=
  sessionAddress runtime call.installationId call.event.workspace
    (if harness = .codex then "codex:" ++ call.event.sessionId else call.event.sessionId)

/-- The row that an event inserts. -/
def DiscoveryCall.row (call : DiscoveryCall) (harness : Harness) (generation : Int) :
    SessionRow where
  id := call.address runtime harness
  installationId := call.installationId
  workspace := call.event.workspace
  sessionId := runtime.sha256Hex call.event.sessionId
  lifecycle := call.event.kind.lifecycle
  generation := generation
  eventAt := call.event.observedAt
  lastSeenAt := call.receivedAt
  harness := harness
  origin := (call.event.origin.filter (· ≠ "")).getD "unknown"
  title := if runtime.titles then call.event.title else none
  host := call.event.host

/-- Write an event that is not stale: the row, and the tombstone of an end. -/
def storeSession (call : DiscoveryCall) (row : SessionRow) (directory : Directory) : Directory :=
  { directory with
    sessions := upsertSession row call.event.kind directory.sessions
    ended := if call.event.kind = .end_ then directory.ended.upsert row.tombstone
      else directory.ended.delete (·.id = row.id) }

/-- Make room for a row that is not there yet; the answer is the number of rows
removed. -/
def makeRoom (capacity : Option Nat) (isNew : Bool) : DirectoryWork Nat := do
  let count ← Work.read fun directory => directory.sessions.rows.length
  if isNew && capacity.any (· ≤ count) then do
    match ← Work.read fun directory => longestEnded? directory.sessions with
    | none => throw ⟨.directoryFull, "Session directory is full"⟩
    | some row => do
        Work.write (evict row)
        return 1
  else return 0

/-- The statements behind an event that was not answered before. -/
def recordNewEvent (capacity : Option Nat) (call : DiscoveryCall) (harness : Harness) :
    DirectoryWork DiscoveryResult := do
  let id := call.address runtime harness
  let cutoff := call.receivedAt - retentionMs
  let aged ← Work.read fun directory =>
    (directory.sessions.select (·.lastSeenAt < cutoff)).length
  Work.write (dropAged cutoff)
  let stored ← Work.read fun directory => directory.sessions.find? id
  let old ← Work.read fun directory => directory.known? id
  let stale := isStale old call.event.kind call.event.observedAt
  let evicted ← makeRoom capacity (stored.isNone && !stale)
  let generation := nextGeneration old call.event.kind stale
  Work.write fun directory =>
    if stale then directory
    else storeSession call (call.row runtime harness generation) directory
  Work.write fun directory =>
    if 0 < aged + evicted then pruneOrphanedSessionState directory else directory
  let result : DiscoveryResult :=
    { id := id, generation := generation, stale := stale, duplicate := false }
  Work.write fun directory =>
    { directory with
      events := directory.events.upsert
        { eventId := call.event.eventId
          digest := call.digest
          result := result
          receivedAt := call.receivedAt } }
  return result

/-- `recordDiscoveryEvent`. -/
def recordDiscoveryEvent (capacity : Option Nat) (call : DiscoveryCall) :
    DirectoryWork DiscoveryResult :=
  match call.event.harness? with
  | none => throw ⟨.invalidDiscoveryEvent, "Unsupported discovery harness"⟩
  | some harness => Work.transaction do
      let previous? ← Work.read fun directory => directory.events.find? call.event.eventId
      match previous? with
      | some previous => do
          Work.demand (previous.digest = call.digest)
            ⟨.duplicateIdConflict, "Lifecycle event ID reused with different metadata"⟩
          return { previous.result with duplicate := true }
      | none => recordNewEvent runtime capacity call harness

end

end Triangle.LocalMessaging
