import Mathlib.Data.List.DropRight
import Triangle.LocalMessaging.SendMessage

/-!
# What a rejected send costs

A rejected send should leave everything as it was: the journal with its pair
admissions, what the tracker remembers, and the sender's entries at the rate
limiter. Nearly every rejection does. The depth, however, is calculated after
the entry has been reserved and before the `try` whose handler gives it back, so
a send that the loop tracker refuses keeps its entry (`RefusedDepth`).
-/

namespace Triangle.LocalMessaging

open Triangle.Std

/-- The entries of a sender that count at a time. -/
def liveEntries (limits : RateLimits) (now : Int) (history : SenderHistory) (senderId : String) :
    List Int :=
  prune (now - limits.windowMs) (history senderId)

section

variable {runtime : SendRuntime}

/-- Nothing has changed but for what expired. -/
structure Uncharged (now : Int) (before after : SendServer runtime) : Prop where
  journal : after.journal = before.journal
  entries : ∀ senderId, liveEntries runtime.limits now after.history senderId =
    liveEntries runtime.limits now before.history senderId
  memory : LoopTracker.SameMemory before.journal before.tracker after.tracker

/-- The sender has one more entry, and everybody else the same. -/
structure ChargedOnce (senderId : String) (now : Int) (before after : SendServer runtime) :
    Prop where
  entries : liveEntries runtime.limits now after.history senderId =
    liveEntries runtime.limits now before.history senderId ++ [now]
  others : ∀ other, other ≠ senderId → after.history other = before.history other

end

section

variable (runtime : SendRuntime) (answers : SendAnswers) (claims : TurnClaims)
variable (senderId : String) (now : Int) (params : List (String × Json))
variable (server : SendServer runtime)

/-- A rejected send costs nothing, and an admitted one costs one entry. -/
def CostsByOutcome : Prop :=
  match sendMessage runtime answers claims senderId now params server with
  | (.error _, after) => Uncharged now server after
  | (.ok (_, isDuplicate), after) => isDuplicate = false → ChargedOnce senderId now server after

/-- The loop tracker refuses a request: it is not stored yet, and a parent that it names
is unknown or its depth goes beyond the limit. -/
def RefusedDepth (request : SendRequest) : Prop :=
  server.journal.getRecord request.messageId = none ∧
    (server.tracker.UnknownParent server.journal claims request.inReplyTo ∨
      effectiveLimit runtime.maxLoopDepth claims <
        server.tracker.namedDepth server.journal claims request.inReplyTo)

/-- A request that its sender may send, within the rate limit, and that the loop tracker
refuses. -/
def KeepsEntry : Prop :=
  ∃ request resolution, acceptSend runtime answers claims params = .ok (request, resolution) ∧
    senderId ≠ "" ∧
    (liveEntries runtime.limits now server.history senderId).length <
      runtime.limits.maxRequestsPerWindow ∧
    RefusedDepth runtime claims server request

end

/-! ## Entries -/

section

variable {cutoff now : Int} {limits : RateLimits} {history : SenderHistory} {senderId : String}

theorem prune_prune (entries : List Int) :
    prune cutoff (prune cutoff entries) = prune cutoff entries := by
  unfold prune
  exact List.dropWhile_idempotent _ entries

/-- An entry that counts comes behind those that count. -/
theorem prune_snoc (entries : List Int) {time : Int} (counts : cutoff ≤ time) :
    prune cutoff (entries ++ [time]) = prune cutoff entries ++ [time] := by
  unfold prune
  rw [List.dropWhile_append]
  split
  next allOld =>
    rw [List.isEmpty_iff.mp allOld, List.nil_append, List.dropWhile_cons_of_neg]
    simpa using counts
  next => rfl

/-- Pruning a sender's entries keeps those that count. -/
theorem liveEntries_pruned (other : String) :
    liveEntries limits now
        (Function.update history senderId (liveEntries limits now history senderId)) other =
      liveEntries limits now history other := by
  by_cases isSender : other = senderId
  · subst isSender
    unfold liveEntries
    rw [Function.update_self, prune_prune]
  · unfold liveEntries
    rw [Function.update_of_ne isSender]

/-- A reserved entry counts. -/
theorem liveEntries_reserved :
    liveEntries limits now
        (Function.update history senderId (liveEntries limits now history senderId ++ [now]))
        senderId =
      liveEntries limits now history senderId ++ [now] := by
  unfold liveEntries
  rw [Function.update_self, prune_snoc _ (by omega), prune_prune]

/-- A rollback takes the reserved entry back. -/
theorem rollback_reserved :
    rollback senderId
        (Function.update history senderId (liveEntries limits now history senderId ++ [now])) =
      Function.update history senderId (liveEntries limits now history senderId) := by
  unfold rollback
  rw [Function.update_self, Function.update_idem, List.dropLast_concat]

/-- A reservation is refused without an entry, or adds one. -/
theorem reserve_eq :
    (∃ problem after, reserve limits senderId now history = (.error problem, after) ∧
      (senderId = "" ∨
        limits.maxRequestsPerWindow ≤ (liveEntries limits now history senderId).length) ∧
      ∀ other, liveEntries limits now after other = liveEntries limits now history other) ∨
    (senderId ≠ "" ∧
      (liveEntries limits now history senderId).length < limits.maxRequestsPerWindow ∧
      reserve limits senderId now history =
        (.ok (),
          Function.update history senderId (liveEntries limits now history senderId ++ [now]))) := by
  unfold reserve
  by_cases anonymous : senderId = ""
  · rw [if_pos anonymous]
    exact Or.inl ⟨_, _, rfl, Or.inl anonymous, fun _ => rfl⟩
  · rw [if_neg anonymous]
    dsimp only
    split
    next isFull => exact Or.inl ⟨_, _, rfl, Or.inr isFull, liveEntries_pruned⟩
    next fits => exact Or.inr ⟨anonymous, Nat.not_le.mp fits, rfl⟩

end

/-! ## A send -/

section

variable {runtime : SendRuntime} {answers : SendAnswers} {claims : TurnClaims}
variable {senderId : String} {now : Int} {params : List (String × Json)}
variable {server : SendServer runtime}

/-- The depth is refused exactly when the tracker refuses the request, and the memory is
the same either way. -/
theorem admissionDepth_eq (request : SendRequest) :
    LoopTracker.SameMemory server.journal server.tracker
        (admissionDepth runtime claims server.journal server.tracker request).2 ∧
      ((∃ problem,
        (admissionDepth runtime claims server.journal server.tracker request).1 = .error problem) ↔
          RefusedDepth runtime claims server request) := by
  unfold admissionDepth RefusedDepth
  cases isKnown : server.journal.getRecord request.messageId with
  | some record =>
      refine ⟨.refl, ?_, ?_⟩
      · rintro ⟨problem, isError⟩
        cases isError
      · rintro ⟨isNew, -⟩
        cases isNew
  | none =>
      refine ⟨LoopTracker.calculateDepth_same, ?_⟩
      rcases @LoopTracker.calculateDepth_fst _ server.journal server.tracker runtime.maxLoopDepth
        claims request.inReplyTo with ⟨problem, refused, isError⟩ | ⟨known, fits, isDepth⟩
      · exact ⟨fun _ => ⟨rfl, refused⟩, fun _ => ⟨problem, isError⟩⟩
      · refine ⟨?_, ?_⟩
        · rintro ⟨problem, isError⟩
          rw [isDepth] at isError
          cases isError
        · rintro ⟨-, isUnknown | tooDeep⟩
          · exact absurd isUnknown known
          · omega

/-- A send that is not refused for its depth costs what it should. -/
theorem costsByOutcome_of_not
    (kept : ¬ KeepsEntry runtime answers claims senderId now params server) :
    CostsByOutcome runtime answers claims senderId now params server := by
  unfold CostsByOutcome sendMessage
  cases accepted : acceptSend runtime answers claims params with
  | error problem => exact ⟨rfl, fun _ => rfl, .refl⟩
  | ok accept =>
      obtain ⟨request, resolution⟩ := accept
      dsimp only
      rcases @reserve_eq now runtime.limits server.history senderId with
        ⟨problem, history, refused, -, sameEntries⟩ | ⟨named, fits, reserved⟩
      · rw [refused]
        exact ⟨rfl, sameEntries, .refl⟩
      · rw [reserved]
        dsimp only
        obtain ⟨sameMemory, refusedIff⟩ := @admissionDepth_eq runtime claims server request
        cases calculated : admissionDepth runtime claims server.journal server.tracker request with
        | mk depth tracker =>
            rw [calculated] at sameMemory refusedIff
            cases depth with
            | error problem =>
                exact absurd
                  ⟨request, resolution, accepted, named, fits, refusedIff.mp ⟨problem, rfl⟩⟩ kept
            | ok depth =>
                dsimp only
                cases admitted : admitSend runtime answers claims senderId now server.journal
                    resolution depth request with
                | error problem =>
                    refine ⟨rfl, fun other => ?_, sameMemory⟩
                    dsimp only
                    rw [rollback_reserved, liveEntries_pruned]
                | ok admission =>
                    obtain ⟨journal, record, isDuplicate⟩ := admission
                    intro isNew
                    refine ⟨liveEntries_reserved, fun other differs => ?_⟩
                    exact Function.update_of_ne differs _ _

section

variable (kept : KeepsEntry runtime answers claims senderId now params server)
include kept

/-- A send that is refused for its depth keeps its entry. -/
theorem charged_of_keepsEntry :
    ∃ problem after, sendMessage runtime answers claims senderId now params server =
        (.error problem, after) ∧
      liveEntries runtime.limits now after.history senderId =
        liveEntries runtime.limits now server.history senderId ++ [now] := by
  obtain ⟨request, resolution, accepted, named, fits, refused⟩ := kept
  unfold sendMessage
  rw [accepted]
  dsimp only
  rcases @reserve_eq now runtime.limits server.history senderId with
    ⟨problem, history, -, anonymous | isFull, -⟩ | ⟨-, -, reserved⟩
  · exact absurd anonymous named
  · omega
  · rw [reserved]
    dsimp only
    obtain ⟨problem, isError⟩ := (admissionDepth_eq request).2.mpr refused
    cases calculated : admissionDepth runtime claims server.journal server.tracker request with
    | mk depth tracker =>
        rw [calculated] at isError
        cases isError
        exact ⟨problem, _, rfl, liveEntries_reserved⟩

/-- A send that is refused for its depth does not cost what it should. -/
theorem not_costsByOutcome :
    ¬ CostsByOutcome runtime answers claims senderId now params server := by
  obtain ⟨problem, after, sent, charged⟩ := charged_of_keepsEntry kept
  intro costs
  unfold CostsByOutcome at costs
  rw [sent] at costs
  have sameEntries := costs.entries senderId
  rw [charged] at sameEntries
  have sameLength := congrArg List.length sameEntries
  rw [List.length_append, List.length_singleton] at sameLength
  omega

end

end

/-- A send costs what it should exactly when the loop tracker does not refuse it: then a
rejected one costs nothing, and an admitted one a single entry. -/
theorem send_costs (runtime : SendRuntime) (answers : SendAnswers) (claims : TurnClaims)
    (senderId : String) (now : Int) (params : List (String × Json))
    (server : SendServer runtime) :
    CostsByOutcome runtime answers claims senderId now params server ↔
      ¬ KeepsEntry runtime answers claims senderId now params server :=
  ⟨fun costs kept => not_costsByOutcome kept costs, costsByOutcome_of_not⟩

/-- A server that has just started, over an empty journal. -/
def startedServer (runtime : SendRuntime) : SendServer runtime where
  history := fun _ => []
  tracker := .fresh
  journal :=
    { messages := .empty
      replies := .empty
      reconciliations := .empty
      pairAdmissions := .empty }

/-- A runtime for the request below. -/
def plainRuntime : SendRuntime where
  journal :=
    { computeEnvelopeHash := Envelope.text
      sha256Hex := id
      hashVersion := VersionFields.messageId }
  characters := fun _ => []

/-- Every recipient may be sent to, and nothing is pinned. -/
def plainAnswers : SendAnswers where
  resolveSend := fun recipient =>
    .ok { resolvedTo := recipient, resolved := false, via := none, principal := none }
  checkAllowed := fun _ => .ok ()
  isInteractive := fun _ => false
  readRoute := fun _ => .error ⟨.replyRouteMissing, "Pinned route record is missing"⟩
  prepareSend := none
  routes :=
    { available := false
      attached := fun _ _ _ => false
      pinInTransaction := fun route => .ok route.key
      verifyInTransaction := .error ⟨.replyRouteMissing, "Pinned route record is missing"⟩
      advanceInTransaction := .ok () }

/-- Claims that restrict nothing. -/
def plainClaims : TurnClaims where
  allowedRecipients := none
  maxLoopDepth := none
  parentMessageId := none
  loopDepth := some 1
  bindingId := none

/-- A message that answers one that nobody knows. -/
def orphanParams : List (String × Json) :=
  [("to", .str "bob"), ("text", .str "hello"), ("messageId", .str "m-2"),
    ("inReplyTo", .str "m-1")]

/-- The answer to a message that nobody knows is rejected, and its entry stays. -/
theorem orphan_keepsEntry :
    ¬ CostsByOutcome plainRuntime plainAnswers plainClaims "alice" 1000 orphanParams
      (startedServer plainRuntime) := by
  apply not_costsByOutcome
  refine ⟨_, _, rfl, by decide, by decide, rfl, Or.inl (Or.inr ⟨"m-1", rfl, rfl⟩)⟩

end Triangle.LocalMessaging
