import Triangle.Semantics.Machine
import Triangle.Std.Json
import Triangle.Std.Text

/-!
# Whose text a reply is

The Cursor runtime collects the updates of its session until its prompt is answered. The child
may still work for earlier requests: a prompt that timed out, or a load that replays the history.
Their updates are collected too if they are of the session, or of none. Where no request of the
session is outstanding at a prompt, a reply has its own updates only.
-/

namespace Triangle.CursorRuntime

open Triangle.Semantics Triangle.Std

/-! ## The text of a prompt -/

/-- `value?.[name]`; what is absent reads as `null` does. -/
def read (value : Json) (name : String) : Json :=
  match value with
  | .obj fields => (fields.lookup name).getD .null
  | _ => .null

/-- `first ?? second`. -/
def orElse : Json → Json → Json
  | .null, second => second
  | first, _ => first

/-- `value != null && typeof value === "object"`. -/
def isObject : Json → Bool
  | .obj _ | .arr _ => true
  | _ => false

/-- `push`. -/
def pushed : Json → List String
  | .str text => if text = "" then [] else [text]
  | _ => []

/-- The text that an update adds. -/
def updateText (update : Json) : List String :=
  if isObject update then
    let sessionUpdate := if isObject (read update "update") then read update "update" else update
    let kind : Json := match read sessionUpdate "sessionUpdate" with
      | .str kind => Json.str kind
      | _ => orElse (read sessionUpdate "type") (read sessionUpdate "kind")
    let isChunk : Bool := match kind with
      | .str kind => decide (kind ∈ ["agent_message_chunk", "agent_message", "message_chunk"])
      | _ => false
    if isChunk then
      match orElse (orElse (read sessionUpdate "content") (read sessionUpdate "text"))
          (read sessionUpdate "delta") with
      | .str text => pushed (.str text)
      | content => pushed (read content "text")
    else pushed (read sessionUpdate "text")
  else []

/-- The text of a part of a result. -/
def partText (part : Json) : List String :=
  match part, read part "type" with
  | .str text, _ => pushed (.str text)
  | _, .str "text" => pushed (read part "text")
  | _, _ => []

/-- The text of the result of a prompt. -/
def resultText (result : Json) : List String :=
  match result, read result "text", read result "content" with
  | .str text, _, _ => pushed (.str text)
  | _, .str text, _ => pushed (.str text)
  | _, _, .arr parts => parts.flatMap partText
  | _, _, _ => []

/-- `extractAcpAssistantText`. -/
def extractAcpAssistantText (updates : List Json) (promptResult : Json) : String :=
  let parts := match updates.flatMap updateText with
    | [] => resultText promptResult
    | parts => parts
  let joined := (String.join parts).toList.dropWhile Text.isTrimmed
  String.ofList (joined.reverse.dropWhile Text.isTrimmed).reverse

/-! ## The child and its client -/

/-- A request for which the child may still send updates. -/
structure Request where
  id : Nat
  sessionId : String
  isPrompt : Bool

/-- A collected update, and the request for which the child made it, which the source cannot
see. -/
structure Update where
  source : Nat
  update : Json

/-- The prompt that is waited for, `sessionPrompt`. -/
structure Prompt where
  id : Nat
  sessionId : String
  updates : List Update := []

/-- A reply to a delivery, with the prompt that was sent for it. -/
structure Reply where
  prompt : Nat
  updates : List Update
  result : Json

/-- `assistantText`. -/
def Reply.text (reply : Reply) : String :=
  extractAcpAssistantText (reply.updates.map (·.update)) reply.result

/-- The runtime with the child of its slot. -/
structure Lane where
  outstanding : List Request := []
  current : Option Prompt := none
  replies : List Reply := []
  nextId : Nat := 0

inductive LaneEvent
  | load (sessionId : String)
  | prompt (sessionId : String)
  | update (source : Nat) (params : Json)
  | loaded (request : Nat)
  | answers (request : Nat) (result : Json)
  | fails (request : Nat)
  | timesOut
  | exits

/-- The listener of `sessionPrompt` takes the update. -/
def Prompt.takes (prompt : Prompt) (params : Json) : Bool :=
  match read params "sessionId" with
  | .null => true
  | .str sessionId => sessionId = prompt.sessionId
  | _ => false

/-- A request is sent, while no prompt is waited for. -/
def Lane.sends (lane : Lane) (sessionId : String) (isPrompt : Bool) : Lane :=
  { lane with
    outstanding := lane.outstanding ++ [{ id := lane.nextId, sessionId, isPrompt }]
    nextId := lane.nextId + 1 }

/-- The child is through with a request. -/
def Lane.ends (lane : Lane) (request : Nat) : Lane :=
  { lane with outstanding := lane.outstanding.filter fun other => other.id ≠ request }

/-- The rest of `runDelivery` once the prompt is answered; an empty text is not sent. -/
def Lane.replyWith (lane : Lane) (reply : Reply) : Lane :=
  { lane with
    current := none
    replies :=
      if reply.text = "" ∨ reply.text = "[NO_REPLY]" then lane.replies
      else lane.replies ++ [reply] }

def laneStep (lane : Lane) : LaneEvent → Lane
  | .load sessionId => if lane.current.isNone then lane.sends sessionId false else lane
  | .prompt sessionId =>
      if lane.current.isNone then
        { lane.sends sessionId true with current := some { id := lane.nextId, sessionId } }
      else lane
  | .update source params =>
      match lane.current with
      | some prompt =>
          if prompt.takes params then
            let update := orElse (read params "update") params
            { lane with
              current := some { prompt with updates := prompt.updates ++ [{ source, update }] } }
          else lane
      | none => lane
  | .loaded request => lane.ends request
  | .answers request result =>
      match lane.current with
      | some prompt =>
          if prompt.id = request then
            (lane.ends request).replyWith { prompt := prompt.id, updates := prompt.updates, result }
          else lane.ends request
      | none => lane.ends request
  | .fails request =>
      match lane.current with
      | some prompt =>
          if prompt.id = request then { lane.ends request with current := none }
          else lane.ends request
      | none => lane.ends request
  | .timesOut => { lane with current := none }
  | .exits => { lane with outstanding := [], current := none }

def laneMachine : Machine Lane LaneEvent where
  initial := {}
  step := laneStep

/-- The child sends updates for requests that it has not ended, and ends the prompts of a session
in their order. -/
def isOrderly (lane : Lane) : LaneEvent → Bool
  | .update source _ => lane.outstanding.any (·.id = source)
  | .answers request _ | .fails request =>
      lane.outstanding.any fun asked => asked.id = request && asked.isPrompt &&
        lane.outstanding.all fun other =>
          !other.isPrompt || other.sessionId ≠ asked.sessionId || asked.id ≤ other.id
  | .loaded request => lane.outstanding.any fun asked => asked.id = request && !asked.isPrompt
  | _ => true

/-- No request of the session is outstanding at a prompt, and updates for other requests than the
one that is waited for name their session. -/
def IsClear (lane : Lane) : LaneEvent → Prop
  | .prompt sessionId => ∀ asked ∈ lane.outstanding, asked.sessionId ≠ sessionId
  | .update source params => ∀ prompt ∈ lane.current, source ≠ prompt.id →
      ∀ asked ∈ lane.outstanding, asked.id = source →
        read params "sessionId" = .str asked.sessionId
  | _ => True

/-- The prompt that is waited for is the only outstanding request of its session, and all
collected updates are of their own prompt. -/
structure Lane.Own (lane : Lane) : Prop where
  only : ∀ prompt ∈ lane.current, ∀ asked ∈ lane.outstanding,
    asked.sessionId = prompt.sessionId → asked.id = prompt.id
  current : ∀ prompt ∈ lane.current, ∀ update ∈ prompt.updates, update.source = prompt.id
  replies : ∀ reply ∈ lane.replies, ∀ update ∈ reply.updates, update.source = reply.prompt

variable {lane : Lane}

theorem Lane.Own.ends (own : lane.Own) (request : Nat) : (lane.ends request).Own where
  only := fun prompt isPrompt asked member =>
    own.only prompt isPrompt asked (List.mem_filter.mp member).1
  current := own.current
  replies := own.replies

/-- Nothing is waited for any more. -/
theorem Lane.Own.idle (own : lane.Own) (outstanding : List Request) :
    Own { lane with outstanding, current := none } :=
  ⟨nofun, nofun, own.replies⟩

theorem Lane.Own.step (own : lane.Own) {event : LaneEvent} (orderly : isOrderly lane event = true)
    (clear : IsClear lane event) : (laneStep lane event).Own := by
  cases event with
  | load sessionId =>
      simp only [laneStep]
      split
      next isIdle =>
        have noPrompt : ∀ prompt, prompt ∉ lane.current := by
          rw [Option.isNone_iff_eq_none.mp isIdle]
          exact fun prompt => Option.not_mem_none prompt
        exact ⟨fun prompt isPrompt => absurd isPrompt (noPrompt prompt), own.current, own.replies⟩
      · exact own
  | prompt sessionId =>
      simp only [laneStep]
      split
      · refine ⟨fun prompt isPrompt asked member same => ?_, fun prompt isPrompt => ?_, own.replies⟩
        · obtain rfl := Option.some.inj isPrompt
          rcases List.mem_append.mp member with old | new
          · exact absurd same (clear asked old)
          · rw [List.mem_singleton.mp new]
        · obtain rfl := Option.some.inj isPrompt
          nofun
      · exact own
  | update source params =>
      simp only [laneStep]
      split
      next prompt isCurrent =>
        split
        next takes =>
          have isOwn : source = prompt.id := by
            by_contra differs
            obtain ⟨asked, member, isSource⟩ := List.any_eq_true.mp orderly
            have isSource := of_decide_eq_true isSource
            have named := clear prompt isCurrent differs asked member isSource
            rw [Prompt.takes, named] at takes
            exact differs (isSource.symm.trans
              (own.only prompt isCurrent asked member (of_decide_eq_true takes)))
          refine ⟨fun other isOther => ?_, fun other isOther collected member => ?_, own.replies⟩
          · obtain rfl := Option.some.inj isOther
            exact own.only prompt isCurrent
          · obtain rfl := Option.some.inj isOther
            rcases List.mem_append.mp member with old | new
            · exact own.current prompt isCurrent collected old
            · rw [List.mem_singleton.mp new]
              exact isOwn
        · exact own
      · exact own
  | loaded request => exact own.ends request
  | answers request result =>
      simp only [laneStep]
      split
      next prompt isCurrent =>
        split
        · refine ⟨nofun, nofun, fun reply member => ?_⟩
          unfold Lane.replyWith at member
          dsimp only at member
          split at member
          · exact own.replies reply member
          · rcases List.mem_append.mp member with old | new
            · exact own.replies reply old
            · rw [List.mem_singleton.mp new]
              exact own.current prompt isCurrent
        · exact own.ends request
      · exact own.ends request
  | fails request =>
      simp only [laneStep]
      split
      · split
        · exact own.idle _
        · exact own.ends request
      · exact own.ends request
  | timesOut | exits => exact own.idle _

/-- In every run with an orderly child in which no request of the session is outstanding at any
prompt, and other updates name their session, the text of each reply is made of updates that the
child made for the prompt of its delivery. -/
theorem replies_own {events : List LaneEvent}
    (orderly : laneMachine.Along (fun lane event => isOrderly lane event = true) {} events)
    (clear : laneMachine.Along IsClear {} events) :
    ∀ reply ∈ (laneMachine.run events).replies,
      ∀ update ∈ reply.updates, update.source = reply.prompt := by
  have start : Lane.Own {} := ⟨nofun, nofun, nofun⟩
  have own : (laneMachine.runFrom {} events).Own :=
    (orderly.and clear).invariant (fun _ _ both own => own.step both.1 both.2) start
  exact own.replies

/-- An update with a text of session `s`. -/
def chunk (text : String) : Json :=
  .obj [("sessionId", .str "s"), ("update", .obj [("sessionUpdate", .str "agent_message_chunk"),
    ("content", .obj [("type", .str "text"), ("text", .str text)])])]

/-- A prompt that times out is ended before the next one. -/
def timedOutRun : List LaneEvent :=
  [.prompt "s", .timesOut, .update 0 (chunk "late"), .answers 0 .null, .load "s", .loaded 1,
    .prompt "s", .update 2 (chunk "own"), .answers 2 .null]

theorem replies_own_timeout :
    (laneMachine.run timedOutRun).replies.length = 1 ∧
      ∀ reply ∈ (laneMachine.run timedOutRun).replies,
        ∀ update ∈ reply.updates, update.source = reply.prompt :=
  ⟨by decide +kernel, replies_own (by decide +kernel)
    ⟨nofun, trivial, nofun, trivial, trivial, trivial, nofun, fun _ same differs =>
      absurd (congrArg Prompt.id (Option.some.inj same)) differs, trivial, trivial⟩⟩

/-- The child still works for a prompt that timed out when the session is loaded again and the
next one is sent: its late text is in the reply to the next delivery. -/
theorem lateText_in_reply :
    let events := [.prompt "s", .timesOut, .load "s", .loaded 1, .prompt "s",
      .update 0 (chunk "late "), .answers 0 .null, .update 2 (chunk "own"), .answers 2 .null]
    laneMachine.Along (fun lane event => isOrderly lane event = true) {} events ∧
      (laneMachine.run events).replies.map (fun reply =>
        (reply.prompt, reply.updates.map (·.source), reply.text)) =
          [(2, [0, 2], "late own")] := by
  decide +kernel

end Triangle.CursorRuntime
