import Triangle.LocalMessaging.Journal
import Triangle.Std.Lru

/-!
# The depth of a conversation

A message is a hop deeper than the record it answers. The tracker remembers the
depth of the messages it has seen, in a bounded memory in front of the journal,
and refuses a send whose parent nobody knows or that goes too deep.

A look-up that fails still changes the memory, so the tracker comes back beside
the outcome of each call.
-/

namespace Triangle.LocalMessaging

open Triangle.Std

/-- The signed claims that a send reads. -/
structure TurnClaims where
  allowedRecipients : Option (List String)
  maxLoopDepth : Option Int
  parentMessageId : Option String
  loopDepth : Option Int
  bindingId : Option String

/-- A record that `getRecord` finds. -/
inductive StoredRecord
  | message (row : MessageRow)
  | reply (row : ReplyRow)

/-- `metadata` of a record. -/
def StoredRecord.metadata : StoredRecord → Option Metadata
  | .message row => row.metadataJson
  | .reply row => row.metadataJson

/-- `inReplyTo` of a record. -/
def StoredRecord.inReplyTo : StoredRecord → Option String
  | .message row => row.inReplyTo
  | .reply row => some row.inReplyTo

/-- `getRecord`: a message, or else a reply. -/
def Journal.getRecord (journal : Journal) (messageId : String) : Option StoredRecord :=
  match journal.messages.find? messageId with
  | some row => some (.message row)
  | none => (journal.replies.find? messageId).map .reply

/-- The depth of a record without metadata that has one. -/
def StoredRecord.depthByAncestry (record : StoredRecord) : Int :=
  if (record.inReplyTo.filter (· ≠ "")).isSome then 2 else 1

/-- `metadata?._loopDepth || metadata?.loopDepth || (inReplyTo ? 2 : 1)`. The host
stores depths from 1 on, so the client's own `loopDepth` is not reached; it is read
as an integer only. -/
def storedDepth (record : StoredRecord) : Int :=
  match record.metadata with
  | none => record.depthByAncestry
  | some metadata =>
      if metadata.loopDepth ≠ 0 then metadata.loopDepth
      else
        match Json.property metadata.others "loopDepth" with
        | .int depth => if depth ≠ 0 then depth else record.depthByAncestry
        | _ => record.depthByAncestry

/-- The depth that the journal knows of a record. -/
def Journal.depth? (journal : Journal) (messageId : String) : Option Int :=
  (journal.getRecord messageId).map storedDepth

/-- The parent that the claims name. -/
def claimedParent (claims : TurnClaims) : Option String :=
  claims.parentMessageId.filter (· ≠ "")

/-- The parent that the request names beside that of the claims. -/
def repliedParent (claims : TurnClaims) (inReplyTo : Option String) : Option String :=
  inReplyTo.filter fun parent => parent ≠ "" && some parent ≠ claims.parentMessageId

/-- The depth that the claims start from. -/
def claimedDepth (claims : TurnClaims) : Int :=
  (claims.loopDepth.filter (1 ≤ ·)).getD 1

/-- `effectiveLimit`. -/
def effectiveLimit (maxLoopDepth : Int) (claims : TurnClaims) : Int :=
  ((claims.maxLoopDepth.filter (· ≠ 0)).map (min maxLoopDepth)).getD maxLoopDepth

/-- `createConversationLoopTracker`: the depths by message id. -/
structure LoopTracker (maxTrackedMessages : Nat) where
  depthByMessageId : Lru String Int maxTrackedMessages

namespace LoopTracker

variable {maxTrackedMessages : Nat} (journal : Journal) (tracker : LoopTracker maxTrackedMessages)

/-- The tracker of a process that starts. -/
def fresh : LoopTracker maxTrackedMessages where
  depthByMessageId := .empty

/-- `resolveParentDepth`. -/
def resolveParentDepth (parentMessageId : String) : Option Int × LoopTracker maxTrackedMessages :=
  if parentMessageId = "" then (none, tracker)
  else
    match tracker.depthByMessageId.get parentMessageId with
    | (some remembered, refreshed) => (some remembered, ⟨refreshed⟩)
    | (none, _) =>
        match journal.depth? parentMessageId with
        | none => (none, tracker)
        | some depth => (some depth, ⟨tracker.depthByMessageId.set parentMessageId depth⟩)

/-- The depth below a parent, which has to be known. -/
def honorParent (parent : Option String) (effectiveDepth : Int) :
    Outcome Int × LoopTracker maxTrackedMessages :=
  match parent with
  | none => (.ok effectiveDepth, tracker)
  | some parent =>
      match tracker.resolveParentDepth journal parent with
      | (none, tracker) =>
          (.error ⟨.parentNotFound,
            "Parent message " ++ parent ++ " not found in causal ancestry"⟩, tracker)
      | (some parentDepth, tracker) => (.ok (max effectiveDepth (parentDepth + 1)), tracker)

/-- `calculateDepth`. -/
def calculateDepth (maxLoopDepth : Int) (claims : TurnClaims) (inReplyTo : Option String) :
    Outcome Int × LoopTracker maxTrackedMessages :=
  match tracker.honorParent journal (claimedParent claims) (claimedDepth claims) with
  | (.error problem, tracker) => (.error problem, tracker)
  | (.ok depth, tracker) =>
      match tracker.honorParent journal (repliedParent claims inReplyTo) depth with
      | (.error problem, tracker) => (.error problem, tracker)
      | (.ok depth, tracker) =>
          let limit := effectiveLimit maxLoopDepth claims
          if limit < depth then
            (.error ⟨.loopLimitExceeded, "Conversation loop depth of " ++ toString depth ++
              " exceeds maximum limit of " ++ toString limit⟩, tracker)
          else (.ok depth, tracker)

/-- `commitAdmission`. -/
def commitAdmission (messageId : String) (depth : Int) (isDuplicate : Bool) :
    LoopTracker maxTrackedMessages :=
  if isDuplicate || messageId = "" then tracker
  else ⟨tracker.depthByMessageId.set messageId depth⟩

/-- The depth that the tracker answers for a parent. -/
def answer (parent : String) : Option Int :=
  (tracker.depthByMessageId.held parent).orElse fun _ => journal.depth? parent

/-- The tracker once a parent has been looked up. -/
def lookedUp (parent : Option String) : LoopTracker maxTrackedMessages :=
  match parent with
  | none => tracker
  | some parent => (tracker.resolveParentDepth journal parent).2

/-- The depth below a parent that the tracker knows. -/
def depthBelow (parent : Option String) (effectiveDepth : Int) : Int :=
  match parent.bind (tracker.answer journal) with
  | none => effectiveDepth
  | some parentDepth => max effectiveDepth (parentDepth + 1)

/-- The depth of a send below its known parents. -/
def namedDepth (claims : TurnClaims) (inReplyTo : Option String) : Int :=
  (tracker.lookedUp journal (claimedParent claims)).depthBelow journal
    (repliedParent claims inReplyTo)
    (tracker.depthBelow journal (claimedParent claims) (claimedDepth claims))

/-- A parent of the send is unknown when it is looked up. -/
def UnknownParent (claims : TurnClaims) (inReplyTo : Option String) : Prop :=
  (∃ parent ∈ claimedParent claims, tracker.answer journal parent = none) ∨
    ∃ parent ∈ repliedParent claims inReplyTo,
      (tracker.lookedUp journal (claimedParent claims)).answer journal parent = none

/-- `after` is `before` but for what the journal says and what a full memory forgot. -/
structure SameMemory (journal : Journal) (before after : LoopTracker maxTrackedMessages) :
    Prop where
  remembered : ∀ parent depth, after.depthByMessageId.held parent = some depth →
    before.depthByMessageId.held parent = some depth ∨ journal.depth? parent = some depth
  forgotten : ∀ parent depth, before.depthByMessageId.held parent = some depth →
    after.depthByMessageId.held parent = some depth ∨ after.depthByMessageId.isFull
  full : before.depthByMessageId.isFull → after.depthByMessageId.isFull

variable {journal tracker} {before middle after : LoopTracker maxTrackedMessages}

namespace SameMemory

theorem refl : SameMemory journal tracker tracker where
  remembered _ _ isHeld := Or.inl isHeld
  forgotten _ _ isHeld := Or.inl isHeld
  full isFull := isFull

theorem trans (first : SameMemory journal before middle)
    (second : SameMemory journal middle after) : SameMemory journal before after where
  remembered parent depth isHeld := by
    rcases second.remembered parent depth isHeld with wasHeld | isStored
    · exact first.remembered parent depth wasHeld
    · exact Or.inr isStored
  forgotten parent depth isHeld := by
    rcases first.forgotten parent depth isHeld with stillHeld | isFull
    · exact second.forgotten parent depth stillHeld
    · exact Or.inr (second.full isFull)
  full isFull := second.full (first.full isFull)

end SameMemory

/-- The depth that is resolved is the answer. -/
theorem resolveParentDepth_fst {parent : String} (isNamed : parent ≠ "") :
    (tracker.resolveParentDepth journal parent).1 = tracker.answer journal parent := by
  unfold resolveParentDepth answer
  rw [if_neg isNamed, ← Lru.get_fst]
  cases tracker.depthByMessageId.get parent with
  | mk remembered refreshed =>
      cases remembered with
      | some depth => rfl
      | none =>
          cases isStored : journal.depth? parent with
          | none | some => rfl

/-- Resolving a parent leaves the memory. -/
theorem resolveParentDepth_snd (parent : String) :
    SameMemory journal tracker (tracker.resolveParentDepth journal parent).2 := by
  unfold resolveParentDepth
  split
  · exact .refl
  · have isHeld : (tracker.depthByMessageId.get parent).1 = _ := Lru.get_fst
    have sameHeld : ∀ other, (tracker.depthByMessageId.get parent).2.held other = _ :=
      fun other => Lru.held_get
    have stillFull := @Lru.full_get _ _ _ parent _ tracker.depthByMessageId
    cases isRead : tracker.depthByMessageId.get parent with
    | mk remembered refreshed =>
        rw [isRead] at isHeld sameHeld stillFull
        cases remembered with
        | some depth =>
            exact
              { remembered := fun other depth isKept => Or.inl ((sameHeld other).symm.trans isKept)
                forgotten := fun other depth wasHeld => Or.inl ((sameHeld other).trans wasHeld)
                full := stillFull }
        | none =>
            dsimp only
            cases isStored : journal.depth? parent with
            | none => exact .refl
            | some depth =>
                refine ⟨fun other otherDepth isKept => ?_, fun other otherDepth wasHeld => ?_,
                  Lru.full_set⟩
                · rcases Lru.held_set isKept with ⟨isParent, isDepth⟩ | ⟨-, wasHeld⟩
                  · rw [isParent, isDepth]
                    exact Or.inr isStored
                  · exact Or.inl wasHeld
                · refine Lru.held_or_full_set wasHeld fun isParent => ?_
                  rw [isParent, ← isHeld] at wasHeld
                  cases wasHeld

/-- Looking a parent up leaves the memory. -/
theorem lookedUp_same (parent : Option String) :
    SameMemory journal tracker (tracker.lookedUp journal parent) := by
  cases parent with
  | none => exact .refl
  | some parent => exact resolveParentDepth_snd parent

/-- What becomes of a depth below a parent. -/
theorem honorParent_eq {parent : Option String} (isNamed : ∀ named ∈ parent, named ≠ "")
    (depth : Int) :
    (∃ problem, (∃ named ∈ parent, tracker.answer journal named = none) ∧
      tracker.honorParent journal parent depth =
        (.error problem, tracker.lookedUp journal parent)) ∨
    ((∀ named ∈ parent, tracker.answer journal named ≠ none) ∧
      tracker.honorParent journal parent depth =
        (.ok (tracker.depthBelow journal parent depth), tracker.lookedUp journal parent)) := by
  cases parent with
  | none =>
      refine Or.inr ⟨fun named isParent => ?_, rfl⟩
      cases isParent
  | some parent =>
      have resolved := @resolveParentDepth_fst _ journal tracker parent (isNamed parent rfl)
      unfold honorParent lookedUp depthBelow
      rw [Option.bind_some]
      dsimp only
      cases looked : tracker.resolveParentDepth journal parent with
      | mk parentDepth tracker =>
          rw [looked] at resolved
          rw [← resolved]
          cases parentDepth with
          | none => exact Or.inl ⟨_, ⟨parent, rfl, resolved.symm⟩, rfl⟩
          | some parentDepth =>
              refine Or.inr ⟨fun named isParent isUnknown => ?_, rfl⟩
              cases isParent
              rw [isUnknown] at resolved
              cases resolved

variable {claims : TurnClaims} {parent : String} {inReplyTo : Option String}

theorem claimedParent_named (isParent : parent ∈ claimedParent claims) : parent ≠ "" :=
  of_decide_eq_true (Option.mem_filter_iff.mp isParent).2

theorem repliedParent_named (isParent : parent ∈ repliedParent claims inReplyTo) : parent ≠ "" := by
  have named := (Option.mem_filter_iff.mp isParent).2
  rw [Bool.and_eq_true] at named
  exact of_decide_eq_true named.1

/-- What `calculateDepth` leaves of the memory. -/
theorem calculateDepth_same {maxLoopDepth : Int} :
    SameMemory journal tracker
      (tracker.calculateDepth journal maxLoopDepth claims inReplyTo).2 := by
  have first := @lookedUp_same _ journal tracker (claimedParent claims)
  unfold calculateDepth
  rcases honorParent_eq (fun _ => claimedParent_named) (claimedDepth claims) with
    ⟨problem, -, refused⟩ | ⟨-, honored⟩
  · rw [refused]
    exact first
  · rw [honored]
    dsimp only
    rcases honorParent_eq (fun _ => repliedParent_named) _ with
      ⟨problem, -, refused⟩ | ⟨-, honored⟩
    · rw [refused]
      exact first.trans (lookedUp_same _)
    · rw [honored]
      dsimp only
      split
      · exact first.trans (lookedUp_same _)
      · exact first.trans (lookedUp_same _)

/-- `calculateDepth` returns the named depth, unless a parent is unknown or the depth
goes beyond the limit. -/
theorem calculateDepth_fst {maxLoopDepth : Int} {claims : TurnClaims}
    {inReplyTo : Option String} :
    (∃ problem, (tracker.UnknownParent journal claims inReplyTo ∨
        effectiveLimit maxLoopDepth claims < tracker.namedDepth journal claims inReplyTo) ∧
      (tracker.calculateDepth journal maxLoopDepth claims inReplyTo).1 = .error problem) ∨
    (¬ tracker.UnknownParent journal claims inReplyTo ∧
      tracker.namedDepth journal claims inReplyTo ≤ effectiveLimit maxLoopDepth claims ∧
      (tracker.calculateDepth journal maxLoopDepth claims inReplyTo).1 =
        .ok (tracker.namedDepth journal claims inReplyTo)) := by
  unfold calculateDepth
  rcases honorParent_eq (fun _ => claimedParent_named) (claimedDepth claims) with
    ⟨problem, isUnknown, refused⟩ | ⟨firstKnown, honored⟩
  · rw [refused]
    exact Or.inl ⟨problem, Or.inl (Or.inl isUnknown), rfl⟩
  · rw [honored]
    dsimp only
    rcases honorParent_eq (fun _ => repliedParent_named) _ with
      ⟨problem, isUnknown, refused⟩ | ⟨secondKnown, honored⟩
    · rw [refused]
      exact Or.inl ⟨problem, Or.inl (Or.inr isUnknown), rfl⟩
    · rw [honored]
      dsimp only
      split
      next tooDeep => exact Or.inl ⟨_, Or.inr tooDeep, rfl⟩
      next fits =>
        refine Or.inr ⟨?_, Int.not_lt.mp fits, rfl⟩
        rintro (⟨parent, isParent, isUnknown⟩ | ⟨parent, isParent, isUnknown⟩)
        · exact firstKnown parent isParent isUnknown
        · exact secondKnown parent isParent isUnknown

/-- The memory says what the journal says. -/
def Matches (journal : Journal) (tracker : LoopTracker maxTrackedMessages) : Prop :=
  ∀ parent depth stored, tracker.depthByMessageId.held parent = some depth →
    journal.depth? parent = some stored → depth = stored

theorem SameMemory.matches (same : SameMemory journal before after)
    (agrees : before.Matches journal) : after.Matches journal := by
  intro parent depth stored isHeld isStored
  rcases same.remembered parent depth isHeld with wasHeld | wasStored
  · exact agrees parent depth stored wasHeld isStored
  · rw [wasStored] at isStored
    exact Option.some.inj isStored

end LoopTracker

end Triangle.LocalMessaging
