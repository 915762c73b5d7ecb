import Mathlib.Data.Sym.Sym2
import Triangle.LocalMessaging.SendTransaction
import Triangle.LocalMessaging.SentRows
import Triangle.Std.SlidingWindow

/-!
# The exchange limit

A send is admitted while its pair has had fewer than `maxPairRequests` messages
within `pairWindowMs`. The rows of `local_pair_admissions` are the evidence of a
sliding window: a send that is admitted adds one, compaction drops some, and no
other step of the host touches them (`hostStep_evidence`).
-/

namespace Triangle.LocalMessaging

open Triangle.Std Triangle.Semantics

/-- A message that a send newly admitted. -/
structure Admitted where
  sender : String
  recipient : String
  messageId : String
  createdAt : Int

/-- The unordered pair of addresses. -/
def Admitted.pair (admitted : Admitted) : Sym2 String :=
  s(admitted.sender, admitted.recipient)

/-- The evidence of the admission. -/
def Admitted.row (admitted : Admitted) : PairAdmission where
  pairKey := pairKeyFor admitted.sender admitted.recipient
  messageId := admitted.messageId
  createdAt := admitted.createdAt

section

variable (runtime : JournalRuntime)

/-- The message that a step admits: one that a served send inserted. -/
def admitted? (host : Host) : HostLabel → Option Admitted
  | .sendMessage answers envelope options =>
      match host.mode, recordSend runtime answers envelope options host.journal with
      | .serving, .ok (_, row, false) =>
          some
            { sender := row.sender
              recipient := row.recipient
              messageId := row.messageId
              createdAt := row.createdAt }
      | _, _ => none
  | _ => none

/-- The messages admitted along a run. -/
def admittedFrom : Host → List HostLabel → List Admitted
  | _, [] => []
  | host, label :: rest =>
      (admitted? runtime host label).toList ++ admittedFrom (hostStep runtime host label) rest

/-- The time that a send or a compaction reads. -/
def HostLabel.sendClock? : HostLabel → Option Int
  | .sendMessage _ _ options => some options.now
  | .compact now _ => some now
  | _ => none

/-- The sends follow one clock: none reads an earlier time than a send or a
compaction before it. -/
def SendsInOrder (labels : List HostLabel) : Prop :=
  labels.Pairwise fun earlier later => ∀ answers envelope options,
    later = .sendMessage answers envelope options → ∀ time ∈ earlier.sendClock?, time ≤ options.now

/-- What a step does to the evidence. -/
def evidenceEvent? (host : Host) (label : HostLabel) : Option (EvidenceEvent PairAdmission) :=
  match label, host.mode with
  | .compact now retentionMs, .serving =>
      some (.drop now (min (now - retentionMs) (now - runtime.pairWindowMs)))
  | _, _ => (admitted? runtime host label).map fun admitted => .admission admitted.row

/-- What a run does to the evidence. -/
def evidenceEvents : Host → List HostLabel → List (EvidenceEvent PairAdmission)
  | _, [] => []
  | host, label :: rest =>
      (evidenceEvent? runtime host label).toList ++
        evidenceEvents (hostStep runtime host label) rest

end

/-- The order of the two addresses does not matter. -/
theorem pairKeyFor_comm (first second : String) :
    pairKeyFor first second = pairKeyFor second first := by
  unfold pairKeyFor
  rcases lt_trichotomy (Json.codeUnits first) (Json.codeUnits second) with less | same | greater
  · rw [if_pos less, if_neg (lt_asymm less)]
  · rw [Json.codeUnits_injective same]
  · rw [if_neg (lt_asymm greater), if_pos greater]

/-- The key of an unordered pair. -/
def pairKeyOf : Sym2 String → String :=
  Sym2.lift ⟨pairKeyFor, pairKeyFor_comm⟩

section

variable {runtime : JournalRuntime} {answers : RouteAnswers} {envelope : Envelope}
  {options : SendOptions} {journal after : Journal} {row : MessageRow}

/-- The evidence that a send leaves. -/
def evidenceOf (envelope : Envelope) (options : SendOptions) : PairAdmission where
  pairKey := pairKeyFor envelope.sender envelope.recipient
  messageId := envelope.messageId
  createdAt := options.now

/-- What an admitting send found and what it writes. -/
structure Admits (runtime : JournalRuntime) (envelope : Envelope) (options : SendOptions)
    (journal after : Journal) (row : MessageRow) : Prop where
  isNew : journal.messages.find? envelope.messageId = none
  noEvidence : journal.pairAdmissions.find? envelope.messageId = none
  belowLimit : (newerThan PairAdmission.createdAt PairAdmission.pairKey journal.pairAdmissions
    (pairKeyFor envelope.sender envelope.recipient) (options.now - runtime.pairWindowMs)).length <
      runtime.maxPairRequests
  inserted : row = { queuedRow runtime envelope options with
    replyRouteKey := row.replyRouteKey
    senderProvenanceJson := row.senderProvenanceJson }
  stored : after = { journal with
    messages := journal.messages.upsert row
    pairAdmissions := journal.pairAdmissions.upsert (evidenceOf envelope options) }

/-- A send that returns has found its message or admits it. -/
theorem recordSend_ok {isDuplicate : Bool}
    (succeeded : recordSend runtime answers envelope options journal =
      .ok (after, row, isDuplicate)) :
    if isDuplicate then after = journal ∧ journal.messages.find? envelope.messageId = some row
    else Admits runtime envelope options journal after row := by
  simp only [recordSend, require_bind_ok] at succeeded
  obtain ⟨-, -, rest⟩ := succeeded
  split at rest
  next existing found =>
    simp only [require_bind_ok] at rest
    obtain ⟨rfl, sameRow⟩ := pair_ok rest.2
    obtain ⟨rfl, rfl⟩ := Prod.mk.inj sameRow
    exact ⟨rfl, found⟩
  next isNew =>
    simp only [require_bind_ok, bind_ok (pinReply _ _ _)] at rest
    obtain ⟨belowLimit, pinned, isPinned, noEvidence, -, rest⟩ := rest
    obtain ⟨rfl, sameRow⟩ := pair_ok rest
    obtain ⟨rfl, rfl⟩ := Prod.mk.inj sameRow
    exact
      { isNew := isNew
        noEvidence := Option.isNone_iff_eq_none.mp noEvidence
        belowLimit := belowLimit
        inserted := pinReply_columns isPinned
        stored := rfl }

variable {host : Host} {label : HostLabel} {labels : List HostLabel}

/-- Only a send admits, and its evidence is of its own envelope and time. -/
theorem admitted?_some {admitted : Admitted}
    (isAdmitted : admitted? runtime host label = some admitted) :
    ∃ answers envelope options, label = .sendMessage answers envelope options ∧
      admitted.row = evidenceOf envelope options := by
  cases label with
  | sendMessage answers envelope options =>
      refine ⟨answers, envelope, options, rfl, ?_⟩
      simp only [admitted?] at isAdmitted
      split at isAdmitted
      next after row _ result =>
        have spec := recordSend_ok result
        obtain rfl := Option.some.inj isAdmitted
        rw [spec.inserted]
        rfl
      · cases isAdmitted
  | _ => cases isAdmitted

/-- A step does to the evidence what its event says, and a limiter lets it happen. -/
theorem hostStep_evidence (runtime : JournalRuntime) (host : Host) (label : HostLabel) :
    (hostStep runtime host label).journal.pairAdmissions =
        (evidenceMachine PairAdmission.createdAt).runFrom host.journal.pairAdmissions
          (evidenceEvent? runtime host label).toList ∧
      (evidenceMachine PairAdmission.createdAt).Along
        (LetsHappen PairAdmission.createdAt PairAdmission.pairKey runtime.maxPairRequests
          runtime.pairWindowMs)
        host.journal.pairAdmissions (evidenceEvent? runtime host label).toList := by
  by_cases spares : label.sparesSends = true
  · have noEvent : evidenceEvent? runtime host label = none := by
      cases label with
      | sendMessage | compact => cases spares
      | _ => rfl
    rw [noEvent]
    exact ⟨(hostStep_keepsSends spares).admissions, trivial⟩
  · obtain ⟨mode, journal, jobs⟩ := host
    cases label with
    | sendMessage answers envelope options =>
        cases mode with
        | down | owner => exact ⟨rfl, trivial⟩
        | serving =>
            cases result : recordSend runtime answers envelope options journal with
            | error problem =>
                simp [evidenceEvent?, admitted?, hostStep, serveStep, Host.commit, result,
                  Machine.Along]
            | ok value =>
                obtain ⟨after, row, isDuplicate⟩ := value
                have spec := recordSend_ok result
                cases isDuplicate with
                | true =>
                    obtain ⟨rfl, -⟩ := spec
                    simp [evidenceEvent?, admitted?, hostStep, serveStep, Host.commit, result,
                      Machine.Along]
                | false =>
                    have isEvent : evidenceEvent? runtime
                        { mode := .serving, journal := journal, jobs := jobs }
                        (.sendMessage answers envelope options) =
                        some (.admission (evidenceOf envelope options)) := by
                      simp only [evidenceEvent?, admitted?, result, Option.map_some]
                      rw [spec.inserted]
                      rfl
                    rw [isEvent]
                    refine ⟨?_, ⟨spec.noEvidence, spec.belowLimit⟩, trivial⟩
                    simp only [hostStep, serveStep, Host.commit, result]
                    rw [spec.stored]
                    rfl
    | compact now retentionMs =>
        cases mode with
        | down | owner => exact ⟨rfl, trivial⟩
        | serving => exact ⟨rfl, min_le_right _ _, trivial⟩
    | _ => exact absurd rfl spares

/-- The evidence of a run, and the messages it admits. -/
theorem admittedRows_evidenceEvents (host : Host) (labels : List HostLabel) :
    admittedRows (evidenceEvents runtime host labels) =
      (admittedFrom runtime host labels).map Admitted.row := by
  induction labels generalizing host with
  | nil => rfl
  | cons label rest ih =>
      have ofStep : admittedRows (evidenceEvent? runtime host label).toList =
          (admitted? runtime host label).toList.map Admitted.row := by
        unfold evidenceEvent?
        split
        · rfl
        next label _ _ _ =>
          cases admitted? runtime host label with
          | none | some => rfl
      rw [evidenceEvents, admittedFrom, List.map_append, ← ofStep, ← ih,
        admittedRows, List.filterMap_append]
      rfl

/-- A limiter lets the events of a run happen. -/
theorem evidenceEvents_along (runtime : JournalRuntime) (host : Host) (labels : List HostLabel) :
    (evidenceMachine PairAdmission.createdAt).Along
      (LetsHappen PairAdmission.createdAt PairAdmission.pairKey runtime.maxPairRequests
        runtime.pairWindowMs)
      host.journal.pairAdmissions (evidenceEvents runtime host labels) := by
  induction labels generalizing host with
  | nil => trivial
  | cons label rest ih =>
      obtain ⟨evidence, allowed⟩ := hostStep_evidence runtime host label
      rw [evidenceEvents, Machine.along_append, ← evidence]
      exact ⟨allowed, ih (hostStep runtime host label)⟩

/-- An event of a step happens at the time that the step reads, and only a send
admits. -/
theorem evidenceEvent?_some {event : EvidenceEvent PairAdmission}
    (isEvent : evidenceEvent? runtime host label = some event) :
    label.sendClock? = some (event.time PairAdmission.createdAt) ∧
      ∀ row, event = .admission row → ∃ answers envelope options,
        label = .sendMessage answers envelope options := by
  unfold evidenceEvent? at isEvent
  split at isEvent
  · obtain rfl := Option.some.inj isEvent
    exact ⟨rfl, nofun⟩
  · obtain ⟨admitted, isAdmitted, rfl⟩ := Option.map_eq_some_iff.mp isEvent
    obtain ⟨answers, envelope, options, rfl, isEvidence⟩ := admitted?_some isAdmitted
    refine ⟨?_, fun row _ => ⟨answers, envelope, options, rfl⟩⟩
    rw [isEvidence]
    rfl

/-- Every admission in the evidence of a run is a send of the run. -/
theorem mem_evidenceEvents_admit {row : PairAdmission}
    (member : .admission row ∈ evidenceEvents runtime host labels) :
    ∃ answers envelope options, .sendMessage answers envelope options ∈ labels ∧
      options.now = row.createdAt := by
  induction labels generalizing host with
  | nil => cases member
  | cons label rest ih =>
      rw [evidenceEvents, List.mem_append, Option.mem_toList] at member
      rcases member with isEvent | later
      · obtain ⟨clock, isSend⟩ := evidenceEvent?_some isEvent
        obtain ⟨answers, envelope, options, rfl⟩ := isSend row rfl
        exact ⟨answers, envelope, options, List.mem_cons_self, Option.some.inj clock⟩
      · obtain ⟨answers, envelope, options, isLabel, time⟩ := ih later
        exact ⟨answers, envelope, options, List.mem_cons_of_mem _ isLabel, time⟩

/-- Sends in order make events in order. -/
theorem evidenceEvents_inOrder (inOrder : SendsInOrder labels) (host : Host) :
    InOrder PairAdmission.createdAt (evidenceEvents runtime host labels) := by
  induction labels generalizing host with
  | nil => exact List.Pairwise.nil
  | cons label rest ih =>
      obtain ⟨first, restInOrder⟩ := List.pairwise_cons.mp inOrder
      rw [evidenceEvents]
      refine List.pairwise_append.mpr
        ⟨?_, ih restInOrder (hostStep runtime host label), ?_⟩
      · cases evidenceEvent? runtime host label with
        | none => exact List.Pairwise.nil
        | some event => exact List.pairwise_singleton _ _
      · rintro event isEvent later laterMember row rfl
        obtain ⟨clock, -⟩ := evidenceEvent?_some (Option.mem_toList.mp isEvent)
        obtain ⟨answers, envelope, options, isLabel, time⟩ := mem_evidenceEvents_admit laterMember
        rw [← time]
        exact first _ isLabel answers envelope options rfl _ clock

/-- Along any run whose sends are in order, no window holds more newly admitted
messages of one pair than the limit. -/
theorem admittedFrom_inWindow_le (inOrder : SendsInOrder labels) (host : Host) (pair : Sym2 String)
    (last : Int) :
    ((admittedFrom runtime host labels).filter fun admitted =>
      admitted.pair = pair && inWindow runtime.pairWindowMs last admitted.createdAt).length ≤
        runtime.maxPairRequests := by
  have bounded := admitted_inWindow_le (evidenceEvents_along runtime host labels)
    (evidenceEvents_inOrder inOrder host) (pairKeyOf pair) last
  rw [admittedRows_evidenceEvents, List.filter_map, List.length_map] at bounded
  refine Nat.le_trans (List.monotone_filter_right _ ?_).length_le bounded
  intro admitted selected
  rw [Bool.and_eq_true, decide_eq_true_eq] at selected
  obtain ⟨rfl, inside⟩ := selected
  rw [Function.comp, Bool.and_eq_true, decide_eq_true_eq]
  exact ⟨rfl, inside⟩

end

/-- A send between two agents at a time. -/
private def sendAt (sender recipient messageId : String) (now : Int) : HostLabel :=
  .sendMessage
    { available := false
      attached := fun _ _ _ => false
      pinInTransaction := fun route => .ok route.key
      verifyInTransaction := .error ⟨.replyRouteMissing, ""⟩
      advanceInTransaction := .ok () }
    { sender := sender
      recipient := recipient
      messageId := messageId
      requestId := messageId
      inReplyTo := none
      text := ""
      metadata := none }
    { now := now }

/-- A journal that lets one exchange happen in ten milliseconds. -/
private def oneInTen : JournalRuntime where
  computeEnvelopeHash := Envelope.messageId
  sha256Hex := id
  hashVersion := VersionFields.messageId
  maxPairRequests := 1
  pairWindowMs := 10

/-- With one exchange in ten milliseconds, the answer at 5 ms is refused and the
one at 10 ms is admitted, although a compaction has run in between. -/
example : ((admittedFrom oneInTen (hostMachine oneInTen).initial
    [.openService 0, sendAt "a" "b" "m1" 0, sendAt "b" "a" "m2" 5, .compact 9 0,
      sendAt "b" "a" "m3" 10]).map Admitted.messageId) = ["m1", "m3"] := by decide

end Triangle.LocalMessaging
