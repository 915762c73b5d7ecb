import Triangle.LocalMessaging.Admission
import Triangle.LocalMessaging.LifeCycle

/-!
# Repeated and refused sends

A send that repeats a stored message is answered with its row and changes
nothing, whatever has become of the message since (`repeats_run`); a send that
throws has been rolled back. With the window of admissions this is what the
exchange limit promises (`exchanges_capped`).
-/

namespace Triangle.LocalMessaging

open Triangle.Std Triangle.Semantics

section

variable (runtime : JournalRuntime)

/-- A send repeats the message of a row. -/
def Repeats (envelope : Envelope) (options : SendOptions) (row : MessageRow) : Prop :=
  row.canonicalHash = runtime.computeEnvelopeHash envelope ∧
    row.recipientType = options.recipientType ∧
    isRouteIntentMatch row options.toPrincipal options.resolvedVia = true ∧
    row.replyRouteKey = options.replyRoute.map (·.key)

/-- A send passes the checks in front of the transaction. -/
def WellFormed (answers : RouteAnswers) (envelope : Envelope) (options : SendOptions) : Prop :=
  (envelope.sender ≠ "" ∧ envelope.recipient ≠ "" ∧ envelope.messageId ≠ "" ∧
      envelope.requestId ≠ "") ∧
    ∀ route ∈ options.replyRoute, answers.available = true ∧
      route.requestId = envelope.requestId ∧ route.localAddress = envelope.recipient ∧
      route.remoteAddress = envelope.sender ∧ options.recipientType = .interactive

/-- A principal is given exactly with a resolution by principal. -/
def SendOptions.Resolved (options : SendOptions) : Prop :=
  options.toPrincipal ≠ none ↔ options.resolvedVia = some .principal

/-- The options of two sends route alike; time, child and provenance may differ. -/
def SendOptions.RoutesAs (options other : SendOptions) : Prop :=
  options.recipientType = other.recipientType ∧ options.toPrincipal = other.toPrincipal ∧
    options.resolvedVia = other.resolvedVia ∧ options.replyRoute = other.replyRoute

end

section

variable {runtime : JournalRuntime} {answers : RouteAnswers} {envelope : Envelope}
  {options : SendOptions} {journal after : Journal} {row : MessageRow}

/-- A send that repeats a stored message returns its row. -/
theorem recordSend_repeated (wellFormed : WellFormed answers envelope options)
    (found : journal.messages.find? envelope.messageId = some row)
    (repeats : Repeats runtime envelope options row) :
    recordSend runtime answers envelope options journal = .ok (journal, row, true) := by
  simp only [recordSend, require_bind_ok, found]
  exact ⟨wellFormed.1, wellFormed.2, repeats, rfl⟩

/-- A pin that was stored is that of the send, and no send is without its pin. -/
theorem pinReply_key {inserted : MessageRow} (unpinned : inserted.replyRouteKey = none)
    (pinsKey : ∀ route key, answers.pinInTransaction route = .ok key → key = route.key)
    (succeeded : pinReply answers options inserted = .ok row) :
    row.replyRouteKey = options.replyRoute.map (·.key) := by
  unfold pinReply at succeeded
  split at succeeded
  next noRoute =>
    obtain rfl := Except.ok.inj succeeded
    rw [noRoute, unpinned]
    rfl
  next route isRoute =>
    simp only [require_bind_ok, bind_ok (RouteAnswers.pinInTransaction _ _)] at succeeded
    obtain ⟨-, -, -, key, pinned, rest⟩ := succeeded
    obtain rfl := Except.ok.inj rest
    rw [isRoute, Option.map_some, pinsKey route key pinned]

/-- The row of an admitted send carries the key of its route. -/
theorem recordSend_key
    (pinsKey : ∀ route key, answers.pinInTransaction route = .ok key → key = route.key)
    (admitted : recordSend runtime answers envelope options journal = .ok (after, row, false)) :
    row.replyRouteKey = options.replyRoute.map (·.key) := by
  simp only [recordSend, require_bind_ok] at admitted
  obtain ⟨-, -, rest⟩ := admitted
  split at rest
  · simp only [require_bind_ok] at rest
    cases (Prod.mk.inj (pair_ok rest.2).2).2
  · simp only [require_bind_ok, bind_ok (pinReply _ _ _)] at rest
    obtain ⟨-, pinned, isPinned, -, -, rest⟩ := rest
    obtain ⟨-, sameRow⟩ := pair_ok rest
    obtain ⟨rfl, -⟩ := Prod.mk.inj sameRow
    exact pinReply_key rfl pinsKey isPinned

/-- A resolved intent matches itself. -/
theorem isRouteIntentMatch_self (resolved : options.Resolved)
    (principal : row.toPrincipal = options.toPrincipal)
    (via : row.resolvedVia = options.resolvedVia) :
    isRouteIntentMatch row options.toPrincipal options.resolvedVia = true := by
  unfold isRouteIntentMatch
  rw [principal, via, if_neg (fun differs => differs rfl)]
  by_cases given : options.toPrincipal ≠ none
  · rw [if_pos given, resolved.mp given]
    rfl
  · have notPrincipal : options.resolvedVia ≠ some .principal := fun is => given (resolved.mpr is)
    rw [if_neg given, if_neg (by simpa using notPrincipal)]
    simp

variable {resent : SendOptions} {host : Host} {messageId : String} {labels : List HostLabel}

/-- A send repeats the message that it has admitted itself. -/
theorem repeats_admitted (resolved : options.Resolved)
    (pinsKey : ∀ route key, answers.pinInTransaction route = .ok key → key = route.key)
    (admitted : recordSend runtime answers envelope options journal = .ok (after, row, false))
    (same : resent.RoutesAs options) : Repeats runtime envelope resent row := by
  have spec : Admits runtime envelope options journal after row := recordSend_ok admitted
  obtain ⟨sameType, samePrincipal, sameVia, sameRoute⟩ := same
  refine ⟨by rw [spec.inserted]; rfl, by rw [spec.inserted, sameType]; rfl, ?_, ?_⟩
  · rw [samePrincipal, sameVia]
    exact isRouteIntentMatch_self resolved (by rw [spec.inserted]; rfl)
      (by rw [spec.inserted]; rfl)
  · rw [sameRoute]
    exact recordSend_key pinsKey admitted

/-- A step that leaves a message stored leaves what its send wrote. -/
theorem hostStep_sent? {label : HostLabel} (stored : (host.journal.messages.find? messageId).isSome)
    (isLeft : ((hostStep runtime host label).journal.messages.find? messageId).isSome) :
    (hostStep runtime host label).journal.sent? messageId = host.journal.sent? messageId := by
  by_cases spares : label.sparesSends = true
  · exact (hostStep_keepsSends spares).sent messageId
  · obtain ⟨mode, journal, jobs⟩ := host
    cases label with
    | sendMessage answers envelope options =>
        cases mode with
        | down | owner => rfl
        | serving =>
            simp only [hostStep, serveStep, Host.commit] at isLeft ⊢
            split
            next after value result =>
              obtain ⟨row, isDuplicate⟩ := value
              have spec := recordSend_ok result
              cases isDuplicate with
              | true =>
                  obtain ⟨rfl, -⟩ := spec
                  rfl
              | false =>
                  have isNew := spec.isNew
                  have rowId : row.messageId = envelope.messageId := by
                    rw [spec.inserted]
                    rfl
                  have otherId : messageId ≠ row.messageId := by
                    rintro rfl
                    rw [rowId] at stored
                    simp [isNew] at stored
                  unfold Journal.sent?
                  rw [spec.stored, Table.find?_upsert, if_neg otherId]
            · rfl
    | compact now retentionMs =>
        cases mode with
        | down | owner => rfl
        | serving =>
            simp only [hostStep, serveStep, compact] at isLeft ⊢
            unfold Journal.sent?
            rw [Table.find?_delete] at isLeft ⊢
            obtain ⟨row, isRow⟩ := Option.isSome_iff_exists.mp isLeft
            rw [isRow, (Option.filter_eq_some_iff.mp isRow).1]
    | _ => exact absurd rfl spares

/-- While a message is stored, its row reads as its send wrote it. -/
theorem runFrom_sent? (stored : ∀ earlier, earlier <+: labels →
      (((hostMachine runtime).runFrom host earlier).journal.messages.find? messageId).isSome) :
    ((hostMachine runtime).runFrom host labels).journal.sent? messageId =
      host.journal.sent? messageId := by
  induction labels using List.reverseRecOn with
  | nil => rfl
  | append_singleton earlier label ih =>
      have before := ih fun first isFirst =>
        stored first (isFirst.trans (List.prefix_append earlier [label]))
      have isLeft := stored (earlier ++ [label]) (List.prefix_refl _)
      rw [Machine.runFrom_append, Machine.runFrom_cons, Machine.runFrom_nil] at isLeft ⊢
      rw [← before]
      exact hostStep_sent? (stored earlier (List.prefix_append earlier [label])) isLeft

/-- A duplicate is not an admission. -/
theorem admitted?_duplicate
    (isDuplicate : recordSend runtime answers envelope options host.journal =
      .ok (after, row, true)) :
    admitted? runtime host (.sendMessage answers envelope options) = none := by
  simp only [admitted?]
  rw [isDuplicate]
  cases host.mode <;> rfl

/-- The same send again, while its message is stored, is a duplicate. -/
theorem repeats_run {again : RouteAnswers} (serving : host.mode = .serving)
    (resolved : options.Resolved)
    (pinsKey : ∀ route key, answers.pinInTransaction route = .ok key → key = route.key)
    (admitted : recordSend runtime answers envelope options host.journal =
      .ok (after, row, false))
    (stored : ∀ earlier, earlier <+: labels → (((hostMachine runtime).runFrom host
      (.sendMessage answers envelope options :: earlier)).journal.messages.find?
        envelope.messageId).isSome) (same : resent.RoutesAs options)
    (wellFormed : WellFormed again envelope resent) :
    ∃ found, found.asSent = row ∧
      recordSend runtime again envelope resent ((hostMachine runtime).runFrom host
          (.sendMessage answers envelope options :: labels)).journal =
        .ok (((hostMachine runtime).runFrom host
          (.sendMessage answers envelope options :: labels)).journal, found, true) := by
  have spec : Admits runtime envelope options host.journal after row := recordSend_ok admitted
  have sent : (hostStep runtime host (.sendMessage answers envelope options)).journal.sent?
      envelope.messageId = some row := by
    have isAfter : (hostStep runtime host (.sendMessage answers envelope options)).journal =
        after := by
      have goesOn : HostLabel.sendMessage answers envelope options ≠ .stop := nofun
      rw [hostStep_serving serving goesOn, serveStep, admitted]
      rfl
    have rowId : envelope.messageId = row.messageId := by
      rw [spec.inserted]
      rfl
    rw [isAfter, spec.stored, Journal.sent?, Table.find?_upsert, if_pos rowId, Option.map_some,
      spec.inserted]
    rfl
  have kept := runFrom_sent? stored
  change _ = (hostStep runtime host _).journal.sent? _ at kept
  rw [sent] at kept
  obtain ⟨found, isFound, asSent⟩ := Option.map_eq_some_iff.mp kept
  have repeats : Repeats runtime envelope resent row := repeats_admitted resolved pinsKey admitted same
  rw [← asSent] at repeats
  exact ⟨found, asSent, recordSend_repeated wellFormed isFound repeats⟩

/-- The exchange limit. Along every run whose sends follow one clock, no window
holds more newly admitted messages of one pair than the limit; a send repeated
while its message is stored is a duplicate that admits nothing; a send that
throws leaves the database as it was, and what the statements of a send come to
is the `recordSend` of the run. -/
theorem exchanges_capped (runtime : JournalRuntime) :
    (∀ host labels, SendsInOrder labels → ∀ pair last,
      ((admittedFrom runtime host labels).filter fun admitted =>
        admitted.pair = pair && inWindow runtime.pairWindowMs last admitted.createdAt).length ≤
          runtime.maxPairRequests) ∧
    (∀ host labels answers again envelope options resent after row,
      host.mode = .serving → options.Resolved →
      (∀ route key, answers.pinInTransaction route = .ok key → key = route.key) →
      recordSend runtime answers envelope options host.journal = .ok (after, row, false) →
      (∀ earlier, earlier <+: labels → (((hostMachine runtime).runFrom host
        (.sendMessage answers envelope options :: earlier)).journal.messages.find?
          envelope.messageId).isSome) →
      resent.RoutesAs options → WellFormed again envelope resent →
      let final := (hostMachine runtime).runFrom host
        (.sendMessage answers envelope options :: labels)
      (∃ found, found.asSent = row ∧
        recordSend runtime again envelope resent final.journal =
          .ok (final.journal, found, true)) ∧
        admitted? runtime final (.sendMessage again envelope resent) = none) ∧
    ∀ (Routes : Type) (store : RouteStore Routes) envelope options,
      (sendTransaction runtime store envelope options).AllOrNothing ∧
      ∀ journal replyRoutes,
        (sendTransaction runtime store envelope options).outcome
            { journal := journal, replyRoutes := replyRoutes } =
          (recordSend runtime (store.answers replyRoutes) envelope options journal).map
            fun (after, row, isDuplicate) =>
              ({ journal := after
                 replyRoutes :=
                   if isDuplicate then replyRoutes else store.pinned options replyRoutes },
                some row, isDuplicate) := by
  refine ⟨fun host labels inOrder pair last => admittedFrom_inWindow_le inOrder host pair last,
    ?_, fun Routes store envelope options =>
      ⟨sendTransaction_allOrNothing, outcome_sendTransaction⟩⟩
  intro host labels answers again envelope options resent after row serving resolved pinsKey
    admitted stored same wellFormed final
  obtain ⟨found, asSent, isDuplicate⟩ :=
    repeats_run serving resolved pinsKey admitted stored same wellFormed
  exact ⟨⟨found, asSent, isDuplicate⟩, admitted?_duplicate isDuplicate⟩

end

end Triangle.LocalMessaging
