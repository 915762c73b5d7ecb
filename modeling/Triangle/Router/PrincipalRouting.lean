import Triangle.Router.UnifiedRouter

/-!
# Routing by principal

With the snapshot of a registry that updates lead to, an `agent_` address resolves to
the recipient that its principal's unrevoked binding names, if that is in the
directory, and an explanation offers the principal of an instance exactly where a send
to it would arrive there.
-/

namespace Triangle.Router

open Triangle.Std Triangle.Identity

variable {platform : Platform} {state : RegistryState}

/-- An enabled router that reads a snapshot and a directory for a send. -/
structure SendsBy (router : UnifiedRouter) (options : SendOptions) (snapshot : RegistrySnapshot)
    (directory : List Recipient) : Prop where
  enabled : router.enabled = true
  snapshot : router.readSnapshot options.snapshot = .ok (some snapshot)
  recipients : router.recipientsFor options = directory
  isDirectory : IsDirectory directory

/-- An enabled router that reads a snapshot and a directory for its explanations. -/
structure ExplainsBy (router : UnifiedRouter) (options : DescribeOptions)
    (snapshot : RegistrySnapshot) (directory : List Recipient) : Prop where
  enabled : router.enabled = true
  snapshot : router.readSnapshot options.snapshot = .ok (some snapshot)
  recipients : router.recipients = directory

/-- The send goes to the recipient of an id. -/
def SendOutcome.ResolvesTo (outcome : SendOutcome) (id : String) : Prop :=
  ∃ result, outcome = .routed result ∧ result.resolvedTo = id

/-- The send fails with a code. -/
def SendOutcome.FailsWith (outcome : SendOutcome) (code : String) : Prop :=
  ∃ error, (outcome = .refused error ∨ outcome = .thrown error) ∧ error.code = code

/-! ## The outcome of a send -/

variable {options : SendOptions} {router : UnifiedRouter} {directory : List Recipient}
  {sendTo : String}

variable {error : ResolutionError} {id : String} {snapshot : RegistrySnapshot}
  {outcome : SendOutcome} {first second : List Recipient}

theorem not_resolvesTo_refuse : ¬ (refuse options error).ResolvesTo id := by
  rintro ⟨result, isRouted, -⟩
  unfold refuse at isRouted
  split at isRouted
  · cases isRouted
  · cases isRouted

theorem failsWith_refuse {code : String} :
    (refuse options error).FailsWith code ↔ error.code = code := by
  unfold refuse
  constructor
  · rintro ⟨other, isError, rfl⟩
    split at isError
    · obtain isError | isError := isError
      · cases isError
      · rw [SendOutcome.thrown.inj isError]
    · obtain isError | isError := isError
      · rw [SendOutcome.refused.inj isError]
      · cases isError
  · intro isCode
    split
    · exact ⟨error, Or.inr rfl, isCode⟩
    · exact ⟨error, Or.inl rfl, isCode⟩

/-- A send to an `agent_` address ends as the resolver's answer says. -/
theorem SendsBy.resolveSend_eq (sends : SendsBy router options snapshot directory)
    (senderId : Option String) (isAgent : isAgentId sendTo = true) :
    resolveSend router senderId sendTo options =
      sendOutcome router options senderId sendTo
        (resolveRecipient sendTo directory (some snapshot)) := by
  unfold resolveSend
  rw [sends.enabled, isAgent, isPeerId_of_isAgentId isAgent, sends.snapshot, sends.recipients]
  rfl

/-- How a send to a principal ends. -/
inductive PrincipalSend (state : RegistryState) (sendTo : String) (options : SendOptions)
    (directory : List Recipient) : SendOutcome → Prop
  | unbound (reason : String) (notBound : ∀ id, ¬ BoundTo state.bindings id sendTo) :
      PrincipalSend state sendTo options directory
        (refuse options ⟨"recipient_not_found", reason, []⟩)
  | elsewhere (notLocal : ∀ recipient ∈ directory, ¬ BoundTo state.bindings recipient.id sendTo) :
      PrincipalSend state sendTo options directory
        (refuse options ⟨"route_unavailable", "not_a_local_recipient", []⟩)
  | arrives (recipient : Recipient) (member : recipient ∈ directory)
      (bound : ∀ id, BoundTo state.bindings id sendTo ↔ recipient.id = id) (result : RoutedSend)
      (isRecipient : result.resolvedTo = recipient.id) :
      PrincipalSend state sendTo options directory (.routed result)

theorem principalSend (one : OneBindingEach state.bindings)
    (sends : SendsBy router options (snapshotOf state) directory) (senderId : Option String)
    (isAgent : isAgentId sendTo = true) :
    PrincipalSend state sendTo options directory
      (resolveSend router senderId sendTo options) := by
  rw [sends.resolveSend_eq senderId isAgent]
  obtain ⟨noBinding, notBound⟩ | ⟨binding, oneBinding, isPrincipal, isLive, bound⟩ :=
    bindingsFor_eq one sendTo
  · obtain ⟨reason, answers⟩ := resolveRecipient_unbound isAgent noBinding
    rw [answers directory sends.isDirectory]
    exact .unbound reason notBound
  · rw [resolveRecipient_bound sends.isDirectory isAgent oneBinding isPrincipal isLive]
    unfold localAnswer
    split
    next notFound =>
      refine .elsewhere fun recipient member isBound => ?_
      have isInstance := (bound recipient.id).mp isBound
      exact List.find?_eq_none.mp notFound recipient member (decide_eq_true isInstance.symm)
    next recipient found =>
      obtain ⟨member, isInstance⟩ := sends.isDirectory.find?_eq_some.mp found
      rw [← isInstance] at bound
      exact .arrives recipient member bound _ rfl

section

variable (ends : PrincipalSend state sendTo options directory outcome)
include ends

/-- A send resolves to the recipient that the principal is bound to. -/
theorem PrincipalSend.resolvesTo_iff (id : String) :
    outcome.ResolvesTo id ↔
      (∃ recipient ∈ directory, recipient.id = id) ∧ BoundTo state.bindings id sendTo := by
  cases ends with
  | unbound reason notBound =>
      refine iff_of_false not_resolvesTo_refuse ?_
      exact fun bound => notBound id bound.2
  | elsewhere notLocal =>
      refine iff_of_false not_resolvesTo_refuse ?_
      rintro ⟨⟨recipient, member, rfl⟩, bound⟩
      exact notLocal recipient member bound
  | arrives recipient member bound result isRecipient =>
      constructor
      · rintro ⟨other, isRouted, rfl⟩
        rw [← SendOutcome.routed.inj isRouted, isRecipient]
        exact ⟨⟨recipient, member, rfl⟩, (bound recipient.id).mpr rfl⟩
      · rintro ⟨-, isBound⟩
        exact ⟨result, rfl, isRecipient.trans ((bound id).mp isBound)⟩

theorem PrincipalSend.not_ambiguous : ¬ outcome.FailsWith "recipient_ambiguous" := by
  cases ends with
  | unbound reason notBound =>
      rw [failsWith_refuse]
      change "recipient_not_found" ≠ "recipient_ambiguous"
      decide
  | elsewhere notLocal =>
      rw [failsWith_refuse]
      decide
  | arrives recipient member bound result isRecipient =>
      rintro ⟨error, isRefused | isThrown, -⟩
      · cases isRefused
      · cases isThrown

end

/-! ## Other directories -/

/-- Directories that agree on the entries of an instance find the same one. -/
theorem localAnswer_congr {binding : ProfileBinding} (firstDirectory : IsDirectory first)
    (secondDirectory : IsDirectory second)
    (agree : ∀ recipient, recipient.id = binding.profileInstanceId →
      (recipient ∈ first ↔ recipient ∈ second)) :
    localAnswer binding first = localAnswer binding second := by
  have sameFound : (first.find? fun recipient => recipient.id = binding.profileInstanceId) =
      second.find? fun recipient => recipient.id = binding.profileInstanceId := by
    refine Option.ext fun recipient => ?_
    rw [firstDirectory.find?_eq_some, secondDirectory.find?_eq_some]
    constructor
    · exact fun isFirst => ⟨(agree recipient isFirst.2).mp isFirst.1, isFirst.2⟩
    · exact fun isSecond => ⟨(agree recipient isSecond.2).mpr isSecond.1, isSecond.2⟩
  unfold localAnswer
  rw [sameFound]

/-- What the resolver answers for a principal depends on the bound entries alone. -/
theorem resolveRecipient_congr (one : OneBindingEach state.bindings)
    (isAgent : isAgentId sendTo = true) (firstDirectory : IsDirectory first)
    (secondDirectory : IsDirectory second)
    (agree : ∀ recipient, BoundTo state.bindings recipient.id sendTo →
      (recipient ∈ first ↔ recipient ∈ second)) :
    resolveRecipient sendTo first (some (snapshotOf state)) =
      resolveRecipient sendTo second (some (snapshotOf state)) := by
  obtain ⟨noBinding, -⟩ | ⟨binding, oneBinding, isPrincipal, isLive, bound⟩ :=
    bindingsFor_eq one sendTo
  · obtain ⟨reason, answers⟩ := resolveRecipient_unbound isAgent noBinding
    rw [answers first firstDirectory, answers second secondDirectory]
  · rw [resolveRecipient_bound firstDirectory isAgent oneBinding isPrincipal isLive,
      resolveRecipient_bound secondDirectory isAgent oneBinding isPrincipal isLive]
    refine congrArg Except.ok (localAnswer_congr firstDirectory secondDirectory ?_)
    exact fun recipient isInstance => agree recipient ((bound _).mpr isInstance.symm)

/-- Answers without an ambiguity end alike for every sender. -/
theorem sendOutcome_congr {router other : UnifiedRouter} {options otherOptions : SendOptions}
    {senderId otherSender : Option String} {answer : Except String Resolution}
    (sameThrow : options.throwOnError = otherOptions.throwOnError)
    (unambiguous : ∀ reason candidates,
      answer ≠ .ok (.error "recipient_ambiguous" reason candidates)) :
    sendOutcome router options senderId sendTo answer =
      sendOutcome other otherOptions otherSender sendTo answer := by
  cases answer with
  | error message => rfl
  | ok resolution =>
      cases resolution with
      | passThrough | resolved => rfl
      | error code reason candidates =>
          have isOther : code ≠ "recipient_ambiguous" := by
            rintro rfl
            exact unambiguous reason candidates rfl
          simp only [sendOutcome, refuse, filterCandidates, if_neg isOther, sameThrow]

theorem resolveRecipient_unambiguous (one : OneBindingEach state.bindings)
    (isAgent : isAgentId sendTo = true) (isDirectory : IsDirectory directory) (reason : String)
    (candidates : List Recipient) :
    resolveRecipient sendTo directory (some (snapshotOf state)) ≠
      .ok (.error "recipient_ambiguous" reason candidates) := by
  intro ambiguous
  obtain ⟨noBinding, -⟩ | ⟨binding, oneBinding, isPrincipal, isLive, -⟩ :=
    bindingsFor_eq one sendTo
  · obtain ⟨notFound, answers⟩ := resolveRecipient_unbound isAgent noBinding
    rw [answers directory isDirectory, Except.ok.injEq, Resolution.error.injEq] at ambiguous
    exact absurd ambiguous.1 (by decide)
  · rw [resolveRecipient_bound isDirectory isAgent oneBinding isPrincipal isLive] at ambiguous
    unfold localAnswer at ambiguous
    split at ambiguous
    · rw [Except.ok.injEq, Resolution.error.injEq] at ambiguous
      exact absurd ambiguous.1 (by decide)
    · cases ambiguous

/-! ## Explanations -/

/-- The principal that is shown for an instance is the one of its unrevoked binding. -/
theorem lookupPrincipal_bound {id principal : String} {principalState : PrincipalState}
    (shown : lookupPrincipal (some (snapshotOf state)) id = (some principal, principalState)) :
    isAgentId principal = true := by
  cases state with
  | absent => cases shown
  | ok registry =>
      simp only [lookupPrincipal, snapshotOf, takeSnapshot, createOkSnapshot] at shown
      split at shown
      · cases shown
      · split at shown
        · cases shown
        · split at shown
          next isAgent =>
            rw [← Option.some.inj (congrArg Prod.fst shown)]
            exact isAgent
          next => cases shown

/-- The resolver that an explanation asks names an instance exactly if a send does. -/
theorem principalNamesOnly_iff {router : UnifiedRouter} {options : SendOptions}
    {directory : List Recipient} {principal id : String} (isAgent : isAgentId principal = true)
    (sends : SendsBy router options (snapshotOf state) directory) (senderId : Option String)
    (one : OneBindingEach state.bindings) :
    principalNamesOnly directory (some (snapshotOf state)) principal id = true ↔
      (resolveSend router senderId principal options).ResolvesTo id := by
  rw [sends.resolveSend_eq senderId isAgent]
  unfold principalNamesOnly
  obtain ⟨noBinding, -⟩ | ⟨binding, oneBinding, isPrincipal, isLive, -⟩ :=
    bindingsFor_eq one principal
  · obtain ⟨reason, answers⟩ := resolveRecipient_unbound isAgent noBinding
    rw [answers directory sends.isDirectory]
    exact iff_of_false Bool.false_ne_true not_resolvesTo_refuse
  · rw [resolveRecipient_bound sends.isDirectory isAgent oneBinding isPrincipal isLive]
    unfold localAnswer
    cases directory.find? fun recipient => recipient.id = binding.profileInstanceId with
    | none => exact iff_of_false Bool.false_ne_true not_resolvesTo_refuse
    | some recipient =>
        change decide (recipient.id = id) = true ↔ _
        rw [decide_eq_true_eq]
        constructor
        · exact fun isId => ⟨_, rfl, isId⟩
        · rintro ⟨result, isRouted, isId⟩
          rw [← SendOutcome.routed.inj isRouted] at isId
          exact isId

/-- The form `principal` is listed for a permitted instance exactly if a send to the
principal that is shown resolves to that instance. -/
theorem mem_addressKinds_iff {permitted : String → Option Bool}
    (one : OneBindingEach state.bindings)
    (sends : SendsBy router options (snapshotOf state) directory) (senderId : Option String)
    (isPermitted : permitted id = some true) :
    AddressKind.principal ∈ (explainSend directory (some (snapshotOf state)) permitted id
        (lookupPrincipal (some (snapshotOf state)) id).1).addressKinds ↔
      ∃ principal, (lookupPrincipal (some (snapshotOf state)) id).1 = some principal ∧
        (resolveSend router senderId principal options).ResolvesTo id := by
  obtain ⟨shown, principalState, isShown⟩ : ∃ shown principalState,
      lookupPrincipal (some (snapshotOf state)) id = (shown, principalState) := ⟨_, _, rfl⟩
  rw [isShown]
  unfold explainSend
  dsimp only
  rw [if_pos isPermitted]
  cases shown with
  | none => simp
  | some principal =>
      have names := @principalNamesOnly_iff _ router options directory principal id
        (lookupPrincipal_bound isShown) sends senderId one
      constructor
      · intro listed
        refine ⟨principal, rfl, names.mp ?_⟩
        by_contra isNot
        rw [Option.any_some, if_neg isNot] at listed
        exact absurd listed (by decide)
      · rintro ⟨other, isOther, resolves⟩
        rw [← Option.some.inj isOther] at resolves
        rw [Option.any_some, if_pos (names.mpr resolves)]
        decide

theorem ExplainsBy.describeAddresses_eq {options : DescribeOptions}
    (explains : ExplainsBy router options snapshot directory) (ids : List String) :
    describeAddresses router ids options =
      some (ids.map (explainAddress directory (some snapshot) options.permitted)) := by
  unfold describeAddresses
  rw [explains.enabled, explains.snapshot, explains.recipients]
  rfl

theorem explainAddress_send {snapshot : Option RegistrySnapshot} {gate : String → Option Bool} :
    (explainAddress directory snapshot (some gate) id).send =
      some (explainSend directory snapshot gate id (lookupPrincipal snapshot id).1) := rfl

/-! ## Routing -/

/-- For every registry that updates lead to, its snapshot and a well-formed directory: a
send to an `agent_` address resolves to an instance exactly if that is in the directory
and its unrevoked binding carries the principal, it is never ambiguous, and it ends alike
with every directory that has the same entries bound to the principal. An explanation
lists the form `principal` for a permitted instance exactly if a send to the principal
that it shows resolves to that instance. -/
theorem principal_routing (reachable : (registryMachine platform).Reachable state)
    {router : UnifiedRouter} {options : SendOptions} {directory : List Recipient}
    (sends : SendsBy router options (snapshotOf state) directory) (senderId : Option String) :
    (∀ sendTo, isAgentId sendTo = true →
      (∀ id, (resolveSend router senderId sendTo options).ResolvesTo id ↔
        (∃ recipient ∈ directory, recipient.id = id) ∧ BoundTo state.bindings id sendTo) ∧
      ¬ (resolveSend router senderId sendTo options).FailsWith "recipient_ambiguous" ∧
      ∀ (other : UnifiedRouter) (otherOptions : SendOptions) (otherDirectory : List Recipient),
        SendsBy other otherOptions (snapshotOf state) otherDirectory →
        options.throwOnError = otherOptions.throwOnError →
        (∀ recipient, BoundTo state.bindings recipient.id sendTo →
          (recipient ∈ directory ↔ recipient ∈ otherDirectory)) →
        resolveSend router senderId sendTo options =
          resolveSend other senderId sendTo otherOptions) ∧
    ∀ (describer : UnifiedRouter) (ids : List String) (describeOptions : DescribeOptions),
      ExplainsBy describer describeOptions (snapshotOf state) directory →
      ∃ explanations, describeAddresses describer ids describeOptions = some explanations ∧
        explanations.map AddressExplanation.id = ids ∧
        ∀ explanation ∈ explanations, ∀ gate, describeOptions.permitted = some gate →
          gate explanation.id = some true →
          ∃ send, explanation.send = some send ∧
            (AddressKind.principal ∈ send.addressKinds ↔
              ∃ principal, explanation.principal = some principal ∧
                (resolveSend router senderId principal options).ResolvesTo explanation.id) := by
  have one := oneBindingEach_reachable reachable
  refine ⟨fun sendTo isAgent => ?_, ?_⟩
  · have ends := principalSend one sends senderId isAgent
    refine ⟨ends.resolvesTo_iff, ends.not_ambiguous, ?_⟩
    intro other otherOptions otherDirectory otherSends sameThrow agree
    rw [sends.resolveSend_eq senderId isAgent, otherSends.resolveSend_eq senderId isAgent,
      resolveRecipient_congr one isAgent sends.isDirectory otherSends.isDirectory agree]
    exact sendOutcome_congr sameThrow
      (resolveRecipient_unambiguous one isAgent otherSends.isDirectory)
  · intro describer ids describeOptions explains
    refine ⟨_, explains.describeAddresses_eq ids, ?_, ?_⟩
    · rw [List.map_map]
      exact List.map_id ids
    · intro explanation member gate isGate isPermitted
      obtain ⟨id, -, rfl⟩ := List.mem_map.mp member
      rw [isGate]
      exact ⟨_, explainAddress_send, mem_addressKinds_iff one sends senderId isPermitted⟩

/-! ## A bound profile -/

/-- A platform on which every profile has one instance id. -/
def samplePlatform : Platform where
  sha256Hex _ := String.ofList (List.replicate 64 'b')
  parseUrl value := some ⟨"https:", "room", "", "", value⟩

/-- The binding of the profile. -/
def sampleBinding : ProfileBinding where
  bindingId := "bind_0123456789abcdef0123456789abcdef"
  principalId := "agent_0123456789abcdef0123456789abcdef"
  profileName := "main"
  profileInstanceId := String.ofList (List.replicate 64 'b')
  authorityOrigin := "https://room"
  bindingGeneration := 1
  issuedAt := "2026-01-01T00:00:00Z"
  revokedAt := none

/-- The update that binds it. -/
def sampleBind : UpdateArgs where
  expectedSequence := 0
  nowIso := "2026-01-01T00:00:00Z"
  action := .bind
  subject := some sampleBinding.profileInstanceId
  mutate
    | .obj fields => .obj (withField fields "bindings"
        (.obj [(sampleBinding.profileInstanceId, sampleBinding.toJson)]))
    | other => other

/-- The registry after the update. -/
def sampleState : RegistryState :=
  (registryMachine samplePlatform).run [(sampleBind, true)]

/-- A router with the profile in its directory. -/
def sampleRouter : UnifiedRouter where
  enabled := true
  snapshotProvider := some (.ok (snapshotOf sampleState))
  recipients := [⟨sampleBinding.profileInstanceId, "main"⟩]
  canMessage := none

theorem sampleBinding_bound :
    BoundTo sampleState.bindings sampleBinding.profileInstanceId sampleBinding.principalId :=
  ⟨sampleBinding, by decide +kernel, rfl, rfl, rfl⟩

theorem sampleRouter_sends : SendsBy sampleRouter ⟨false, none, none, none⟩
    (snapshotOf sampleState) sampleRouter.recipients :=
  ⟨rfl, rfl, rfl, by decide, by decide⟩

/-- A send to its principal arrives at the profile. -/
theorem principal_routing_bound :
    BoundTo sampleState.bindings sampleBinding.profileInstanceId sampleBinding.principalId ∧
      (resolveSend sampleRouter none sampleBinding.principalId ⟨false, none, none, none⟩).ResolvesTo
        sampleBinding.profileInstanceId := by
  have routes := @principal_routing samplePlatform sampleState ⟨[(sampleBind, true)], rfl⟩
    sampleRouter ⟨false, none, none, none⟩ sampleRouter.recipients sampleRouter_sends none
  refine ⟨sampleBinding_bound, ?_⟩
  refine ((routes.1 sampleBinding.principalId (by decide)).1 _).mpr ⟨?_, sampleBinding_bound⟩
  exact ⟨_, List.mem_singleton_self _, rfl⟩

end Triangle.Router
