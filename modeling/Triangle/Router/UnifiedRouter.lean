import Triangle.Router.Resolver

/-!
# The unified router

`resolveSend` resolves the address of a send, and `describeAddresses` explains which
forms of address reach an instance. Both read the snapshot and the directory that the
router was given. The counters of the router are left out.
-/

namespace Triangle.Router

open Triangle.Std Triangle.Identity

/-- What the injected `canMessage` answers for a candidate. -/
inductive MessageGate
  | yes
  | no
  | null
  | undefined
  | throws
  deriving DecidableEq, Repr

/-- `canMessage(senderId, candidateRecipientId)`. -/
abbrev CanMessage :=
  Option String → String → MessageGate

/-- What `createUnifiedRouter` is given; a provider that throws may throw a code. -/
structure UnifiedRouter where
  enabled : Bool
  snapshotProvider : Option (Except (Option String) RegistrySnapshot)
  recipients : List Recipient
  canMessage : Option CanMessage

/-- `callOptions` of `resolveSend`. -/
structure SendOptions where
  throwOnError : Bool
  snapshot : Option RegistrySnapshot
  recipients : Option (List Recipient)
  canMessage : Option CanMessage

/-- `via` of a resolution. -/
inductive Via
  | principal
  | id
  deriving DecidableEq, Repr

/-- The resolution of a send. -/
structure RoutedSend where
  resolvedTo : String
  sendTo : String
  resolved : Bool
  via : Option Via
  principal : Option String
  profile : Option String
  bindingId : Option String
  route : Option String
  deriving DecidableEq, Repr

/-- `RouterResolutionError`. -/
structure ResolutionError where
  code : String
  reason : String
  candidates : List Recipient
  deriving DecidableEq, Repr

/-- How `resolveSend` ends; a refusal is returned where it is not to be thrown. -/
inductive SendOutcome
  | routed (result : RoutedSend)
  | refused (error : ResolutionError)
  | thrown (error : ResolutionError)
  | typeError (message : String)
  deriving DecidableEq, Repr

/-- `evaluateCanMessage`. -/
def evaluateCanMessage (canMessage : CanMessage) (senderId : Option String)
    (recipientId : String) : Bool :=
  match canMessage senderId recipientId with
  | .no | .null | .throws => false
  | .yes | .undefined => true

namespace UnifiedRouter

/-- `callOptions.recipients ?? getRecipients()`. -/
def recipientsFor (router : UnifiedRouter) (options : SendOptions) : List Recipient :=
  options.recipients.getD router.recipients

/-- The snapshot that a call is given, or else what the provider returns or throws. -/
def readSnapshot (router : UnifiedRouter) (given : Option RegistrySnapshot) :
    Except (Option String) (Option RegistrySnapshot) :=
  match given, router.snapshotProvider with
  | some snapshot, _ => .ok (some snapshot)
  | none, some provider => provider.map some
  | none, none => .ok none

end UnifiedRouter

/-- A resolution error, thrown or returned. -/
def refuse (options : SendOptions) (error : ResolutionError) : SendOutcome :=
  if options.throwOnError then .thrown error else .refused error

/-- The principal that an instance is bound to, for a legacy address. -/
def legacyPrincipal (router : UnifiedRouter) (options : SendOptions) (sendTo : String) : Option String :=
  match router.snapshotProvider, router.readSnapshot options.snapshot with
  | some _, .ok (some (.ok sequence bindings)) =>
      ((RegistrySnapshot.ok sequence bindings).bindingForInstance sendTo).bind fun binding =>
        if binding.principalId = "" then none else some binding.principalId
  | _, _ => none

/-- A legacy address, which passes through. -/
def routeLegacy (router : UnifiedRouter) (options : SendOptions) (sendTo : String) : RoutedSend :=
  { resolvedTo := sendTo
    sendTo := sendTo
    resolved := false
    via := some .id
    principal := legacyPrincipal router options sendTo
    profile := ((router.recipientsFor options).find? fun recipient =>
      recipient.id = sendTo).map Recipient.label
    bindingId := none
    route := some "local" }

/-- The candidates of an error that the sender may be told of. -/
def filterCandidates (router : UnifiedRouter) (options : SendOptions) (senderId : Option String)
    (code : String) (candidates : List Recipient) : List Recipient :=
  if code = "recipient_ambiguous" then
    match options.canMessage.or router.canMessage with
    | some canMessage => candidates.filter fun candidate =>
        evaluateCanMessage canMessage senderId candidate.id
    | none => []
  else candidates

/-- What `resolveSend` makes of the resolver's answer. -/
def sendOutcome (router : UnifiedRouter) (options : SendOptions) (senderId : Option String)
    (sendTo : String) : Except String Resolution → SendOutcome
  | .error message => .typeError message
  | .ok (.resolved recipientId principalId profile bindingId) =>
      .routed {
        resolvedTo := recipientId
        sendTo := sendTo
        resolved := true
        via := some .principal
        principal := some principalId
        profile := some profile
        bindingId := some bindingId
        route := some "local" }
  | .ok (.error code reason candidates) =>
      refuse options ⟨code, reason, filterCandidates router options senderId code candidates⟩
  | .ok .passThrough =>
      .routed {
        resolvedTo := sendTo
        sendTo := sendTo
        resolved := false
        via := some .id
        principal := none
        profile := none
        bindingId := none
        route := some "local" }

/-- `resolveSend`. -/
def resolveSend (router : UnifiedRouter) (senderId : Option String) (sendTo : String)
    (options : SendOptions) : SendOutcome :=
  if !router.enabled then
    .routed {
      resolvedTo := sendTo
      sendTo := sendTo
      resolved := false
      via := none
      principal := none
      profile := none
      bindingId := none
      route := none }
  else if !isAgentId sendTo && !isPeerId sendTo then
    .routed (routeLegacy router options sendTo)
  else if isPeerId sendTo then
    refuse options ⟨"recipient_not_found", "peer_not_supported", []⟩
  else
    match router.readSnapshot options.snapshot with
    | .error code =>
        refuse options ⟨"route_unavailable", code.getD "registry_unreadable", []⟩
    | .ok snapshot =>
        sendOutcome router options senderId sendTo
          (resolveRecipient sendTo (router.recipientsFor options) snapshot)

/-! ## Explained addresses -/

/-- `principalState`. -/
inductive PrincipalState
  | bound
  | unbound
  | unknown
  deriving DecidableEq, Repr

/-- `lookupPrincipal`. -/
def lookupPrincipal (snapshot : Option RegistrySnapshot) (instanceId : String) :
    Option String × PrincipalState :=
  match snapshot with
  | some .absent => (none, .unbound)
  | some (.ok sequence bindings) =>
      match (RegistrySnapshot.ok sequence bindings).bindingForInstance instanceId with
      | none => (none, .unbound)
      | some binding =>
          if binding.principalId = "" then (none, .unbound)
          else if isAgentId binding.principalId then (some binding.principalId, .bound)
          else (none, .unknown)
  | _ => (none, .unknown)

/-- The forms in which an instance can be addressed. -/
inductive AddressKind
  | id
  | principal
  deriving DecidableEq, Repr

/-- `send` of an explanation. -/
structure SendExplanation where
  permitted : Bool
  addressKinds : List AddressKind
  deriving DecidableEq, Repr

/-- The explanation of one address. -/
structure AddressExplanation where
  id : String
  route : String
  principal : Option String
  principalState : PrincipalState
  send : Option SendExplanation
  deriving DecidableEq, Repr

/-- Options of `describeAddresses`; a gate that throws answers nothing. -/
structure DescribeOptions where
  permitted : Option (String → Option Bool)
  snapshot : Option RegistrySnapshot

/-- `principalNamesOnly`. -/
def principalNamesOnly (directory : List Recipient) (snapshot : Option RegistrySnapshot)
    (principal id : String) : Bool :=
  match resolveRecipient principal directory snapshot with
  | .ok (.resolved recipientId _ _ _) => recipientId = id
  | _ => false

/-- `send` of an address for a caller. -/
def explainSend (directory : List Recipient) (snapshot : Option RegistrySnapshot)
    (permitted : String → Option Bool) (id : String) (principal : Option String) :
    SendExplanation :=
  let allowed := permitted id = some true
  { permitted := allowed
    addressKinds :=
      if allowed then
        .id :: if principal.any fun named => principalNamesOnly directory snapshot named id then
          [.principal]
        else []
      else [] }

/-- One explanation of `describeAddresses`. -/
def explainAddress (directory : List Recipient) (snapshot : Option RegistrySnapshot)
    (permitted : Option (String → Option Bool)) (id : String) : AddressExplanation :=
  let (principal, principalState) := lookupPrincipal snapshot id
  { id := id
    route := "local"
    principal := principal
    principalState := principalState
    send := permitted.map fun gate => explainSend directory snapshot gate id principal }

/-- `describeAddresses`. -/
def describeAddresses (router : UnifiedRouter) (ids : List String) (options : DescribeOptions) :
    Option (List AddressExplanation) :=
  if !router.enabled then none
  else
    let snapshot := match router.readSnapshot options.snapshot with
      | .ok snapshot => snapshot
      | .error _ => none
    some (ids.map (explainAddress router.recipients snapshot options.permitted))

end Triangle.Router
