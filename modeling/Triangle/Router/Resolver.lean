import Triangle.Router.Snapshot

/-!
# The recipient resolver

`resolveRecipient` turns an address into a local recipient: an `agent_` address by the
bindings of its principal, of which the directory keeps those that are local. A
directory is well formed if its ids are 64 hexadecimal digits and distinct.
-/

namespace Triangle.Router

open Triangle.Std Triangle.Identity

/-- `PEER_ID_PATTERN`, `/^peer_[a-f0-9]{32}$/`. -/
def isPeerId (text : String) : Bool :=
  Text.matchesLedClass "peer_" Text.isLowerHex 32 32 text

/-- A local recipient. -/
structure Recipient where
  id : String
  label : String
  deriving DecidableEq, Repr

/-- What the resolver returns. -/
inductive Resolution
  | passThrough
  | resolved (recipientId principalId profile bindingId : String)
  | error (code reason : String) (candidates : List Recipient)
  deriving DecidableEq, Repr

/-- The candidates of an ambiguous binding: one for each id, by id. -/
def candidatesOf (kept : List (ProfileBinding × Recipient)) : List Recipient :=
  let byId := kept.foldl (fun (seen : List Recipient) (_, recipient) =>
    if seen.any fun other => other.id = recipient.id then seen else seen ++ [recipient]) []
  byId.insertionSort fun first second => Json.KeyLe first.id second.id

/-- The bindings of local recipients, each with the first recipient of its id. -/
def keepLocal (recipients : List Recipient) (bindings : List ProfileBinding) :
    List (ProfileBinding × Recipient) :=
  bindings.filterMap fun binding =>
    (recipients.find? fun recipient => recipient.id = binding.profileInstanceId).map
      fun recipient => (binding, recipient)

/-- `resolveRecipient` from the bindings of the principal on. -/
def resolveBindings (recipients : List Recipient) (validBindings : List ProfileBinding) :
    Resolution :=
  if validBindings = [] then .error "recipient_not_found" "no_binding" []
  else
    match keepLocal recipients validBindings with
    | [] => .error "route_unavailable" "not_a_local_recipient" []
    | [(binding, recipient)] =>
        .resolved recipient.id binding.principalId recipient.label binding.bindingId
    | kept => .error "recipient_ambiguous" "ambiguous_binding" (candidatesOf kept)

/-- `resolveRecipient`; its error is the text of a `TypeError`. -/
def resolveRecipient (sendTo : String) (recipients : List Recipient)
    (snapshot : Option RegistrySnapshot) : Except String Resolution := do
  require (∀ recipient ∈ recipients, Text.isHex64 recipient.id)
    "each recipient must be an object with a 64-hex id and string label"
  if !isAgentId sendTo && !isPeerId sendTo then return .passThrough
  if isPeerId sendTo then return .error "recipient_not_found" "peer_not_supported" []
  match snapshot with
  | some .absent => return .error "recipient_not_found" "registry_absent" []
  | some (.ok sequence bindings) =>
      return resolveBindings recipients
        (((RegistrySnapshot.ok sequence bindings).bindingsFor sendTo).filter fun binding =>
          binding.principalId = sendTo && binding.revokedAt = none)
  | _ => return .error "route_unavailable" "registry_unreadable" []

/-- The ids of a directory are of their form and distinct. -/
structure IsDirectory (recipients : List Recipient) : Prop where
  hexIds : ∀ recipient ∈ recipients, Text.isHex64 recipient.id = true
  distinct : (recipients.map Recipient.id).Nodup

theorem isPeerId_of_isAgentId {text : String} (isAgent : isAgentId text = true) :
    isPeerId text = false := by
  rw [← Bool.not_eq_true]
  intro isPeer
  simp only [isAgentId, isPeerId, Text.matchesLedClass, Bool.and_eq_true] at isAgent isPeer
  obtain ⟨agentRest, isText⟩ := List.isPrefixOf_iff_prefix.mp isAgent.1.1.1
  obtain ⟨peerRest, isPeerText⟩ := List.isPrefixOf_iff_prefix.mp isPeer.1.1.1
  rw [← isPeerText] at isText
  exact absurd (List.cons.inj isText).1 (by decide)

variable {recipients : List Recipient}

/-- The recipient of an id is found exactly if it stands in the directory. -/
theorem IsDirectory.find?_eq_some (directory : IsDirectory recipients) {id : String}
    {recipient : Recipient} :
    (recipients.find? fun other => other.id = id) = some recipient ↔
      recipient ∈ recipients ∧ recipient.id = id := by
  constructor
  · intro found
    exact ⟨List.mem_of_find?_eq_some found, by simpa using List.find?_some found⟩
  · rintro ⟨member, rfl⟩
    cases found : recipients.find? fun other => other.id = recipient.id with
    | none => exact absurd (decide_eq_true rfl) (List.find?_eq_none.mp found recipient member)
    | some other =>
        have isId : other.id = recipient.id := by simpa using List.find?_some found
        rw [List.inj_on_of_nodup_map directory.distinct (List.mem_of_find?_eq_some found) member
          isId]

/-! ## Addresses of principals -/

/-- The answer for the one binding of a principal. -/
def localAnswer (binding : ProfileBinding) (recipients : List Recipient) : Resolution :=
  match recipients.find? fun recipient => recipient.id = binding.profileInstanceId with
  | none => .error "route_unavailable" "not_a_local_recipient" []
  | some recipient =>
      .resolved recipient.id binding.principalId recipient.label binding.bindingId

theorem resolveBindings_nil (recipients : List Recipient) :
    resolveBindings recipients [] = .error "recipient_not_found" "no_binding" [] := rfl

theorem resolveBindings_single (recipients : List Recipient) (binding : ProfileBinding) :
    resolveBindings recipients [binding] = localAnswer binding recipients := by
  unfold resolveBindings localAnswer keepLocal
  rw [if_neg (List.cons_ne_nil _ _)]
  cases found : recipients.find? fun recipient => recipient.id = binding.profileInstanceId with
  | none | some => simp [found]

variable {state : RegistryState} {sendTo : String}

/-- The resolver past its checks of the directory and of the address. -/
theorem resolveRecipient_agent (directory : IsDirectory recipients)
    (isAgent : isAgentId sendTo = true) (snapshot : Option RegistrySnapshot) :
    resolveRecipient sendTo recipients snapshot =
      match snapshot with
      | some .absent => .ok (.error "recipient_not_found" "registry_absent" [])
      | some (.ok sequence bindings) =>
          .ok (resolveBindings recipients
            (((RegistrySnapshot.ok sequence bindings).bindingsFor sendTo).filter fun binding =>
              binding.principalId = sendTo && binding.revokedAt = none))
      | _ => .ok (.error "route_unavailable" "registry_unreadable" []) := by
  unfold resolveRecipient
  rw [require, if_pos directory.hexIds, isPeerId_of_isAgentId isAgent, isAgent]
  cases snapshot with
  | none => rfl
  | some snapshot =>
      cases snapshot with
      | absent | unreadable | ok => rfl

/-- A principal without a binding has no recipient, whatever the directory. -/
theorem resolveRecipient_unbound (isAgent : isAgentId sendTo = true)
    (noBinding : (snapshotOf state).bindingsFor sendTo = []) :
    ∃ reason, ∀ recipients, IsDirectory recipients →
      resolveRecipient sendTo recipients (some (snapshotOf state)) =
        .ok (.error "recipient_not_found" reason []) := by
  cases state with
  | absent =>
      refine ⟨"registry_absent", fun recipients directory => ?_⟩
      rw [resolveRecipient_agent directory isAgent]
      rfl
  | ok registry =>
      refine ⟨"no_binding", fun recipients directory => ?_⟩
      rw [resolveRecipient_agent directory isAgent]
      change Except.ok (resolveBindings recipients
        (((snapshotOf (.ok registry)).bindingsFor sendTo).filter _)) = _
      rw [noBinding, List.filter_nil, resolveBindings_nil]

/-- A principal with one binding has the recipient of that binding, if it is local. -/
theorem resolveRecipient_bound {binding : ProfileBinding} (directory : IsDirectory recipients)
    (isAgent : isAgentId sendTo = true)
    (oneBinding : (snapshotOf state).bindingsFor sendTo = [binding])
    (isPrincipal : binding.principalId = sendTo) (isLive : binding.revokedAt = none) :
    resolveRecipient sendTo recipients (some (snapshotOf state)) =
      .ok (localAnswer binding recipients) := by
  rw [resolveRecipient_agent directory isAgent]
  cases state with
  | absent => exact absurd oneBinding nofun
  | ok registry =>
      change Except.ok (resolveBindings recipients
        (((snapshotOf (.ok registry)).bindingsFor sendTo).filter _)) = _
      rw [oneBinding, List.filter_cons_of_pos (by simp [isPrincipal, isLive]), List.filter_nil,
        resolveBindings_single]

end Triangle.Router
