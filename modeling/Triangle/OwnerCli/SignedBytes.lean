import Triangle.OwnerCli.Wire

/-!
# Signed bytes determine the request

What the three builders sign is read again from the body that they return, also when the
body went through a journal file, and no other request has the same bytes. The permissions
that `setPermissions` signs are those of the server with the requested changes.
-/

namespace Triangle.OwnerCli.Wire

open Triangle.Std

/-! ## Bodies -/

/-- The fields of an envelope, in the order of the source. -/
def Builder.envelopeNames : Builder → List String
  | .redemption =>
      ["profile", "authority", "invite_id", "invite_secret", "challenge_id", "owner_public_jwk",
        "device_label", "display_name", "agent"]
  | .ownerOperation =>
      ["profile", "authority", "controller_id", "challenge_id", "operation", "target", "params",
        "idempotency_key"]
  | .permissionsUpdate =>
      ["profile", "authority", "agent_id", "controller_id", "challenge_id", "expected_revision",
        "permissions", "idempotency_key"]

/-- The fields of a body with the signature of the owner, and with all signatures. -/
def Builder.proof : Builder → String
  | .redemption => "owner_proof"
  | .ownerOperation => "proof"
  | .permissionsUpdate => "proof"

def Builder.proofNames : Builder → List String
  | .redemption => ["owner_proof", "workload_proof"]
  | .ownerOperation => ["proof", "workload_proof"]
  | .permissionsUpdate => ["proof"]

/-- Whatever stands in an envelope, its message covers. -/
theorem Builder.envelopeNames_covered (builder : Builder) :
    ∀ name ∈ builder.envelopeNames, name ∈ builder.covered := by
  cases builder <;> decide

theorem Builder.bodyNames_distinct (builder : Builder) :
    (builder.envelopeNames ++ builder.proofNames).Nodup := by
  cases builder <;> decide

section

variable {sha256Hex : String → String} {builder : Builder} {envelope proofs : Fields}
  {nonceSha256 : String} {bytes : ByteArray}

theorem plain_of_property? {fields : Fields} (plain : (Json.obj fields).Plain) {name : String}
    {value : Json} (isValue : Json.property? fields name = some value) : value.Plain :=
  Json.PlainFields.mem plain.1 (Json.mem_of_property? isValue)

section

variable (isMessage : builder.message sha256Hex envelope nonceSha256 = .ok bytes)
include isMessage

/-- Every field that a message covers is there, and plain. -/
theorem Builder.message_reads :
    ∀ name ∈ builder.covered, ∃ value, Json.property? envelope name = some value ∧
      value.Plain := by
  obtain ⟨picked, more, isPicked, isMore, isBytes⟩ := Builder.message_ok.mp isMessage
  obtain ⟨plain, -⟩ := canonicalBytes_ok.mp isBytes
  have picks : ∀ name ∈ builder.names, ∃ value, Json.property? envelope name = some value ∧
      value.Plain := by
    intro name isName
    cases isRead : Json.property? picked name with
    | none =>
        rw [Json.property?_eq_none_iff, Json.pick_keys isPicked] at isRead
        exact absurd isName isRead
    | some value =>
        refine ⟨value, (Json.property?_pick isPicked isName).symm.trans isRead, ?_⟩
        have isField : Json.property? (picked ++ more) name = some value := by
          rw [Json.property?_append, isRead]
          rfl
        exact plain_of_property? plain isField
  cases builder with
  | redemption =>
      intro name isName
      rcases List.mem_cons.mp isName with rfl | isPlain
      · obtain ⟨secret, isSecret, -⟩ := more_secret isMore
        exact ⟨_, isSecret, trivial⟩
      · exact picks name isPlain
  | ownerOperation | permissionsUpdate => exact picks

/-- Proofs behind an envelope do not change its message. -/
theorem Builder.message_append :
    builder.message sha256Hex (envelope ++ proofs) nonceSha256 = .ok bytes := by
  rw [← isMessage]
  refine Builder.message_congr fun name isName => ?_
  obtain ⟨value, isValue, -⟩ := Builder.message_reads isMessage name isName
  rw [Json.property?_append, isValue]
  rfl

/-- A body whose envelope is covered by its message can be written and read. -/
theorem Builder.body_finite (names : envelope.map Prod.fst = builder.envelopeNames)
    (proofNames : proofs.map Prod.fst = builder.proofNames)
    (areFinite : ∀ field ∈ proofs, field.2.Finite) : (Json.obj (envelope ++ proofs)).Finite := by
  have distinct : ((envelope ++ proofs).map Prod.fst).Nodup := by
    rw [List.map_append, names, proofNames]
    exact builder.bodyNames_distinct
  have covers : ∀ name ∈ envelope.map Prod.fst, name ∈ builder.covered := by
    rw [names]
    exact builder.envelopeNames_covered
  refine ⟨Json.finiteFields_iff.mpr fun field member => ?_, distinct⟩
  rcases List.mem_append.mp member with inEnvelope | inProofs
  · have isName := List.mem_map_of_mem (f := Prod.fst) inEnvelope
    obtain ⟨value, isValue, plain⟩ := Builder.message_reads isMessage _ (covers _ isName)
    rw [List.map_append] at distinct
    have isOwn := Json.property?_of_mem (List.nodup_append.mp distinct).1
      (show (field.1, field.2) ∈ envelope from inEnvelope)
    obtain rfl := Option.mem_unique isOwn isValue
    exact plain.finite
  · exact areFinite field inProofs

end

end

/-! ## Requests -/

/-- What a builder is called with, besides the challenge and the keys. -/
inductive Request
  | redemption (authority inviteId secret deviceLabel displayName agent : Json)
  | ownerOperation (authority controllerId operation target params idempotencyKey : Json)
  | permissionsUpdate (authority controllerId agentId expectedRevision : Json)
      (permissions : Fields) (idempotencyKey : Json)

def Request.builder : Request → Builder
  | .redemption _ _ _ _ _ _ => .redemption
  | .ownerOperation _ _ _ _ _ _ => .ownerOperation
  | .permissionsUpdate _ _ _ _ _ _ => .permissionsUpdate

/-- The nonce of a challenge. -/
def nonceOf : Json → Option String
  | .obj fields =>
      match Json.property? fields "nonce_sha256" with
      | some (.str nonceSha256) => some nonceSha256
      | _ => none
  | _ => none

section

variable (sha256Hex : String → String) (signBytes : PrivateJwk → ByteArray → String)

/-- The body that the builder of a request returns. -/
def Request.build (request : Request) (challenge : Json) (ownerKey : PrivateJwk)
    (workloadKey : Option PrivateJwk) : Except CliError Fields :=
  match request with
  | .redemption authority inviteId secret deviceLabel displayName agent =>
      buildRedemption sha256Hex signBytes authority inviteId secret challenge ownerKey deviceLabel
        displayName agent workloadKey
  | .ownerOperation authority controllerId operation target params idempotencyKey =>
      buildOwnerOperation signBytes authority controllerId ownerKey challenge operation target
        params idempotencyKey workloadKey
  | .permissionsUpdate authority controllerId agentId expectedRevision permissions
      idempotencyKey =>
      buildPermissionsUpdate signBytes authority controllerId ownerKey agentId challenge
        expectedRevision permissions idempotencyKey

/-- A body carries the signature of its message, and can be written and read. -/
structure Signed (builder : Builder) (challenge : Json) (ownerKey : PrivateJwk) (body : Fields)
    (nonceSha256 : String) (bytes : ByteArray) : Prop where
  nonce : nonceOf challenge = some nonceSha256
  message : builder.message sha256Hex body nonceSha256 = .ok bytes
  proof : Json.property? body builder.proof = some (.str (signBytes ownerKey bytes))
  finite : (Json.obj body).Finite

variable {sha256Hex signBytes} {challenge : Json} {ownerKey : PrivateJwk}
  {workloadKey : Option PrivateJwk} {body : Fields}

theorem assertChallenge_nonce {kind nonceSha256 : String} {expected : Fields} {challengeId : Json}
    (asserted : assertChallenge kind expected challenge = .ok (challengeId, nonceSha256)) :
    nonceOf challenge = some nonceSha256 := by
  unfold assertChallenge at asserted
  split at asserted
  next fields =>
    split at asserted
    next nonce isNonce =>
      rw [require_bind_ok, require_bind_ok, require_bind_ok, pure_ok] at asserted
      obtain ⟨-, -, -, same⟩ := asserted
      obtain ⟨-, rfl⟩ := Prod.mk.inj same
      unfold nonceOf
      simp only [isNonce]
    next => cases asserted
  next => cases asserted

theorem proofBy_finite (key : Option PrivateJwk) (message : ByteArray) :
    (proofBy signBytes key message).Finite := by
  cases key <;> exact trivial

/-- A message is signed with the proofs behind its envelope. -/
theorem signed_of_message {builder : Builder} {envelope proofs : Fields} {nonceSha256 : String}
    {message : ByteArray} (isNonce : nonceOf challenge = some nonceSha256)
    (isMessage : builder.message sha256Hex envelope nonceSha256 = .ok message)
    (isProof : Json.property? (envelope ++ proofs) builder.proof =
      some (.str (signBytes ownerKey message)))
    (names : envelope.map Prod.fst = builder.envelopeNames)
    (proofNames : proofs.map Prod.fst = builder.proofNames)
    (areFinite : ∀ field ∈ proofs, field.2.Finite) :
    Signed sha256Hex signBytes builder challenge ownerKey (envelope ++ proofs) nonceSha256
      message where
  nonce := isNonce
  message := Builder.message_append isMessage
  proof := isProof
  finite := Builder.body_finite isMessage names proofNames areFinite

theorem buildRedemption_signed {authority inviteId secret deviceLabel displayName agent : Json}
    (built : buildRedemption sha256Hex signBytes authority inviteId secret challenge ownerKey
      deviceLabel displayName agent workloadKey = .ok body) :
    ∃ nonceSha256 message,
      Signed sha256Hex signBytes .redemption challenge ownerKey body nonceSha256 message := by
  unfold buildRedemption at built
  rw [bind_ok] at built
  obtain ⟨⟨challengeId, nonceSha256⟩, asserted, built⟩ := built
  dsimp only at built
  rw [require_bind_ok, bind_ok] at built
  obtain ⟨-, message, isMessage, built⟩ := built
  obtain rfl := pure_ok.mp built
  refine ⟨nonceSha256, message, signed_of_message (assertChallenge_nonce asserted) isMessage rfl
    rfl rfl ?_⟩
  intro field member
  rcases List.mem_cons.mp member with rfl | isWorkload
  · exact trivial
  · rw [List.mem_singleton.mp isWorkload]
    exact proofBy_finite workloadKey message

theorem buildOwnerOperation_signed
    {authority controllerId operation target params idempotencyKey : Json}
    (built : buildOwnerOperation signBytes authority controllerId ownerKey challenge operation
      target params idempotencyKey workloadKey = .ok body) :
    ∃ nonceSha256 message,
      Signed sha256Hex signBytes .ownerOperation challenge ownerKey body nonceSha256 message := by
  unfold buildOwnerOperation at built
  rw [require_bind_ok, bind_ok] at built
  obtain ⟨-, ⟨challengeId, nonceSha256⟩, asserted, built⟩ := built
  dsimp only at built
  rw [bind_ok] at built
  obtain ⟨message, isMessage, built⟩ := built
  obtain rfl := pure_ok.mp built
  refine ⟨nonceSha256, message, signed_of_message (assertChallenge_nonce asserted) isMessage rfl
    rfl rfl ?_⟩
  intro field member
  rcases List.mem_cons.mp member with rfl | isWorkload
  · exact trivial
  · rw [List.mem_singleton.mp isWorkload]
    exact proofBy_finite workloadKey message

theorem buildPermissionsUpdate_signed
    {authority controllerId agentId expectedRevision idempotencyKey : Json} {permissions : Fields}
    (built : buildPermissionsUpdate signBytes authority controllerId ownerKey agentId challenge
      expectedRevision permissions idempotencyKey = .ok body) :
    (∃ nonceSha256 message,
      Signed sha256Hex signBytes .permissionsUpdate challenge ownerKey body nonceSha256 message) ∧
    Json.property? body "expected_revision" = some expectedRevision ∧
    Json.property? body "permissions" =
      some (.obj (Json.assign permissions "permissions_version" (.int 1))) := by
  unfold buildPermissionsUpdate at built
  rw [bind_ok] at built
  obtain ⟨⟨challengeId, nonceSha256⟩, asserted, built⟩ := built
  dsimp only at built
  rw [bind_ok] at built
  obtain ⟨message, isMessage, built⟩ := built
  obtain rfl := pure_ok.mp built
  refine ⟨⟨nonceSha256, message, signed_of_message (assertChallenge_nonce asserted) isMessage rfl
    rfl rfl ?_⟩, rfl, rfl⟩
  intro field member
  rw [List.mem_singleton.mp member]
  exact trivial

theorem Request.build_signed {request : Request}
    (built : request.build sha256Hex signBytes challenge ownerKey workloadKey = .ok body) :
    ∃ nonceSha256 message,
      Signed sha256Hex signBytes request.builder challenge ownerKey body nonceSha256 message := by
  cases request with
  | redemption => exact buildRedemption_signed built
  | ownerOperation => exact buildOwnerOperation_signed built
  | permissionsUpdate => exact (buildPermissionsUpdate_signed built).1

end

/-! ## Permissions -/

/-- The answer to a read of permissions. `tagged` is `revisionFromEtag` of its ETag. -/
structure PermissionsAnswer where
  status : Nat
  tagged : Option Nat
  body : Json

/-- `PERMISSION_KEYS`. -/
def permissionKeys : List String :=
  ["dm.receive", "dm.send", "posts.publish", "tasks.claim", "directory.listed"]

/-- The own properties of an object; an array has none of the names that are asked for. -/
def ownProperties : Option Json → Except CliError Fields
  | some (.obj fields) => .ok fields
  | some (.arr _) => .ok []
  | _ => .error (.localState false)

/-- `assertView`: the revision and the permissions of a view. -/
def assertView (agentId : Json) (view : Json) (tagged : Option Nat) :
    Except CliError (Int × Fields) := do
  let fields ← ownProperties (some view)
  require (strictEq (orNull (Json.property? fields "agent_id")) agentId = true) (.localState false)
  match Json.property? fields "revision" with
  | some (.int revision) => do
      require (Json.isSafe revision = true) (.localState false)
      let permissions ← ownProperties (Json.property? fields "permissions")
      require (∀ tag ∈ tagged, (tag : Int) = revision) (.localState false)
      pure (revision, permissions)
  | _ => .error (.localState false)

/-- `readPermissions` with a fresh copy: there is no cached copy for a 304. -/
def readPermissions (agentId : Json) (answer : PermissionsAnswer) :
    Except CliError (Int × Fields) := do
  require (answer.status ≠ 304) (.localState false)
  assertView agentId answer.body answer.tagged

/-- Every change is in force already. -/
def applies (permissions changes : Fields) : Bool :=
  changes.all fun change => strictEq (orNull (Json.property? permissions change.1)) change.2

/-- What `setPermissions` signs, if anything. The answers of the server to the read and to the
challenge request are given. -/
def setPermissions (signBytes : PrivateJwk → ByteArray → String) (authority controllerId : Json)
    (ownerKey : PrivateJwk) (agentId : Json) (changes : Fields) (answer : PermissionsAnswer)
    (challenge : Except CliError Json) (idempotencyKey : Json) :
    Except CliError (Option Fields) := do
  require (∀ change ∈ changes, change.1 ∈ permissionKeys) .typeError
  let (revision, permissions) ← readPermissions agentId answer
  require (∀ change ∈ changes, (Json.property? permissions change.1).isSome = true) .typeError
  if applies permissions changes then pure none
  else do
    let challenge ← challenge
    let body ← buildPermissionsUpdate signBytes authority controllerId ownerKey agentId challenge
      (.int revision) (Json.spread permissions changes) idempotencyKey
    pure (some body)

/-- The server returned these permissions at this revision. -/
def Returned (answer : PermissionsAnswer) (revision : Int) (permissions : Fields) : Prop :=
  ∃ fields, answer.body = .obj fields ∧ Json.property? fields "revision" = some (.int revision) ∧
    Json.property? fields "permissions" = some (.obj permissions)

section

variable {signBytes : PrivateJwk → ByteArray → String} {agentId : Json} {changes : Fields}
  {answer : PermissionsAnswer} {revision : Int} {permissions : Fields}

theorem ownProperties_ok {value : Option Json} {fields : Fields}
    (read : ownProperties value = .ok fields) :
    value = some (.obj fields) ∨ fields = [] := by
  unfold ownProperties at read
  split at read
  next => exact .inl (congrArg _ (congrArg _ (Except.ok.inj read)))
  next => exact .inr (Except.ok.inj read).symm
  next => cases read

/-- A read view is one that the server returned, if its permissions are not empty. -/
theorem readPermissions_returned
    (read : readPermissions agentId answer = .ok (revision, permissions))
    (notEmpty : permissions ≠ []) : Returned answer revision permissions := by
  unfold readPermissions assertView at read
  rw [require_bind_ok, bind_ok] at read
  obtain ⟨-, fields, isView, read⟩ := read
  rw [require_bind_ok] at read
  obtain ⟨-, read⟩ := read
  split at read
  next number isRevision =>
    rw [require_bind_ok, bind_ok] at read
    obtain ⟨-, own, isOwn, read⟩ := read
    rw [require_bind_ok, pure_ok] at read
    obtain ⟨-, same⟩ := read
    obtain ⟨rfl, rfl⟩ := Prod.mk.inj same
    rcases ownProperties_ok isView with isObject | isEmpty
    · rcases ownProperties_ok isOwn with isPermissions | isEmpty
      · exact ⟨fields, Option.some.inj isObject, isRevision, isPermissions⟩
      · exact absurd isEmpty notEmpty
    · rw [isEmpty] at isRevision
      cases isRevision
  next => cases read

/-- What `setPermissions` signs are the permissions of the server with the changes, in the
version of this client. -/
theorem setPermissions_signed {authority controllerId idempotencyKey : Json}
    {ownerKey : PrivateJwk} {challenge : Except CliError Json} {body : Fields}
    (distinct : (changes.map Prod.fst).Nodup)
    (signed : setPermissions signBytes authority controllerId ownerKey agentId changes answer
      challenge idempotencyKey = .ok (some body)) :
    ∃ revision permissions signedPermissions, Returned answer revision permissions ∧
      Json.property? body "expected_revision" = some (.int revision) ∧
      Json.property? body "permissions" = some (.obj signedPermissions) ∧
      ∀ key, Json.property? signedPermissions key =
        if "permissions_version" = key then some (.int 1)
        else (Json.property? changes key).or (Json.property? permissions key) := by
  unfold setPermissions at signed
  rw [require_bind_ok, bind_ok] at signed
  obtain ⟨-, ⟨revision, permissions⟩, isRead, signed⟩ := signed
  dsimp only at signed
  rw [require_bind_ok] at signed
  obtain ⟨areOwn, signed⟩ := signed
  split at signed
  · cases signed
  next changesNothing =>
    rw [bind_ok] at signed
    obtain ⟨given, -, signed⟩ := signed
    rw [bind_ok] at signed
    obtain ⟨built, isBuilt, signed⟩ := signed
    obtain rfl := Option.some.inj (pure_ok.mp signed)
    obtain ⟨-, isRevision, arePermissions⟩ :=
      @buildPermissionsUpdate_signed id _ _ _ _ _ _ _ _ _ _ isBuilt
    refine ⟨revision, permissions, _, ?_, isRevision, arePermissions, fun key => ?_⟩
    · refine readPermissions_returned isRead ?_
      rintro rfl
      -- Something is changed, and it is a permission of the server.
      cases changes with
      | nil => exact changesNothing rfl
      | cons change rest => cases areOwn change List.mem_cons_self
    · rw [Json.property?_assign, Json.property?_spread distinct]

end

/-! ## The theorem -/

/-- For every request that a builder accepts, the message is computed again from the body that
was written and read, and from one that went through a journal file. Two signed messages are
equal only if they are of the same builder, with the same nonce and the same fields up to the
order of keys. What `setPermissions` signs are the permissions that the server returned at
the expected revision, with the requested values and with the version 1. -/
theorem signed_bytes_determine (sha256Hex : String → String)
    (signBytes : PrivateJwk → ByteArray → String) (collisionFree : Function.Injective sha256Hex) :
    (∀ (request : Request) challenge ownerKey workloadKey body,
      request.build sha256Hex signBytes challenge ownerKey workloadKey = .ok body →
      ∃ nonceSha256 bytes, nonceOf challenge = some nonceSha256 ∧
        Json.property? body request.builder.proof = some (.str (signBytes ownerKey bytes)) ∧
        (∃ read, Json.parse (Json.obj body).text = some (.obj read) ∧
          request.builder.message sha256Hex read nonceSha256 = .ok bytes) ∧
        ∀ entry, (Json.obj entry).Finite → Json.property? entry "body" = some (.obj body) →
          ∃ readEntry read, Json.parse ((Json.obj entry).text ++ "\n") = some (.obj readEntry) ∧
            Json.property? readEntry "body" = some (.obj read) ∧
            request.builder.message sha256Hex read nonceSha256 = .ok bytes) ∧
    (∀ (first second : Request) challenge challengeToo ownerKey ownerKeyToo workloadKey
        workloadKeyToo body bodyToo nonceSha256 nonceToo bytes,
      first.build sha256Hex signBytes challenge ownerKey workloadKey = .ok body →
      second.build sha256Hex signBytes challengeToo ownerKeyToo workloadKeyToo = .ok bodyToo →
      first.builder.message sha256Hex body nonceSha256 = .ok bytes →
      second.builder.message sha256Hex bodyToo nonceToo = .ok bytes →
      first.builder = second.builder ∧ nonceSha256 = nonceToo ∧
        ∀ name ∈ first.builder.envelopeNames, ∃ value valueToo,
          Json.property? body name = some value ∧ Json.property? bodyToo name = some valueToo ∧
            value.Same valueToo) ∧
    (∀ authority controllerId ownerKey agentId changes answer challenge idempotencyKey body,
      (changes.map Prod.fst).Nodup →
      setPermissions signBytes authority controllerId ownerKey agentId changes answer challenge
        idempotencyKey = .ok (some body) →
      ∃ revision permissions signedPermissions, Returned answer revision permissions ∧
        Json.property? body "expected_revision" = some (.int revision) ∧
        Json.property? body "permissions" = some (.obj signedPermissions) ∧
        ∀ key, Json.property? signedPermissions key =
          if "permissions_version" = key then some (.int 1)
          else (Json.property? changes key).or (Json.property? permissions key)) := by
  refine ⟨?_, ?_, ?_⟩
  · intro request challenge ownerKey workloadKey body built
    obtain ⟨nonceSha256, bytes, signed⟩ := Request.build_signed built
    refine ⟨nonceSha256, bytes, signed.nonce, signed.proof, ?_, ?_⟩
    · exact ⟨body, signed.finite.parse_text, signed.message⟩
    · intro entry isFinite isBody
      exact ⟨entry, body, isFinite.readsBack.parse "\n" rfl, isBody, signed.message⟩
  · intro first second challenge challengeToo ownerKey ownerKeyToo workloadKey workloadKeyToo body
      bodyToo nonceSha256 nonceToo bytes _ _ isMessage isMessageToo
    obtain ⟨sameBuilder, sameNonce, each⟩ :=
      Builder.message_injective collisionFree isMessage isMessageToo
    refine ⟨sameBuilder, sameNonce, fun name isName => ?_⟩
    exact each name (first.builder.envelopeNames_covered name isName)
  · intro authority controllerId ownerKey agentId changes answer challenge idempotencyKey body
      distinct signed
    exact setPermissions_signed distinct signed

/-! ## An update -/

def sampleAgent : Json :=
  .str "agent_00000000000000000000000000000000"

def sampleNonce : String :=
  "0000000000000000000000000000000000000000000000000000000000000000"

def sampleKey : PrivateJwk :=
  ⟨"x", "d"⟩

/-- The owner challenge for an update of the permissions. -/
def sampleChallenge : Json :=
  .obj [("challenge_id", .str "owner_challenge_00000000000000000000000000000000"),
    ("nonce_sha256", .str sampleNonce), ("operation", .str "agent.permissions.update"),
    ("agent_id", sampleAgent), ("authority", .str "https://mesh"), ("controller_id", .str "c")]

/-- A server with a newer version of the permissions. -/
def newerPermissions : Fields :=
  [("permissions_version", .int 2), ("posts.publish", .bool false)]

def newerAnswer : PermissionsAnswer where
  status := 200
  tagged := some 3
  body := .obj [("agent_id", sampleAgent), ("revision", .int 3),
    ("permissions", .obj newerPermissions)]

def sampleChanges : Fields :=
  [("posts.publish", .bool true)]

def sampleUpdate : Except CliError (Option Fields) :=
  setPermissions (fun _ _ => "") (.str "https://mesh") (.str "c") sampleKey sampleAgent
    sampleChanges newerAnswer (.ok sampleChallenge) (.str "idem")

/-- The version that is signed. -/
def signedVersion (update : Except CliError (Option Fields)) : Option Int :=
  match update with
  | .ok (some body) =>
      match Json.property? body "permissions" with
      | some (.obj permissions) =>
          match Json.property? permissions "permissions_version" with
          | some (.int version) => some version
          | _ => none
      | _ => none
  | _ => none

/-- The version of the permissions is signed as 1, whatever the server returned. -/
theorem unrequested_version_signed :
    ¬ ∀ body signedPermissions, sampleUpdate = .ok (some body) →
      Json.property? body "permissions" = some (.obj signedPermissions) →
      ∀ key, key ∉ sampleChanges.map Prod.fst →
        Json.property? signedPermissions key = Json.property? newerPermissions key := by
  intro unchanged
  have isOne : signedVersion sampleUpdate = some 1 := by
    decide +kernel
  unfold signedVersion at isOne
  split at isOne
  next body isUpdate =>
    split at isOne
    next permissions arePermissions =>
      have same := unchanged body permissions isUpdate arePermissions "permissions_version"
        (by decide)
      rw [same] at isOne
      cases isOne
    next => cases isOne
  next => cases isOne

/-- An owner operation, and its challenge. -/
def sampleOperation : Request :=
  .ownerOperation (.str "https://mesh") (.str "c") (.str "agent.pause") sampleAgent
    (.obj [("reason", .str "test"), ("again", .arr [.int 1, .null])]) (.str "idem")

def operationChallenge : Json :=
  .obj [("challenge_id", .str "owner_challenge_00000000000000000000000000000000"),
    ("nonce_sha256", .str sampleNonce), ("operation", .str "agent.pause"),
    ("target", sampleAgent), ("authority", .str "https://mesh"), ("controller_id", .str "c")]

theorem sampleOperation_signed : ∃ body bytes,
    sampleOperation.build id (fun _ _ => "") operationChallenge sampleKey none = .ok body ∧
      ∃ read, Json.parse (Json.obj body).text = some (.obj read) ∧
        ownerOperationMessage read sampleNonce = .ok bytes := by
  have isBuilt : (sampleOperation.build id (fun _ _ => "") operationChallenge sampleKey
      none).isOk = true := by
    decide +kernel
  cases built : sampleOperation.build id (fun _ _ => "") operationChallenge sampleKey none with
  | error problem =>
      rw [built] at isBuilt
      cases isBuilt
  | ok body =>
      obtain ⟨nonceSha256, bytes, isNonce, -, ⟨read, isRead, isMessage⟩, -⟩ :=
        (signed_bytes_determine id (fun _ _ => "") Function.injective_id).1 sampleOperation
          operationChallenge sampleKey none body built
      have isSample : nonceOf operationChallenge = some sampleNonce := rfl
      obtain rfl := Option.mem_unique isNonce isSample
      exact ⟨body, bytes, rfl, read, isRead, isMessage⟩

end Triangle.OwnerCli.Wire
