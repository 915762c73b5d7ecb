import Triangle.OwnerCli.Protocol
import Triangle.Std.CanonicalValue
import Triangle.Std.JsonObject

/-!
# Signed bytes

The signed requests of `protocol.mjs` as bytes. A message is canonical JSON of the fields of
an envelope and the nonce of its challenge. The names of the fields tell the three kinds of
messages apart, and canonical JSON tells their values apart, so a message determines the
request that it was signed for (`message_injective`).
-/

namespace Triangle.OwnerCli.Wire

open Triangle.Std

/-- The properties of an object. -/
abbrev Fields := List (String × Json)

/-! ## Canonical JSON -/

mutual

/-- A value of the domain that MESH signs: its numbers are safe integers. No object has a key
twice. -/
def isSignable : Json → Bool
  | .null => true
  | .bool _ => true
  | .int value => Json.isSafe value
  | .float _ => false
  | .str _ => true
  | .arr items => areSignable items
  | .obj fields => haveSignable fields && decide (fields.map Prod.fst).Nodup

def areSignable : List Json → Bool
  | [] => true
  | item :: rest => isSignable item && areSignable rest

def haveSignable : Fields → Bool
  | [] => true
  | field :: rest => hasSignable field && haveSignable rest

def hasSignable : String × Json → Bool
  | (_, value) => isSignable value

end

/-- `canonicalJson`. What it refuses anywhere in a value, it refuses the value for. -/
def canonicalJson (value : Json) : Except CliError String := do
  require (isSignable value = true) .typeError
  pure value.canonicalJson

def canonicalBytes (value : Json) : Except CliError ByteArray := do
  pure (← canonicalJson value).toUTF8

mutual

theorem isSignable_iff : ∀ {value : Json}, isSignable value = true ↔ value.Plain
  | .null => by simp [isSignable, Json.Plain]
  | .bool _ => by simp [isSignable, Json.Plain]
  | .int _ => by simp [isSignable, Json.Plain]
  | .float _ => by simp [isSignable, Json.Plain]
  | .str _ => by simp [isSignable, Json.Plain]
  | .arr items => by
      rw [isSignable, Json.Plain]
      exact areSignable_iff
  | .obj fields => by
      rw [isSignable, Json.Plain, Bool.and_eq_true, decide_eq_true_eq, haveSignable_iff]

theorem areSignable_iff : ∀ {items : List Json}, areSignable items = true ↔ Json.PlainItems items
  | [] => by simp [areSignable, Json.PlainItems]
  | item :: rest => by
      rw [areSignable, Json.PlainItems, Bool.and_eq_true, isSignable_iff, areSignable_iff]

theorem haveSignable_iff : ∀ {fields : Fields},
    haveSignable fields = true ↔ Json.PlainFields fields
  | [] => by simp [haveSignable, Json.PlainFields]
  | (_, _) :: rest => by
      rw [haveSignable, Json.PlainFields, Bool.and_eq_true, hasSignable, Json.PlainField,
        isSignable_iff, haveSignable_iff]

end

/-! ## Messages -/

/-- The bytes of some fields of an envelope and of more fields. A field that the envelope does
not have is `undefined`, which canonical JSON refuses. -/
def messageOf (names : List String) (envelope more : Fields) : Except CliError ByteArray :=
  match Json.pick envelope names with
  | some picked => canonicalBytes (.obj (picked ++ more))
  | none => .error .typeError

/-- The three builders of signed requests. -/
inductive Builder
  | redemption
  | ownerOperation
  | permissionsUpdate
  deriving DecidableEq

/-- The fields of an envelope that stand in its message. -/
def Builder.names : Builder → List String
  | .redemption =>
      ["agent", "authority", "challenge_id", "device_label", "display_name", "invite_id",
        "owner_public_jwk", "profile"]
  | .ownerOperation =>
      ["authority", "challenge_id", "controller_id", "idempotency_key", "operation", "params",
        "profile", "target"]
  | .permissionsUpdate =>
      ["agent_id", "authority", "challenge_id", "controller_id", "expected_revision",
        "idempotency_key", "permissions", "profile"]

section

variable (sha256Hex : String → String)

def redemptionMessage (envelope : Fields) (nonceSha256 : String) : Except CliError ByteArray :=
  match Json.property? envelope "invite_secret" with
  | some (.str secret) =>
      messageOf Builder.redemption.names envelope
        [("invite_secret_sha256", .str (sha256Hex secret)), ("nonce_sha256", .str nonceSha256)]
  | _ => .error .typeError

def ownerOperationMessage (envelope : Fields) (nonceSha256 : String) :
    Except CliError ByteArray :=
  messageOf Builder.ownerOperation.names envelope [("nonce_sha256", .str nonceSha256)]

def permissionsUpdateMessage (envelope : Fields) (nonceSha256 : String) :
    Except CliError ByteArray :=
  messageOf Builder.permissionsUpdate.names envelope [("nonce_sha256", .str nonceSha256)]

/-- The message of an envelope. -/
def Builder.message : Builder → Fields → String → Except CliError ByteArray
  | .redemption => redemptionMessage sha256Hex
  | .ownerOperation => ownerOperationMessage
  | .permissionsUpdate => permissionsUpdateMessage

end

/-! ## What a message determines -/

variable {bytes : ByteArray}

theorem canonicalBytes_ok {value : Json} :
    canonicalBytes value = .ok bytes ↔ value.Plain ∧ value.canonicalJson.toUTF8 = bytes := by
  unfold canonicalBytes canonicalJson
  rw [bind_ok]
  constructor
  · rintro ⟨text, isText, isBytes⟩
    rw [require_bind_ok, pure_ok] at isText
    obtain ⟨signable, rfl⟩ := isText
    exact ⟨isSignable_iff.mp signable, pure_ok.mp isBytes⟩
  · rintro ⟨plain, isBytes⟩
    refine ⟨value.canonicalJson, ?_, pure_ok.mpr isBytes⟩
    rw [require_bind_ok]
    exact ⟨isSignable_iff.mpr plain, rfl⟩

/-- Values are signed alike exactly if they are the same up to the order of keys. -/
theorem same_of_bytes {value other : Json} (isFirst : canonicalBytes value = .ok bytes)
    (isSecond : canonicalBytes other = .ok bytes) : value.Same other := by
  obtain ⟨plain, isBytes⟩ := canonicalBytes_ok.mp isFirst
  obtain ⟨plainOther, isBytesToo⟩ := canonicalBytes_ok.mp isSecond
  have sameText : value.canonicalJson = other.canonicalJson := by
    apply String.toByteArray_inj.mp
    exact isBytes.trans isBytesToo.symm
  exact (Json.canonicalJson_eq_iff plain.finite plainOther.finite).mp sameText

theorem messageOf_ok {names : List String} {envelope more : Fields} :
    messageOf names envelope more = .ok bytes ↔ ∃ picked,
      Json.pick envelope names = some picked ∧
        canonicalBytes (.obj (picked ++ more)) = .ok bytes := by
  unfold messageOf
  cases Json.pick envelope names with
  | none | some => simp

/-- The fields of a message that do not stand in its envelope. -/
def Builder.more (sha256Hex : String → String) (builder : Builder) (envelope : Fields)
    (nonceSha256 : String) : Option Fields :=
  match builder with
  | .redemption =>
      match Json.property? envelope "invite_secret" with
      | some (.str secret) =>
          some [("invite_secret_sha256", .str (sha256Hex secret)),
            ("nonce_sha256", .str nonceSha256)]
      | _ => none
  | .ownerOperation => some [("nonce_sha256", .str nonceSha256)]
  | .permissionsUpdate => some [("nonce_sha256", .str nonceSha256)]

def Builder.moreNames : Builder → List String
  | .redemption => ["invite_secret_sha256", "nonce_sha256"]
  | .ownerOperation => ["nonce_sha256"]
  | .permissionsUpdate => ["nonce_sha256"]

/-- A field that the messages of this builder have and those of no other. -/
def Builder.mark : Builder → String
  | .redemption => "agent"
  | .ownerOperation => "params"
  | .permissionsUpdate => "permissions"

theorem Builder.mark_iff (builder other : Builder) :
    builder.mark ∈ other.names ++ other.moreNames ↔ builder = other := by
  cases builder <;> cases other <;> decide

/-- The fields that a message covers. -/
def Builder.covered : Builder → List String
  | .redemption => "invite_secret" :: Builder.redemption.names
  | builder => builder.names

section

variable {sha256Hex : String → String} {builder other : Builder} {envelope more : Fields}
  {nonceSha256 : String} {bytes : ByteArray}

theorem Builder.message_ok :
    builder.message sha256Hex envelope nonceSha256 = .ok bytes ↔ ∃ picked more,
      Json.pick envelope builder.names = some picked ∧
        builder.more sha256Hex envelope nonceSha256 = some more ∧
        canonicalBytes (.obj (picked ++ more)) = .ok bytes := by
  cases builder with
  | redemption =>
      unfold Builder.message redemptionMessage Builder.more
      dsimp only
      split
      next secret isSecret =>
        rw [messageOf_ok]
        simp
      next => simp
  | ownerOperation =>
      unfold Builder.message ownerOperationMessage Builder.more
      dsimp only
      rw [messageOf_ok]
      simp
  | permissionsUpdate =>
      unfold Builder.message permissionsUpdateMessage Builder.more
      dsimp only
      rw [messageOf_ok]
      simp

section

variable (isMore : builder.more sha256Hex envelope nonceSha256 = some more)
include isMore

theorem Builder.more_keys : more.map Prod.fst = builder.moreNames := by
  cases builder with
  | redemption =>
      unfold Builder.more at isMore
      dsimp only at isMore
      split at isMore
      · cases isMore
        rfl
      · cases isMore
  | ownerOperation | permissionsUpdate =>
      cases isMore
      rfl

/-- Every message carries its nonce. -/
theorem Builder.more_nonce : Json.property? more "nonce_sha256" = some (.str nonceSha256) := by
  cases builder with
  | redemption =>
      unfold Builder.more at isMore
      dsimp only at isMore
      split at isMore
      · cases isMore
        rfl
      · cases isMore
  | ownerOperation | permissionsUpdate =>
      cases isMore
      rfl

end

/-- The message of a redemption carries the hash of its secret. -/
theorem more_secret (isMore : Builder.redemption.more sha256Hex envelope nonceSha256 = some more) :
    ∃ secret, Json.property? envelope "invite_secret" = some (.str secret) ∧
      Json.property? more "invite_secret_sha256" = some (.str (sha256Hex secret)) := by
  unfold Builder.more at isMore
  dsimp only at isMore
  split at isMore
  next secret isSecret =>
    cases isMore
    exact ⟨secret, isSecret, rfl⟩
  next => cases isMore

variable {envelopeToo : Fields} {nonceToo : String}

/-- What reads the same in two envelopes, is signed the same. -/
theorem Builder.message_congr (same : ∀ name ∈ builder.covered,
    Json.property? envelope name = Json.property? envelopeToo name) :
    builder.message sha256Hex envelope nonceSha256 =
      builder.message sha256Hex envelopeToo nonceSha256 := by
  have picked : Json.pick envelope builder.names = Json.pick envelopeToo builder.names := by
    refine Json.pick_congr fun name isName => same name ?_
    cases builder with
    | redemption => exact List.mem_cons_of_mem _ isName
    | ownerOperation | permissionsUpdate => exact isName
  cases builder with
  | redemption =>
      unfold Builder.message redemptionMessage messageOf
      dsimp only
      rw [same "invite_secret" List.mem_cons_self, picked]
  | ownerOperation =>
      unfold Builder.message ownerOperationMessage messageOf
      dsimp only
      rw [picked]
  | permissionsUpdate =>
      unfold Builder.message permissionsUpdateMessage messageOf
      dsimp only
      rw [picked]

/-- Two messages with the same bytes have the same fields. -/
theorem Builder.same_of_message {envelopeToo picked pickedToo moreToo : Fields}
    (isPicked : Json.pick envelope builder.names = some picked)
    (isMore : builder.more sha256Hex envelope nonceSha256 = some more)
    (isBytes : canonicalBytes (.obj (picked ++ more)) = .ok bytes)
    (isPickedToo : Json.pick envelopeToo other.names = some pickedToo)
    (isMoreToo : other.more sha256Hex envelopeToo nonceToo = some moreToo)
    (isBytesToo : canonicalBytes (.obj (pickedToo ++ moreToo)) = .ok bytes) :
    builder = other ∧ ∀ key value valueToo,
      Json.property? (picked ++ more) key = some value →
      Json.property? (pickedToo ++ moreToo) key = some valueToo → value.Same valueToo := by
  have same := same_of_bytes isBytes isBytesToo
  cases same with
  | obj sameKeys each =>
      refine ⟨?_, each⟩
      -- The mark of the builder is a key of its message, so of the other one too.
      have isKey : builder.mark ∈ (picked ++ more).map Prod.fst := by
        rw [List.map_append, Json.pick_keys isPicked, Builder.more_keys isMore]
        exact (Builder.mark_iff builder builder).mpr rfl
      have isKeyToo : builder.mark ∈ (pickedToo ++ moreToo).map Prod.fst := by
        by_contra absent
        rw [← Json.property?_eq_none_iff] at absent
        exact Json.property?_eq_none_iff.mp ((sameKeys _).mpr absent) isKey
      rw [List.map_append, Json.pick_keys isPickedToo, Builder.more_keys isMoreToo] at isKeyToo
      exact (Builder.mark_iff builder other).mp isKeyToo

theorem Builder.more_apart (builder : Builder) :
    ∀ name ∈ builder.moreNames, name ∉ builder.names := by
  cases builder <;> decide

/-- A message determines its builder, its nonce and the fields that it covers, up to the
order of keys. -/
theorem Builder.message_injective (collisionFree : Function.Injective sha256Hex)
    (isMessage : builder.message sha256Hex envelope nonceSha256 = .ok bytes)
    (isMessageToo : other.message sha256Hex envelopeToo nonceToo = .ok bytes) :
    builder = other ∧ nonceSha256 = nonceToo ∧
      ∀ name ∈ builder.covered, ∃ value valueToo,
        Json.property? envelope name = some value ∧
          Json.property? envelopeToo name = some valueToo ∧ value.Same valueToo := by
  obtain ⟨picked, more, isPicked, isMore, isBytes⟩ := Builder.message_ok.mp isMessage
  obtain ⟨pickedToo, moreToo, isPickedToo, isMoreToo, isBytesToo⟩ :=
    Builder.message_ok.mp isMessageToo
  obtain ⟨rfl, each⟩ := Builder.same_of_message isPicked isMore isBytes isPickedToo isMoreToo
    isBytesToo
  -- Fields that are not picked are read behind those that are.
  have behind : ∀ {fields pickedFields moreFields : Fields} {name : String},
      Json.pick fields builder.names = some pickedFields → name ∈ builder.moreNames →
      Json.property? (pickedFields ++ moreFields) name = Json.property? moreFields name := by
    intro fields pickedFields moreFields name isPick isName
    have absent : Json.property? pickedFields name = none := by
      rw [Json.property?_eq_none_iff, Json.pick_keys isPick]
      exact builder.more_apart name isName
    rw [Json.property?_append, absent]
    rfl
  have picks : ∀ name ∈ builder.names, ∃ value valueToo,
      Json.property? envelope name = some value ∧
        Json.property? envelopeToo name = some valueToo ∧ value.Same valueToo := by
    intro name isName
    have read : ∀ {fields pickedFields : Fields}, Json.pick fields builder.names =
        some pickedFields → ∃ value, Json.property? pickedFields name = some value ∧
          Json.property? fields name = some value := by
      intro fields pickedFields isPick
      cases isRead : Json.property? pickedFields name with
      | none =>
          rw [Json.property?_eq_none_iff, Json.pick_keys isPick] at isRead
          exact absurd isName isRead
      | some value => exact ⟨value, rfl, (Json.property?_pick isPick isName).symm.trans isRead⟩
    obtain ⟨value, isValue, isOwn⟩ := read isPicked
    obtain ⟨valueToo, isValueToo, isOwnToo⟩ := read isPickedToo
    refine ⟨value, valueToo, isOwn, isOwnToo, each name value valueToo ?_ ?_⟩
    · rw [Json.property?_append, isValue]
      rfl
    · rw [Json.property?_append, isValueToo]
      rfl
  have isNonce : "nonce_sha256" ∈ builder.moreNames := by
    cases builder <;> decide
  refine ⟨rfl, ?_, ?_⟩
  · have same := each "nonce_sha256" _ _ ((behind isPicked isNonce).trans (more_nonce isMore))
      ((behind isPickedToo isNonce).trans (more_nonce isMoreToo))
    cases same
    rfl
  · cases builder with
    | redemption =>
        intro name isName
        rcases List.mem_cons.mp isName with rfl | isPlain
        · obtain ⟨secret, isSecret, isHash⟩ := more_secret isMore
          obtain ⟨secretToo, isSecretToo, isHashToo⟩ := more_secret isMoreToo
          have same := each "invite_secret_sha256" _ _
            ((behind isPicked (by decide)).trans isHash)
            ((behind isPickedToo (by decide)).trans isHashToo)
          have sameHash : sha256Hex secret = sha256Hex secretToo := by
            generalize sha256Hex secret = first at same
            generalize sha256Hex secretToo = second at same
            cases same
            rfl
          rw [collisionFree sameHash] at isSecret
          exact ⟨_, _, isSecret, isSecretToo, .str _⟩
        · exact picks name isPlain
    | ownerOperation | permissionsUpdate => exact picks

end

/-! ## Challenges -/

def isNull : Json → Bool
  | .null => true
  | _ => false

mutual

/-- `String(value)`. -/
def stringOf : Json → String
  | .null => "null"
  | .bool value => if value then "true" else "false"
  | .int value => toString value
  | .float text => text
  | .str text => text
  | .arr items => joined items
  | .obj _ => "[object Object]"

/-- `items.join(",")`, which writes nothing for `null`. -/
def joined : List Json → String
  | [] => ""
  | [item] => if isNull item then "" else stringOf item
  | item :: next :: rest =>
      (if isNull item then "" else stringOf item) ++ "," ++ joined (next :: rest)

end

/-- `first === second`. An object is the same as itself only, and what the server sent is
no object of the caller. -/
def strictEq : Json → Json → Bool
  | .null, .null => true
  | .bool first, .bool second => first = second
  | .int first, .int second => first = second
  | .float first, .float second => first = second
  | .str first, .str second => first = second
  | _, _ => false

/-- `value ?? null`. -/
def orNull (value : Option Json) : Json :=
  value.getD .null

/-- `value ?? ""`. -/
def orEmpty : Option Json → Json
  | some .null => .str ""
  | some value => value
  | none => .str ""

/-- `assertChallenge` for a kind of challenge and the fields of the request that was meant. It
returns the id and the nonce of the challenge. -/
def assertChallenge (kind : String) (expected : Fields) (challenge : Json) :
    Except CliError (Json × String) :=
  match challenge with
  | .obj fields =>
      match Json.property? fields "nonce_sha256" with
      | some (.str nonceSha256) => do
          require (Text.isHex64 nonceSha256 = true) .typeError
          let challengeId := orEmpty (Json.property? fields "challenge_id")
          require (Text.matchesLedClass (kind ++ "_challenge_") Text.isLowerHex 32 32
            (stringOf challengeId) = true) .typeError
          require (expected.all (fun field =>
            strictEq (orNull (Json.property? fields field.1)) field.2) = true) .typeError
          pure (challengeId, nonceSha256)
      | _ => .error .typeError
  | _ => .error .typeError

/-! ## Builders -/

def publicJwk (privateJwk : PrivateJwk) : Json :=
  .obj [("crv", .str "Ed25519"), ("kty", .str "OKP"), ("x", .str privateJwk.x)]

def isString : Json → Bool
  | .str _ => true
  | _ => false

section

variable (sha256Hex : String → String) (signBytes : PrivateJwk → ByteArray → String)

/-- The proof of a key that may be missing. -/
def proofBy (key : Option PrivateJwk) (message : ByteArray) : Json :=
  match key with
  | some key => .str (signBytes key message)
  | none => .null

def buildRedemption (authority inviteId secret challenge : Json) (ownerKey : PrivateJwk)
    (deviceLabel displayName agent : Json) (workloadKey : Option PrivateJwk) :
    Except CliError Fields := do
  let (challengeId, nonceSha256) ←
    assertChallenge "invite" [("invite_id", inviteId), ("authority", authority)] challenge
  require (isNull agent = workloadKey.isNone) .typeError
  let envelope : Fields :=
    [("profile", .str "mesh.invite-redemption/1"),
      ("authority", authority),
      ("invite_id", inviteId),
      ("invite_secret", secret),
      ("challenge_id", challengeId),
      ("owner_public_jwk", publicJwk ownerKey),
      ("device_label", deviceLabel),
      ("display_name", displayName),
      ("agent", agent)]
  let message ← redemptionMessage sha256Hex envelope nonceSha256
  pure (envelope ++
    [("owner_proof", .str (signBytes ownerKey message)),
      ("workload_proof", proofBy signBytes workloadKey message)])

def buildOwnerOperation (authority controllerId : Json) (ownerKey : PrivateJwk)
    (challenge operation target params idempotencyKey : Json) (workloadKey : Option PrivateJwk) :
    Except CliError Fields := do
  require (isString operation = true) .typeError
  let (challengeId, nonceSha256) ←
    assertChallenge "owner"
      [("operation", operation), ("target", target), ("authority", authority),
        ("controller_id", controllerId)] challenge
  let envelope : Fields :=
    [("profile", .str "mesh.owner-operation/1"),
      ("authority", authority),
      ("controller_id", controllerId),
      ("challenge_id", challengeId),
      ("operation", operation),
      ("target", target),
      ("params", params),
      ("idempotency_key", idempotencyKey)]
  let message ← ownerOperationMessage envelope nonceSha256
  pure (envelope ++
    [("proof", .str (signBytes ownerKey message)),
      ("workload_proof", proofBy signBytes workloadKey message)])

def buildPermissionsUpdate (authority controllerId : Json) (ownerKey : PrivateJwk)
    (agentId challenge expectedRevision : Json) (permissions : Fields) (idempotencyKey : Json) :
    Except CliError Fields := do
  let (challengeId, nonceSha256) ←
    assertChallenge "owner"
      [("operation", .str "agent.permissions.update"), ("agent_id", agentId),
        ("authority", authority), ("controller_id", controllerId)] challenge
  let envelope : Fields :=
    [("profile", .str "mesh.agent-permissions-update/1"),
      ("authority", authority),
      ("agent_id", agentId),
      ("controller_id", controllerId),
      ("challenge_id", challengeId),
      ("expected_revision", expectedRevision),
      ("permissions", .obj (Json.assign permissions "permissions_version" (.int 1))),
      ("idempotency_key", idempotencyKey)]
  let message ← permissionsUpdateMessage envelope nonceSha256
  pure (envelope ++ [("proof", .str (signBytes ownerKey message))])

end

end Triangle.OwnerCli.Wire
