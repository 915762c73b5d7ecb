import Triangle.Identity.Registry
import Triangle.Semantics.Machine

/-!
# Bound principals

A binding that validation accepts says what its JSON says (`ReadsAs`) and its ids are
well formed (`ProfileBinding.Valid`). In every registry that updates lead to, an
unrevoked binding is the only one of its principal (`OneBindingEach`).
-/

namespace Triangle.Identity

open Triangle.Std

variable {platform : Platform}

/-! ## Accepted bindings -/

/-- The fields of a binding as its JSON states them. -/
structure ReadsAs (fields : List (String × Json)) (binding : ProfileBinding) : Prop where
  bindingId : Json.property fields "binding_id" = .str binding.bindingId
  principalId : Json.property fields "principal_id" = .str binding.principalId
  profileName : Json.property fields "profile_name" = .str binding.profileName
  profileInstanceId : Json.property fields "profile_instance_id" = .str binding.profileInstanceId
  authorityOrigin : Json.property fields "authority_origin" = .str binding.authorityOrigin
  bindingGeneration : Json.property fields "binding_generation" = .int binding.bindingGeneration
  issuedAt : Json.property fields "issued_at" = .str binding.issuedAt
  revokedAt : Json.property fields "revoked_at" = textOrNull binding.revokedAt

/-- The ids are of their forms, and the generation is a safe integer. -/
structure ProfileBinding.Valid (binding : ProfileBinding) : Prop where
  principalId : isAgentId binding.principalId = true
  profileInstanceId : Text.isHex64 binding.profileInstanceId = true
  bindingGeneration : Json.isSafe binding.bindingGeneration = true

variable {value json : Json} {text key subject : String} {seen bindings : Bindings}
  {binding : ProfileBinding} {registry : Registry} {current : RegistryState}

theorem acceptedText_eq_some {accepts : String → Bool} :
    acceptedText accepts value = some text ↔ value = .str text ∧ accepts text = true := by
  cases value with
  | str other =>
      by_cases accepted : accepts other = true
      · simp only [acceptedText, accepted, if_true, Option.some.injEq, Json.str.injEq]
        constructor
        · rintro rfl
          exact ⟨rfl, accepted⟩
        · exact And.left
      · simp only [acceptedText, accepted, Json.str.injEq]
        constructor
        · nofun
        · rintro ⟨rfl, isAccepted⟩
          exact absurd isAccepted accepted
  | null | bool | int | float | arr | obj => simp [acceptedText]

theorem safeInteger_eq_some {low : Int} {number : Int} :
    safeInteger low value = some number ↔
      value = .int number ∧ Json.isSafe number = true ∧ low ≤ number := by
  cases value with
  | int other =>
      by_cases inRange : Json.isSafe other = true ∧ low ≤ other
      · simp only [safeInteger, if_pos inRange, Option.some.injEq, Json.int.injEq]
        constructor
        · rintro rfl
          exact ⟨rfl, inRange⟩
        · exact And.left
      · simp only [safeInteger, if_neg inRange, Json.int.injEq]
        constructor
        · nofun
        · rintro ⟨rfl, isInRange⟩
          exact absurd isInRange inRange
  | null | bool | float | str | arr | obj => simp [safeInteger]

theorem instantText_eq_some {instant : Int} (read : instantText value = some (text, instant)) :
    value = .str text := by
  cases value with
  | str other =>
      unfold instantText at read
      rw [Option.map_eq_some_iff] at read
      obtain ⟨_, -, same⟩ := read
      exact congrArg Json.str (congrArg Prod.fst same)
  | null | bool | int | float | arr | obj => cases read

theorem readRevokedAt_ok {issuedMs : Int} {revokedAt : Option String}
    (accepted : readRevokedAt issuedMs value = .ok revokedAt) : value = textOrNull revokedAt := by
  unfold readRevokedAt at accepted
  split at accepted
  · rw [← Except.ok.inj accepted]
    rfl
  · rw [expect_bind_ok] at accepted
    obtain ⟨⟨text, revokedMs⟩, read, accepted⟩ := accepted
    rw [require_bind_ok] at accepted
    rw [← pure_ok.mp accepted.2]
    exact instantText_eq_some read

/-- An accepted binding reads as its JSON, is valid and stands at its own key. -/
theorem validateBindingRecord_ok
    (accepted : validateBindingRecord platform key json seen = .ok binding) :
    (∃ fields, json = .obj fields ∧ ReadsAs fields binding) ∧ binding.Valid ∧
      key = binding.profileInstanceId := by
  unfold validateBindingRecord at accepted
  split at accepted
  next fields =>
    rw [bind_ok] at accepted
    obtain ⟨_, -, accepted⟩ := accepted
    simp only [require_bind_ok, expect_bind_ok, acceptedText_eq_some, safeInteger_eq_some]
      at accepted
    obtain ⟨-, bindingId, ⟨isBindingId, -⟩, -, -, principalId, ⟨isPrincipal, principalValid⟩,
      profileName, ⟨isName, -⟩, instanceId, ⟨isInstance, instanceValid⟩, -, isKey, origin,
      ⟨isOrigin, -⟩, generation, ⟨isGeneration, generationSafe, -⟩, ⟨issuedAt, issuedMs⟩, issued,
      accepted⟩ := accepted
    rw [bind_ok] at accepted
    obtain ⟨revokedAt, revoked, accepted⟩ := accepted
    rw [bind_ok] at accepted
    obtain ⟨_, -, accepted⟩ := accepted
    rw [pure_ok] at accepted
    subst accepted
    exact ⟨⟨fields, rfl, isBindingId, isPrincipal, isName, isInstance, isOrigin, isGeneration,
      instantText_eq_some issued, readRevokedAt_ok revoked⟩,
      ⟨principalValid, instanceValid, generationSafe⟩, isKey⟩
  next => cases accepted

theorem readsAs_fields (binding : ProfileBinding) : ReadsAs binding.fields binding :=
  ⟨rfl, rfl, rfl, rfl, rfl, rfl, rfl, rfl⟩

theorem textOrNull_injective {first second : Option String}
    (same : textOrNull first = textOrNull second) : first = second := by
  cases first with
  | none =>
      cases second with
      | none => rfl
      | some text => exact absurd same nofun
  | some text =>
      cases second with
      | none => exact absurd same nofun
      | some other => rw [Json.str.inj same]

variable {fields : List (String × Json)} {first second : ProfileBinding}
  {oldBindings nextBindings : Bindings}

/-- The same JSON reads as one binding. -/
theorem ReadsAs.unique (reads : ReadsAs fields first) (readsToo : ReadsAs fields second) :
    first = second := by
  obtain ⟨_, _, _, _, _, _, _, _⟩ := first
  obtain ⟨_, _, _, _, _, _, _, _⟩ := second
  rw [ProfileBinding.mk.injEq]
  exact ⟨Json.str.inj (reads.bindingId.symm.trans readsToo.bindingId),
    Json.str.inj (reads.principalId.symm.trans readsToo.principalId),
    Json.str.inj (reads.profileName.symm.trans readsToo.profileName),
    Json.str.inj (reads.profileInstanceId.symm.trans readsToo.profileInstanceId),
    Json.str.inj (reads.authorityOrigin.symm.trans readsToo.authorityOrigin),
    Json.int.inj (reads.bindingGeneration.symm.trans readsToo.bindingGeneration),
    Json.str.inj (reads.issuedAt.symm.trans readsToo.issuedAt),
    textOrNull_injective (reads.revokedAt.symm.trans readsToo.revokedAt)⟩

/-! ## Accepted registries -/

/-- A row of the accepted bindings is the reading of the field at its key. -/
def RowsRead (fields : List (String × Json)) (bindings : Bindings) : Prop :=
  ∀ binding ∈ bindings.rows, binding.Valid ∧
    ∃ bindingFields, Json.property fields binding.profileInstanceId = .obj bindingFields ∧
      ReadsAs bindingFields binding

theorem addBinding_rowsRead (rowsRead : RowsRead fields seen)
    (accepted : addBinding platform fields seen key = .ok bindings) : RowsRead fields bindings := by
  unfold addBinding at accepted
  rw [require_bind_ok, bind_ok] at accepted
  obtain ⟨-, binding, record, accepted⟩ := accepted
  rw [pure_ok] at accepted
  subst accepted
  obtain ⟨reads, valid, isKey⟩ := validateBindingRecord_ok record
  intro other member
  rw [Table.mem_rows_iff, Table.find?_upsert] at member
  split at member
  · rw [← Option.some.inj member, ← isKey]
    exact ⟨valid, reads⟩
  · exact rowsRead other (Table.find?_some member).1

theorem foldlM_rowsRead {keys : List String} (rowsRead : RowsRead fields seen)
    (accepted : keys.foldlM (addBinding platform fields) seen = .ok bindings) :
    RowsRead fields bindings := by
  induction keys generalizing seen with
  | nil =>
      rw [List.foldlM_nil, pure_ok] at accepted
      rw [← accepted]
      exact rowsRead
  | cons key keys ih =>
      rw [List.foldlM_cons, bind_ok] at accepted
      obtain ⟨next, added, accepted⟩ := accepted
      exact ih (addBinding_rowsRead rowsRead added) accepted

theorem validateBindings_rowsRead (accepted : validateBindings platform fields = .ok bindings) :
    RowsRead fields bindings := by
  unfold validateBindings at accepted
  rw [require_bind_ok] at accepted
  exact foldlM_rowsRead (fun _ member => absurd member List.not_mem_nil) accepted.2

section

variable (accepted : validateIdentityRegistry platform json = .ok registry)
include accepted

/-- The sequence and the bindings of an accepted registry are read from its JSON. -/
theorem validateIdentityRegistry_ok :
    ∃ fields bindings, json = .obj fields ∧
      Json.property fields "sequence" = .int registry.sequence ∧
      Json.property fields "bindings" = .obj bindings ∧
      validateBindings platform bindings = .ok registry.bindings := by
  unfold validateIdentityRegistry at accepted
  split at accepted
  next fields =>
    rw [bind_ok] at accepted
    obtain ⟨_, -, accepted⟩ := accepted
    simp only [require_bind_ok, expect_bind_ok, safeInteger_eq_some] at accepted
    obtain ⟨-, sequence, ⟨isSequence, -⟩, ⟨createdAt, createdMs⟩, -, ⟨updatedAt, updatedMs⟩, -, -,
      accepted⟩ := accepted
    rw [bind_ok] at accepted
    obtain ⟨auditHead, -, accepted⟩ := accepted
    split at accepted
    next bindings isBindings =>
      rw [bind_ok] at accepted
      obtain ⟨cleanBindings, validated, accepted⟩ := accepted
      rw [require_bind_ok, pure_ok] at accepted
      rw [← accepted.2]
      exact ⟨fields, bindings, rfl, isSequence, isBindings, validated⟩
    next => cases accepted
  next => cases accepted

theorem validateIdentityRegistry_rowsRead :
    ∃ fields bindings, json = .obj fields ∧ Json.property fields "bindings" = .obj bindings ∧
      RowsRead bindings registry.bindings := by
  obtain ⟨fields, bindings, isObject, -, isBindings, validated⟩ :=
    validateIdentityRegistry_ok accepted
  exact ⟨fields, bindings, isObject, isBindings, validateBindings_rowsRead validated⟩

theorem validateIdentityRegistry_valid : ∀ binding ∈ registry.bindings.rows, binding.Valid := by
  obtain ⟨fields, bindings, -, -, rowsRead⟩ := validateIdentityRegistry_rowsRead accepted
  intro binding member
  exact (rowsRead binding member).1

end

theorem property_bindingFields (read : Json.property (bindingFields bindings) key = .obj fields) :
    ∃ binding ∈ bindings.rows, binding.profileInstanceId = key ∧ fields = binding.fields := by
  unfold Json.property at read
  cases found : Json.property? (bindingFields bindings) key with
  | none =>
      rw [found] at read
      cases read
  | some value =>
      rw [found, Option.getD_some] at read
      have member := Json.mem_of_property? found
      unfold bindingFields at member
      rw [List.mem_map] at member
      obtain ⟨binding, isRow, same⟩ := member
      rw [Prod.mk.injEq, ProfileBinding.toJson, read, Json.obj.injEq] at same
      exact ⟨binding, isRow, same.1, same.2.symm⟩

/-- Validating a registry again adds no binding. -/
theorem revalidated_rows {registry clean : Registry}
    (accepted : validateIdentityRegistry platform registry.toJson = .ok clean) :
    ∀ binding ∈ clean.bindings.rows, binding ∈ registry.bindings.rows := by
  obtain ⟨fields, bindings, isObject, isBindings, rowsRead⟩ :=
    validateIdentityRegistry_rowsRead accepted
  cases isObject
  cases isBindings
  intro binding member
  obtain ⟨-, own, read, readsAs⟩ := rowsRead binding member
  obtain ⟨source, isRow, -, rfl⟩ := property_bindingFields read
  rw [readsAs.unique (readsAs_fields source)]
  exact isRow

/-! ## Compared bindings -/

theorem finite_toJson (valid : binding.Valid) : binding.toJson.Finite := by
  have finiteRevoked : (textOrNull binding.revokedAt).Finite := by
    cases binding.revokedAt with
    | none | some => trivial
  rw [ProfileBinding.toJson]
  refine ⟨⟨trivial, trivial, trivial, trivial, trivial, trivial, trivial, valid.bindingGeneration,
    trivial, finiteRevoked, ?_, trivial⟩, ?_⟩
  · exact ⟨⟨trivial, trivial, trivial, trivial⟩, by decide⟩
  · simp only [ProfileBinding.fields, List.map_cons, List.map_nil]
    decide

theorem text_of_same {first second : String}
    (same : (Json.str first).Same (.str second)) : first = second := by
  cases same
  rfl

theorem textOrNull_of_same {first second : Option String}
    (same : (textOrNull first).Same (textOrNull second)) : first = second := by
  cases first with
  | none =>
      cases second with
      | none => rfl
      | some text => exact absurd same nofun
  | some text =>
      cases second with
      | none => exact absurd same nofun
      | some other => rw [text_of_same same]

/-- Bindings with the same canonical JSON are the same. -/
theorem sameBinding_eq (firstValid : first.Valid) (secondValid : second.Valid)
    (same : sameBinding first second = true) : first = second := by
  have sameJson := (Json.canonicalJson_eq_iff (finite_toJson firstValid)
    (finite_toJson secondValid)).mp (of_decide_eq_true same)
  rw [ProfileBinding.toJson, ProfileBinding.toJson] at sameJson
  cases sameJson with
  | obj sameKeys each =>
      have sameGeneration := each "binding_generation" _ _ rfl rfl
      obtain ⟨_, _, _, _, _, _, _, _⟩ := first
      obtain ⟨_, _, _, _, _, _, _, _⟩ := second
      rw [ProfileBinding.mk.injEq]
      exact ⟨text_of_same (each "binding_id" _ _ rfl rfl),
        text_of_same (each "principal_id" _ _ rfl rfl),
        text_of_same (each "profile_name" _ _ rfl rfl),
        text_of_same (each "profile_instance_id" _ _ rfl rfl),
        text_of_same (each "authority_origin" _ _ rfl rfl),
        by cases sameGeneration; rfl,
        text_of_same (each "issued_at" _ _ rfl rfl),
        textOrNull_of_same (each "revoked_at" _ _ rfl rfl)⟩

/-! ## One binding for each principal -/

/-- Every binding is valid, and an unrevoked one is the only one of its principal. -/
structure OneBindingEach (bindings : Bindings) : Prop where
  valid : ∀ binding ∈ bindings.rows, binding.Valid
  unique : ∀ first ∈ bindings.rows, ∀ second ∈ bindings.rows, first.revokedAt = none →
    second.revokedAt = none → first.principalId = second.principalId → first = second

theorem oneBindingEach_empty : OneBindingEach .empty where
  valid _ member := absurd member List.not_mem_nil
  unique _ member := absurd member List.not_mem_nil

theorem OneBindingEach.of_subset {bindings fewer : Bindings} (one : OneBindingEach bindings)
    (subset : ∀ binding ∈ fewer.rows, binding ∈ bindings.rows) : OneBindingEach fewer where
  valid binding member := one.valid binding (subset binding member)
  unique first firstIn second secondIn :=
    one.unique first (subset first firstIn) second (subset second secondIn)

section

variable (one : OneBindingEach oldBindings)
  (nextValid : ∀ binding ∈ nextBindings.rows, binding.Valid)
include one nextValid

section

variable (unchanged : othersUnchanged oldBindings nextBindings subject = true)
include unchanged

/-- The bindings of all other subjects are the old ones. -/
theorem othersUnchanged_find? {key : String} (isOther : key ≠ subject) :
    nextBindings.find? key = oldBindings.find? key := by
  unfold othersUnchanged at unchanged
  rw [Bool.and_eq_true, List.all_eq_true, List.all_eq_true] at unchanged
  cases found : oldBindings.find? key with
  | some old =>
      obtain ⟨isOld, isKey⟩ := Table.find?_some found
      have kept := unchanged.1 old isOld
      rw [isKey, Bool.or_eq_true, decide_eq_true_eq, Option.any_eq_true] at kept
      obtain ⟨next, foundNext, same⟩ := kept.resolve_left isOther
      rw [foundNext, sameBinding_eq (nextValid next (Table.find?_some foundNext).1)
        (one.valid old isOld) same]
  | none =>
      rw [Option.eq_none_iff_forall_ne_some]
      intro next foundNext
      obtain ⟨isNext, isKey⟩ := Table.find?_some foundNext
      have added := unchanged.2 next isNext
      rw [isKey, found] at added
      simp [isOther] at added

/-- Where all others stay, only the subject can come to share a principal. -/
theorem unique_of_othersUnchanged (firstIn : first ∈ nextBindings.rows)
    (secondIn : second ∈ nextBindings.rows) (firstOther : first.profileInstanceId ≠ subject)
    (secondOther : second.profileInstanceId ≠ subject) (firstLive : first.revokedAt = none)
    (secondLive : second.revokedAt = none) (same : first.principalId = second.principalId) :
    first = second := by
  have before : ∀ next ∈ nextBindings.rows, next.profileInstanceId ≠ subject →
      next ∈ oldBindings.rows := by
    intro next nextIn other
    rw [Table.mem_rows_iff] at nextIn ⊢
    exact (othersUnchanged_find? one nextValid unchanged other).symm.trans nextIn
  exact one.unique first (before first firstIn firstOther) second
    (before second secondIn secondOther) firstLive secondLive same

/-- Where the subject, once unrevoked, shares its principal with no other, nobody does. -/
theorem oneBindingEach_of_subject
    (alone : ∀ own ∈ nextBindings.rows, own.profileInstanceId = subject → own.revokedAt = none →
      ∀ other ∈ nextBindings.rows, other.profileInstanceId ≠ subject → other.revokedAt = none →
        other.principalId ≠ own.principalId) : OneBindingEach nextBindings where
  valid := nextValid
  unique first firstIn second secondIn firstLive secondLive same := by
    by_cases firstOwn : first.profileInstanceId = subject
    · by_cases secondOwn : second.profileInstanceId = subject
      · exact List.inj_on_of_nodup_map nextBindings.distinct firstIn secondIn
          (firstOwn.trans secondOwn.symm)
      · exact absurd same.symm
          (alone first firstIn firstOwn firstLive second secondIn secondOwn secondLive)
    · by_cases secondOwn : second.profileInstanceId = subject
      · exact absurd same
          (alone second secondIn secondOwn secondLive first firstIn firstOwn firstLive)
      · exact unique_of_othersUnchanged one nextValid unchanged firstIn secondIn firstOwn secondOwn
          firstLive secondLive same

end

/-- A mutation that its action covers leaves each principal one binding. -/
theorem assertMutationMatchesAction_one {action : AuditAction} {subject bindingId : Option String}
    (accepted : assertMutationMatchesAction current oldBindings nextBindings action subject =
      .ok bindingId) : OneBindingEach nextBindings := by
  unfold assertMutationMatchesAction at accepted
  split at accepted
  next =>
    rw [require_bind_ok] at accepted
    have noRows := accepted.1.2
    exact ⟨nextValid, fun first firstIn => by rw [noRows] at firstIn; cases firstIn⟩
  next => cases accepted
  next subject =>
    simp only [require_bind_ok, expect_bind_ok] at accepted
    obtain ⟨unchanged, nextB, found, accepted⟩ := accepted
    have noOther : ∀ binding ∈ nextBindings.rows, ¬ (binding.profileInstanceId ≠ subject ∧
        binding.revokedAt = none ∧ binding.principalId = nextB.principalId) := by
      split at accepted
      · rw [require_bind_ok, require_bind_ok] at accepted
        exact accepted.2.1
      · rw [bind_ok] at accepted
        obtain ⟨_, -, accepted⟩ := accepted
        rw [require_bind_ok] at accepted
        exact accepted.1
    refine oneBindingEach_of_subject one nextValid unchanged ?_
    intro own ownIn isSubject _ other otherIn notSubject live same
    have isNext : own = nextB := by
      rw [Table.mem_rows_iff, isSubject, found] at ownIn
      exact (Option.some.inj ownIn).symm
    rw [isNext] at same
    exact noOther other otherIn ⟨notSubject, live, same⟩
  next subject =>
    simp only [require_bind_ok, expect_bind_ok] at accepted
    obtain ⟨unchanged, nextB, found, oldB, -, ⟨-, revoked⟩, -, -⟩ := accepted
    refine oneBindingEach_of_subject one nextValid unchanged ?_
    intro own ownIn isSubject live
    rw [Table.mem_rows_iff, isSubject, found] at ownIn
    rw [Option.some.inj ownIn] at revoked
    exact absurd live revoked

end

/-! ## Runs of updates -/

/-- What an update that is accepted has checked. -/
theorem updateIdentityRegistry_inv {args : UpdateArgs}
    (updated : updateIdentityRegistry platform current args = .ok registry) :
    (args.action = .init → args.subject = none) ∧
      (baseRegistry current args.nowIso).sequence = args.expectedSequence ∧
      ∃ mutated hash placeholder bindingId auditHead,
        validateIdentityRegistry platform
          (withProtected mutated (args.expectedSequence + 1) args.nowIso hash) = .ok placeholder ∧
        assertMutationMatchesAction current current.bindings placeholder.bindings args.action
          args.subject = .ok bindingId ∧
        validateIdentityRegistry platform
          (Registry.toJson { placeholder with auditHead }) = .ok registry := by
  have sameBase : (baseRegistry current args.nowIso).bindings = current.bindings := by
    cases current with
    | absent | ok => rfl
  unfold updateIdentityRegistry at updated
  simp only [require_bind_ok] at updated
  obtain ⟨-, -, noSubject, -, -, isExpected, -, updated⟩ := updated
  split at updated
  next mutated _ =>
    rw [bind_ok] at updated
    obtain ⟨_, -, updated⟩ := updated
    rw [bind_ok] at updated
    obtain ⟨placeholder, validated, updated⟩ := updated
    rw [bind_ok] at updated
    obtain ⟨bindingId, matched, updated⟩ := updated
    rw [sameBase] at matched
    rw [isExpected] at validated
    exact ⟨noSubject, isExpected, mutated, _, placeholder, bindingId, _, validated, matched, updated⟩
  next => cases updated

theorem updateIdentityRegistry_one {args : UpdateArgs} (one : OneBindingEach current.bindings)
    (updated : updateIdentityRegistry platform current args = .ok registry) :
    OneBindingEach registry.bindings := by
  obtain ⟨-, -, _, _, _, _, _, validated, matched, updated⟩ := updateIdentityRegistry_inv updated
  have noneAdded := revalidated_rows updated
  exact (assertMutationMatchesAction_one one (validateIdentityRegistry_valid validated)
    matched).of_subset noneAdded

/-- The registry under calls of `updateIdentityRegistry`, from the missing file on. -/
def registryMachine (platform : Platform) :
    Semantics.Machine RegistryState (UpdateArgs × Bool) where
  initial := .absent
  step := registryStep platform

theorem registryStep_one (current : RegistryState) (call : UpdateArgs × Bool)
    (one : OneBindingEach current.bindings) :
    OneBindingEach (registryStep platform current call).bindings := by
  unfold registryStep
  split
  next registry updated _ => exact updateIdentityRegistry_one one updated
  next => exact one

/-- In every registry that updates lead to, each principal has at most one unrevoked
binding. -/
theorem oneBindingEach_reachable {state : RegistryState}
    (reachable : (registryMachine platform).Reachable state) : OneBindingEach state.bindings :=
  reachable.invariant oneBindingEach_empty registryStep_one

end Triangle.Identity
