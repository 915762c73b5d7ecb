import Mathlib.Data.List.Range
import Triangle.Identity.BoundPrincipals
import Triangle.Std.JsonObject

/-!
# Bindings over runs of updates

An update drops no binding, and moves none to another profile, principal or origin: it
revokes it, or renews it under the next generation (`Continues`). Every commit saw the
registry that the commit before it wrote, so no update is lost.
-/

namespace Triangle.Identity

open Triangle.Std

variable {platform : Platform} {fields : List (String × Json)} {key other : String}
  {value : Json} {bindings seen oldBindings nextBindings : Bindings}
  {current : RegistryState} {registry : Registry} {args : UpdateArgs}

/-! ## What an update keeps of a binding -/

/-- What a binding may have become. -/
structure Continues (old next : ProfileBinding) : Prop where
  profileName : next.profileName = old.profileName
  principalId : next.principalId = old.principalId
  authorityOrigin : next.authorityOrigin = old.authorityOrigin
  bindingGeneration : old.bindingGeneration ≤ next.bindingGeneration
  /-- Within its generation a binding only comes to be revoked, once. -/
  sameGeneration : next.bindingGeneration = old.bindingGeneration → next = old ∨
    old.revokedAt = none ∧ next.revokedAt ≠ none ∧
      next = { old with revokedAt := next.revokedAt }

theorem Continues.refl (binding : ProfileBinding) : Continues binding binding :=
  ⟨rfl, rfl, rfl, Int.le_refl _, fun _ => .inl rfl⟩

theorem Continues.trans {first second third : ProfileBinding} (before : Continues first second)
    (after : Continues second third) : Continues first third where
  profileName := after.profileName.trans before.profileName
  principalId := after.principalId.trans before.principalId
  authorityOrigin := after.authorityOrigin.trans before.authorityOrigin
  bindingGeneration := Int.le_trans before.bindingGeneration after.bindingGeneration
  sameGeneration same := by
    have beforeLe := before.bindingGeneration
    have afterLe := after.bindingGeneration
    rcases before.sameGeneration (by omega) with rfl | ⟨wasLive, isRevoked, revokes⟩
    · exact after.sameGeneration same
    · rcases after.sameGeneration (by omega) with rfl | ⟨isLive, -, -⟩
      · exact .inr ⟨wasLive, isRevoked, revokes⟩
      · exact absurd isLive isRevoked

/-- Every binding goes on under its instance id. -/
def KeepsBindings (oldBindings nextBindings : Bindings) : Prop :=
  ∀ key old, oldBindings.find? key = some old →
    ∃ next, nextBindings.find? key = some next ∧ Continues old next

theorem KeepsBindings.refl (bindings : Bindings) : KeepsBindings bindings bindings :=
  fun _ old found => ⟨old, found, .refl old⟩

theorem KeepsBindings.trans (before : KeepsBindings oldBindings bindings)
    (after : KeepsBindings bindings nextBindings) : KeepsBindings oldBindings nextBindings := by
  intro key old found
  obtain ⟨middle, foundMiddle, goesOn⟩ := before key old found
  obtain ⟨next, foundNext, goesOnward⟩ := after key middle foundMiddle
  exact ⟨next, foundNext, goesOn.trans goesOnward⟩

/-- What an action makes of a binding. -/
inductive Replaces : AuditAction → Option ProfileBinding → ProfileBinding → Prop
  | bound {next : ProfileBinding} (isFirst : next.bindingGeneration = 1)
      (isLive : next.revokedAt = none) : Replaces .bind none next
  | renewed {old next : ProfileBinding} (sameName : next.profileName = old.profileName)
      (samePrincipal : next.principalId = old.principalId)
      (sameOrigin : next.authorityOrigin = old.authorityOrigin)
      (isNext : next.bindingGeneration = old.bindingGeneration + 1)
      (isLive : next.revokedAt = none) : Replaces .bind (some old) next
  | revoked {old : ProfileBinding} {revokedAt : Option String} (wasLive : old.revokedAt = none)
      (isRevoked : revokedAt ≠ none) : Replaces .revoke (some old) { old with revokedAt }

theorem Replaces.continues {action : AuditAction} {old next : ProfileBinding}
    (replaces : Replaces action (some old) next) : Continues old next := by
  cases replaces with
  | renewed sameName samePrincipal sameOrigin isNext isLive =>
      exact ⟨sameName, samePrincipal, sameOrigin, by omega, fun same => by omega⟩
  | revoked wasLive isRevoked =>
      exact ⟨rfl, rfl, rfl, Int.le_refl _, fun _ => .inr ⟨wasLive, isRevoked, rfl⟩⟩

/-- A mutation that its action covers replaces the binding of its subject only. -/
theorem assertMutationMatchesAction_ok {action : AuditAction} {subject bindingId : Option String}
    (isFresh : current.isAbsent = true → oldBindings.rows = []) (one : OneBindingEach oldBindings)
    (nextValid : ∀ binding ∈ nextBindings.rows, binding.Valid)
    (noSubject : action = .init → subject = none)
    (accepted : assertMutationMatchesAction current oldBindings nextBindings action subject =
      .ok bindingId) (key : String) :
    if subject = some key then
      ∃ next, nextBindings.find? key = some next ∧ Replaces action (oldBindings.find? key) next
    else nextBindings.find? key = oldBindings.find? key := by
  unfold assertMutationMatchesAction at accepted
  split at accepted
  next =>
    rw [require_bind_ok] at accepted
    rw [noSubject rfl, if_neg (by rintro ⟨⟩), Table.find?, Table.find?, accepted.1.2,
      isFresh accepted.1.1]
  next => cases accepted
  next subject =>
    simp only [require_bind_ok, expect_bind_ok] at accepted
    obtain ⟨unchanged, next, found, accepted⟩ := accepted
    split
    next isSubject =>
      obtain rfl := Option.some.inj isSubject
      refine ⟨next, found, ?_⟩
      cases isOld : oldBindings.find? subject with
      | none =>
          rw [isOld] at accepted
          dsimp only at accepted
          rw [require_bind_ok] at accepted
          exact .bound accepted.1.1 accepted.1.2
      | some old =>
          rw [isOld] at accepted
          dsimp only at accepted
          unfold checkRebind at accepted
          rw [bind_ok] at accepted
          obtain ⟨_, rebinds, -⟩ := accepted
          rw [require_bind_ok] at rebinds
          obtain ⟨⟨isNext, isLive, -, sameName, -⟩, renews⟩ := rebinds
          obtain ⟨samePrincipal, sameOrigin⟩ := require_ok.mp renews
          exact .renewed sameName samePrincipal sameOrigin isNext isLive
    next isOther =>
      exact othersUnchanged_find? one nextValid unchanged fun same => isOther (same ▸ rfl)
  next subject =>
    simp only [require_bind_ok, expect_bind_ok] at accepted
    obtain ⟨unchanged, next, found, old, isOld, ⟨wasLive, isRevoked⟩, same, -⟩ := accepted
    split
    next isSubject =>
      obtain rfl := Option.some.inj isSubject
      have valid := one.valid old (Table.find?_some isOld).1
      have revokedValid : ({ old with revokedAt := next.revokedAt } : ProfileBinding).Valid :=
        ⟨valid.principalId, valid.profileInstanceId, valid.bindingGeneration⟩
      refine ⟨next, found, ?_⟩
      rw [isOld, sameBinding_eq (nextValid next (Table.find?_some found).1) revokedValid same]
      exact .revoked wasLive isRevoked
    next isOther =>
      exact othersUnchanged_find? one nextValid unchanged fun same => isOther (same ▸ rfl)

/-! ## What an update commits -/

theorem addBinding_present (accepted : addBinding platform fields seen key = .ok bindings)
    (present : other = key ∨ seen.find? other ≠ none) : bindings.find? other ≠ none := by
  unfold addBinding at accepted
  rw [require_bind_ok, bind_ok] at accepted
  obtain ⟨-, added, record, accepted⟩ := accepted
  rw [pure_ok] at accepted
  subst accepted
  obtain ⟨-, -, rfl⟩ := validateBindingRecord_ok record
  rw [Table.find?_upsert]
  split
  next => rintro ⟨⟩
  next differs => exact present.resolve_left differs

/-- Every key that is validated is there. -/
theorem foldlM_present {keys : List String}
    (accepted : keys.foldlM (addBinding platform fields) seen = .ok bindings)
    (present : other ∈ keys ∨ seen.find? other ≠ none) : bindings.find? other ≠ none := by
  induction keys generalizing seen with
  | nil =>
      rw [List.foldlM_nil, pure_ok] at accepted
      subst accepted
      exact present.resolve_left List.not_mem_nil
  | cons key keys ih =>
      rw [List.foldlM_cons, bind_ok] at accepted
      obtain ⟨next, added, accepted⟩ := accepted
      refine ih accepted ?_
      rcases present with isKey | wasThere
      · rcases List.mem_cons.mp isKey with rfl | isRest
        · exact .inr (addBinding_present added (.inl rfl))
        · exact .inl isRest
      · exact .inr (addBinding_present added (.inr wasThere))

/-- Validating a registry again keeps its bindings. -/
theorem revalidated_find? {registry clean : Registry}
    (accepted : validateIdentityRegistry platform registry.toJson = .ok clean) (key : String) :
    clean.bindings.find? key = registry.bindings.find? key := by
  have wasThere : ∀ binding, clean.bindings.find? key = some binding →
      registry.bindings.find? key = some binding := by
    intro binding found
    obtain ⟨isRow, isKey⟩ := Table.find?_some found
    rw [← isKey]
    exact Table.mem_rows_iff.mp (revalidated_rows accepted binding isRow)
  cases found : registry.bindings.find? key with
  | none =>
      rw [Option.eq_none_iff_forall_ne_some]
      intro binding isClean
      rw [wasThere binding isClean] at found
      cases found
  | some binding =>
      obtain ⟨isRow, isKey⟩ := Table.find?_some found
      obtain ⟨fields, rows, isObject, -, isBindings, validated⟩ :=
        validateIdentityRegistry_ok accepted
      cases isObject
      cases isBindings
      unfold validateBindings at validated
      rw [require_bind_ok] at validated
      have isSorted : key ∈ Json.sortedKeys (bindingFields registry.bindings) := by
        unfold Json.sortedKeys Json.ownKeys bindingFields
        rw [List.mem_insertionSort, List.mem_dedup, List.map_map]
        exact List.mem_map.mpr ⟨binding, isRow, isKey⟩
      obtain ⟨kept, isKept⟩ :=
        Option.ne_none_iff_exists'.mp (foldlM_present validated.2 (.inl isSorted))
      rw [isKept, ← found, wasThere kept isKept]

theorem property_withField :
    Json.property (withField fields other value) key =
      if other = key then value else Json.property fields key := by
  have behind : Json.property? (fields.filter fun field => field.1 ≠ other) key =
      if other = key then none else Json.property? fields key := by
    induction fields with
    | nil => simp [Json.property?]
    | cons field rest ih =>
        rw [List.filter_cons, Json.property?_cons]
        by_cases isOther : field.1 = other
        · rw [if_neg (by simpa using isOther), ih, isOther]
          split <;> rfl
        · rw [if_pos (by simpa using isOther), Json.property?_cons, ih]
          by_cases isKey : field.1 = key
          · rw [if_pos isKey, if_pos isKey, if_neg (isKey ▸ Ne.symm isOther)]
          · rw [if_neg isKey, if_neg isKey]
  unfold withField Json.property
  rw [Json.property?_append, behind, Json.property?_cons]
  split
  · rfl
  · exact congrArg (Option.getD · Json.null) Option.or_none

/-- A registry that is validated under a sequence has it. -/
theorem withProtected_sequence {sequence : Int} {updatedAt hash : String}
    (accepted : validateIdentityRegistry platform
      (withProtected fields sequence updatedAt hash) = .ok registry) :
    registry.sequence = sequence := by
  obtain ⟨placed, _, isPlaced, isSequence, -⟩ := validateIdentityRegistry_ok accepted
  unfold withProtected at isPlaced
  rw [← Json.obj.inj isPlaced, property_withField, if_neg (by decide), property_withField,
    if_neg (by decide), property_withField, if_pos rfl] at isSequence
  exact (Json.int.inj isSequence).symm

theorem revalidated_sequence {registry clean : Registry}
    (accepted : validateIdentityRegistry platform registry.toJson = .ok clean) :
    clean.sequence = registry.sequence := by
  obtain ⟨fields, _, isObject, isSequence, -⟩ := validateIdentityRegistry_ok accepted
  cases isObject
  exact (Json.int.inj isSequence).symm

/-- A committed update has the sequence that it expected, counts it on, and replaces the binding
of its subject. -/
theorem updateIdentityRegistry_ok (one : OneBindingEach current.bindings)
    (updated : updateIdentityRegistry platform current args = .ok registry) :
    (baseRegistry current args.nowIso).sequence = args.expectedSequence ∧
      registry.sequence = args.expectedSequence + 1 ∧
      ∀ key, if args.subject = some key then
          ∃ next, registry.bindings.find? key = some next ∧
            Replaces args.action (current.bindings.find? key) next
        else registry.bindings.find? key = current.bindings.find? key := by
  obtain ⟨noSubject, isExpected, _, _, _, _, _, validated, matched, updated⟩ :=
    updateIdentityRegistry_inv updated
  have isFresh : current.isAbsent = true → current.bindings.rows = [] := by
    cases current with
    | absent => exact fun _ => rfl
    | ok => nofun
  have isPlaced := withProtected_sequence validated
  refine ⟨isExpected, (revalidated_sequence updated).trans isPlaced, fun key => ?_⟩
  rw [revalidated_find? updated]
  exact assertMutationMatchesAction_ok isFresh one (validateIdentityRegistry_valid validated)
    noSubject matched key

/-! ## Runs -/

theorem registryStep_keeps (current : RegistryState) (call : UpdateArgs × Bool)
    (one : OneBindingEach current.bindings) :
    KeepsBindings current.bindings (registryStep platform current call).bindings := by
  unfold registryStep
  split
  next registry updated _ =>
    intro key old found
    have replaced := (updateIdentityRegistry_ok one updated).2.2 key
    rw [found] at replaced
    split at replaced
    next =>
      obtain ⟨next, isNext, replaces⟩ := replaced
      exact ⟨next, isNext, replaces.continues⟩
    next => exact ⟨old, replaced, .refl old⟩
  next => exact .refl _

theorem keepsBindings_runFrom (one : OneBindingEach current.bindings)
    (calls : List (UpdateArgs × Bool)) : KeepsBindings current.bindings
      ((registryMachine platform).runFrom current calls).bindings := by
  induction calls generalizing current with
  | nil => exact .refl _
  | cons call rest ih =>
      exact (registryStep_keeps current call one).trans (ih (registryStep_one current call one))

/-- Over any run, a binding that was committed stays and continues as `Continues` says: its
generation does not go back, and in it the binding is revoked at most once and for good. -/
theorem bindings_continue (calls more : List (UpdateArgs × Bool)) :
    KeepsBindings ((registryMachine platform).run calls).bindings
      ((registryMachine platform).run (calls ++ more)).bindings := by
  rw [Semantics.Machine.run, Semantics.Machine.run, Semantics.Machine.runFrom_append]
  exact keepsBindings_runFrom (oneBindingEach_reachable ⟨calls, rfl⟩) more

/-! ## The audit log -/

/-- The registry and what was committed. An audit entry has the action and the subject of the
call, and the `bindingId` that is written of the subject. -/
structure AuditedState where
  state : RegistryState
  log : List (UpdateArgs × Registry)

def auditMachine (platform : Platform) :
    Semantics.Machine AuditedState (UpdateArgs × Bool) where
  initial := ⟨.absent, []⟩
  step audited call :=
    match updateIdentityRegistry platform audited.state call.1, call.2 with
    | .ok registry, true => ⟨.ok registry, audited.log ++ [(call.1, registry)]⟩
    | _, _ => audited

/-- What the log says of an instance: its binding id, whether that was revoked, and how often the
instance was bound. -/
structure Audited where
  bindingId : String
  revoked : Bool
  bound : Int

def ProfileBinding.audited (binding : ProfileBinding) : Audited :=
  ⟨binding.bindingId, binding.revokedAt.isSome, binding.bindingGeneration⟩

/-- What an entry says of an instance. -/
def replayEntry (key : String) (audited : Option Audited) (commit : UpdateArgs × Registry) :
    Option Audited :=
  let bindingId := (commit.2.bindings.find? key).map (·.bindingId)
  if commit.1.subject = some key then
    match commit.1.action, audited with
    | .bind, _ => bindingId.map fun id => ⟨id, false, audited.elim 0 (·.bound) + 1⟩
    | .revoke, some old =>
        if bindingId = some old.bindingId then some { old with revoked := true } else none
    | _, _ => audited
  else audited

/-- The log agrees with the registry: it replays to the bindings, and its entries have expected
the sequences from 0 on, one by one. -/
structure AuditedState.Agrees (audited : AuditedState) : Prop where
  one : OneBindingEach audited.state.bindings
  replays : ∀ key, audited.log.foldl (replayEntry key) none =
    (audited.state.bindings.find? key).map ProfileBinding.audited
  expected : audited.log.map (·.1.expectedSequence) =
    (List.range audited.log.length).map Int.ofNat
  counted : ∀ nowIso, (baseRegistry audited.state nowIso).sequence = audited.log.length

theorem replayEntry_commit (one : OneBindingEach current.bindings)
    (updated : updateIdentityRegistry platform current args = .ok registry) (key : String) :
    replayEntry key ((current.bindings.find? key).map ProfileBinding.audited) (args, registry) =
      (registry.bindings.find? key).map ProfileBinding.audited := by
  have replaced := (updateIdentityRegistry_ok one updated).2.2 key
  unfold replayEntry
  dsimp only
  split at replaced
  next isSubject =>
    obtain ⟨next, isNext, replaces⟩ := replaced
    rw [if_pos isSubject, isNext]
    generalize args.action = action, current.bindings.find? key = old at replaces
    cases replaces with
    | bound isFirst isLive => simp [ProfileBinding.audited, isFirst, isLive]
    | renewed sameName samePrincipal sameOrigin isNext isLive =>
        simp [ProfileBinding.audited, isNext, isLive]
    | revoked wasLive isRevoked =>
        simp [ProfileBinding.audited, Option.isSome_iff_ne_none.mpr isRevoked]
  next isOther => rw [if_neg isOther, replaced]

theorem AuditedState.Agrees.step {audited : AuditedState} (agrees : audited.Agrees)
    (call : UpdateArgs × Bool) : ((auditMachine platform).step audited call).Agrees := by
  unfold auditMachine
  dsimp only
  split
  next registry updated _ =>
    obtain ⟨isExpected, isCounted, -⟩ := updateIdentityRegistry_ok agrees.one updated
    rw [agrees.counted] at isExpected
    refine ⟨updateIdentityRegistry_one agrees.one updated, fun key => ?_, ?_, fun _ => ?_⟩
    · rw [List.foldl_append, agrees.replays]
      exact replayEntry_commit agrees.one updated key
    · simp [agrees.expected, List.range_succ, ← isExpected]
    · simpa [baseRegistry, ← isExpected] using isCounted
  next => exact agrees

/-- In every run the log agrees with the registry, so that no update is lost. -/
theorem audit_agrees (calls : List (UpdateArgs × Bool)) :
    ((auditMachine platform).run calls).Agrees :=
  Semantics.Machine.invariant_runFrom (fun _ call agrees => agrees.step call)
    ⟨oneBindingEach_empty, fun _ => rfl, rfl, fun _ => rfl⟩ calls

end Triangle.Identity
