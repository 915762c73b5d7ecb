import Triangle.Std.CanonicalJson
import Triangle.Std.JsonFinite

/-!
# Canonical JSON of equal values

Two values are the same up to key order if they have the same items and read
the same at every key (`Same`). Canonical JSON writes two finite values alike
exactly if they are the same (`canonicalJson_eq_iff`), and what it writes is read as
the same value again (`parse_canonicalJson`).
-/

namespace Triangle.Std.Json

/-- Equality up to the order of keys. -/
inductive Same : Json → Json → Prop
  | null : Same .null .null
  | bool (value : Bool) : Same (.bool value) (.bool value)
  | int (value : Int) : Same (.int value) (.int value)
  | float (literal : String) : Same (.float literal) (.float literal)
  | str (value : String) : Same (.str value) (.str value)
  | arr {items others : List Json} (sameLength : items.length = others.length)
      (each : ∀ (index : Nat) item other, items[index]? = some item → others[index]? = some other →
        Same item other) : Same (.arr items) (.arr others)
  | obj {fields others : List (String × Json)}
      (sameKeys : ∀ key, property? fields key = none ↔ property? others key = none)
      (each : ∀ key value other, property? fields key = some value →
        property? others key = some other → Same value other) : Same (.obj fields) (.obj others)

theorem canonicalItems_eq (items : List Json) : canonicalItems items = items.map canonical := by
  induction items with
  | nil => rfl
  | cons item rest ih => rw [canonicalItems, ih, List.map_cons]

theorem canonicalFields_eq (fields : List (String × Json)) :
    canonicalFields fields = fields.map fun field => (field.1, canonical field.2) := by
  induction fields with
  | nil => rfl
  | cons field rest ih =>
      obtain ⟨key, value⟩ := field
      rw [canonicalFields, ih, List.map_cons, canonicalField]

/-- The fields of a canonical object, in order. -/
def sortFields (fields : List (String × Json)) : List (String × Json) :=
  fields.insertionSort fun first second => KeyLe first.1 second.1

theorem canonical_obj (fields : List (String × Json)) :
    canonical (.obj fields) =
      .obj (sortFields (fields.map fun field => (field.1, canonical field.2))) := by
  rw [canonical, canonicalFields_eq]
  rfl

theorem sortFields_perm (fields : List (String × Json)) : (sortFields fields).Perm fields :=
  List.perm_insertionSort _ fields

theorem sortFields_pairwise (fields : List (String × Json)) :
    (sortFields fields).Pairwise fun first second => KeyLe first.1 second.1 := by
  have : Std.Total fun first second : String × Json => KeyLe first.1 second.1 :=
    ⟨fun first second => le_total (codeUnits first.1) (codeUnits second.1)⟩
  have : IsTrans (String × Json) fun first second => KeyLe first.1 second.1 :=
    ⟨fun _ _ _ => le_trans⟩
  exact List.pairwise_insertionSort _ fields

/-- Keys in each other's order are equal. -/
theorem KeyLe.antisymm {first second : String} (below : KeyLe first second)
    (above : KeyLe second first) : first = second :=
  codeUnits_injective (le_antisymm below above)

variable {fields others : List (String × Json)}

/-- Fields with distinct keys have one order. -/
theorem sortFields_eq_iff (distinct : (fields.map Prod.fst).Nodup) :
    sortFields fields = sortFields others ↔ fields.Perm others := by
  refine ⟨fun same => ?_, fun perm => ?_⟩
  · exact (sortFields_perm fields).symm.trans (same ▸ sortFields_perm others)
  · refine List.Perm.eq_of_pairwise (fun first second firstIn secondIn below above => ?_)
      (sortFields_pairwise fields) (sortFields_pairwise others)
      ((sortFields_perm fields).trans (perm.trans (sortFields_perm others).symm))
    have inFields := (sortFields_perm fields).mem_iff.mp firstIn
    have inOthers := perm.mem_iff.mpr ((sortFields_perm others).mem_iff.mp secondIn)
    exact List.inj_on_of_nodup_map distinct inFields inOthers (KeyLe.antisymm below above)

variable {key : String} {value other : Json}

/-- What is read at a key stands in the object. -/
theorem mem_of_property? (read : property? fields key = some value) : (key, value) ∈ fields := by
  unfold property? at read
  rw [Option.map_eq_some_iff] at read
  obtain ⟨field, found, rfl⟩ := read
  have isKey : field.1 = key := by simpa using List.find?_some found
  rw [← isKey]
  exact List.mem_of_find?_eq_some found

/-- Fields with distinct keys are permuted exactly if every key reads the same. -/
theorem perm_iff_property? (distinct : (fields.map Prod.fst).Nodup)
    (distinctOthers : (others.map Prod.fst).Nodup) :
    fields.Perm others ↔ ∀ key, property? fields key = property? others key := by
  rw [List.perm_ext_iff_of_nodup distinct.of_map distinctOthers.of_map]
  refine ⟨fun sameMembers key => ?_, fun sameReads field => ?_⟩
  · refine Option.ext fun value => ⟨fun read => ?_, fun read => ?_⟩
    · exact property?_of_mem distinctOthers ((sameMembers _).mp (mem_of_property? read))
    · exact property?_of_mem distinct ((sameMembers _).mpr (mem_of_property? read))
  · obtain ⟨key, value⟩ := field
    refine ⟨fun member => ?_, fun member => ?_⟩
    · exact mem_of_property? ((sameReads key).symm.trans (property?_of_mem distinct member))
    · exact mem_of_property? ((sameReads key).trans (property?_of_mem distinctOthers member))

theorem property?_map (change : Json → Json) (fields : List (String × Json)) (key : String) :
    property? (fields.map fun field => (field.1, change field.2)) key =
      (property? fields key).map change := by
  unfold property?
  rw [List.find?_map, Option.map_map, Option.map_map]
  rfl

theorem keys_map (change : Json → Json) (fields : List (String × Json)) :
    (fields.map fun field => (field.1, change field.2)).map Prod.fst = fields.map Prod.fst := by
  rw [List.map_map]
  rfl

/-- Two objects have one canonical form exactly if they do at every key. -/
theorem canonical_obj_eq_iff (distinct : (fields.map Prod.fst).Nodup)
    (distinctOthers : (others.map Prod.fst).Nodup) :
    canonical (.obj fields) = canonical (.obj others) ↔
      ∀ key, (property? fields key).map canonical = (property? others key).map canonical := by
  rw [canonical_obj, canonical_obj, Json.obj.injEq,
    sortFields_eq_iff (by rw [keys_map]; exact distinct),
    perm_iff_property? (by rw [keys_map]; exact distinct) (by rw [keys_map]; exact distinctOthers)]
  simp only [property?_map]

/-- The values of a finite object are finite. -/
theorem Finite.property? (finite : (Json.obj fields).Finite)
    (read : property? fields key = some value) : value.Finite :=
  finiteFields_iff.mp finite.1 _ (mem_of_property? read)

/-- The same values have one canonical form. -/
theorem Same.canonical (same : value.Same other) (finite : value.Finite)
    (finiteOther : other.Finite) : canonical value = canonical other := by
  induction same with
  | null | bool | int | float | str => rfl
  | @arr items others sameLength each ih =>
      rw [Json.canonical, Json.canonical, canonicalItems_eq, canonicalItems_eq]
      refine congrArg Json.arr (List.ext_getElem? fun index => ?_)
      rw [List.getElem?_map, List.getElem?_map]
      cases isItem : items[index]? with
      | none =>
          have isOther : others[index]? = none := by
            rw [List.getElem?_eq_none_iff] at isItem ⊢
            omega
          rw [isOther]
      | some item =>
          have inOthers : index < others.length := by
            obtain ⟨inItems, -⟩ := List.getElem?_eq_some_iff.mp isItem
            omega
          have isOther := List.getElem?_eq_getElem inOthers
          rw [isOther]
          exact congrArg some (ih index item _ isItem isOther
            (finiteItems_iff.mp finite item (List.mem_of_getElem? isItem))
            (finiteItems_iff.mp finiteOther _ (List.mem_of_getElem? isOther)))
  | @obj fields others sameKeys each ih =>
      rw [canonical_obj_eq_iff finite.2 finiteOther.2]
      intro key
      cases read : Json.property? fields key with
      | none => rw [(sameKeys key).mp read]
      | some value =>
          cases readOther : Json.property? others key with
          | none => exact nomatch read.symm.trans ((sameKeys key).mpr readOther)
          | some other =>
              exact congrArg some (ih key value other read readOther
                (finite.property? read) (finiteOther.property? readOther))

/-- Values with one canonical form are the same. -/
theorem same_of_canonical : ∀ {value other : Json}, value.Finite → other.Finite →
    Json.canonical value = Json.canonical other → value.Same other
  | .null, other, _, _, alike => by
      cases other <;> simp only [Json.canonical, reduceCtorEq] at alike
      exact .null
  | .bool value, other, _, _, alike => by
      cases other <;> simp only [Json.canonical, reduceCtorEq, Json.bool.injEq] at alike
      exact alike ▸ .bool value
  | .int value, other, _, _, alike => by
      cases other <;> simp only [Json.canonical, reduceCtorEq, Json.int.injEq] at alike
      exact alike ▸ .int value
  | .float literal, other, _, _, alike => by
      cases other <;> simp only [Json.canonical, reduceCtorEq, Json.float.injEq] at alike
      exact alike ▸ .float literal
  | .str value, other, _, _, alike => by
      cases other <;> simp only [Json.canonical, reduceCtorEq, Json.str.injEq] at alike
      exact alike ▸ .str value
  | .arr items, other, finite, finiteOther, alike => by
      cases other <;> simp only [Json.canonical, reduceCtorEq, Json.arr.injEq,
        canonicalItems_eq] at alike
      next others =>
        refine .arr (by simpa using congrArg List.length alike)
          fun index item other isItem isOther => ?_
        have sameAt := congrArg (fun list : List Json => list[index]?) alike
        rw [List.getElem?_map, List.getElem?_map, isItem, isOther] at sameAt
        have isIn := List.mem_of_getElem? isItem
        exact same_of_canonical (finiteItems_iff.mp finite item isIn)
          (finiteItems_iff.mp finiteOther other (List.mem_of_getElem? isOther))
          (Option.some.inj sameAt)
  | .obj fields, .obj others, finite, finiteOther, alike => by
      rw [canonical_obj_eq_iff finite.2 finiteOther.2] at alike
      refine .obj (fun key => ?_) fun key inner otherInner read readOther => ?_
      · rw [← Option.map_eq_none_iff, alike key, Option.map_eq_none_iff]
      · have sameAt := alike key
        rw [read, readOther] at sameAt
        have isIn := mem_of_property? read
        exact same_of_canonical (finite.property? read) (finiteOther.property? readOther)
          (Option.some.inj sameAt)
  | .obj _, .null, _, _, alike | .obj _, .bool _, _, _, alike | .obj _, .int _, _, _, alike
  | .obj _, .float _, _, _, alike | .obj _, .str _, _, _, alike
  | .obj _, .arr _, _, _, alike => by simp only [Json.canonical, reduceCtorEq] at alike
termination_by value => sizeOf value
decreasing_by
  · have smaller := List.sizeOf_lt_of_mem isIn
    simp only [Json.arr.sizeOf_spec]
    omega
  · have smaller := List.sizeOf_lt_of_mem isIn
    simp only [Json.obj.sizeOf_spec, Prod.mk.sizeOf_spec] at smaller ⊢
    omega

/-! ## The text -/

theorem sortedItems_iff {items : List Json} :
    SortedItems items ↔ ∀ item ∈ items, item.Sorted := by
  induction items with
  | nil => simp [SortedItems]
  | cons item items ih =>
      rw [SortedItems, List.forall_mem_cons, ih]

theorem sortedFields_iff : SortedFields fields ↔ ∀ field ∈ fields, field.2.Sorted := by
  induction fields with
  | nil => simp [SortedFields]
  | cons field fields ih =>
      obtain ⟨key, value⟩ := field
      rw [SortedFields, List.forall_mem_cons, ih, SortedField]

/-- The canonical form of a finite value is finite and in order. -/
theorem Finite.canonical : ∀ {value : Json}, value.Finite →
    (Json.canonical value).Finite ∧ (Json.canonical value).Sorted
  | .null, _ | .bool _, _ | .str _, _ => ⟨trivial, trivial⟩
  | .int _, safe => ⟨safe, trivial⟩
  | .float _, isNumber => ⟨isNumber, trivial⟩
  | .arr items, finite => by
      have each : ∀ item ∈ items, (Json.canonical item).Finite ∧ (Json.canonical item).Sorted :=
        fun item member => Finite.canonical (finiteItems_iff.mp finite item member)
      rw [Json.canonical, canonicalItems_eq]
      refine ⟨finiteItems_iff.mpr ?_, sortedItems_iff.mpr ?_⟩
      · rw [List.forall_mem_map]
        exact fun item member => (each item member).1
      · rw [List.forall_mem_map]
        exact fun item member => (each item member).2
  | .obj fields, finite => by
      have each : ∀ field ∈ fields,
          (Json.canonical field.2).Finite ∧ (Json.canonical field.2).Sorted :=
        fun field member => Finite.canonical (finiteFields_iff.mp finite.1 field member)
      rw [canonical_obj]
      have perm := sortFields_perm (fields.map fun field => (field.1, Json.canonical field.2))
      have sortedEach : ∀ field ∈ sortFields (fields.map fun field =>
          (field.1, Json.canonical field.2)), field.2.Finite ∧ field.2.Sorted := by
        intro field member
        obtain ⟨original, isIn, rfl⟩ := List.mem_map.mp (perm.mem_iff.mp member)
        exact each original isIn
      refine ⟨⟨finiteFields_iff.mpr fun field member => (sortedEach field member).1, ?_⟩,
        sortedFields_iff.mpr fun field member => (sortedEach field member).2, ?_⟩
      · rw [(perm.map Prod.fst).nodup_iff, keys_map]
        exact finite.2
      · exact List.pairwise_map.mpr (sortFields_pairwise _)
termination_by value => sizeOf value
decreasing_by
  · have smaller := List.sizeOf_lt_of_mem member
    simp only [Json.arr.sizeOf_spec]
    omega
  · have smaller := List.sizeOf_lt_of_mem member
    obtain ⟨name, inner⟩ := field
    simp only [Json.obj.sizeOf_spec, Prod.mk.sizeOf_spec] at smaller ⊢
    omega

/-- What canonical JSON writes is read as the same value. -/
theorem parse_canonicalJson (finite : value.Finite) (padding : String)
    (blank : padding.toList.all isSpace = true) :
    ∃ parsed, parse (canonicalJson value ++ padding) = some parsed ∧ parsed.Same value := by
  obtain ⟨finiteForm, sorted⟩ := finite.canonical
  refine ⟨Json.canonical value, finiteForm.readsBack.parse padding blank, ?_⟩
  exact same_of_canonical finiteForm finite (canonical_of_sorted sorted)

/-- Canonical JSON writes two values alike exactly if they are the same. -/
theorem canonicalJson_eq_iff (finite : value.Finite) (finiteOther : other.Finite) :
    canonicalJson value = canonicalJson other ↔ value.Same other := by
  refine ⟨fun alike => ?_, fun same => ?_⟩
  · have read := finite.canonical.1.parse_text
    have readOther := finiteOther.canonical.1.parse_text
    rw [show (Json.canonical value).text = (Json.canonical other).text from alike, readOther] at read
    exact same_of_canonical finite finiteOther (Option.some.inj read).symm
  · exact congrArg text (same.canonical finite finiteOther)

end Triangle.Std.Json
