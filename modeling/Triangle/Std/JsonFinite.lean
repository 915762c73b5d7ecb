import Triangle.Std.JsonParse

/-!
# Values with any finite numbers

`parse_text` is about safe integers. A finite number that is no safe integer
is its literal: `JSON.stringify` writes it and `JSON.parse` keeps it. A finite
value has such numbers as well, and it reads back too (`Finite.readsBack`).
-/

namespace Triangle.Std.Json

/-- A number literal that denotes no safe integer. -/
def IsNumber (literal : String) : Prop :=
  readNumber literal.toList = some (.float literal, [])

variable {rest : List Char} {value : Json} {literal : String}

theorem Stops.digits (stops : Stops rest) (chars : List Char) :
    (chars ++ rest).takeWhile Char.isDigit = chars.takeWhile Char.isDigit ∧
      (chars ++ rest).dropWhile Char.isDigit = chars.dropWhile Char.isDigit ++ rest := by
  induction chars with
  | nil =>
      obtain ⟨taken, dropped⟩ := @Stops.takeWhile rest [] stops nofun
      exact ⟨taken, dropped⟩
  | cons c chars ih =>
      rw [List.cons_append, List.takeWhile_cons, List.takeWhile_cons, List.dropWhile_cons,
        List.dropWhile_cons]
      split
      · rw [ih.1]
        exact ⟨rfl, ih.2⟩
      · exact ⟨rfl, rfl⟩

theorem Stops.readFraction_append {rest chars fraction after : List Char} (stops : Stops rest)
    (read : Json.readFraction chars = some (fraction, after)) :
    Json.readFraction (chars ++ rest) = some (fraction, after ++ rest) := by
  unfold Json.readFraction at read
  split at read
  next digits =>
    obtain ⟨taken, dropped⟩ := stops.digits digits
    rw [List.cons_append, Json.readFraction, taken, dropped]
    dsimp only at read ⊢
    split at read
    · cases read
    next notEmpty =>
      cases read
      rw [if_neg notEmpty]
  next noPoint =>
    cases read
    cases chars with
    | nil => exact stops.readFraction
    | cons c chars =>
        rw [List.cons_append]
        unfold Json.readFraction
        split
        next isPoint => exact absurd (List.cons.inj isPoint).1 fun same => noPoint chars (same ▸ rfl)
        · rfl

/-- The sign of an exponent, and what follows it. -/
def exponentSign : List Char → Bool × List Char
  | '-' :: after => (true, after)
  | '+' :: after => (false, after)
  | chars => (false, chars)

/-- An exponent behind its sign. -/
def exponentSize (signed : Bool × List Char) : Option (Int × List Char) :=
  let digits := signed.2.takeWhile Char.isDigit
  if digits.isEmpty then none
  else
    let size : Int := Nat.ofDigitChars 10 digits 0
    some (if signed.1 then -size else size, signed.2.dropWhile Char.isDigit)

theorem readExponent_cons {c : Char} (isExponent : c = 'e' ∨ c = 'E') (chars : List Char) :
    Json.readExponent (c :: chars) = exponentSize (exponentSign chars) := by
  unfold Json.readExponent
  dsimp only
  rw [if_pos isExponent]
  split
  · rfl
  · rfl
  next notMinus notPlus =>
    have unsigned : exponentSign chars = (false, chars) := by
      unfold exponentSign
      split
      · exact absurd rfl (notMinus _)
      · exact absurd rfl (notPlus _)
      · rfl
    rw [unsigned]
    rfl

theorem exponentSign_append {chars : List Char} (notEmpty : chars ≠ []) (rest : List Char) :
    exponentSign (chars ++ rest) = ((exponentSign chars).1, (exponentSign chars).2 ++ rest) := by
  obtain ⟨c, others, rfl⟩ := List.exists_cons_of_ne_nil notEmpty
  rw [List.cons_append]
  unfold exponentSign
  split
  next isMinus =>
    cases isMinus
    rfl
  next isPlus =>
    cases isPlus
    rfl
  next notMinus notPlus =>
    split
    next isMinus => exact absurd (congrArg (· :: _) (List.cons.inj isMinus).1) (notMinus _)
    next isPlus => exact absurd (congrArg (· :: _) (List.cons.inj isPlus).1) (notPlus _)
    · rfl

theorem Stops.readExponent_append {rest chars after : List Char} {exponent : Int}
    (stops : Stops rest) (read : Json.readExponent chars = some (exponent, after)) :
    Json.readExponent (chars ++ rest) = some (exponent, after ++ rest) := by
  cases chars with
  | nil =>
      cases read
      exact stops.readExponent
  | cons c chars =>
      rw [List.cons_append]
      by_cases isExponent : c = 'e' ∨ c = 'E'
      · rw [readExponent_cons isExponent] at read ⊢
        have notEmpty : chars ≠ [] := by
          rintro rfl
          cases read
        obtain ⟨taken, dropped⟩ := stops.digits (exponentSign chars).2
        rw [exponentSign_append notEmpty]
        unfold exponentSize at read ⊢
        dsimp only at read ⊢
        rw [taken, dropped]
        split at read
        · cases read
        next hasDigits =>
          rw [if_neg hasDigits]
          cases read
          rfl
      · unfold Json.readExponent at read ⊢
        dsimp only at read ⊢
        rw [if_neg isExponent] at read ⊢
        cases read
        rfl

theorem readUnsigned_append {negative : Bool} {all chars rest : List Char} (stops : Stops rest)
    (read : readUnsigned negative all chars = some (value, [])) :
    readUnsigned negative (all ++ rest) (chars ++ rest) = some (value, rest) := by
  obtain ⟨whole, dropped⟩ := stops.digits chars
  unfold readUnsigned at read ⊢
  dsimp only at read ⊢
  rw [whole, dropped]
  split at read
  · cases read
  next isWhole =>
    rw [if_neg isWhole]
    cases ofFraction : Json.readFraction (chars.dropWhile Char.isDigit) with
    | none =>
        rw [ofFraction] at read
        cases read
    | some fractionRead =>
        obtain ⟨fraction, afterFraction⟩ := fractionRead
        cases ofExponent : Json.readExponent afterFraction with
        | none =>
            simp [ofFraction, ofExponent] at read
        | some exponentRead =>
            obtain ⟨exponent, after⟩ := exponentRead
            simp only [ofFraction, ofExponent, Option.bind_eq_bind, Option.bind_some,
              Option.some.injEq, Prod.mk.injEq] at read
            obtain ⟨isValue, rfl⟩ := read
            rw [stops.readFraction_append ofFraction]
            simp only [Option.bind_eq_bind, Option.bind_some, stops.readExponent_append ofExponent]
            rw [← isValue]
            simp

/-- A number literal reads back, whatever follows it. -/
theorem IsNumber.readNumber (isNumber : IsNumber literal) (stops : Stops rest) :
    Json.readNumber (literal.toList ++ rest) = some (.float literal, rest) := by
  unfold IsNumber at isNumber
  generalize literal.toList = chars at isNumber ⊢
  unfold Json.readNumber at isNumber
  split at isNumber
  next digits =>
    rw [List.cons_append, Json.readNumber, ← List.cons_append]
    exact readUnsigned_append stops isNumber
  next notMinus =>
    unfold Json.readNumber
    split
    next unsigned isMinus =>
      cases chars with
      | nil =>
          cases isNumber
      | cons c chars => exact absurd (congrArg (· :: chars) (List.cons.inj isMinus).1) (notMinus chars)
    · exact readUnsigned_append stops isNumber

example : IsNumber "0.5" := by rfl
example : IsNumber "1e+21" := by rfl
example : IsNumber "-1.5e-7" := by rfl
example : IsNumber "9007199254740992" := by rfl

/-- A literal starts with its sign or a digit. -/
theorem IsNumber.head (isNumber : IsNumber literal) :
    ∃ c others, literal.toList = c :: others ∧ (c = '-' ∨ c.isDigit = true) := by
  unfold IsNumber at isNumber
  generalize literal.toList = chars at isNumber ⊢
  cases chars with
  | nil => cases isNumber
  | cons c others =>
      refine ⟨c, others, rfl, ?_⟩
      by_contra neither
      rw [not_or, Bool.not_eq_true] at neither
      unfold Json.readNumber at isNumber
      split at isNumber
      next isMinus => exact neither.1 (List.cons.inj isMinus).1
      next _ =>
        unfold readUnsigned at isNumber
        rw [List.takeWhile_cons_of_neg (by rw [neither.2]; exact Bool.false_ne_true)] at isNumber
        cases isNumber

mutual

/-- A value whose numbers are finite and whose keys are distinct. -/
def Finite : Json → Prop
  | .null => True
  | .bool _ => True
  | .int value => isSafe value = true
  | .float literal => IsNumber literal
  | .str _ => True
  | .arr items => FiniteItems items
  | .obj fields => FiniteFields fields ∧ (fields.map Prod.fst).Nodup

/-- Every item is finite. -/
def FiniteItems : List Json → Prop
  | [] => True
  | item :: rest => item.Finite ∧ FiniteItems rest

/-- Every field's value is finite. -/
def FiniteFields : List (String × Json) → Prop
  | [] => True
  | field :: rest => FiniteField field ∧ FiniteFields rest

/-- The field's value is finite. -/
def FiniteField : String × Json → Prop
  | (_, value) => value.Finite

end

theorem finiteItems_iff {items : List Json} :
    FiniteItems items ↔ ∀ item ∈ items, item.Finite := by
  induction items with
  | nil => simp [FiniteItems]
  | cons item items ih =>
      rw [FiniteItems, List.forall_mem_cons, ih]

theorem finiteFields_iff {fields : List (String × Json)} :
    FiniteFields fields ↔ ∀ field ∈ fields, field.2.Finite := by
  induction fields with
  | nil => simp [FiniteFields]
  | cons field fields ih =>
      obtain ⟨key, value⟩ := field
      rw [FiniteFields, List.forall_mem_cons, ih, FiniteField]

mutual

/-- A plain value is finite. -/
theorem Plain.finite : ∀ {value : Json}, value.Plain → value.Finite
  | .null, _ | .bool _, _ | .str _, _ => trivial
  | .int _, safe => safe
  | .arr _, plain => PlainItems.finite plain
  | .obj _, plain => ⟨PlainFields.finite plain.1, plain.2⟩

/-- Plain items are finite. -/
theorem PlainItems.finite : ∀ {items : List Json}, PlainItems items → FiniteItems items
  | [], _ => trivial
  | _ :: _, plain => ⟨Plain.finite plain.1, PlainItems.finite plain.2⟩

/-- Plain fields are finite. -/
theorem PlainFields.finite : ∀ {fields : List (String × Json)},
    PlainFields fields → FiniteFields fields
  | [], _ => trivial
  | (_, _) :: _, plain => ⟨Plain.finite plain.1, PlainFields.finite plain.2⟩

end

theorem readsBack_float (isNumber : IsNumber literal) : (Json.float literal).ReadsBack := by
  intro fuel rest stops enough
  obtain ⟨fuel, rfl⟩ : ∃ left, fuel = left + 1 := ⟨fuel - 1, by omega⟩
  obtain ⟨c, others, isCons, starts⟩ := isNumber.head
  rw [text, isCons, List.cons_append, readValue_number starts, ← List.cons_append, ← isCons]
  exact isNumber.readNumber stops

theorem Finite.starts (finite : value.Finite) : value.Starts := by
  by_cases isFloat : ∃ literal, value = .float literal
  · obtain ⟨literal, rfl⟩ := isFloat
    obtain ⟨c, others, isCons, starts⟩ := IsNumber.head finite
    exact ⟨c, others, isCons, solid_of_digit starts⟩
  · exact starts_of_notFloat value fun literal same => isFloat ⟨literal, same⟩

/-- Every finite value reads back. -/
theorem Finite.readsBack : ∀ {value : Json}, value.Finite → value.ReadsBack
  | .null, _ => readsBack_null
  | .bool value, _ => readsBack_bool value
  | .int number, safe => readsBack_int number safe
  | .float _, isNumber => readsBack_float isNumber
  | .str body, _ => readsBack_str body
  | .arr items, finite =>
      readsBack_arr items (fun item member => (finiteItems_iff.mp finite item member).starts)
        fun item member => Finite.readsBack (finiteItems_iff.mp finite item member)
  | .obj fields, finite =>
      readsBack_obj fields finite.2 fun field member =>
        Finite.readsBack (finiteFields_iff.mp finite.1 field member)
termination_by value => sizeOf value
decreasing_by
  · have smaller := List.sizeOf_lt_of_mem member
    simp only [Json.arr.sizeOf_spec]
    omega
  · have smaller := List.sizeOf_lt_of_mem member
    obtain ⟨name, inner⟩ := field
    simp only [Json.obj.sizeOf_spec, Prod.mk.sizeOf_spec] at smaller ⊢
    omega

/-- `JSON.parse` inverts `JSON.stringify`. -/
theorem Finite.parse_text (finite : value.Finite) : parse value.text = some value := by
  have read := finite.readsBack.parse "" rfl
  rwa [String.append_empty] at read

end Triangle.Std.Json
