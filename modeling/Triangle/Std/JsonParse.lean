import Triangle.Std.Json

/-!
# Reading JSON

`Json.parse` is `JSON.parse`: white space, the six kinds of values, escapes and
number literals of the JSON grammar, with nothing left over. A key that occurs
twice keeps its first place and its last value. An escaped surrogate without
its partner reads as U+FFFD, the character that has its UTF-8 length. A number
that is a safe integer is read as one; any other keeps its literal.

`parse_text` is the round trip: what `Json.text` writes for a value of safe
integers and distinct keys reads back as that value.
-/

namespace Triangle.Std.Json

/-- `Number.MAX_SAFE_INTEGER`. -/
def maxSafeInteger : Nat := 2 ^ 53 - 1

/-- `Number.isSafeInteger` of an integer. -/
def isSafe (value : Int) : Bool :=
  value.natAbs ≤ maxSafeInteger

/-- White space of the JSON grammar. -/
def isSpace (c : Char) : Bool :=
  c = ' ' || c = '\n' || c = '\t' || c = '\r'

/-- The text after leading white space. -/
def skipSpace (chars : List Char) : List Char :=
  chars.dropWhile isSpace

/-- The value of a hexadecimal digit. -/
def hexValue (c : Char) : Option Nat :=
  if c.isDigit then some (c.toNat - 48)
  else if 'a' ≤ c ∧ c ≤ 'f' then some (c.toNat - 87)
  else if 'A' ≤ c ∧ c ≤ 'F' then some (c.toNat - 55)
  else none

/-- The code unit of `uXXXX` after its backslash and `u`. -/
def readUnit : List Char → Option (Nat × List Char)
  | a :: b :: c :: d :: rest => do
      let a ← hexValue a
      let b ← hexValue b
      let c ← hexValue c
      let d ← hexValue d
      some (((a * 16 + b) * 16 + c) * 16 + d, rest)
  | _ => none

/-- The low surrogate that an escape at the front denotes. -/
def readLowSurrogate : List Char → Option (Nat × List Char)
  | '\\' :: 'u' :: rest => do
      let (unit, after) ← readUnit rest
      if 0xDC00 ≤ unit ∧ unit < 0xE000 then some (unit, after) else none
  | _ => none

/-- The character of a `u` escape, from the four digits on. -/
def readUnicode (chars : List Char) : Option (Char × List Char) := do
  let (unit, rest) ← readUnit chars
  if 0xD800 ≤ unit ∧ unit < 0xDC00 then
    match readLowSurrogate rest with
    | some (low, after) =>
        some (Char.ofNat (0x10000 + (unit - 0xD800) * 0x400 + (low - 0xDC00)), after)
    | none => some (Char.ofNat 0xFFFD, rest)
  else if 0xDC00 ≤ unit ∧ unit < 0xE000 then some (Char.ofNat 0xFFFD, rest)
  else some (Char.ofNat unit, rest)

/-- The character of an escape after its backslash. -/
def readEscape : List Char → Option (Char × List Char)
  | '"' :: rest => some ('"', rest)
  | '\\' :: rest => some ('\\', rest)
  | '/' :: rest => some ('/', rest)
  | 'b' :: rest => some (Char.ofNat 8, rest)
  | 'f' :: rest => some (Char.ofNat 12, rest)
  | 'n' :: rest => some (Char.ofNat 10, rest)
  | 'r' :: rest => some (Char.ofNat 13, rest)
  | 't' :: rest => some (Char.ofNat 9, rest)
  | 'u' :: rest => readUnicode rest
  | _ => none

/-- One character of a string literal. -/
def readChar : List Char → Option (Char × List Char)
  | '\\' :: rest => readEscape rest
  | c :: rest => if c.toNat < 32 then none else some (c, rest)
  | [] => none

/-- A string literal after its opening quote, of at most `fuel` characters. -/
def readString : Nat → List Char → Option (List Char × List Char)
  | _, '"' :: rest => some ([], rest)
  | 0, _ => none
  | fuel + 1, chars => do
      let (c, rest) ← readChar chars
      let (body, after) ← readString fuel rest
      some (c :: body, after)

/-- The digits of an optional fraction. -/
def readFraction : List Char → Option (List Char × List Char)
  | '.' :: rest =>
      let digits := rest.takeWhile Char.isDigit
      if digits.isEmpty then none else some (digits, rest.dropWhile Char.isDigit)
  | chars => some ([], chars)

/-- An optional exponent. -/
def readExponent : List Char → Option (Int × List Char)
  | c :: rest =>
      if c = 'e' ∨ c = 'E' then
        let (negative, unsigned) := match rest with
          | '-' :: after => (true, after)
          | '+' :: after => (false, after)
          | _ => (false, rest)
        let digits := unsigned.takeWhile Char.isDigit
        if digits.isEmpty then none
        else
          let size : Int := Nat.ofDigitChars 10 digits 0
          some (if negative then -size else size, unsigned.dropWhile Char.isDigit)
      else some (0, c :: rest)
  | [] => some (0, [])

/-- The integer that `mantissa * 10 ^ exponent` is, if it is one. -/
def scaled? (mantissa : Nat) (exponent : Int) : Option Nat :=
  match exponent with
  | .ofNat size => some (mantissa * 10 ^ size)
  | .negSucc size =>
      if mantissa % 10 ^ (size + 1) = 0 then some (mantissa / 10 ^ (size + 1)) else none

/-- The value of a number literal. -/
def numberOf (negative : Bool) (whole fraction : List Char) (exponent : Int) (literal : String) :
    Json :=
  match scaled? (Nat.ofDigitChars 10 (whole ++ fraction) 0) (exponent - fraction.length) with
  | some size =>
      let value : Int := if negative then -size else size
      if isSafe value then .int value else .float literal
  | none => .float literal

/-- A number literal without its sign. -/
def readUnsigned (negative : Bool) (all chars : List Char) : Option (Json × List Char) :=
  let whole := chars.takeWhile Char.isDigit
  if whole.isEmpty ∨ (whole.head? = some '0' ∧ 1 < whole.length) then none
  else do
    let (fraction, afterFraction) ← readFraction (chars.dropWhile Char.isDigit)
    let (exponent, rest) ← readExponent afterFraction
    let literal := String.ofList (all.take (all.length - rest.length))
    some (numberOf negative whole fraction exponent literal, rest)

/-- A number literal. -/
def readNumber : List Char → Option (Json × List Char)
  | '-' :: rest => readUnsigned true ('-' :: rest) rest
  | chars => readUnsigned false chars chars

/-- Set a field: a key that is there keeps its place. -/
def setField (fields : List (String × Json)) (key : String) (value : Json) :
    List (String × Json) :=
  if fields.any fun field => field.1 = key then
    fields.map fun field => if field.1 = key then (key, value) else field
  else fields ++ [(key, value)]

/-- A word of the grammar after its first letter. -/
def readWord (word : List Char) (value : Json) (chars : List Char) : Option (Json × List Char) :=
  if word.isPrefixOf chars then some (value, chars.drop word.length) else none

mutual

/-- A value, with what follows it. Each nested value uses up fuel. -/
def readValue : Nat → List Char → Option (Json × List Char)
  | 0, _ => none
  | fuel + 1, chars =>
      match skipSpace chars with
      | [] => none
      | c :: rest =>
          if c = '"' then
            (readString rest.length rest).map fun (body, after) =>
              (.str (String.ofList body), after)
          else if c = '[' then
            match skipSpace rest with
            | ']' :: after => some (.arr [], after)
            | items => (readItems fuel [] items).map fun (items, after) => (.arr items, after)
          else if c = '\x7b' then
            match skipSpace rest with
            | '\x7d' :: after => some (.obj [], after)
            | fields =>
                (readFields fuel [] fields).map fun (fields, after) => (.obj fields, after)
          else if c = 'n' then readWord ['u', 'l', 'l'] .null rest
          else if c = 't' then readWord ['r', 'u', 'e'] (.bool true) rest
          else if c = 'f' then readWord ['a', 'l', 's', 'e'] (.bool false) rest
          else readNumber (c :: rest)

/-- The items of an array up to its closing bracket. -/
def readItems : Nat → List Json → List Char → Option (List Json × List Char)
  | 0, _, _ => none
  | fuel + 1, before, chars => do
      let (item, rest) ← readValue fuel chars
      match skipSpace rest with
      | ',' :: after => readItems fuel (before ++ [item]) after
      | ']' :: after => some (before ++ [item], after)
      | _ => none

/-- The fields of an object up to its closing brace. -/
def readFields : Nat → List (String × Json) → List Char →
    Option (List (String × Json) × List Char)
  | 0, _, _ => none
  | fuel + 1, before, chars =>
      match skipSpace chars with
      | '"' :: rest => do
          let (key, afterKey) ← readString rest.length rest
          match skipSpace afterKey with
          | ':' :: afterColon => do
              let (value, afterValue) ← readValue fuel afterColon
              let fields := setField before (String.ofList key) value
              match skipSpace afterValue with
              | ',' :: after => readFields fuel fields after
              | '\x7d' :: after => some (fields, after)
              | _ => none
          | _ => none
      | _ => none

end

/-- `JSON.parse`. -/
def parse (text : String) : Option Json :=
  match readValue (text.toList.length + 1) text.toList with
  | some (value, rest) => if (skipSpace rest).isEmpty then some value else none
  | none => none


/-! ## The round trip -/

theorem hexValue_hexDigit : ∀ digit, digit < 16 → hexValue (hexDigit digit) = some digit := by
  decide

/-- An escaped character reads back, whatever follows. -/
theorem readChar_escapeChar (c : Char) (rest : List Char) :
    readChar (escapeChar c ++ rest) = some (c, rest) := by
  have named : ∀ code, c.toNat = code → Char.ofNat code = c := by
    rintro code rfl
    exact Char.ofNat_toNat c
  unfold escapeChar
  by_cases isQuote : c = '"'
  · simp [isQuote, readChar, readEscape]
  by_cases isBackslash : c = '\\'
  · simp [isBackslash, readChar, readEscape]
  by_cases isBackspace : c.toNat = 8
  · simpa [isQuote, isBackslash, isBackspace, readChar, readEscape] using named 8 isBackspace
  by_cases isTab : c.toNat = 9
  · simpa [isQuote, isBackslash, isTab, readChar, readEscape] using named 9 isTab
  by_cases isNewline : c.toNat = 10
  · simpa [isQuote, isBackslash, isNewline, readChar, readEscape] using named 10 isNewline
  by_cases isFormFeed : c.toNat = 12
  · simpa [isQuote, isBackslash, isFormFeed, readChar, readEscape] using named 12 isFormFeed
  by_cases isReturn : c.toNat = 13
  · simpa [isQuote, isBackslash, isReturn, readChar, readEscape] using named 13 isReturn
  rw [if_neg isQuote, if_neg isBackslash, if_neg isBackspace, if_neg isTab, if_neg isNewline,
    if_neg isFormFeed, if_neg isReturn]
  by_cases isControl : c.toNat < 32
  · have high := hexValue_hexDigit (c.toNat / 16) (by omega)
    have low := hexValue_hexDigit (c.toNat % 16) (by omega)
    have zero : hexValue '0' = some 0 := by decide
    have unit : ((0 * 16 + 0) * 16 + c.toNat / 16) * 16 + c.toNat % 16 = c.toNat := by omega
    rw [if_pos isControl]
    simp only [List.cons_append, List.nil_append, readChar, readEscape, readUnicode, readUnit, zero,
      high, low, Option.bind_eq_bind, Option.bind_some, unit]
    rw [if_neg (by omega), if_neg (by omega), Char.ofNat_toNat]
  · rw [if_neg isControl]
    simp only [List.cons_append, List.nil_append]
    unfold readChar
    split
    next isCons => exact absurd (List.cons.inj isCons).1 isBackslash
    next isCons =>
      obtain ⟨rfl, rfl⟩ := List.cons.inj isCons
      rw [if_neg isControl]
    next isNil => cases isNil

/-- An escaped character is not a quote. -/
theorem escapeChar_head (c : Char) (rest : List Char) :
    ∃ first others, escapeChar c ++ rest = first :: others ∧ first ≠ '"' := by
  unfold escapeChar
  by_cases isQuote : c = '"'
  · rw [if_pos isQuote]
    exact ⟨_, _, rfl, by decide⟩
  · rw [if_neg isQuote]
    split_ifs
    all_goals first
      | exact ⟨_, _, rfl, by decide⟩
      | exact ⟨_, _, rfl, isQuote⟩

theorem readString_succ {fuel : Nat} {chars : List Char} {first : Char} {others : List Char}
    (isCons : chars = first :: others) (notQuote : first ≠ '"') :
    readString (fuel + 1) chars = (readChar chars).bind fun (c, rest) =>
      (readString fuel rest).bind fun (body, after) => some (c :: body, after) := by
  subst isCons
  rw [readString]
  · rfl
  · rintro rest isQuote
    exact notQuote (List.cons.inj isQuote).1

/-- A quoted string reads back, whatever follows. -/
theorem readString_quoted (body rest : List Char) (fuel : Nat) (enough : body.length ≤ fuel) :
    readString fuel (body.flatMap escapeChar ++ '"' :: rest) = some (body, rest) := by
  induction body generalizing fuel with
  | nil =>
      rw [List.flatMap_nil, List.nil_append]
      unfold readString
      rfl
  | cons c body ih =>
      obtain ⟨fuel, rfl⟩ : ∃ left, fuel = left + 1 := ⟨fuel - 1, by simp at enough; omega⟩
      rw [List.flatMap_cons, List.append_assoc]
      obtain ⟨first, others, isCons, notQuote⟩ :=
        escapeChar_head c (body.flatMap escapeChar ++ '"' :: rest)
      rw [readString_succ isCons notQuote, readChar_escapeChar, Option.bind_some]
      dsimp only
      rw [ih fuel (by simp at enough; omega)]
      rfl

theorem length_le_flatMap_escapeChar (body : List Char) :
    body.length ≤ (body.flatMap escapeChar).length := by
  induction body with
  | nil => exact Nat.le_refl _
  | cons c body ih =>
      have nonempty : 0 < (escapeChar c).length := by
        unfold escapeChar
        split_ifs <;> simp
      rw [List.flatMap_cons, List.length_append, List.length_cons]
      omega

/-- What follows a number does not continue it. -/
def Stops (rest : List Char) : Prop :=
  ∀ c ∈ rest.head?, c.isDigit = false ∧ c ≠ '.' ∧ c ≠ 'e' ∧ c ≠ 'E'

theorem Stops.takeWhile {rest digits : List Char} (stops : Stops rest)
    (areDigits : ∀ c ∈ digits, c.isDigit = true) :
    (digits ++ rest).takeWhile Char.isDigit = digits ∧
      (digits ++ rest).dropWhile Char.isDigit = rest := by
  rw [List.takeWhile_append_of_pos areDigits, List.dropWhile_append_of_pos areDigits]
  cases rest with
  | nil => simp
  | cons c rest =>
      have notDigit : c.isDigit = false := (stops c rfl).1
      simp [notDigit]

theorem Stops.readFraction {rest : List Char} (stops : Stops rest) :
    readFraction rest = some ([], rest) := by
  cases rest with
  | nil => rfl
  | cons c rest =>
      unfold Json.readFraction
      split
      next isCons => exact absurd (List.cons.inj isCons).1 (stops c rfl).2.1
      · rfl

theorem Stops.readExponent {rest : List Char} (stops : Stops rest) :
    readExponent rest = some (0, rest) := by
  cases rest with
  | nil => rfl
  | cons c rest =>
      have notExponent : ¬ (c = 'e' ∨ c = 'E') := by
        rintro (isLower | isUpper)
        · exact (stops c rfl).2.2.1 isLower
        · exact (stops c rfl).2.2.2 isUpper
      simp only [Json.readExponent, if_neg notExponent]

/-- A number with more than one digit does not start with a zero. -/
theorem toDigits_head (value : Nat) (positive : 0 < value) :
    (Nat.toDigits 10 value).head? ≠ some '0' := by
  induction value using Nat.strongRecOn with
  | ind value ih =>
      rw [Nat.toDigits_eq_if (by decide)]
      by_cases small : value < 10
      · rw [if_pos small]
        have notZero : ∀ digit, digit < 10 → 0 < digit → digit.digitChar ≠ '0' := by decide
        simpa using notZero value small positive
      · rw [if_neg small, List.head?_append_of_ne_nil _ Nat.toDigits_ne_nil]
        exact ih (value / 10) (by omega) (by omega)

theorem readUnsigned_toDigits (negative : Bool) (all : List Char) (value : Nat) (rest : List Char)
    (stops : Stops rest) (safe : isSafe value = true) :
    readUnsigned negative all (Nat.toDigits 10 value ++ rest) =
      some (.int (if negative then -value else value), rest) := by
  have areDigits : ∀ c ∈ Nat.toDigits 10 value, c.isDigit = true :=
    fun c member => Nat.isDigit_of_mem_toDigits (by decide) (by decide) member
  obtain ⟨whole, after⟩ := stops.takeWhile areDigits
  have wellFormed : ¬ ((Nat.toDigits 10 value).isEmpty = true ∨
      ((Nat.toDigits 10 value).head? = some '0' ∧ 1 < (Nat.toDigits 10 value).length)) := by
    rintro (isEmpty | ⟨startsZero, long⟩)
    · exact Nat.toDigits_ne_nil (List.isEmpty_iff.mp isEmpty)
    · rcases Nat.eq_zero_or_pos value with isZero | positive
      · rw [isZero, Nat.toDigits_zero] at long
        simp at long
      · exact toDigits_head value positive startsZero
  unfold readUnsigned
  dsimp only
  rw [whole, after, if_neg wellFormed]
  have safeNegated : isSafe (-(value : Int)) = true := by
    unfold isSafe at safe ⊢
    rw [Int.natAbs_neg]
    exact safe
  simp only [stops.readFraction, stops.readExponent, Option.bind_eq_bind, Option.bind_some, numberOf,
    List.append_nil, List.length_nil, Nat.ofDigitChars_ten_toDigits]
  cases negative
  · simp [scaled?, safe]
  · simp [scaled?, safeNegated]

mutual

/-- A value whose numbers are safe integers and whose keys are distinct. -/
def Plain : Json → Prop
  | .null => True
  | .bool _ => True
  | .int value => isSafe value = true
  | .float _ => False
  | .str _ => True
  | .arr items => PlainItems items
  | .obj fields => PlainFields fields ∧ (fields.map Prod.fst).Nodup

/-- Every item is plain. -/
def PlainItems : List Json → Prop
  | [] => True
  | item :: rest => item.Plain ∧ PlainItems rest

/-- Every field's value is plain. -/
def PlainFields : List (String × Json) → Prop
  | [] => True
  | field :: rest => PlainField field ∧ PlainFields rest

/-- The field's value is plain. -/
def PlainField : String × Json → Prop
  | (_, value) => value.Plain

end

theorem skipSpace_cons {c : Char} {rest : List Char} (solid : isSpace c = false) :
    skipSpace (c :: rest) = c :: rest := by
  simp [skipSpace, solid]

theorem int_text (value : Int) :
    (Json.int value).text.toList =
      if 0 ≤ value then Nat.toDigits 10 value.natAbs
      else '-' :: Nat.toDigits 10 value.natAbs := by
  rw [text, Int.toString_eq_repr, Int.repr_eq_if]
  split
  next nonnegative =>
    rw [Nat.toList_repr]
    congr 1
    omega
  next negative =>
    rw [String.toList_append, Nat.toList_repr]
    have same : (-value).toNat = value.natAbs := by omega
    rw [same]
    rfl

theorem readNumber_of_digit {c : Char} {rest : List Char} (isDigit : c.isDigit = true) :
    readNumber (c :: rest) = readUnsigned false (c :: rest) (c :: rest) := by
  unfold readNumber
  split
  next isCons =>
    rw [(List.cons.inj isCons).1] at isDigit
    cases isDigit
  · rfl

/-- A printed safe integer reads back. -/
theorem readNumber_int (value : Int) (rest : List Char) (stops : Stops rest)
    (safe : isSafe value = true) :
    readNumber ((Json.int value).text.toList ++ rest) = some (.int value, rest) := by
  have sameSize : isSafe (value.natAbs : Int) = true := by
    unfold isSafe at safe ⊢
    rw [Int.natAbs_natCast]
    exact safe
  rw [int_text]
  by_cases nonnegative : 0 ≤ value
  · rw [if_pos nonnegative]
    obtain ⟨c, others, isCons⟩ := List.exists_cons_of_ne_nil
      (Nat.toDigits_ne_nil : Nat.toDigits 10 value.natAbs ≠ [])
    have isDigit : c.isDigit = true :=
      Nat.isDigit_of_mem_toDigits (by decide) (by decide) (isCons ▸ List.mem_cons_self)
    rw [isCons, List.cons_append, readNumber_of_digit isDigit, ← List.cons_append, ← isCons,
      readUnsigned_toDigits false _ value.natAbs rest stops sameSize]
    have same : (value.natAbs : Int) = value := by omega
    simp [same]
  · rw [if_neg nonnegative, List.cons_append]
    change readUnsigned true _ (Nat.toDigits 10 value.natAbs ++ rest) = _
    rw [readUnsigned_toDigits true _ value.natAbs rest stops sameSize]
    have same : -(value.natAbs : Int) = value := by omega
    simpa using same

/-- A printed integer starts with its sign or a digit. -/
theorem int_text_head (value : Int) :
    ∃ c others, (Json.int value).text.toList = c :: others ∧ (c = '-' ∨ c.isDigit = true) := by
  rw [int_text]
  split
  · obtain ⟨c, others, isCons⟩ := List.exists_cons_of_ne_nil
      (Nat.toDigits_ne_nil : Nat.toDigits 10 value.natAbs ≠ [])
    exact ⟨c, others, isCons, .inr (Nat.isDigit_of_mem_toDigits (by decide) (by decide)
      (isCons ▸ List.mem_cons_self))⟩
  · exact ⟨'-', _, rfl, .inl rfl⟩

theorem quote_toList (value : String) :
    (quote value).toList = '"' :: (value.toList.flatMap escapeChar ++ ['"']) := by
  simp [quote]

/-- The printed value starts with none of the characters that end one. -/
def Starts (value : Json) : Prop :=
  ∃ c others, value.text.toList = c :: others ∧ isSpace c = false ∧ c ≠ ']' ∧ c ≠ '\x7d'

/-- The first character of a number ends nothing. -/
theorem solid_of_digit {c : Char} (starts : c = '-' ∨ c.isDigit = true) :
    isSpace c = false ∧ c ≠ ']' ∧ c ≠ '\x7d' := by
  rcases starts with rfl | isDigit
  · decide
  · refine ⟨?_, ?_, ?_⟩
    · by_contra isBlank
      rw [Bool.not_eq_false] at isBlank
      simp only [isSpace, Bool.or_eq_true, decide_eq_true_eq] at isBlank
      rcases isBlank with ((rfl | rfl) | rfl) | rfl <;> cases isDigit
    · rintro rfl
      cases isDigit
    · rintro rfl
      cases isDigit

theorem starts_of_notFloat (value : Json) (notFloat : ∀ text, value ≠ .float text) :
    value.Starts := by
  cases value with
  | null => exact ⟨'n', _, rfl, by decide⟩
  | bool value => cases value <;> exact ⟨_, _, rfl, by decide⟩
  | int value =>
      obtain ⟨c, others, isCons, starts⟩ := int_text_head value
      exact ⟨c, others, isCons, solid_of_digit starts⟩
  | float text => exact absurd rfl (notFloat text)
  | str value =>
      exact ⟨'"', _, quote_toList value, by decide⟩
  | arr items =>
      refine ⟨'[', (textItems items).toList ++ [']'], ?_, by decide⟩
      simp [text]
  | obj fields =>
      refine ⟨'\x7b', (textFields fields).toList ++ ['\x7d'], ?_, by decide⟩
      simp [text]

theorem readValue_number {fuel : Nat} {c : Char} {rest : List Char}
    (starts : c = '-' ∨ c.isDigit = true) :
    readValue (fuel + 1) (c :: rest) = readNumber (c :: rest) := by
  have other : ∀ d : Char, d ≠ '-' → d.isDigit = false → c ≠ d := by
    rintro d notMinus notDigit rfl
    rcases starts with isMinus | isDigit
    · exact notMinus isMinus
    · rw [notDigit] at isDigit
      cases isDigit
  rw [readValue, skipSpace_cons (solid_of_digit starts).1]
  dsimp only
  rw [if_neg (other '"' (by decide) (by decide)), if_neg (other '[' (by decide) (by decide)),
    if_neg (other '\x7b' (by decide) (by decide)), if_neg (other 'n' (by decide) (by decide)),
    if_neg (other 't' (by decide) (by decide)), if_neg (other 'f' (by decide) (by decide))]

theorem stops_cons {c : Char} {rest : List Char}
    (closing : c = ',' ∨ c = ']' ∨ c = '\x7d') : Stops (c :: rest) := by
  intro d isHead
  cases isHead
  rcases closing with rfl | rfl | rfl <;> decide

/-- A string value reads back. -/
theorem readString_quote (value : String) (rest : List Char) :
    readString (value.toList.flatMap escapeChar ++ '"' :: rest).length
      (value.toList.flatMap escapeChar ++ '"' :: rest) = some (value.toList, rest) := by
  refine readString_quoted _ _ _ ?_
  have bound := length_le_flatMap_escapeChar value.toList
  rw [List.length_append]
  omega

theorem setField_new {fields : List (String × Json)} {key : String} {value : Json}
    (isNew : key ∉ fields.map Prod.fst) : setField fields key value = fields ++ [(key, value)] := by
  unfold setField
  rw [if_neg]
  intro found
  obtain ⟨field, member, isKey⟩ := List.any_eq_true.mp found
  exact isNew (List.mem_map.mpr ⟨field, member, by simpa using isKey⟩)

/-- Reading an array that is not empty. -/
theorem readValue_arr {fuel : Nat} {c : Char} {others : List Char} (solid : isSpace c = false)
    (notClosing : c ≠ ']') :
    readValue (fuel + 1) ('[' :: c :: others) =
      (readItems fuel [] (c :: others)).map fun (items, after) => (.arr items, after) := by
  rw [readValue, skipSpace_cons (by decide)]
  dsimp only
  rw [if_neg (by decide), if_pos rfl, skipSpace_cons solid]
  split
  next isCons => exact absurd (List.cons.inj isCons).1 notClosing
  · rfl

/-- Reading an object that is not empty. -/
theorem readValue_obj {fuel : Nat} {others : List Char} :
    readValue (fuel + 1) ('\x7b' :: '"' :: others) =
      (readFields fuel [] ('"' :: others)).map fun (fields, after) => (.obj fields, after) := by
  rw [readValue, skipSpace_cons (by decide)]
  dsimp only
  rw [if_neg (by decide), if_neg (by decide), if_pos rfl, skipSpace_cons (by decide)]
  split
  next isCons => cases isCons
  · rfl

theorem textItems_head (item : Json) (items : List Json) (starts : item.Starts) :
    ∃ c others, (textItems (item :: items)).toList = c :: others ∧ isSpace c = false ∧ c ≠ ']' := by
  obtain ⟨c, others, isCons, solid, notClosing, -⟩ := starts
  cases items with
  | nil => exact ⟨c, others, isCons, solid, notClosing⟩
  | cons next items =>
      refine ⟨c, others ++ ',' :: (textItems (next :: items)).toList, ?_, solid, notClosing⟩
      simp [textItems, isCons]

theorem textFields_head (field : String × Json) (fields : List (String × Json)) :
    ∃ others, (textFields (field :: fields)).toList = '"' :: others := by
  obtain ⟨key, value⟩ := field
  have shape : (textField (key, value)).toList =
      '"' :: (key.toList.flatMap escapeChar ++ '"' :: ':' :: value.text.toList) := by
    simp [textField, quote_toList]
  cases fields with
  | nil => exact ⟨_, shape⟩
  | cons next fields =>
      rw [textFields, String.toList_append, String.toList_append, shape]
      exact ⟨_, rfl⟩

/-- Reading one field, up to what follows its value. -/
theorem readFields_field {fuel : Nat} {before : List (String × Json)} {key : String} {value : Json}
    {chars rest : List Char} (isNew : key ∉ before.map Prod.fst)
    (read : readValue fuel chars = some (value, rest)) :
    readFields (fuel + 1) before ((quote key).toList ++ ':' :: chars) =
      match skipSpace rest with
      | ',' :: after => readFields fuel (before ++ [(key, value)]) after
      | '\x7d' :: after => some (before ++ [(key, value)], after)
      | _ => none := by
  rw [quote_toList, List.cons_append, List.append_assoc, List.singleton_append, readFields,
    skipSpace_cons (by decide)]
  simp only [readString_quote, Option.bind_eq_bind, Option.bind_some,
    skipSpace_cons (show isSpace ':' = false by decide), read, String.ofList_toList,
    setField_new isNew]

/-- The printed value reads back, whatever follows it. -/
def ReadsBack (value : Json) : Prop :=
  ∀ fuel rest, Stops rest → value.text.toList.length < fuel →
    readValue fuel (value.text.toList ++ rest) = some (value, rest)

/-- Printed items read back. -/
theorem readItems_text (item : Json) (others before : List Json) (fuel : Nat) (rest : List Char)
    (each : ∀ listed ∈ item :: others, listed.ReadsBack)
    (enough : (textItems (item :: others)).toList.length + 1 < fuel) :
    readItems fuel before ((textItems (item :: others)).toList ++ ']' :: rest) =
      some (before ++ item :: others, rest) := by
  induction others generalizing item before fuel with
  | nil =>
      obtain ⟨fuel, rfl⟩ : ∃ left, fuel = left + 1 := ⟨fuel - 1, by omega⟩
      have read := each item List.mem_cons_self fuel (']' :: rest) (stops_cons (by simp))
        (by simp only [textItems] at enough; omega)
      rw [readItems, textItems, read]
      simp [skipSpace_cons (show isSpace ']' = false by decide)]
  | cons next others ih =>
      obtain ⟨fuel, rfl⟩ : ∃ left, fuel = left + 1 := ⟨fuel - 1, by omega⟩
      have shape : (textItems (item :: next :: others)).toList ++ ']' :: rest =
          item.text.toList ++ ',' :: ((textItems (next :: others)).toList ++ ']' :: rest) := by
        simp [textItems]
      have size : (textItems (item :: next :: others)).toList.length =
          item.text.toList.length + (textItems (next :: others)).toList.length + 1 := by
        simp [textItems]
        omega
      have read := each item List.mem_cons_self fuel
        (',' :: ((textItems (next :: others)).toList ++ ']' :: rest)) (stops_cons (by simp))
        (by omega)
      have readRest := ih next (before ++ [item]) fuel
        (fun listed member => each listed (List.mem_cons_of_mem item member)) (by omega)
      rw [shape, readItems, read]
      simp only [Option.bind_eq_bind, Option.bind_some,
        skipSpace_cons (show isSpace ',' = false by decide)]
      rw [readRest, List.append_assoc]
      rfl

/-- Printed fields read back. -/
theorem readFields_text (key : String) (value : Json) (others before : List (String × Json))
    (fuel : Nat) (rest : List Char)
    (each : ∀ field ∈ (key, value) :: others, field.2.ReadsBack)
    (distinct : ((before ++ (key, value) :: others).map Prod.fst).Nodup)
    (enough : (textFields ((key, value) :: others)).toList.length + 1 < fuel) :
    readFields fuel before ((textFields ((key, value) :: others)).toList ++ '\x7d' :: rest) =
      some (before ++ (key, value) :: others, rest) := by
  have isNew : key ∉ before.map Prod.fst := by
    rw [List.map_append, List.nodup_append] at distinct
    exact fun member => distinct.2.2 key member key (by simp) rfl
  induction others generalizing key value before fuel with
  | nil =>
      obtain ⟨fuel, rfl⟩ : ∃ left, fuel = left + 1 := ⟨fuel - 1, by omega⟩
      have shape : (textFields [(key, value)]).toList ++ '\x7d' :: rest =
          (quote key).toList ++ ':' :: (value.text.toList ++ '\x7d' :: rest) := by
        simp [textFields, textField]
      have size : (textFields [(key, value)]).toList.length =
          (quote key).toList.length + value.text.toList.length + 1 := by
        simp [textFields, textField]
        omega
      have valueBack : value.ReadsBack := each (key, value) List.mem_cons_self
      have read := valueBack fuel ('\x7d' :: rest) (stops_cons (by simp)) (by omega)
      rw [shape, readFields_field isNew read]
      simp only [skipSpace_cons (show isSpace '\x7d' = false by decide)]
  | cons next others ih =>
      obtain ⟨nextKey, nextValue⟩ := next
      obtain ⟨fuel, rfl⟩ : ∃ left, fuel = left + 1 := ⟨fuel - 1, by omega⟩
      have shape :
          (textFields ((key, value) :: (nextKey, nextValue) :: others)).toList ++ '\x7d' :: rest =
            (quote key).toList ++ ':' :: (value.text.toList ++ ',' ::
              ((textFields ((nextKey, nextValue) :: others)).toList ++ '\x7d' :: rest)) := by
        simp [textFields, textField]
      have size : (textFields ((key, value) :: (nextKey, nextValue) :: others)).toList.length =
          (quote key).toList.length + value.text.toList.length +
            (textFields ((nextKey, nextValue) :: others)).toList.length + 2 := by
        simp [textFields, textField]
        omega
      have valueBack : value.ReadsBack := each (key, value) List.mem_cons_self
      have read := valueBack fuel
        (',' :: ((textFields ((nextKey, nextValue) :: others)).toList ++ '\x7d' :: rest))
        (stops_cons (by simp)) (by omega)
      have later : ((before ++ [(key, value)] ++ (nextKey, nextValue) :: others).map
          Prod.fst).Nodup := by
        simpa using distinct
      have readRest := ih nextKey nextValue (before ++ [(key, value)]) fuel
        (fun field member => each field (List.mem_cons_of_mem _ member)) later (by omega)
        (by
          rw [List.map_append, List.nodup_append] at later
          exact fun member => later.2.2 nextKey member nextKey (by simp) rfl)
      rw [shape, readFields_field isNew read]
      simp only [skipSpace_cons (show isSpace ',' = false by decide)]
      rw [readRest, List.append_assoc]
      rfl

theorem PlainFields.mem {fields : List (String × Json)} (plain : PlainFields fields)
    {field : String × Json} (member : field ∈ fields) : field.2.Plain := by
  induction fields with
  | nil => cases member
  | cons first others ih =>
      obtain ⟨key, value⟩ := first
      rcases List.mem_cons.mp member with rfl | later
      · exact plain.1
      · exact ih plain.2 later

theorem readsBack_null : Json.null.ReadsBack := by
  intro fuel rest _ enough
  obtain ⟨fuel, rfl⟩ : ∃ left, fuel = left + 1 := ⟨fuel - 1, by omega⟩
  change readValue (fuel + 1) ('n' :: 'u' :: 'l' :: 'l' :: rest) = _
  rw [readValue, skipSpace_cons (by decide)]
  simp [readWord]

theorem readsBack_bool (value : Bool) : (Json.bool value).ReadsBack := by
  intro fuel rest _ enough
  obtain ⟨fuel, rfl⟩ : ∃ left, fuel = left + 1 := ⟨fuel - 1, by omega⟩
  cases value with
  | true =>
      change readValue (fuel + 1) ('t' :: 'r' :: 'u' :: 'e' :: rest) = _
      rw [readValue, skipSpace_cons (by decide)]
      simp [readWord]
  | false =>
      change readValue (fuel + 1) ('f' :: 'a' :: 'l' :: 's' :: 'e' :: rest) = _
      rw [readValue, skipSpace_cons (by decide)]
      simp [readWord]

theorem readsBack_int (number : Int) (safe : isSafe number = true) :
    (Json.int number).ReadsBack := by
  intro fuel rest stops enough
  obtain ⟨fuel, rfl⟩ : ∃ left, fuel = left + 1 := ⟨fuel - 1, by omega⟩
  obtain ⟨c, others, isCons, starts⟩ := int_text_head number
  rw [isCons, List.cons_append, readValue_number starts, ← List.cons_append, ← isCons]
  exact readNumber_int number rest stops safe

theorem readsBack_str (body : String) : (Json.str body).ReadsBack := by
  intro fuel rest _ enough
  obtain ⟨fuel, rfl⟩ : ∃ left, fuel = left + 1 := ⟨fuel - 1, by omega⟩
  rw [text, quote_toList, List.cons_append, List.append_assoc, readValue,
    skipSpace_cons (by decide), List.singleton_append]
  dsimp only
  rw [if_pos rfl, readString_quote]
  simp

theorem readsBack_arr (items : List Json) (starts : ∀ item ∈ items, item.Starts)
    (each : ∀ item ∈ items, item.ReadsBack) : (Json.arr items).ReadsBack := by
  intro fuel rest _ enough
  obtain ⟨fuel, rfl⟩ : ∃ left, fuel = left + 1 := ⟨fuel - 1, by omega⟩
  cases items with
  | nil =>
      change readValue (fuel + 1) ('[' :: ']' :: rest) = _
      rw [readValue, skipSpace_cons (by decide)]
      simp [skipSpace_cons (show isSpace ']' = false by decide)]
  | cons item items =>
      have shape : (Json.arr (item :: items)).text.toList ++ rest =
          '[' :: ((textItems (item :: items)).toList ++ ']' :: rest) := by
        simp [text]
      have size : (Json.arr (item :: items)).text.toList.length =
          (textItems (item :: items)).toList.length + 2 := by
        simp [text]
      obtain ⟨c, others, isCons, solid, notClosing⟩ := textItems_head item items
        (starts item List.mem_cons_self)
      have read := readItems_text item items [] fuel rest each (by omega)
      rw [shape]
      rw [isCons, List.cons_append] at read ⊢
      rw [readValue_arr solid notClosing, read]
      rfl

theorem readsBack_obj (fields : List (String × Json)) (distinct : (fields.map Prod.fst).Nodup)
    (each : ∀ field ∈ fields, field.2.ReadsBack) : (Json.obj fields).ReadsBack := by
  intro fuel rest _ enough
  obtain ⟨fuel, rfl⟩ : ∃ left, fuel = left + 1 := ⟨fuel - 1, by omega⟩
  cases fields with
  | nil =>
      change readValue (fuel + 1) ('\x7b' :: '\x7d' :: rest) = _
      rw [readValue, skipSpace_cons (by decide)]
      simp [skipSpace_cons (show isSpace '\x7d' = false by decide)]
  | cons field fields =>
      obtain ⟨key, value⟩ := field
      have shape : (Json.obj ((key, value) :: fields)).text.toList ++ rest =
          '\x7b' :: ((textFields ((key, value) :: fields)).toList ++ '\x7d' :: rest) := by
        simp [text]
      have size : (Json.obj ((key, value) :: fields)).text.toList.length =
          (textFields ((key, value) :: fields)).toList.length + 2 := by
        simp [text]
      obtain ⟨others, isCons⟩ := textFields_head (key, value) fields
      have read := readFields_text key value fields [] fuel rest each (by simpa using distinct)
        (by omega)
      rw [shape]
      rw [isCons, List.cons_append] at read ⊢
      rw [readValue_obj, read]
      rfl

/-- A value that reads back is what `JSON.parse` makes of its text, also before white space. -/
theorem ReadsBack.parse {value : Json} (back : value.ReadsBack) (padding : String)
    (blank : padding.toList.all isSpace = true) :
    parse (value.text ++ padding) = some value := by
  have stops : Stops padding.toList := by
    intro c isHead
    have isBlank : isSpace c = true :=
      List.all_eq_true.mp blank c (List.mem_of_mem_head? isHead)
    simp only [isSpace, Bool.or_eq_true, decide_eq_true_eq] at isBlank
    rcases isBlank with ((rfl | rfl) | rfl) | rfl <;> decide
  have read := back ((value.text ++ padding).toList.length + 1) padding.toList
    stops (by rw [String.toList_append, List.length_append]; omega)
  have skipped : skipSpace padding.toList = [] := by
    have dropped := @List.dropWhile_append_of_pos _ _ _ [] (List.all_eq_true.mp blank)
    rwa [List.append_nil] at dropped
  unfold Json.parse
  rw [← String.toList_append] at read
  rw [read]
  simp [skipped]

end Triangle.Std.Json
