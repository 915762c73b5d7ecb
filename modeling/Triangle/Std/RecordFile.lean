import Mathlib.Algebra.Ring.Int.Defs
import Mathlib.Algebra.Ring.Nat
import Mathlib.Data.List.Basic

/-!
# Files of newline-terminated records

An append-only file of one record a line, over any codec whose encodings hold no
newline and do not start with a blank. `readRecovering` reads it back: a bad
record is reported for truncation when it is the last one and is fatal when
another record follows. So an append that was cut off at any byte reads back as
the records before it, or as those and the record it wrote.
-/

namespace Triangle.Std

/-- `u8::is_ascii_whitespace`. -/
def isAsciiWhitespace (byte : UInt8) : Bool :=
  byte = 32 || byte = 9 || byte = 10 || byte = 12 || byte = 13

/-- How one record is written on one line. -/
structure LineCodec (Entry : Type) where
  encode : Entry → List UInt8
  decode : List UInt8 → Option Entry
  decode_encode : ∀ entry, decode (encode entry) = some entry
  encode_oneLine : ∀ entry, 10 ∉ encode entry
  encode_solid : ∀ entry, ∃ first rest, encode entry = first :: rest ∧
    isAsciiWhitespace first = false

namespace RecordFile

/-- The lines of a file, each with whether it ends in a newline; `current` is
the line read so far, reversed. -/
def splitLines (current : List UInt8) : List UInt8 → List (List UInt8 × Bool)
  | [] => if current = [] then [] else [(current.reverse, false)]
  | byte :: rest =>
      if byte = 10 then (current.reverse, true) :: splitLines [] rest
      else splitLines (byte :: current) rest

/-- What a read finds: the records, and where the file is to be truncated. -/
structure Recovered (Entry : Type) where
  entries : List Entry
  truncateAt : Option Nat

section

variable {Entry : Type}

/-- Read the lines on from `offset`; `badAt` is the bad record seen before. -/
def readLines (decode : List UInt8 → Option Entry) (offset : Nat) (badAt : Option Nat) :
    List (List UInt8 × Bool) → Except Nat (Recovered Entry)
  | [] => .ok ⟨[], badAt⟩
  | (body, terminated) :: rest =>
      let next := offset + body.length + (if terminated then 1 else 0)
      if body.all isAsciiWhitespace then readLines decode next badAt rest
      else match badAt with
        | some bad => .error bad
        | none =>
            match (if terminated then decode body else none) with
            | some entry =>
                match readLines decode next none rest with
                | .ok found => .ok ⟨entry :: found.entries, found.truncateAt⟩
                | .error bad => .error bad
            | none => readLines decode next (some offset) rest

/-- Read a file; an error is the offset of a bad record that is not the last. -/
def readRecovering (decode : List UInt8 → Option Entry) (file : List UInt8) :
    Except Nat (Recovered Entry) :=
  readLines decode 0 none (splitLines [] file)

variable (codec : LineCodec Entry)

/-- One record with its newline. -/
def line (entry : Entry) : List UInt8 :=
  codec.encode entry ++ [10]

/-- The file that holds `entries`. -/
def fileOf (entries : List Entry) : List UInt8 :=
  entries.flatMap (line codec)

variable {codec}

theorem fileOf_append (first second : List Entry) :
    fileOf codec (first ++ second) = fileOf codec first ++ fileOf codec second :=
  List.flatMap_append

theorem splitLines_line {current body rest : List UInt8} (oneLine : 10 ∉ body) :
    splitLines current (body ++ 10 :: rest) =
      (current.reverse ++ body, true) :: splitLines [] rest := by
  induction body generalizing current with
  | nil => simp [splitLines]
  | cons byte body ih =>
      rw [List.mem_cons, not_or] at oneLine
      rw [List.cons_append, splitLines, if_neg (Ne.symm oneLine.1),
        ih oneLine.2]
      simp

theorem splitLines_fileOf (entries : List Entry) (tail : List UInt8) :
    splitLines [] (fileOf codec entries ++ tail) =
      entries.map (fun entry => (codec.encode entry, true)) ++ splitLines [] tail := by
  induction entries with
  | nil => rfl
  | cons entry rest ih =>
      have oneLine := codec.encode_oneLine entry
      rw [fileOf, List.flatMap_cons, line, List.append_assoc, List.append_assoc,
        List.singleton_append, splitLines_line oneLine]
      exact congrArg _ ih

/-- Bytes without a newline are one unterminated line. -/
theorem splitLines_unterminated {current tail : List UInt8} (oneLine : 10 ∉ tail) :
    splitLines current tail =
      if current.reverse ++ tail = [] then [] else [(current.reverse ++ tail, false)] := by
  induction tail generalizing current with
  | nil => simp [splitLines]
  | cons byte rest ih =>
      rw [List.mem_cons, not_or] at oneLine
      rw [splitLines, if_neg (Ne.symm oneLine.1), ih oneLine.2]
      simp

theorem encode_notBlank (entry : Entry) : (codec.encode entry).all isAsciiWhitespace = false := by
  obtain ⟨first, rest, isEncoding, solid⟩ := codec.encode_solid entry
  rw [isEncoding, List.all_cons, solid]
  rfl

/-- Whole records are read, and reading goes on behind them. -/
theorem readLines_encoded (offset : Nat) (entries : List Entry)
    (rest : List (List UInt8 × Bool)) :
    readLines codec.decode offset none
        (entries.map (fun entry => (codec.encode entry, true)) ++ rest) =
      (readLines codec.decode (offset + (fileOf codec entries).length) none rest).map
        fun found => ⟨entries ++ found.entries, found.truncateAt⟩ := by
  induction entries generalizing offset with
  | nil =>
      rw [List.map_nil, List.nil_append, fileOf, List.flatMap_nil, List.length_nil, Nat.add_zero]
      cases readLines codec.decode offset none rest <;> rfl
  | cons entry others ih =>
      have sameOffset : offset + (codec.encode entry).length + 1 + (fileOf codec others).length =
          offset + (fileOf codec (entry :: others)).length := by
        simp only [fileOf, List.flatMap_cons, List.length_append, line, List.length_singleton]
        omega
      rw [List.map_cons, List.cons_append, readLines]
      simp only [encode_notBlank, codec.decode_encode entry, if_true, Bool.false_eq_true, if_false,
        ih, sameOffset]
      cases readLines codec.decode (offset + (fileOf codec (entry :: others)).length) none rest <;>
        rfl

/-- A file of whole records reads back as those records. -/
theorem readRecovering_fileOf (entries : List Entry) :
    readRecovering codec.decode (fileOf codec entries) = .ok ⟨entries, none⟩ := by
  have whole : splitLines [] (fileOf codec entries ++ []) = _ := splitLines_fileOf entries []
  rw [List.append_nil] at whole
  rw [readRecovering, whole, readLines_encoded]
  simp [splitLines, readLines, Except.map]

/-- What an append left behind when it was cut off: bytes to truncate, or the
whole record. -/
theorem readRecovering_torn (entries : List Entry) (entry : Entry) (left : Nat) :
    ∃ found, readRecovering codec.decode (fileOf codec entries ++ (line codec entry).take left) =
        .ok found ∧
      ((found.entries = entries ∧
          (found.truncateAt = some (fileOf codec entries).length ∨
            found.truncateAt = none ∧ (line codec entry).take left = [])) ∨
        found.entries = entries ++ [entry] ∧ found.truncateAt = none ∧
          (line codec entry).take left = line codec entry) := by
  by_cases whole : (line codec entry).length ≤ left
  · rw [List.take_of_length_le whole]
    have appended : fileOf codec entries ++ line codec entry = fileOf codec (entries ++ [entry]) := by
      rw [fileOf_append]
      simp [fileOf]
    exact ⟨⟨entries ++ [entry], none⟩, by rw [appended, readRecovering_fileOf], .inr ⟨rfl, rfl, rfl⟩⟩
  · have short : left ≤ (codec.encode entry).length := by
      rw [line, List.length_append, List.length_singleton] at whole
      omega
    have isTail : (line codec entry).take left = (codec.encode entry).take left :=
      List.take_append_of_le_length short
    have oneLine : 10 ∉ (codec.encode entry).take left :=
      fun member => codec.encode_oneLine entry (List.mem_of_mem_take member)
    rw [isTail, readRecovering, splitLines_fileOf, splitLines_unterminated oneLine,
      readLines_encoded, List.reverse_nil, List.nil_append, Nat.zero_add]
    cases left with
    | zero => exact ⟨⟨entries, none⟩, by simp [readLines, Except.map], .inl ⟨rfl, .inr ⟨rfl, rfl⟩⟩⟩
    | succ left =>
        obtain ⟨first, rest, isEncoding, solid⟩ := codec.encode_solid entry
        refine ⟨⟨entries, some (fileOf codec entries).length⟩, ?_, .inl ⟨rfl, .inl rfl⟩⟩
        simp [isEncoding, readLines, solid, Except.map]

/-- Lines up to a newline are read before what follows it. -/
theorem splitLines_append (current front rest : List UInt8) :
    splitLines current (front ++ 10 :: rest) =
      splitLines current (front ++ [10]) ++ splitLines [] rest := by
  induction front generalizing current with
  | nil => simp [splitLines]
  | cons byte front ih =>
      rw [List.cons_append, List.cons_append, splitLines, splitLines]
      split
      · rw [ih, List.cons_append]
      · exact ih (byte :: current)

/-- A file whose lines are all blank is blank. -/
theorem blank_of_splitLines {current bytes : List UInt8}
    (blank : ∀ line ∈ splitLines current bytes, line.1.all isAsciiWhitespace = true) :
    (∀ byte ∈ current, isAsciiWhitespace byte = true) ∧
      ∀ byte ∈ bytes, isAsciiWhitespace byte = true := by
  induction bytes generalizing current with
  | nil =>
      rw [splitLines] at blank
      split at blank
      next isEmpty => simp [isEmpty]
      · simpa using blank
  | cons first rest ih =>
      rw [splitLines] at blank
      split at blank
      next isNewline =>
        rw [List.forall_mem_cons] at blank
        refine ⟨by simpa using blank.1, ?_⟩
        rw [List.forall_mem_cons]
        exact ⟨by rw [isNewline]; rfl, (ih blank.2).2⟩
      · obtain ⟨read, unread⟩ := ih blank
        rw [List.forall_mem_cons] at read ⊢
        exact ⟨read.2, read.1, unread⟩

variable {decode : List UInt8 → Option Entry}

/-- Once a bad record was seen, a record that is not blank is fatal. -/
theorem readLines_afterBad (bad : Nat) (offset : Nat) {lines : List (List UInt8 × Bool)}
    (solid : ∃ line ∈ lines, line.1.all isAsciiWhitespace = false) :
    readLines decode offset (some bad) lines = .error bad := by
  induction lines generalizing offset with
  | nil =>
      obtain ⟨line, member, -⟩ := solid
      cases member
  | cons first rest ih =>
      obtain ⟨body, terminated⟩ := first
      rw [readLines]
      by_cases blank : body.all isAsciiWhitespace = true
      · rw [if_pos blank]
        obtain ⟨line, member, isSolid⟩ := solid
        refine ih _ ⟨line, ?_, isSolid⟩
        rcases List.mem_cons.mp member with rfl | later
        · exact absurd (blank.symm.trans isSolid) (by decide)
        · exact later
      · rw [if_neg blank]

/-- A bad record with another record behind it is fatal, whatever stands before. -/
theorem readLines_corrupt {body : List UInt8} {rest : List (List UInt8 × Bool)}
    (notBlank : body.all isAsciiWhitespace = false) (unreadable : decode body = none)
    (solid : ∃ line ∈ rest, line.1.all isAsciiWhitespace = false)
    (before : List (List UInt8 × Bool)) (offset : Nat) (badAt : Option Nat) :
    ∃ bad, readLines decode offset badAt (before ++ (body, true) :: rest) = .error bad := by
  induction before generalizing offset badAt with
  | nil =>
      rw [List.nil_append]
      cases badAt with
      | some bad =>
          exact ⟨bad, readLines_afterBad bad offset ⟨_, List.mem_cons_self, notBlank⟩⟩
      | none =>
          refine ⟨offset, ?_⟩
          rw [readLines, if_neg (by simp [notBlank])]
          simp only [if_true, unreadable]
          exact readLines_afterBad offset _ solid
  | cons first before ih =>
      obtain ⟨firstBody, terminated⟩ := first
      simp only [List.cons_append, readLines]
      split
      · exact ih _ badAt
      · cases badAt with
        | some bad => exact ⟨bad, rfl⟩
        | none =>
            dsimp only
            split
            · obtain ⟨bad, isError⟩ := ih
                (offset + firstBody.length + if terminated then 1 else 0) none
              exact ⟨bad, by rw [isError]⟩
            · exact ih _ (some offset)

end

end RecordFile

end Triangle.Std
