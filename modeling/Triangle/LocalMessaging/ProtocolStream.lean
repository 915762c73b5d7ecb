import Triangle.LocalMessaging.Protocol

/-!
# A stream of frames in chunks

The loop of `feed` drains its buffer by a splitter, so the calls up to the end of
the stream do not depend on where it was cut. Frames of `encodeFrame` are read
back one by one.
-/

namespace Triangle.LocalMessaging.Protocol

open Triangle.Std

/-- A length reads back from its four bytes. -/
theorem readUInt32BE_write {value : Nat} (small : value < 2 ^ 32) (rest : List UInt8) :
    readUInt32BE (writeUInt32BE value ++ rest) = some value := by
  unfold writeUInt32BE
  simp only [List.cons_append, List.nil_append, readUInt32BE, UInt8.toNat_ofNat', Option.some.injEq]
  omega

variable {buffer : List UInt8}

theorem readUInt32BE_append {value : Nat} (read : readUInt32BE buffer = some value)
    (more : List UInt8) : readUInt32BE (buffer ++ more) = some value := by
  unfold readUInt32BE at read
  split at read
  · exact read
  · cases read

/-- A buffer without a length has less than four bytes. -/
theorem length_of_noLength (noLength : readUInt32BE buffer = none) : buffer.length < 4 := by
  unfold readUInt32BE at noLength
  split at noLength
  · cases noLength
  next notFour =>
    match buffer with
    | [] | [_] | [_, _] | [_, _, _] => simp
    | a :: b :: c :: d :: rest => exact absurd rfl (notFour a b c d rest)

section

variable {frameLimit : Nat} {throws : Json → Bool}

/-- The front of the buffer, as the loop of `feed` sees it. -/
def frameFront (frameLimit : Nat) (throws : Json → Bool) (buffer : List UInt8) :
    Front UInt8 (List ParserCall) :=
  match readUInt32BE buffer with
  | none => .wait
  | some bodyLength =>
      if frameLimit < bodyLength then
        .halt [.onError (lengthExceeded frameLimit bodyLength)]
      else if buffer.length < 4 + bodyLength then .wait
      else .item (deliver throws ((buffer.drop 4).take bodyLength))
        (buffer.drop (4 + bodyLength))

variable {calls : List ParserCall} {buffer : List UInt8}

theorem frameFront_item {buffer rest : List UInt8}
    (isItem : frameFront frameLimit throws buffer = .item calls rest) :
    ∃ bodyLength, readUInt32BE buffer = some bodyLength ∧ bodyLength ≤ frameLimit ∧
      4 + bodyLength ≤ buffer.length ∧
      calls = deliver throws ((buffer.drop 4).take bodyLength) ∧
      rest = buffer.drop (4 + bodyLength) := by
  unfold frameFront at isItem
  split at isItem
  · cases isItem
  next bodyLength read =>
    split at isItem
    · cases isItem
    next fits =>
      split at isItem
      · cases isItem
      next enough =>
        cases isItem
        exact ⟨bodyLength, read, Nat.not_lt.mp fits, Nat.not_lt.mp enough, rfl, rfl⟩

theorem frameFront_halt (isHalt : frameFront frameLimit throws buffer = .halt calls) :
    ∃ bodyLength, readUInt32BE buffer = some bodyLength ∧ frameLimit < bodyLength ∧
      calls = [.onError (lengthExceeded frameLimit bodyLength)] := by
  unfold frameFront at isHalt
  split at isHalt
  · cases isHalt
  next bodyLength read =>
    split at isHalt
    next tooLong =>
      cases isHalt
      exact ⟨bodyLength, read, tooLong, rfl⟩
    · split at isHalt <;> cases isHalt

/-- The splitter of a stream of frames. -/
def frames (frameLimit : Nat) (throws : Json → Bool) : Splitter UInt8 (List ParserCall) where
  front := frameFront frameLimit throws
  shrinks isItem := by
    obtain ⟨bodyLength, -, -, enough, -, rfl⟩ := frameFront_item isItem
    rw [List.length_drop]
    omega
  item_append isItem more := by
    obtain ⟨bodyLength, read, fits, enough, rfl, rfl⟩ := frameFront_item isItem
    unfold frameFront
    rw [readUInt32BE_append read more]
    dsimp only
    rw [if_neg (Nat.not_lt.mpr fits), List.length_append, if_neg (by omega),
      List.drop_append_of_le_length (by omega), List.drop_append_of_le_length enough,
      List.take_append_of_le_length (by rw [List.length_drop]; omega)]
  halt_append := by
    intro buffer calls isHalt more
    obtain ⟨bodyLength, read, tooLong, rfl⟩ := frameFront_halt isHalt
    unfold frameFront
    rw [readUInt32BE_append read more]
    dsimp only
    rw [if_pos tooLong]

theorem front_wait (waits : ∀ bodyLength, readUInt32BE buffer = some bodyLength →
      bodyLength ≤ frameLimit ∧ buffer.length < 4 + bodyLength) :
    (frames frameLimit throws).front buffer = .wait := by
  change frameFront frameLimit throws buffer = .wait
  unfold frameFront
  cases read : readUInt32BE buffer with
  | none => rfl
  | some bodyLength =>
      obtain ⟨fits, short⟩ := waits bodyLength read
      dsimp only
      rw [if_neg (Nat.not_lt.mpr fits), if_pos short]

variable {bodyLength : Nat} {message : Json} {frame : List UInt8}

section

variable (read : readUInt32BE buffer = some bodyLength)
include read

theorem front_halt (tooLong : frameLimit < bodyLength) :
    (frames frameLimit throws).front buffer =
      .halt [.onError (lengthExceeded frameLimit bodyLength)] := by
  change frameFront frameLimit throws buffer = _
  unfold frameFront
  rw [read]
  dsimp only
  rw [if_pos tooLong]

theorem front_item (fits : bodyLength ≤ frameLimit) (enough : 4 + bodyLength ≤ buffer.length) :
    (frames frameLimit throws).front buffer =
      .item (deliver throws ((buffer.drop 4).take bodyLength)) (buffer.drop (4 + bodyLength)) := by
  change frameFront frameLimit throws buffer = _
  unfold frameFront
  rw [read]
  dsimp only
  rw [if_neg (Nat.not_lt.mpr fits), if_neg (Nat.not_lt.mpr enough)]

end

theorem front_empty : (frames frameLimit throws).front [] = .wait :=
  front_wait nofun

/-- A buffer that waits is not longer than the longest frame. -/
theorem length_of_wait (waits : (frames frameLimit throws).front buffer = .wait) :
    buffer.length ≤ frameLimit + 4 := by
  by_contra tooLong
  cases read : readUInt32BE buffer with
  | none =>
      have short := length_of_noLength read
      omega
  | some bodyLength =>
      by_cases fits : bodyLength ≤ frameLimit
      · cases waits.symm.trans (front_item read fits (by omega))
      · cases waits.symm.trans (front_halt read (Nat.lt_of_not_le fits))

/-- The loop of `feed` drains its buffer. -/
theorem readFrames_eq (buffer : List UInt8) :
    readFrames frameLimit throws buffer =
      (((frames frameLimit throws).drain buffer).1.flatten,
        ((frames frameLimit throws).drain buffer).2.getD [],
        ((frames frameLimit throws).drain buffer).2.isNone) := by
  fun_induction readFrames frameLimit throws buffer with
  | case1 buffer noLength =>
      rw [Splitter.drain_wait (front_wait fun bodyLength read => ?_)]
      · rfl
      · exact nomatch noLength.symm.trans read
  | case2 buffer bodyLength read tooLong =>
      rw [Splitter.drain_halt (front_halt read tooLong)]
      rfl
  | case3 buffer bodyLength read fits short =>
      rw [Splitter.drain_wait (front_wait fun other readOther => ?_)]
      · rfl
      · cases read.symm.trans readOther
        exact ⟨Nat.not_lt.mp fits, short⟩
  | case4 buffer bodyLength read fits enough calls rest ih =>
      rw [Splitter.drain_item (front_item read (Nat.not_lt.mp fits) (Nat.not_lt.mp enough))]
      rw [show rest = _ from ih]
      rfl

section

variable (waits : (frames frameLimit throws).front buffer = .wait)
include waits

/-- `feed` after a buffer that waits: the guard behind the loop never applies. -/
theorem feed_eq (chunk : List UInt8) :
    feed frameLimit throws buffer chunk =
      (((frames frameLimit throws).drain (buffer ++ chunk)).1.flatten,
        ((frames frameLimit throws).drain (buffer ++ chunk)).2.getD []) := by
  unfold feed
  split
  next isEmpty =>
    rw [isEmpty, List.append_nil, Splitter.drain_wait waits]
    rfl
  · rw [readFrames_eq]
    cases isLeft : ((frames frameLimit throws).drain (buffer ++ chunk)).2 with
    | none => rfl
    | some left =>
        have small := length_of_wait (Splitter.drain_left isLeft)
        dsimp only [Option.isNone_some, Option.getD_some]
        rw [if_neg Bool.false_ne_true, if_neg (by omega)]

/-- Between two calls the buffer waits. -/
theorem feed_waits (chunk : List UInt8) :
    (frames frameLimit throws).front (feed frameLimit throws buffer chunk).2 = .wait := by
  rw [feed_eq waits]
  cases isLeft : ((frames frameLimit throws).drain (buffer ++ chunk)).2 with
  | none => exact front_empty
  | some left => exact Splitter.drain_left isLeft

theorem feedAll_waits (chunks : List (List UInt8)) :
    (frames frameLimit throws).front (feedAll frameLimit throws buffer chunks).2 = .wait := by
  induction chunks generalizing buffer with
  | nil => exact waits
  | cons chunk rest ih => exact ih (feed_waits waits chunk)

end

/-- No body ends the stream. -/
theorem deliver_goesOn (body : List UInt8) :
    ∀ call ∈ deliver throws body, call.isFrameTooLarge = false := by
  unfold deliver
  split
  · simp [ParserCall.isFrameTooLarge, bodyUnparsed]
  · split <;> simp [ParserCall.isFrameTooLarge, bodyUnparsed]

theorem untilTooLarge_append (goOn : ∀ call ∈ calls, call.isFrameTooLarge = false)
    (more : List ParserCall) : untilTooLarge (calls ++ more) = calls ++ untilTooLarge more := by
  induction calls with
  | nil => rfl
  | cons call rest ih =>
      rw [List.forall_mem_cons] at goOn
      rw [List.cons_append, untilTooLarge, goOn.1, if_neg Bool.false_ne_true,
        ih goOn.2]
      rfl

/-- What is drained goes on unless the stream has ended, and then ends with its end. -/
theorem untilTooLarge_drain (buffer : List UInt8) (more : List ParserCall) :
    untilTooLarge (((frames frameLimit throws).drain buffer).1.flatten ++ more) =
      ((frames frameLimit throws).drain buffer).1.flatten ++
        if ((frames frameLimit throws).drain buffer).2.isNone then [] else untilTooLarge more := by
  fun_induction (frames frameLimit throws).drain buffer with
  | case1 buffer waits => rfl
  | case2 buffer calls isHalt =>
      obtain ⟨bodyLength, -, -, rfl⟩ := frameFront_halt isHalt
      rfl
  | case3 buffer calls rest isItem drained ih =>
      obtain ⟨bodyLength, -, -, -, rfl, rfl⟩ := frameFront_item isItem
      rw [List.flatten_cons, List.append_assoc, untilTooLarge_append (deliver_goesOn _),
        ih, List.append_assoc]

/-- The calls up to the end of the stream are those of the whole stream. -/
theorem untilTooLarge_feedAll (waits : (frames frameLimit throws).front buffer = .wait)
    (chunks : List (List UInt8)) :
    untilTooLarge (feedAll frameLimit throws buffer chunks).1 =
      ((frames frameLimit throws).drain (buffer ++ chunks.flatten)).1.flatten := by
  induction chunks generalizing buffer with
  | nil =>
      rw [List.flatten_nil, List.append_nil, Splitter.drain_wait waits]
      rfl
  | cons chunk rest ih =>
      have later := ih (feed_waits waits chunk)
      rw [feedAll]
      dsimp only
      rw [List.flatten_cons, ← List.append_assoc, Splitter.drain_append]
      rw [feed_eq waits] at later ⊢
      rw [untilTooLarge_drain]
      cases isDrained : (frames frameLimit throws).drain (buffer ++ chunk) with
      | mk items left =>
          rw [isDrained] at later
          cases left with
          | none => simp
          | some left =>
              simp only [Option.isNone_some, Bool.false_eq_true, if_false, List.flatten_append]
              exact congrArg (items.flatten ++ ·) later

/-- If the stream has not ended, neither calls nor the buffer depend on where it was cut. -/
theorem feedAll_eq (waits : (frames frameLimit throws).front buffer = .wait)
    (chunks : List (List UInt8)) {calls : List (List ParserCall)} {left : List UInt8}
    (drained : (frames frameLimit throws).drain (buffer ++ chunks.flatten) = (calls, some left)) :
    feedAll frameLimit throws buffer chunks = (calls.flatten, left) := by
  induction chunks generalizing buffer calls with
  | nil =>
      rw [List.flatten_nil, List.append_nil, Splitter.drain_wait waits] at drained
      cases drained
      rfl
  | cons chunk rest ih =>
      have waitsLater := feed_waits waits chunk
      rw [List.flatten_cons, ← List.append_assoc, Splitter.drain_append] at drained
      rw [feedAll]
      rw [feed_eq waits] at waitsLater ⊢
      cases isDrained : (frames frameLimit throws).drain (buffer ++ chunk) with
      | mk items leftOver =>
          rw [isDrained] at drained waitsLater
          cases leftOver with
          | none => cases drained
          | some leftOver =>
              rw [Prod.mk.injEq] at drained
              rw [ih waitsLater (Prod.ext rfl drained.2), ← drained.1,
                List.flatten_append]
              rfl

/-! ## Frames that were encoded -/

/-- The frame of a message. -/
theorem encodeFrame_ok (encoded : encodeFrame message = .ok frame) :
    (Utf8.encode message.text).length ≤ maxPayloadBytes ∧
      frame = writeUInt32BE (Utf8.encode message.text).length ++ Utf8.encode message.text := by
  unfold encodeFrame at encoded
  split at encoded
  · dsimp only at encoded
    split at encoded
    · cases encoded
    next fits =>
      split at encoded
      · cases encoded
      · cases encoded
        exact ⟨Nat.not_lt.mp fits, rfl⟩
  · cases encoded

/-- A frame at the front of the buffer is its message. -/
theorem front_frame (finite : message.Finite) (noThrow : throws message = false)
    (roomy : maxPayloadBytes ≤ frameLimit) (encoded : encodeFrame message = .ok frame)
    (rest : List UInt8) :
    (frames frameLimit throws).front (frame ++ rest) = .item [.onMessage message] rest := by
  obtain ⟨fits, rfl⟩ := encodeFrame_ok encoded
  generalize isBody : Utf8.encode message.text = body at fits encoded ⊢
  have read := @readUInt32BE_write body.length
    (Nat.lt_of_le_of_lt fits (by decide)) (body ++ rest)
  rw [← List.append_assoc] at read
  have front : (writeUInt32BE body.length).length = 4 := rfl
  rw [front_item read (Nat.le_trans fits roomy) (by simp only [List.length_append]; omega)]
  have dropped : (writeUInt32BE body.length ++ body ++ rest).drop 4 = body ++ rest := rfl
  have delivered : deliver throws body = [.onMessage message] := by
    unfold deliver
    rw [← isBody, Utf8.decode_encode, finite.parse_text]
    dsimp only
    rw [noThrow, if_neg Bool.false_ne_true]
  rw [← List.drop_drop, dropped, List.take_left, List.drop_left, delivered]

/-- Frames are drained to their messages. -/
theorem drain_frames {messages : List Json} {encoded : List (List UInt8)}
    (finite : ∀ message ∈ messages, message.Finite)
    (noThrow : ∀ message ∈ messages, throws message = false)
    (roomy : maxPayloadBytes ≤ frameLimit)
    (isEncoded : messages.mapM encodeFrame = .ok encoded) :
    (frames frameLimit throws).drain encoded.flatten =
      (messages.map fun message => [.onMessage message], some []) := by
  induction messages generalizing encoded with
  | nil =>
      cases isEncoded
      exact Splitter.drain_wait front_empty
  | cons message others ih =>
      rw [List.mapM_cons] at isEncoded
      rw [List.forall_mem_cons] at finite noThrow
      cases isFrame : encodeFrame message with
      | error error =>
          rw [isFrame] at isEncoded
          cases isEncoded
      | ok frame =>
          cases areFrames : others.mapM encodeFrame with
          | error error =>
              rw [isFrame, areFrames] at isEncoded
              cases isEncoded
          | ok later =>
              rw [isFrame, areFrames] at isEncoded
              cases isEncoded
              rw [List.flatten_cons, Splitter.drain_item
                (front_frame finite.1 noThrow.1 roomy isFrame later.flatten),
                ih finite.2 noThrow.2 areFrames]
              rfl

/-- The frame parser does not see where its stream was cut. -/
theorem parser_chunkInvariant (throws : Json → Bool) :
    (∀ (messages : List Json) (encoded chunks : List (List UInt8)),
      (∀ message ∈ messages, message.Finite) → (∀ message ∈ messages, throws message = false) →
      messages.mapM encodeFrame = .ok encoded → chunks.flatten = encoded.flatten →
      feedAll maxFrameBytes throws [] chunks = (messages.map .onMessage, [])) ∧
    (∀ (frameLimit : Nat) (chunks others : List (List UInt8)),
      chunks.flatten = others.flatten →
      untilTooLarge (feedAll frameLimit throws [] chunks).1 =
        untilTooLarge (feedAll frameLimit throws [] others).1) ∧
    ∀ (frameLimit : Nat) (chunks : List (List UInt8)),
      (feedAll frameLimit throws [] chunks).2.length ≤ frameLimit + 4 := by
  refine ⟨fun messages encoded chunks finite noThrow isEncoded sameBytes => ?_,
    fun frameLimit chunks others sameBytes => ?_, fun frameLimit chunks => ?_⟩
  · have roomy : maxPayloadBytes ≤ maxFrameBytes := by decide
    have drained := drain_frames finite noThrow roomy isEncoded
    rw [← sameBytes] at drained
    rw [feedAll_eq front_empty chunks drained, ← List.flatMap_def, List.map_eq_flatMap]
  · rw [untilTooLarge_feedAll front_empty, untilTooLarge_feedAll front_empty,
      sameBytes]
  · exact length_of_wait (feedAll_waits front_empty chunks)

theorem parser_chunkInvariant_cut :
    feedAll maxFrameBytes (fun _ => false) []
        [[0, 0], [0, 2, 91], [93, 0, 0, 0, 2, 123, 125]] =
      ([.onMessage (.arr []), .onMessage (.obj [])], []) ∧
    untilTooLarge (feedAll 1 (fun _ => false) [] [[0, 0, 0], [2, 91, 93]]).1 =
      untilTooLarge (feedAll 1 (fun _ => false) [] [[0, 0, 0, 2, 91, 93]]).1 :=
  ⟨(parser_chunkInvariant fun _ => false).1 [.arr [], .obj []]
      [[0, 0, 0, 2, 91, 93], [0, 0, 0, 2, 123, 125]] _
      (by simp [Json.Finite, Json.FiniteItems, Json.FiniteFields]) (fun _ _ => rfl) rfl rfl,
    (parser_chunkInvariant fun _ => false).2.1 1 _ _ rfl⟩

end

end Triangle.LocalMessaging.Protocol
