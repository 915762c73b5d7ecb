import Mathlib.Algebra.Ring.Int.Defs
import Mathlib.Algebra.Ring.Nat
import Mathlib.Data.List.Basic

/-!
# Splitting a stream

A splitter looks at the front of a buffer and finds an item, nothing yet, or
something that ends the stream. What it finds does not change when more is
behind it. A reader that keeps the rest of its buffer between two chunks then
finds the same items however the stream was cut (`drain_append`).
-/

namespace Triangle.Std

universe u v

/-- What stands at the front of a buffer. -/
inductive Front (Symbol : Type u) (Item : Type v)
  | wait
  | item (item : Item) (rest : List Symbol)
  | halt (item : Item)

/-- A rule that splits a stream. -/
structure Splitter (Symbol : Type u) (Item : Type v) where
  front : List Symbol → Front Symbol Item
  shrinks : ∀ {buffer item rest}, front buffer = .item item rest → rest.length < buffer.length
  item_append : ∀ {buffer item rest}, front buffer = .item item rest →
    ∀ more, front (buffer ++ more) = .item item (rest ++ more)
  halt_append : ∀ {buffer item}, front buffer = .halt item →
    ∀ more, front (buffer ++ more) = .halt item

namespace Splitter

variable {Symbol : Type u} {Item : Type v} (splitter : Splitter Symbol Item)

/-- All items of a buffer, and what stays in it; nothing stays once the stream has ended. -/
def drain (buffer : List Symbol) : List Item × Option (List Symbol) :=
  match _isFront : splitter.front buffer with
  | .wait => ([], some buffer)
  | .halt item => ([item], none)
  | .item item rest =>
      let drained := drain rest
      (item :: drained.1, drained.2)
termination_by buffer.length
decreasing_by exact splitter.shrinks _isFront

variable {splitter}

variable {buffer : List Symbol} {item : Item}

theorem drain_wait (isFront : splitter.front buffer = .wait) :
    splitter.drain buffer = ([], some buffer) := by
  rw [drain]
  split
  · rfl
  next isHalt => exact nomatch isFront.symm.trans isHalt
  next isItem => exact nomatch isFront.symm.trans isItem

theorem drain_halt (isFront : splitter.front buffer = .halt item) :
    splitter.drain buffer = ([item], none) := by
  rw [drain]
  split
  next isWait => exact nomatch isFront.symm.trans isWait
  next isHalt =>
    cases isFront.symm.trans isHalt
    rfl
  next isItem => exact nomatch isFront.symm.trans isItem

theorem drain_item {buffer rest : List Symbol} (isFront : splitter.front buffer = .item item rest) :
    splitter.drain buffer = (item :: (splitter.drain rest).1, (splitter.drain rest).2) := by
  rw [drain]
  split
  next isWait => exact nomatch isFront.symm.trans isWait
  next isHalt => exact nomatch isFront.symm.trans isHalt
  next isItem =>
    cases isFront.symm.trans isItem
    rfl

/-- What is left waits for more. -/
theorem drain_left {buffer left : List Symbol} (isLeft : (splitter.drain buffer).2 = some left) :
    splitter.front left = .wait := by
  fun_induction splitter.drain buffer with
  | case1 buffer isWait =>
      cases isLeft
      exact isWait
  | case2 buffer item isHalt => cases isLeft
  | case3 buffer item rest isItem drained ih => exact ih isLeft

/-- A stream that has ended stays ended, and one that has not is read on from what was left. -/
theorem drain_append (buffer more : List Symbol) :
    splitter.drain (buffer ++ more) =
      match splitter.drain buffer with
      | (items, none) => (items, none)
      | (items, some left) =>
          (items ++ (splitter.drain (left ++ more)).1, (splitter.drain (left ++ more)).2) := by
  fun_induction splitter.drain buffer with
  | case1 buffer isWait => rfl
  | case2 buffer item isHalt => exact drain_halt (splitter.halt_append isHalt more)
  | case3 buffer item rest isItem drained ih =>
      rw [drain_item (splitter.item_append isItem more), ih]
      cases isDrained : splitter.drain rest with
      | mk items left =>
          have drainedIs : drained = (items, left) := isDrained
          rw [drainedIs]
          cases left with
          | none | some => rfl

end Splitter

end Triangle.Std
