import Mathlib.Algebra.Ring.Int.Defs
import Mathlib.Algebra.Ring.Nat
import Mathlib.Data.List.Basic

/-!
# Bounded identifiers

The program checks most of its identifiers with an anchored regular expression
of one character class and a length range, `/^[class]{lo,hi}$/`. `matchesClass`
is that check. `utf16Length` is the length a JavaScript string reports.
-/

namespace Triangle.Std.Text

/-- `/^lead[allowed]{lo,hi}$/` on a whole string. -/
def matchesLedClass (lead : String) (allowed : Char → Bool) (lo hi : Nat) (text : String) : Bool :=
  let rest := text.toList.drop lead.toList.length
  lead.toList.isPrefixOf text.toList && lo ≤ rest.length && rest.length ≤ hi && rest.all allowed

/-- `/^[allowed]{lo,hi}$/` on a whole string. -/
def matchesClass (allowed : Char → Bool) (lo hi : Nat) (text : String) : Bool :=
  matchesLedClass "" allowed lo hi text

/-- `[a-f0-9]`. -/
def isLowerHex (c : Char) : Bool :=
  ('a' ≤ c && c ≤ 'f') || c.isDigit

/-- `[A-Za-z0-9._:-]`. -/
def isIdentifierChar (c : Char) : Bool :=
  c.isAlphanum || c = '.' || c = '_' || c = ':' || c = '-'

/-- `/^[a-f0-9]{64}$/`. -/
def isHex64 (text : String) : Bool :=
  matchesClass isLowerHex 64 64 text

/-- A character against one of a template, in which `d` stands for a digit. -/
def matchesTemplateChar (expected c : Char) : Bool :=
  if expected = 'd' then c.isDigit else c = expected

/-- A whole text against a template. -/
def matchesTemplate (template text : List Char) : Bool :=
  text.length = template.length &&
    (template.zip text).all fun (expected, c) => matchesTemplateChar expected c

/-- White space that `String.prototype.trim` removes. -/
def isTrimmed (c : Char) : Bool :=
  (9 ≤ c.toNat && c.toNat ≤ 13) || c.toNat ∈ [0x20, 0xA0, 0x1680, 0x2028, 0x2029, 0x202F, 0x205F,
    0x3000, 0xFEFF] || (0x2000 ≤ c.toNat && c.toNat ≤ 0x200A)

/-- `text.trim().length === 0`. -/
def isBlank (text : String) : Bool :=
  text.toList.all isTrimmed

/-- The number of UTF-16 code units of a string. -/
def utf16Length (text : String) : Nat :=
  (text.toList.map fun c => if c.toNat < 0x10000 then 1 else 2).sum

theorem matchesClass_iff {allowed : Char → Bool} {lo hi : Nat} {text : String} :
    matchesClass allowed lo hi text = true ↔
      lo ≤ text.toList.length ∧ text.toList.length ≤ hi ∧ ∀ c ∈ text.toList, allowed c = true := by
  unfold matchesClass matchesLedClass
  simp [and_assoc]

end Triangle.Std.Text
