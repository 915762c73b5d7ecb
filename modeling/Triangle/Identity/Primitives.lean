import Mathlib.Data.List.TakeWhile
import Triangle.Std.Text
import Triangle.Std.Utf8

/-!
# Identity primitives

The identifier patterns, profile names, origins and timestamps that the
identity registry accepts. SHA-256 and the URL parser belong to the runtime and
stay parameters; nothing here or later relies on a law about them.
-/

namespace Triangle.Identity

open Triangle.Std

/-- What `new URL(value)` reports of a parsed URL. -/
structure Url where
  protocol : String
  hostname : String
  username : String
  password : String
  origin : String

/-- The functions of the runtime that the registry calls: the hexadecimal
SHA-256 of a text, and the URL parser, which may throw. -/
structure Platform where
  sha256Hex : String → String
  parseUrl : String → Option Url

/-- `/^agent_[a-f0-9]{32}$/`. -/
def isAgentId (text : String) : Bool :=
  Text.matchesLedClass "agent_" Text.isLowerHex 32 32 text

/-- `/^bind_[a-f0-9]{32}$/`. -/
def isBindingId (text : String) : Bool :=
  Text.matchesLedClass "bind_" Text.isLowerHex 32 32 text

/-- `"0".repeat(64)`. -/
def zeroHash64 : String :=
  String.ofList (List.replicate 64 '0')

/-- Mirrors Swift `ClientInstanceID.derive(profile:)`. -/
def deriveClientInstanceId (platform : Platform) (profile : String) : String :=
  platform.sha256Hex ("triangle-client-instance-v1" ++ String.singleton (Char.ofNat 0) ++ profile)

/-- Unicode general categories Cc and Cf, as code point ranges. -/
def controlRanges : List (Nat × Nat) :=
  [(0x00, 0x1F), (0x7F, 0x9F), (0xAD, 0xAD), (0x600, 0x605), (0x61C, 0x61C), (0x6DD, 0x6DD),
    (0x70F, 0x70F), (0x890, 0x891), (0x8E2, 0x8E2), (0x180E, 0x180E), (0x200B, 0x200F),
    (0x202A, 0x202E), (0x2060, 0x2064), (0x2066, 0x206F), (0xFEFF, 0xFEFF), (0xFFF9, 0xFFFB),
    (0x110BD, 0x110BD), (0x110CD, 0x110CD), (0x13430, 0x1343F), (0x1BCA0, 0x1BCA3),
    (0x1D173, 0x1D17A), (0xE0001, 0xE0001), (0xE0020, 0xE007F)]

/-- `/[\p{Cc}\p{Cf}]/u`. -/
def isProfileControlCharacter (c : Char) : Bool :=
  controlRanges.any fun (first, last) => first ≤ c.toNat && c.toNat ≤ last

/-- Persisted profile-name contract: not empty, at most 64 UTF-8 bytes, no
slashes, no control or format characters. -/
def isValidProfileName (value : String) : Bool :=
  !value.isEmpty && value.utf8ByteSize ≤ 64 && !value.toList.contains '/' &&
    !value.toList.contains '\\' && !value.toList.any isProfileControlCharacter

/-- A bare HTTPS origin: no userinfo, path, query or fragment. -/
def isValidBareHttpsOrigin (platform : Platform) (value : String) : Bool :=
  let scheme := "https://".toList
  let rawPath := (value.toList.drop scheme.length).dropWhile fun c => !(['/', '?', '#'].contains c)
  if scheme.isPrefixOf value.toList && rawPath.isEmpty then
    match platform.parseUrl value with
    | some url =>
        url.protocol = "https:" && !url.hostname.isEmpty && url.username = "" &&
          url.password = "" && !value.toList.any (['@', '?', '#'].contains ·) &&
          url.origin = value
    | none => false
  else false

/-! ## Timestamps -/

/-- The fixed part of `ISO_UTC_PATTERN`, with `d` for a digit. -/
def isoTemplate : List Char :=
  "dddd-dd-ddTdd:dd:dd".toList

/-- The digits of `(?:\.(\d{1,9}))?Z$`. -/
def isoFraction : List Char → Option (List Char)
  | '.' :: rest =>
      let digits := rest.takeWhile Char.isDigit
      if 1 ≤ digits.length ∧ digits.length ≤ 9 ∧ rest.dropWhile Char.isDigit = ['Z'] then
        some digits
      else none
  | chars => if chars = ['Z'] then some [] else none

/-- The number that `count` digits from `start` on denote. -/
def numberAt (chars : List Char) (start count : Nat) : Nat :=
  Nat.ofDigitChars 10 ((chars.drop start).take count) 0

def isLeapYear (year : Nat) : Bool :=
  year % 4 = 0 && (year % 100 ≠ 0 || year % 400 = 0)

/-- The lengths of the months. -/
def monthLengths (year : Nat) : List Nat :=
  [31, if isLeapYear year then 29 else 28, 31, 30, 31, 30, 31, 31, 30, 31, 30, 31]

/-- Days from 1970-01-01 to a date. -/
def epochDay (year month day : Nat) : Int :=
  let leapDays : Int := (year + 3) / 4 - (year + 99) / 100 + (year + 399) / 400
  365 * year + leapDays + ((monthLengths year).take (month - 1)).sum + (day - 1) - 719528

/-- Epoch milliseconds of a strict ISO-8601 UTC timestamp with a real calendar
date and time; `Date.parse` reads the first three digits of a fraction. -/
def parseIsoUtc (value : String) : Option Int :=
  let chars := value.toList
  let fixed := chars.take isoTemplate.length
  match isoFraction (chars.drop isoTemplate.length) with
  | some fraction =>
      let year := numberAt chars 0 4
      let month := numberAt chars 5 2
      let day := numberAt chars 8 2
      let hour := numberAt chars 11 2
      let minute := numberAt chars 14 2
      let second := numberAt chars 17 2
      let millisecond := Nat.ofDigitChars 10 ((fraction ++ ['0', '0', '0']).take 3) 0
      if Text.utf16Length value ≤ 40 ∧ Text.matchesTemplate isoTemplate fixed ∧ 1 ≤ month ∧
          month ≤ 12 ∧ 1 ≤ day ∧ day ≤ (monthLengths year).getD (month - 1) 0 ∧
          hour ≤ 23 ∧ minute ≤ 59 ∧ second ≤ 59 then
        some (((epochDay year month day * 24 + hour) * 60 + minute) * 60000 + second * 1000 +
          millisecond)
      else none
  | none => none

end Triangle.Identity
