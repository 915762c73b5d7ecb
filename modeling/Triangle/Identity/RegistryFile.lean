import Triangle.Std.CanonicalValue
import Triangle.Std.Text

/-!
# The registry file

`updateIdentityRegistry` writes the registry as canonical JSON with a newline
behind it, and `readAndVerifyUnlocked` parses the file before it validates it.
-/

namespace Triangle.Identity

open Triangle.Std

/-- `codedError`. -/
structure RegistryError where
  code : String
  reason : String
  deriving DecidableEq, Repr

/-- `registryBuffer`. -/
def registryBuffer (registry : Json) : List UInt8 :=
  Utf8.encode (Json.canonicalJson registry ++ "\n")

/-- What `readAndVerifyUnlocked` makes of the bytes of the registry file, before
`validateIdentityRegistry`. -/
def parseRegistryBuffer (buffer : List UInt8) : Except RegistryError Json :=
  let text := Utf8.decode buffer
  if Text.isBlank text then .error ⟨"registry_corrupt", "empty_registry_file"⟩
  else
    match Json.parse text with
    | none => .error ⟨"registry_corrupt", "invalid_registry_json"⟩
    | some rawRegistry => .ok rawRegistry

/-- The file that was written reads back as the same registry. -/
theorem parseRegistryBuffer_write {fields : List (String × Json)}
    (finite : (Json.obj fields).Finite) :
    ∃ parsed, parseRegistryBuffer (registryBuffer (.obj fields)) = .ok parsed ∧
      parsed.Same (.obj fields) := by
  obtain ⟨parsed, read, same⟩ := Json.parse_canonicalJson finite "\n" rfl
  refine ⟨parsed, ?_, same⟩
  have notBlank : Text.isBlank (Json.canonicalJson (.obj fields) ++ "\n") = false := by
    rw [Json.canonicalJson, Json.canonical_obj, Json.text, Text.isBlank]
    simp [Text.isTrimmed]
  unfold parseRegistryBuffer registryBuffer
  rw [Utf8.decode_encode]
  dsimp only
  rw [notBlank, if_neg Bool.false_ne_true, read]

end Triangle.Identity
