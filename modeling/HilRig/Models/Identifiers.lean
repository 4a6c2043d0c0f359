import HilRig.Exceptions
import Mathlib.Algebra.Ring.Nat
import Mathlib.Data.List.Defs

/-!
# Identifiers and names shared by definitions, uploads and captured runs

A test definition and each attempt to upload it carry their own unsigned 128-bit identifier. An
Application Test ID travels as sixteen big-endian bytes. `UploadAttempt` binds one definition to
one Application Test ID and carries the range of both.
-/

set_option autoImplicit false
set_option relaxedAutoImplicit false

namespace HilRig.Models

/-- Whether a character is white space for `str.strip`. -/
def isSpace (character : Char) : Bool :=
  character.toNat ∈ [0x9, 0xA, 0xB, 0xC, 0xD, 0x1C, 0x1D, 0x1E, 0x1F, 0x20, 0x85, 0xA0, 0x1680,
    0x2000, 0x2001, 0x2002, 0x2003, 0x2004, 0x2005, 0x2006, 0x2007, 0x2008, 0x2009, 0x200A,
    0x2028, 0x2029, 0x202F, 0x205F, 0x3000]

/-- There is an identifier of 128 bits, so that numerals can stand for one. -/
instance neZero_uint128 : NeZero (2 ^ 128) := ⟨by decide⟩

/-- Validate an unsigned 128-bit identifier. -/
def validateUint128 (value : ℕ) (name : String) : Except HilRigError {id : ℕ // id < 2 ^ 128} :=
  if h : value < 2 ^ 128 then .ok ⟨value, h⟩
  else .error (.value s!"{name} must be an unsigned 128-bit integer")

/-- The big-endian sixteen-byte form of an Application Test ID. -/
def applicationTestIdToBytes (applicationTestId : ℕ) : List UInt8 :=
  (List.range 16).map fun position ↦ UInt8.ofNat (applicationTestId / 256 ^ (15 - position))

/-- Decode sixteen big-endian bytes into an Application Test ID. -/
def applicationTestIdFromBytes (bytes : List UInt8) : Except HilRigError ℕ :=
  if bytes.length = 16 then .ok (bytes.foldl (fun id byte ↦ id * 256 + byte.toNat) 0)
  else .error (.value "Application Test ID must contain exactly 16 bytes")

/-- One immutable test definition bound to one Application Test ID. -/
structure UploadAttempt where
  definitionTestId : ℕ
  applicationTestId : ℕ
  definitionTestId_lt : definitionTestId < 2 ^ 128
  applicationTestId_lt : applicationTestId < 2 ^ 128
  deriving DecidableEq, Repr

/-- Bind two identifiers, validating both. -/
def UploadAttempt.ofIds (definitionTestId applicationTestId : ℕ) :
    Except HilRigError UploadAttempt := do
  let definition ← validateUint128 definitionTestId "definition_test_id"
  let application ← validateUint128 applicationTestId "application_test_id"
  return ⟨definition.val, application.val, definition.property, application.property⟩

/-- Create a fresh wire identity for a definition: the first random draw that differs from the
definition's own identifier. -/
def UploadAttempt.create (definitionTestId : ℕ) (draws : List (Fin (2 ^ 128))) :
    Except HilRigError UploadAttempt := do
  let validated ← validateUint128 definitionTestId "definition_test_id"
  match draws.find? fun draw ↦ draw.val ≠ validated.val with
  | some draw => .ok ⟨validated.val, draw.val, validated.property, draw.isLt⟩
  | none => .error .stalled

end HilRig.Models
