import SchoolWeek.Json.Reader

/-! Making values of drafts. A decoder walks the draft in reading order and stops at
the first fault, whether the text breaks off there, the value there has the wrong
shape, or the value is refused for a reason of its own. An object may also be given
as the array of its fields in the order in which they are declared. -/
namespace SchoolWeek.Json

inductive DecodeError
  /-- The text is not JSON, or not JSON alone. -/
  | malformed
  /-- A value of another shape is wanted. -/
  | shape
  /-- The value has the right shape and is refused all the same. -/
  | refused (message : String)
  deriving DecidableEq, Repr

abbrev Decoder (α : Type) := Draft → Except DecodeError α

namespace Decoder

/-- The fault of a draft that is not what is wanted. What cannot even be read is malformed. -/
def mismatch : Draft → DecodeError
  | .broken => .malformed
  | .text none => .malformed
  | .number (.other true) => .malformed
  | _ => .shape

/-- A whole number within bounds. -/
def integer (low high : Int) : Decoder Int
  | .number (.whole value) => if low ≤ value ∧ value ≤ high then .ok value else .error .shape
  | draft => .error (mismatch draft)

/-- A number from 0 to 255. -/
def byte (draft : Draft) : Except DecodeError Nat := (integer 0 255 draft).map Int.toNat

def string : Decoder String
  | .text (some value) => .ok value
  | draft => .error (mismatch draft)

def bool : Decoder Bool
  | .bool value => .ok value
  | draft => .error (mismatch draft)

/-- Null stands for a missing value. -/
def optional {α : Type} (decoder : Decoder α) : Decoder (Option α)
  | .null => .ok none
  | draft => (decoder draft).map some

def list {α : Type} (decoder : Decoder α) : Decoder (List α)
  | .array items closed => do
    let values ← items.mapM decoder
    if closed then return values else throw .malformed
  | draft => .error (mismatch draft)

/-- A value that has to pass a further test. -/
def checked {α β : Type} (decoder : Decoder α) (test : α → Except DecodeError β) : Decoder β :=
  fun draft => (decoder draft).bind test

/-- What follows the value is a fault, however good the value. -/
def complete {α : Type} (decoder : Decoder α) (text : Text.Gapped) : Except DecodeError α := do
  let (draft, rest) := read text
  let value ← decoder draft
  if rest.isEmpty then return value else throw .malformed

/-- What follows the value does not count. -/
def leading {α : Type} (decoder : Decoder α) (text : Text.Gapped) : Except DecodeError α :=
  decoder (read text).1

end Decoder

/-- The fields of an object: the names in the order of declaration, each with the
check its value has to pass when it is met, and how the fields make up the whole. -/
structure Fields (α : Type) where
  checks : List (String × Decoder Unit)
  build : (String → Option Draft) → Except DecodeError α

namespace Fields

def const {α : Type} (value : α) : Fields α := ⟨[], fun _ => .ok value⟩

/-- The fields of both, those of the first declared first. -/
def combine {α β : Type} (function : Fields (α → β)) (argument : Fields α) : Fields β :=
  ⟨function.checks ++ argument.checks, fun find => do
    let apply ← function.build find
    let value ← argument.build find
    return apply value⟩

instance : Applicative Fields where
  pure := const
  seq function argument := combine function (argument ())

def checkOf {α : Type} (decoder : Decoder α) : Decoder Unit := fun draft =>
  (decoder draft).map fun _ => ()

/-- A field that must be there. -/
def required {α : Type} (name : String) (decoder : Decoder α) : Fields α :=
  ⟨[(name, checkOf decoder)], fun find =>
    match find name with
    | some draft => decoder draft
    | none => .error .shape⟩

/-- A field with a value to take if it is not there. -/
def withDefault {α : Type} (name : String) (decoder : Decoder α) (value : α) : Fields α :=
  ⟨[(name, checkOf decoder)], fun find =>
    match find name with
    | some draft => decoder draft
    | none => .ok value⟩

/-- A field that may be missing or null. -/
def optional {α : Type} (name : String) (decoder : Decoder α) : Fields (Option α) :=
  withDefault name (Decoder.optional decoder) none

/-- Checks the members of an object as they come. A name may be met once; members
with unknown names are passed over. -/
def checkMembers (checks : List (String × Decoder Unit)) :
    List String → List (Option String × Draft) → Except DecodeError Unit
  | _, [] => .ok ()
  | _, (none, _) :: _ => .error .malformed
  | met, (some name, value) :: members =>
    match checks.lookup name with
    | none => if value.isWhole then checkMembers checks met members else .error .malformed
    | some check =>
      if name ∈ met then .error .shape
      else match check value with
        | .error error => .error error
        | .ok () => checkMembers checks (name :: met) members

/-- Checks the items of an array as the fields in order. There may be fewer, not more. -/
def checkItems : List (String × Decoder Unit) → List Draft → Except DecodeError Unit
  | _, [] => .ok ()
  | [], _ :: _ => .error .malformed
  | (_, check) :: checks, item :: items =>
    match check item with
    | .error error => .error error
    | .ok () => checkItems checks items

/-- The decoder of an object with these fields. Missing fields count only after all else. -/
def decoder {α : Type} (fields : Fields α) : Decoder α
  | .object members closed => do
    checkMembers fields.checks [] members
    if closed then fields.build fun name => members.lookup (some name) else throw .malformed
  | .array items closed => do
    checkItems fields.checks items
    if closed then fields.build fun name => ((fields.checks.map Prod.fst).zip items).lookup name
    else throw .malformed
  | draft => .error (Decoder.mismatch draft)

end Fields
end SchoolWeek.Json
