import Switchboard.Json.Reader

/-!
# Switchboard.Json.Record

Records with declared fields. A record is written as an object, in which unknown members are
skipped unread and a declared field comes at most once, or as an array of its fields in their
declared order, of which the last ones may be missing.

`FieldReader α` reads one declared field from the tree that the record gives for it, or from its
absence.
-/

namespace Switchboard
namespace Json

/-- Puts a member into the slot of its name; `none` if the slot is taken. A member without a slot
is skipped. -/
def fillSlot (name : String) (t : Tree) :
    List (String × Option Tree) → Option (List (String × Option Tree))
  | [] => some []
  | (n, slot) :: rest =>
    if n = name then
      match slot with
      | none => some ((n, some t) :: rest)
      | some _ => none
    else (fillSlot name t rest).map ((n, slot) :: ·)

def fillSlots : List (List StringUnit × Tree) → List (String × Option Tree) →
    Option (List (String × Option Tree))
  | [], slots => some slots
  | (us, t) :: rest, slots =>
    (text? us).bind fun name => (fillSlot name t slots).bind (fillSlots rest)

/-- What a record gives for each of its declared fields, in their order. -/
def slots? (names : List String) : Tree → Option (List (Option Tree))
  | .array items =>
    if items.length ≤ names.length then
      some (items.map some ++ List.replicate (names.length - items.length) none)
    else none
  | .object members => (fillSlots members (names.map fun n => (n, none))).map (·.map (·.2))
  | _ => none

abbrev FieldReader (α : Type) := Option Tree → Option α

namespace FieldReader

def required {α : Type} (read : Tree → Option α) : FieldReader α := (·.bind read)

def withDefault {α : Type} (value : α) (read : Tree → Option α) : FieldReader α
  | none => some value
  | some t => read t

/-- A field that may be missing or `null`. -/
def optional {α : Type} (read : Tree → Option α) : FieldReader (Option α)
  | none => some none
  | some .null => some none
  | some t => (read t).map some

end FieldReader

namespace Tree

def string? : Tree → Option String
  | .string us => Json.text? us
  | _ => none

def double? : Tree → Option Binary64
  | .number l => l.value?.map Number.toBinary64
  | _ => none

/-- The items of an array in which at most `depth` brackets nest. -/
def list? {α : Type} (read : (depth : Nat) → Tree → Option α) :
    (depth : Nat) → Tree → Option (List α)
  | d + 1, .array items => items.mapM (read d)
  | _, _ => none

def members? (depth : Nat) (t : Tree) : Option (List (String × Json)) :=
  match t.value? depth with
  | some (.object members) => some members
  | _ => none

end Tree
end Json
end Switchboard
