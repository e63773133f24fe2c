import HostBoard.Json.Skip

/-!
# Reading records

A record has named fields. It is written as an object, whose other members are skipped, or as a
list of its fields in order. The fields read so far are kept in a draft; at the end the draft is
finished, unless a field is missing.
-/

namespace HostBoard.Json

/-- A field of a record whose drafts have type `δ`. -/
structure Field (δ : Type) where
  name : String
  optional : Bool
  isSet : δ → Bool
  read : Nat → δ → Cursor → Except Fault (δ × Cursor)

/-- The shape of a record: its name, its fields in order, and how a draft is begun and finished. -/
structure Shape (δ α : Type) where
  label : String
  fields : List (Field δ)
  empty : δ
  finish : δ → Except String α

namespace Shape

variable {δ α : Type}

/-- What a value of the shape is called. -/
def name (shape : Shape δ α) : String :=
  "struct " ++ shape.label

/-- What a list of the fields is called. -/
def listName (shape : Shape δ α) : String :=
  let count := shape.fields.length
  shape.name ++ " with " ++ toString count ++ (if count = 1 then " element" else " elements")

/-- Where a record is given up that is written as an object: behind its brace, if that is next. -/
def leaveObject (c : Cursor) : Cursor :=
  let c := c.skipBlank
  if c.rest.head? = some '\x7d' then c.eat else c

/-- Where a record is given up that is written as a list: behind its bracket, if that is next. -/
def leaveList (c : Cursor) : Cursor :=
  let c := c.skipBlank
  match c.rest with
  | ']' :: _ => c.eat
  | ',' :: _ => c.eat.skipBlank
  | _ => c

/-- One member: a field that is not yet set, or a value to be skipped. -/
def member (shape : Shape δ α) (budget : Nat) (draft : δ) (key : String) (c : Cursor) :
    Except Fault (δ × Cursor) :=
  match shape.fields.find? fun field => field.name = key with
  | none => do
    let c ← skip (← colon c)
    return (draft, c)
  | some field =>
    if field.isSet draft then .error ((leaveObject c).fault (.duplicateField key))
    else do field.read budget draft (← colon c)

/-- The fields of a record that is written as a list, from field number `index` on. -/
def elements (shape : Shape δ α) (budget : Nat) :
    Nat → List (Field δ) → δ → Cursor → Except Fault (δ × Cursor)
  | _, [], draft, c => .ok (draft, c)
  | index, field :: fields, draft, c => do
    match ← nextItem (index = 0) c with
    | (true, c) =>
      let (draft, c) ← field.read budget draft c
      shape.elements budget (index + 1) fields draft c
    | (false, c) =>
      if field.optional then shape.elements budget (index + 1) fields draft c
      else .error ((leaveList c).fault (.wrongLength index shape.listName))

/-- Finish a draft; a missing field is a fault at the cursor. -/
def complete (shape : Shape δ α) (draft : δ) (c : Cursor) : Except Fault α :=
  match shape.finish draft with
  | .ok v => .ok v
  | .error name => .error (c.fault (.missingField name))

/-- Read a record of the shape. -/
def read (shape : Shape δ α) : Reader α := fun budget c =>
  let c := c.skipBlank
  match c.rest with
  | [] => .error (c.faultAhead .endInValue)
  | '\x7b' :: _ =>
    match budget with
    | 0 => .error (c.faultAhead .tooDeep)
    | budget + 1 => do
      let (draft, c) ← members (shape.member budget) shape.empty c.eat
      let v ← shape.complete draft c.eat
      return (v, c.eat)
  | '[' :: _ =>
    match budget with
    | 0 => .error (c.faultAhead .tooDeep)
    | budget + 1 => do
      let (draft, c) ← shape.elements budget 0 shape.fields shape.empty c.eat
      let v ← shape.complete draft c
      return (v, ← endList c)
  | _ => .error (mismatch shape.name c)

end Shape

end HostBoard.Json
