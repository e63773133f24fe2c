import HostBoard.Json.Literal
import HostBoard.Json.Numeral

/-!
# Reading values

Readers take a cursor to a value and to the cursor behind it. Lists and objects may be nested up
to a budget, which is handed down: what is inside a container has one less. Items and members are
read by loops over any reader for what they hold, so that the same loops serve untyped values and
typed payloads.
-/

namespace HostBoard.Json

/-- How many containers may be open at once. -/
def nestingLimit : Nat := 127

/-- A reader for values of a type, given how many containers may still be opened. -/
abbrev Reader (α : Type) := Nat → Cursor → Except Fault (α × Cursor)

/-- Read a value that is no container; `none` where no such value starts. -/
def scalar? (c : Cursor) : Option (Except Fault (Json × Cursor)) :=
  match c.rest with
  | [] => none
  | 'n' :: _ => some do return (.null, ← word ['u', 'l', 'l'] c.eat)
  | 't' :: _ => some do return (.bool true, ← word ['r', 'u', 'e'] c.eat)
  | 'f' :: _ => some do return (.bool false, ← word ['a', 'l', 's', 'e'] c.eat)
  | '-' :: _ => some do
    let (n, c) ← Numeral.read true c.eat
    return (.number n, c)
  | '"' :: _ => some do
    let (s, c) ← stringBody [] c.eat
    return (.string s, c)
  | ch :: _ =>
    if ch.isDigit then some do
      let (n, c) ← Numeral.read false c
      return (.number n, c)
    else none

/-- The fault of a value of the wrong type, which stands at the cursor. -/
def mismatch (expected : String) (c : Cursor) : Fault :=
  match scalar? c with
  | some (.error fault) => fault
  | some (.ok (v, c)) => c.fault (.wrongType (.scalar v) expected)
  | none =>
    match c.rest with
    | [] => c.faultAhead .endInValue
    | '[' :: _ => c.fault (.wrongType .sequence expected)
    | '\x7b' :: _ => c.fault (.wrongType .map expected)
    | _ => c.faultAhead .noValue

/-- Go to the next item of a list; false at the closing bracket, where the cursor stays. -/
def nextItem (first : Bool) (c : Cursor) : Except Fault (Bool × Cursor) :=
  let c := c.skipBlank
  match c.rest with
  | [] => .error (c.faultAhead .endInList)
  | ']' :: _ => .ok (false, c)
  | ch :: _ =>
    if first then .ok (true, c)
    else if ch = ',' then
      let c := c.eat.skipBlank
      match c.rest with
      | [] => .error (c.faultAhead .endInValue)
      | ']' :: _ => .error (c.faultAhead .trailingComma)
      | _ => .ok (true, c)
    else .error (c.faultAhead .noListEnd)

/-- The end of a list whose items have all been read. -/
def endList (c : Cursor) : Except Fault Cursor :=
  let c := c.skipBlank
  match c.rest with
  | [] => .error (c.faultAhead .endInList)
  | ']' :: _ => .ok c.eat
  | ',' :: _ =>
    let c := c.eat.skipBlank
    if c.rest.head? = some ']' then .error (c.faultAhead .trailingComma)
    else .error (c.faultAhead .trailingCharacters)
  | _ => .error (c.faultAhead .trailingCharacters)

/-- Go to the next key of an object, which starts with a quote; false at the closing brace. -/
def nextKey (first : Bool) (c : Cursor) : Except Fault (Bool × Cursor) :=
  let c := c.skipBlank
  match c.rest with
  | [] => .error (c.faultAhead .endInObject)
  | '\x7d' :: _ => .ok (false, c)
  | ch :: _ =>
    if first then
      if ch = '"' then .ok (true, c) else .error (c.faultAhead .keyNotString)
    else if ch = ',' then
      let c := c.eat.skipBlank
      match c.rest with
      | [] => .error (c.faultAhead .endInValue)
      | '"' :: _ => .ok (true, c)
      | '\x7d' :: _ => .error (c.faultAhead .trailingComma)
      | _ => .error (c.faultAhead .keyNotString)
    else .error (c.faultAhead .noObjectEnd)

/-- The colon between a key and its value. -/
def colon (c : Cursor) : Except Fault Cursor :=
  let c := c.skipBlank
  match c.rest with
  | [] => .error (c.faultAhead .endInObject)
  | ':' :: _ => .ok c.eat
  | _ => .error (c.faultAhead .noColon)

/-- Read the items of a list up to its closing bracket; `read` holds those so far, last first. -/
def itemsLoop {α : Type} (item : Cursor → Except Fault (α × Cursor)) :
    Nat → List α → Cursor → Except Fault (List α × Cursor)
  | 0, _, c => .error (c.fault .endInList)
  | fuel + 1, read, c => do
    match ← nextItem read.isEmpty c with
    | (false, c) => return (read.reverse, c.eat)
    | (true, c) =>
      let (v, c) ← item c
      itemsLoop item fuel (v :: read) c

/-- Read the items of a list behind its opening bracket. -/
def items {α : Type} (item : Cursor → Except Fault (α × Cursor)) (c : Cursor) :
    Except Fault (List α × Cursor) :=
  itemsLoop item (c.rest.length + 1) [] c

/-- Go through the members of an object up to its closing brace, where the cursor stays. -/
def membersLoop {σ : Type} (member : σ → String → Cursor → Except Fault (σ × Cursor)) :
    Nat → Bool → σ → Cursor → Except Fault (σ × Cursor)
  | 0, _, _, c => .error (c.fault .endInObject)
  | fuel + 1, first, s, c => do
    match ← nextKey first c with
    | (false, c) => return (s, c)
    | (true, c) =>
      let (key, c) ← stringBody [] c.eat
      let (s, c) ← member s key c
      membersLoop member fuel false s c

/-- Go through the members of an object behind its opening brace. Each member is handed over
behind its key, with the state that the members before it left. -/
def members {σ : Type} (member : σ → String → Cursor → Except Fault (σ × Cursor)) (s : σ)
    (c : Cursor) : Except Fault (σ × Cursor) :=
  membersLoop member (c.rest.length + 1) true s c

/-- A member whose value is read and put among the others. -/
def keep {α : Type} (value : Cursor → Except Fault (α × Cursor)) (read : List (String × α))
    (key : String) (c : Cursor) : Except Fault (List (String × α) × Cursor) := do
  let (v, c) ← value (← colon c)
  return (insert key v read, c)

/-- Read any value. -/
def value : Reader Json
  | budget, c =>
    let c := c.skipBlank
    match scalar? c with
    | some result => result
    | none =>
      match c.rest with
      | [] => .error (c.faultAhead .endInValue)
      | '[' :: _ =>
        match budget with
        | 0 => .error (c.faultAhead .tooDeep)
        | budget + 1 => do
          let (vs, c) ← items (value budget) c.eat
          return (.array vs, c)
      | '\x7b' :: _ =>
        match budget with
        | 0 => .error (c.faultAhead .tooDeep)
        | budget + 1 => do
          let (ms, c) ← members (keep (value budget)) [] c.eat
          return (.object ms, c.eat)
      | _ => .error (c.faultAhead .noValue)

/-- Read a string. -/
def text : Reader String := fun _ c =>
  let c := c.skipBlank
  match c.rest with
  | [] => .error (c.faultAhead .endInValue)
  | '"' :: _ => stringBody [] c.eat
  | _ => .error (mismatch "a string" c)

/-- Read a list of what another reader reads. -/
def list {α : Type} (item : Reader α) : Reader (List α) := fun budget c =>
  let c := c.skipBlank
  match c.rest with
  | [] => .error (c.faultAhead .endInValue)
  | '[' :: _ =>
    match budget with
    | 0 => .error (c.faultAhead .tooDeep)
    | budget + 1 => items (item budget) c.eat
  | _ => .error (mismatch "a sequence" c)

/-- Read an object of any keys, all of whose values another reader reads. -/
def mapping {α : Type} (item : Reader α) : Reader (List (String × α)) := fun budget c =>
  let c := c.skipBlank
  match c.rest with
  | [] => .error (c.faultAhead .endInValue)
  | '\x7b' :: _ =>
    match budget with
    | 0 => .error (c.faultAhead .tooDeep)
    | budget + 1 => do
      let (ms, c) ← members (keep (item budget)) [] c.eat
      return (ms, c.eat)
  | _ => .error (mismatch "a map" c)

/-- Read a whole text: one value, and nothing behind it but blanks. -/
def document {α : Type} (read : Reader α) (text : String) : Except Fault α := do
  let (v, c) ← read nestingLimit (Cursor.start text)
  let c := c.skipBlank
  if c.rest.isEmpty then return v else .error (c.faultAhead .trailingCharacters)

end HostBoard.Json
