import HostBoard.Payload.Basic

/-!
# Log entries

A log entry has a time and a content. As a message its content is shown with the first line break
replaced by a marker; any later line break stays.
-/

namespace HostBoard

/-- One record of the log. -/
structure LogEntry where
  time : String
  content : String
deriving DecidableEq, Repr

namespace LogEntry

/-- What stands for the first line break of a message. -/
def lineBreakMarker : List Char := ['<', 'b', 'r', '/', '>']

/-- Replace the first line break by the marker. -/
def markFirstBreak : List Char → List Char
  | [] => []
  | c :: rest => if c = '\n' then lineBreakMarker ++ rest else c :: markFirstBreak rest

theorem markFirstBreak_of_not_mem {chars : List Char} (unbroken : '\n' ∉ chars) :
    markFirstBreak chars = chars := by
  induction chars with
  | nil => rfl
  | cons c rest ih =>
    rw [List.mem_cons, not_or] at unbroken
    obtain ⟨other, unbroken⟩ := unbroken
    rw [markFirstBreak, if_neg (Ne.symm other), ih unbroken]

/-- What stands behind the first line break stays, with any further ones. -/
theorem markFirstBreak_append {before : List Char} (unbroken : '\n' ∉ before) (after : List Char) :
    markFirstBreak (before ++ '\n' :: after) = before ++ lineBreakMarker ++ after := by
  induction before with
  | nil => rfl
  | cons c before ih =>
    rw [List.mem_cons, not_or] at unbroken
    obtain ⟨other, unbroken⟩ := unbroken
    rw [List.cons_append, markFirstBreak, if_neg (Ne.symm other), ih unbroken]
    rfl

/-- The content as it is shown. -/
def message (e : LogEntry) : String :=
  String.ofList (markFirstBreak e.content.toList)

/-- The fields of an entry that have been read. -/
structure Draft where
  time : Option String
  content : Option String

/-- The time of an entry. -/
def timeField : Json.Field Draft where
  name := "time"
  optional := false
  isSet draft := draft.time.isSome
  read budget draft c := do
    let (v, c) ← Json.text budget c
    return ({ draft with time := some v }, c)

/-- The content of an entry. -/
def contentField : Json.Field Draft where
  name := "content"
  optional := false
  isSet draft := draft.content.isSome
  read budget draft c := do
    let (v, c) ← Json.text budget c
    return ({ draft with content := some v }, c)

/-- Entries have a time and a content. -/
def shape : Json.Shape Draft LogEntry where
  label := "LogEntry"
  fields := [timeField, contentField]
  empty := ⟨none, none⟩
  finish
    | ⟨none, _⟩ => .error "time"
    | ⟨some _, none⟩ => .error "content"
    | ⟨some time, some content⟩ => .ok ⟨time, content⟩

/-- Decode a list of log entries. -/
def decodeList (url body : String) : Except DecodeError (List LogEntry) :=
  Payload.decode (Json.list shape.read) url body

/-- The JSON value of an entry. -/
def toJson (e : LogEntry) : Json :=
  .object [("time", .string e.time), ("content", .string e.content)]

/-- The JSON value of a list of log entries. -/
def listToJson (entries : List LogEntry) : Json :=
  .array (entries.map toJson)

end LogEntry

end HostBoard
