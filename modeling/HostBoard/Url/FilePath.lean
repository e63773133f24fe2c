import HostBoard.Url.Blank
import HostBoard.Url.Path

/-!
# Paths of files

The path of a file may start at a drive, such as `C:`, which is then the root of everything behind
it: it is written with a colon, and it leaves no room for a host. A drive counts only where no
segment stands before it, not even an empty one. Here the blanks of an address are still in place,
because a blank that follows a leading drive ends its segment.
-/

namespace HostBoard.Url

/-- A path of a file as far as it was followed: its segments, last first, and whether it started at
a drive. -/
structure FileWalk where
  segments : List String
  onDrive : Bool
deriving DecidableEq, Repr

/-- A drive as it is kept, with a colon. -/
def driveText (name : List Char) : String :=
  String.ofList (name.take 1 ++ [':'])

/-- A drive that a blank sets off from what follows: the drive and the rest of the segment. -/
def brokenDrive? (segment : List Char) : Option (List Char × List Char) :=
  match segment.dropWhile isInnerBlank with
  | [] => none
  | letter :: rest =>
    match rest.dropWhile isInnerBlank with
    | ':' :: blank :: rest =>
      let name := significant rest
      if letter.isAlpha && isInnerBlank blank && !name.isEmpty then some ([letter, ':'], name)
      else none
    | _ => none

namespace FileWalk

/-- Nothing was followed yet. -/
def start : FileWalk :=
  ⟨[], false⟩

/-- Follow one segment: at the root it may be a drive, or hold one; all else goes as in any path. -/
def step (go : List String → List Char → List String) (w : FileWalk) (segment : List Char) :
    FileWalk :=
  let name := significant segment
  if w.segments.isEmpty then
    if isDrive name then ⟨[driveText name], true⟩
    else
      match brokenDrive? segment with
      | some (drive, name) => ⟨[segmentText name, driveText drive], w.onDrive⟩
      | none => ⟨go [] name, w.onDrive⟩
  else ⟨go w.segments name, w.onDrive⟩

/-- Follow a list of segments. -/
def steps (w : FileWalk) : List (List Char) → FileWalk
  | [] => w
  | [last] => w.step followLast last
  | segment :: more => (w.step follow segment).steps more

/-- The path that was followed, without empty segments in front. -/
def path (w : FileWalk) : List String :=
  match w.segments.reverse.dropWhile String.isEmpty with
  | [] => [""]
  | names => names

end FileWalk

/-- Follow the text of a path from the root. -/
def walkFile (text : List Char) : FileWalk :=
  FileWalk.start.steps (splitSegments true text)

end HostBoard.Url
