import HostBoard.Url.Basic

/-!
# Reading paths

A path is cut into segments at slashes. A segment of one dot says nothing, a segment of two dots
takes back the one before it, and a path that ends in dots ends in a slash. A segment that names a
drive, such as `C:`, is never taken back.
-/

namespace HostBoard.Url

/-- The end of a path. -/
def isPathEnd (c : Char) : Bool :=
  c = '?' || c = '#'

/-- What separates the segments of a path. -/
def isSeparator (special : Bool) (c : Char) : Bool :=
  c = '/' || (special && c = '\\')

/-- Cut a path into its segments. -/
def splitSegments (special : Bool) : List Char → List (List Char)
  | [] => [[]]
  | c :: text =>
    if isSeparator special c then [] :: splitSegments special text
    else
      match splitSegments special text with
      | [] => [[c]]
      | segment :: segments => (c :: segment) :: segments

/-- How dots are written in a segment: plainly or percent-encoded. -/
def plainDots : List Char → List Char
  | '%' :: '2' :: 'e' :: text => '.' :: plainDots text
  | '%' :: '2' :: 'E' :: text => '.' :: plainDots text
  | c :: text => c :: plainDots text
  | [] => []

/-- A segment that says nothing. -/
def isSingleDot (segment : List Char) : Bool :=
  plainDots segment = ['.']

/-- A segment that takes back the one before it. -/
def isDoubleDot (segment : List Char) : Bool :=
  plainDots segment = ['.', '.']

/-- A drive: a letter and a colon or bar. -/
def isDrive (segment : List Char) : Bool :=
  match segment with
  | [letter, mark] => letter.isAlpha && (mark = ':' || mark = '|')
  | _ => false

/-- A segment that starts with a drive and is not taken back. -/
def isKept (segment : String) : Bool :=
  match segment.toList with
  | letter :: mark :: text => isDrive [letter, mark] && (text.isEmpty || text.head? = some '\\')
  | _ => false

/-- Take back the last of the segments, which stand last first. -/
def takeBack : List String → List String
  | [] => []
  | last :: segments => if isKept last then last :: segments else segments

/-- A segment as it is kept. -/
def segmentText (segment : List Char) : String :=
  String.ofList (percentEncode inPath segment)

/-- Follow one segment that is not the last, from segments that stand last first. -/
def follow (segments : List String) (segment : List Char) : List String :=
  if isDoubleDot segment then takeBack segments
  else if isSingleDot segment then segments
  else segmentText segment :: segments

/-- Follow the last segment, from segments that stand last first. -/
def followLast (segments : List String) (segment : List Char) : List String :=
  if isDoubleDot segment then "" :: takeBack segments
  else if isSingleDot segment then "" :: segments
  else segmentText segment :: segments

/-- Follow a list of segments, from segments that stand last first. -/
def followAll (segments : List String) : List (List Char) → List String
  | [] => segments
  | [last] => followLast segments last
  | segment :: more => followAll (follow segments segment) more

/-- The segments that a path leads to from given ones. -/
def pathFrom (special : Bool) (start : List String) (text : List Char) : List String :=
  (followAll start.reverse (splitSegments special text)).reverse

/-- A leading separator is no segment of its own. -/
def dropSeparator (special : Bool) (text : List Char) : List Char :=
  match text with
  | [] => []
  | c :: rest => if isSeparator special c then rest else c :: rest

/-- The path behind an authority. Only outside the web it may be missing altogether. -/
def pathBehindAuthority (special : Bool) (text : List Char) : List String :=
  if !special && text.isEmpty then [] else pathFrom special [] (dropSeparator special text)

end HostBoard.Url
