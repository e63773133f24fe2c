/-!
# A place in a text

A cursor is what remains to be read together with the place reached. Places are told to people, so
they count lines from one, and within a line the octets that were passed; a line break starts a
new line at column zero.
-/

namespace HostBoard

/-- A line, counted from one, and the number of octets passed in it. -/
structure Position where
  line : Nat
  column : Nat
deriving DecidableEq, Repr

namespace Position

/-- The place behind a character. -/
def past (p : Position) (c : Char) : Position :=
  if c = '\n' then ⟨p.line + 1, 0⟩ else ⟨p.line, p.column + c.utf8Size⟩

/-- The place a number of octets into a text, at most at its end. -/
def advance (p : Position) : Nat → List Char → Position
  | _, [] => p
  | n, c :: text =>
    if n < c.utf8Size then ⟨p.line, p.column + n⟩
    else advance (p.past c) (n - c.utf8Size) text

end Position

/-- The rest of a text and the place where it starts. -/
structure Cursor where
  rest : List Char
  position : Position
deriving DecidableEq, Repr

namespace Cursor

/-- The start of a text. -/
def start (text : String) : Cursor :=
  ⟨text.toList, ⟨1, 0⟩⟩

/-- The cursor behind the next character. -/
def eat (c : Cursor) : Cursor :=
  match c.rest with
  | [] => c
  | ch :: rest => ⟨rest, c.position.past ch⟩

/-- The cursor behind all characters of a class. -/
def skipWhile (p : Char → Bool) (c : Cursor) : Cursor :=
  ⟨c.rest.dropWhile p, (c.rest.takeWhile p).foldl Position.past c.position⟩

/-- The end of the text. -/
def toEnd (c : Cursor) : Cursor :=
  c.skipWhile fun _ => true

/-- The place one octet further, or here at the end of the text. -/
def ahead (c : Cursor) : Position :=
  c.position.advance 1 c.rest

/-- The four characters between which JSON takes blanks to stand. -/
def isBlank (c : Char) : Bool :=
  c = ' ' || c = '\n' || c = '\t' || c = '\r'

/-- The cursor behind the blanks. -/
def skipBlank (c : Cursor) : Cursor :=
  c.skipWhile isBlank

@[simp]
theorem rest_skipWhile (p : Char → Bool) (c : Cursor) :
    (c.skipWhile p).rest = c.rest.dropWhile p := rfl

/-- Eating takes the next character away. -/
theorem rest_eat (c : Cursor) : c.eat.rest = c.rest.tail := by
  unfold eat
  split <;> simp_all

end Cursor

end HostBoard
