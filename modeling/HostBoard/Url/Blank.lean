/-!
# Blanks

An address may be written with blanks that are no part of it. Blanks and control characters at its
ends are dropped, and so are tabs and line breaks anywhere in it.
-/

namespace HostBoard.Url

/-- A character that is dropped at both ends. -/
def isOuterBlank (c : Char) : Bool :=
  c.toNat ≤ 0x20

/-- A character that is dropped everywhere. -/
def isInnerBlank (c : Char) : Bool :=
  c = '\t' || c = '\n' || c = '\r'

/-- The characters between the blanks at the ends. -/
def trimmed (raw : String) : List Char :=
  ((raw.toList.dropWhile isOuterBlank).reverse.dropWhile isOuterBlank).reverse

/-- The characters that count. -/
def significant (text : List Char) : List Char :=
  text.filter fun c => !isInnerBlank c

end HostBoard.Url
