/-!
# Markup

The pieces from which the browser page is put together. Text and attribute values are escaped, so
that they cannot be taken for tags; a text that is empty is written as one space, and a comment-like
mark stands for a part that is absent and behind every list.
-/

namespace HostBoard.Web

/-- A piece of the page's source. -/
abbrev Markup := List Char

/-- How a character stands in a text. -/
def textChar : Char → Markup
  | '&' => ['&', 'a', 'm', 'p', ';']
  | '<' => ['&', 'l', 't', ';']
  | '>' => ['&', 'g', 't', ';']
  | c => [c]

/-- How a character stands in an attribute value. -/
def attributeChar : Char → Markup
  | '"' => ['&', 'q', 'u', 'o', 't', ';']
  | c => textChar c

/-- A text. -/
def text (s : String) : Markup :=
  if s.isEmpty then [' '] else s.toList.flatMap textChar

/-- An attribute value, without its quotes. -/
def attributeValue (s : String) : Markup :=
  s.toList.flatMap attributeChar

/-- The mark for a part that is absent, and behind a list. -/
def nothing : Markup :=
  ['<', '!', '>']

/-- An element with its attributes, which are given as they are written. -/
def element (tag attributes : String) (content : Markup) : Markup :=
  '<' :: (tag.toList ++ attributes.toList ++ ['>'] ++ content ++ ['<', '/'] ++ tag.toList ++ ['>'])

/-- A part that may be absent. -/
def orNothing (part : String → Markup) : Option String → Markup
  | none => nothing
  | some s => part s

/-- A list of parts. -/
def sequence {α : Type} (part : α → Markup) (parts : List α) : Markup :=
  parts.flatMap part ++ nothing

end HostBoard.Web
