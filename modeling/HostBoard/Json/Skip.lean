import HostBoard.Json.Reader

/-!
# Skipping a value

A value that nobody asked for is only checked for its spelling: nesting has no limit, numbers have
no range and surrogates need no partner. The containers that are open are kept on a stack, the
innermost first.
-/

namespace HostBoard.Json

/-- A container that is open. -/
inductive Frame where
  | list
  | object
deriving DecidableEq, Repr

namespace Frame

/-- The character that closes the container. -/
def close : Frame → Char
  | .list => ']'
  | .object => '\x7d'

/-- The text ends inside the container. -/
def atEnd : Frame → Cause
  | .list => .endInList
  | .object => .endInObject

/-- Neither a comma nor the end follows a value of the container. -/
def noEnd : Frame → Cause
  | .list => .noListEnd
  | .object => .noObjectEnd

end Frame

/-- Check a key and its colon; a list has none. -/
def skipKey (frame : Frame) (c : Cursor) : Except Fault Cursor :=
  match frame with
  | .list => .ok c
  | .object =>
    let c := c.skipBlank
    match c.rest with
    | [] => .error (c.faultAhead .endInObject)
    | '"' :: _ => do colon (← skipString c.eat)
    | _ => .error (c.faultAhead .keyNotString)

/-- Check a value that is no container; `none` at the start of a container. -/
def skipScalar (c : Cursor) : Except Fault (Option Cursor) :=
  match c.rest with
  | [] => .error (c.faultAhead .endInValue)
  | 'n' :: _ => some <$> word ['u', 'l', 'l'] c.eat
  | 't' :: _ => some <$> word ['r', 'u', 'e'] c.eat
  | 'f' :: _ => some <$> word ['a', 'l', 's', 'e'] c.eat
  | '-' :: _ => some <$> Numeral.skip c.eat
  | '"' :: _ => some <$> skipString c.eat
  | '[' :: _ => .ok none
  | '\x7b' :: _ => .ok none
  | ch :: _ =>
    if ch.isDigit then some <$> Numeral.skip c else .error (c.faultAhead .noValue)

/-- The container that a bracket or brace opens. -/
def openedFrame (c : Cursor) : Frame :=
  if c.rest.head? = some '[' then .list else .object

mutual

/-- Check a value inside the open containers, and then what follows it. -/
def skipNested : Nat → List Frame → Cursor → Except Fault Cursor
  | 0, _, c => .error (c.fault .endInValue)
  | fuel + 1, frames, c => do
    let c := c.skipBlank
    match ← skipScalar c with
    | some c => skipFollowing fuel frames c
    | none =>
      let frame := openedFrame c
      let c := c.eat.skipBlank
      match c.rest with
      | [] => .error (c.faultAhead frame.atEnd)
      | ch :: _ =>
        if ch = frame.close then skipFollowing fuel frames c.eat
        else skipNested fuel (frame :: frames) (← skipKey frame c)

/-- Check what follows a value inside the open containers. -/
def skipFollowing : Nat → List Frame → Cursor → Except Fault Cursor
  | _, [], c => .ok c
  | 0, _ :: _, c => .error (c.fault .endInValue)
  | fuel + 1, frame :: frames, c => do
    let c := c.skipBlank
    match c.rest with
    | [] => .error (c.faultAhead frame.atEnd)
    | ch :: _ =>
      if ch = ',' then skipNested fuel (frame :: frames) (← skipKey frame c.eat)
      else if ch = frame.close then skipFollowing fuel frames c.eat
      else .error (c.faultAhead frame.noEnd)

end

/-- Check one value. Every step but the last takes a character, so the steps suffice. -/
def skip (c : Cursor) : Except Fault Cursor :=
  skipNested (c.rest.length + 1) [] c

end HostBoard.Json
