import LineMark.Location
import LineMark.Misuse
import LineMark.Unicode.WhiteSpace

/-!
A cursor is an offset into a source. Counts are integers and are not checked, so that an offset may
leave the source: before its start a position is read from the end of the source backwards, and
reading fails only where no character is found even so.
-/

set_option autoImplicit false
set_option relaxedAutoImplicit false

namespace LineMark

structure SkipOptions where
  /-- the greatest number of characters to skip, unlimited when absent -/
  maxCount : Option Int := none
  /-- whether a plain space that is the whole of the unread text stays unread -/
  preserveSingle : Bool := false
  /-- whether line breaks are left unread -/
  stopAtNewline : Bool := false

structure Cursor where
  source : Text
  offset : Int
  file : Option Text

namespace Cursor

def ofSource (source : Text) (file : Option Text) : Cursor where
  source := source
  offset := 0
  file := file

def length (cursor : Cursor) : Int :=
  (cursor.source.length : Int)

def hasRemaining (cursor : Cursor) : Bool :=
  cursor.offset < cursor.length

def remainingLength (cursor : Cursor) : Int :=
  cursor.length - cursor.offset

def remaining (cursor : Cursor) : Text :=
  cursor.source.suffixFrom cursor.offset

def location (cursor : Cursor) : Location :=
  Location.ofOffset cursor.source cursor.offset cursor.file

def moved (cursor : Cursor) (count : Int) : Cursor :=
  { cursor with offset := cursor.offset + count }

/-- The character at an index of the source, negative indices counting from the end. -/
def charAt (cursor : Cursor) (index : Int) : Except Misuse Char :=
  let position := if index < 0 then index + cursor.length else index
  if position < 0 then .error .outOfRange
  else
    match cursor.source[position.toNat]? with
    | some c => .ok c
    | none => .error .outOfRange

def peek (cursor : Cursor) : Except Misuse (Option Char) :=
  if cursor.hasRemaining then some <$> cursor.charAt cursor.offset else .ok none

def peekAt (cursor : Cursor) (distance : Int) : Option Char :=
  let position := cursor.offset + distance
  if position < 0 then none else cursor.source[position.toNat]?

/-- The next characters in the given number, or no character where fewer remain. -/
def peekText (cursor : Cursor) (count : Int) : Text :=
  if cursor.remainingLength < count then []
  else cursor.source.slice cursor.offset (cursor.offset + count)

/-- The cursor moved forward, or left where it is when that would pass the end of the source. -/
def advance (cursor : Cursor) (count : Int) : Cursor :=
  if cursor.length < cursor.offset + count then cursor else cursor.moved count

def retreat (cursor : Cursor) (count : Int) : Cursor :=
  { cursor with offset := max 0 (cursor.offset - count) }

def read (cursor : Cursor) (count : Int) : Text × Cursor :=
  (cursor.peekText count, cursor.advance count)

def skips (options : SkipOptions) (c : Char) : Bool :=
  Unicode.isWhitespace c && !(options.stopAtNewline && c == '\n')

def skipAtMost (options : SkipOptions) : Nat → Cursor → Except Misuse Cursor
  | 0, cursor => .ok cursor
  | count + 1, cursor => do
    let c ← cursor.charAt cursor.offset
    if skips options c then skipAtMost options count (cursor.moved 1) else .ok cursor

/-- Whether the unread text is a single plain space that the options preserve. -/
def atPreservedSpace (cursor : Cursor) (options : SkipOptions) : Except Misuse Bool :=
  if options.preserveSingle && cursor.remainingLength == 1 then (· == some ' ') <$> cursor.peek
  else .ok false

/-- Skips white space to the end of the source or to the limit in the options, whichever comes
first. -/
def skipWhitespace (cursor : Cursor) (options : SkipOptions) : Except Misuse Cursor := do
  let preserved ← cursor.atPreservedSpace options
  if preserved then return cursor
  let toEnd := cursor.remainingLength.toNat
  let limit := (options.maxCount.map Int.toNat).getD toEnd
  skipAtMost options (min limit toEnd) cursor

end Cursor

end LineMark
