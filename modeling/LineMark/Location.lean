import LineMark.Text.Numeral

/-!
Places in a source, counted in lines and columns from one. `Location.ofOffset` finds the place of
an offset by counting line breaks; `Location.walk` reaches it one character at a time.
-/

set_option autoImplicit false
set_option relaxedAutoImplicit false

namespace LineMark

/-- A place in a source, with the name of the source's file where one is known. -/
structure Location where
  line : Int
  column : Int
  file : Option Text
  deriving DecidableEq

namespace Location

def lastLine (text : Text) : Text :=
  (text.reverse.takeWhile (· ≠ '\n')).reverse

def afterText (text : Text) (file : Option Text) : Location where
  line := text.count '\n' + 1
  column := (lastLine text).length + 1
  file := file

/-- The place of an offset in a source, the offset being a bound of the source. -/
def ofOffset (source : Text) (offset : Int) (file : Option Text) : Location :=
  afterText (source.upTo offset) file

def start (file : Option Text) : Location where
  line := 1
  column := 1
  file := file

def next (place : Location) (c : Char) : Location :=
  if c = '\n' then { place with line := place.line + 1, column := 1 }
  else { place with column := place.column + 1 }

/-- The place reached by reading a text one character at a time. -/
def walk (text : Text) (file : Option Text) : Location :=
  text.foldl next (start file)

/-- The place as `file:line:column`, without the file where its name is empty or unknown. -/
def toText (place : Location) : Text :=
  let position := Text.Numeral.decimal place.line ++ ':' :: Text.Numeral.decimal place.column
  match place.file with
  | none | some [] => position
  | some name => name ++ ':' :: position

end Location

end LineMark
