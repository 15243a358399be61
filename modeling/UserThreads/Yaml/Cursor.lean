/-!
Places in a text, and the classes of characters that YAML tells apart there.

A place is the list of the characters that are left, with its number, line and
column.
-/

namespace UserThreads.Yaml

/-- A NUL ends a stream. The end of the text is read as one. -/
def isEnd (c : Char) : Bool := c == '\x00'

def isBreak (c : Char) : Bool := c == '\n' || c == '\r'

def isBlank (c : Char) : Bool := c == ' ' || c == '\t'

def isBreakOrEnd (c : Char) : Bool := isBreak c || isEnd c

/-- Characters that stand between words. -/
def isGap (c : Char) : Bool := isBlank c || isBreak c

/-- What an indicator must be followed by to stand alone. -/
def isSeparator (c : Char) : Bool := isGap c || isEnd c

def isFlowMark (c : Char) : Bool := c == ',' || c == '[' || c == ']' || c == '{' || c == '}'

def isNameChar (c : Char) : Bool := c.isAlphanum || c == '_' || c == '-'

/-- A place in a text: what follows it, the number of characters before it, and
its line and column. -/
structure Cursor where
  rest : List Char
  index : Nat
  line : Nat
  column : Nat
  deriving Repr

namespace Cursor

def start (text : String) : Cursor := ⟨text.toList, 0, 1, 0⟩

instance : Inhabited Cursor := ⟨start ""⟩

/-- The character some places ahead. -/
def peek (cursor : Cursor) (ahead : Nat) : Char := cursor.rest.getD ahead '\x00'

def head (cursor : Cursor) : Char := cursor.peek 0

/-- The next place. A line feed, and no other character, ends a line. -/
def next (cursor : Cursor) : Cursor :=
  match cursor.rest with
  | [] => cursor
  | c :: rest =>
      if c == '\n' then
        { rest, index := cursor.index + 1, line := cursor.line + 1, column := 0 }
      else
        { rest, index := cursor.index + 1, line := cursor.line, column := cursor.column + 1 }

def skip (cursor : Cursor) : Nat → Cursor
  | 0 => cursor
  | count + 1 => cursor.next.skip count

def run (cursor : Cursor) (belongs : Char → Bool) : List Char := cursor.rest.takeWhile belongs

def skipRun (cursor : Cursor) (belongs : Char → Bool) : Cursor :=
  cursor.skip (cursor.run belongs).length

def skipBlanks (cursor : Cursor) : Cursor := cursor.skipRun isBlank

def skipLine (cursor : Cursor) : Cursor := cursor.skipRun fun c => !isBreakOrEnd c

/-- Passes a line break, if there is one. A carriage return and a line feed are
one break. -/
def skipBreak (cursor : Cursor) : Cursor :=
  if cursor.head == '\r' && cursor.peek 1 == '\n' then cursor.skip 2
  else if isBreak cursor.head then cursor.next
  else cursor

/-- The start of the next line, if only blanks and a comment are left of this
one. -/
def nextLine? (cursor : Cursor) : Option Cursor :=
  let cursor := cursor.skipBlanks
  let cursor := if cursor.head == '#' then cursor.skipLine else cursor
  if isBreakOrEnd cursor.head then some cursor.skipBreak else none

/-- Whether three of a character stand here at the start of a line, and alone. -/
def atMark (cursor : Cursor) (mark : Char) : Bool :=
  cursor.column == 0 && cursor.head == mark && cursor.peek 1 == mark && cursor.peek 2 == mark &&
    isSeparator (cursor.peek 3)

def atDocumentMark (cursor : Cursor) : Bool := cursor.atMark '-' || cursor.atMark '.'

end Cursor

end UserThreads.Yaml
