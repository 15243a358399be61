import UserThreads.Yaml.Token
import UserThreads.Yaml.Token.Scalar

/-!
What may stand before a node or a document: anchors, tags and directives. Each
reader gives the token and the place after it, or nothing if the text is not of
its form.
-/

namespace UserThreads.Yaml.Property

/-! ## Anchors -/

/-- What may follow the name of an anchor. -/
def endsAnchor (c : Char) : Bool := isSeparator c || "?:,]\x7d%@\x60".toList.contains c

/-- Reads an anchor, or a reference to one, after its indicator. -/
def anchor? (token : String → Token) (cursor : Cursor) : Option (Token × Cursor) :=
  let cursor := cursor.next
  let name := cursor.run isNameChar
  let cursor := cursor.skip name.length
  if name.isEmpty || !endsAnchor cursor.head then none
  else some (token (String.ofList name), cursor)

/-! ## Tags -/

/-- Characters that a tag may hold beside those of names. -/
def isTagMark (c : Char) : Bool := ";/?:@&=+$,.!~*'()[]%".toList.contains c

/-- Reads a character that is written as a percent sign and the two digits of
each of its bytes. The width of the character is read off the first byte; the
bytes are joined as they are, so wide characters are out of range. -/
def percentEscape? (cursor : Cursor) : Option (Char × Cursor) := do
  let octet (place : Nat) : Option Nat :=
    if cursor.peek (3 * place) == '%' then
      Scalar.hexNumber? [cursor.peek (3 * place + 1), cursor.peek (3 * place + 2)]
    else none
  let first ← octet 0
  let width ←
    if first < 0x80 then some 1
    else if 0xc0 ≤ first && first < 0xe0 then some 2
    else if 0xe0 ≤ first && first < 0xf0 then some 3
    else if 0xf0 ≤ first && first < 0xf8 then some 4
    else none
  let trailing ← (List.range (width - 1)).mapM fun place => do
    let byte ← octet (place + 1)
    if 0x80 ≤ byte && byte < 0xc0 then some byte else none
  let code := trailing.foldl (fun code byte => code * 256 + byte) first
  if code.isValidChar then some (Char.ofNat code, cursor.skip (3 * width)) else none

/-- Reads on in the characters of a tag. -/
def tagCharsFrom : Nat → Cursor → String → Option (String × Cursor)
  | 0, _, _ => none
  | fuel + 1, cursor, text =>
      let c := cursor.head
      if c == '%' then
        match percentEscape? cursor with
        | none => none
        | some (c, cursor) => tagCharsFrom fuel cursor (text.push c)
      else if isTagMark c || isNameChar c then tagCharsFrom fuel cursor.next (text.push c)
      else some (text, cursor)

/-- The name of a family of tags: an exclamation mark, a name and, possibly, a
second mark. -/
def tagHandle? (cursor : Cursor) : Option (String × Cursor) :=
  if cursor.head != '!' then none
  else
    let name := cursor.next.run isNameChar
    let cursor := cursor.next.skip name.length
    let opened := "!" ++ String.ofList name
    if cursor.head == '!' then some (opened ++ "!", cursor.next) else some (opened, cursor)

def isClosedHandle (handle : String) : Bool := handle != "!" && handle.endsWith "!"

/-- Reads a tag. It is a whole one between angle brackets, or one of a family,
or else a name of its own after the mark. -/
def tag? (fuel : Nat) (cursor : Cursor) : Option (Token × Cursor) := do
  let (token, cursor) ←
    if cursor.peek 1 == '<' then do
      let (ending, after) ← tagCharsFrom fuel (cursor.skip 2) ""
      if ending.isEmpty || after.head != '>' then none
      else some (Token.tag "" ending, after.next)
    else do
      let (handle, after) ← tagHandle? cursor
      if isClosedHandle handle then do
        let (ending, after) ← tagCharsFrom fuel after ""
        if ending.isEmpty then none else some (Token.tag handle ending, after)
      else do
        let (ending, after) ← tagCharsFrom fuel after (String.ofList (handle.toList.drop 1))
        some (if ending.isEmpty then Token.tag "" "!" else Token.tag "!" ending, after)
  if isSeparator cursor.head then some (token, cursor) else none

/-! ## Directives -/

/-- The digits of a version number, at least one and at most nine. -/
def versionNumber? (cursor : Cursor) : Option Cursor :=
  let digits := cursor.run Char.isDigit
  if digits.isEmpty || 9 < digits.length then none else some (cursor.skip digits.length)

def version? (cursor : Cursor) : Option Cursor := do
  let cursor ← versionNumber? cursor.skipBlanks
  if cursor.head == '.' then versionNumber? cursor.next else none

/-- What a directive says about the tags of a family. -/
def tagDirective? (fuel : Nat) (cursor : Cursor) : Option Cursor := do
  let (handle, cursor) ← tagHandle? cursor.skipBlanks
  if handle != "!" && !isClosedHandle handle then none
  else
    let (ending, cursor) ← tagCharsFrom fuel cursor.skipBlanks ""
    if ending.isEmpty || !isSeparator cursor.head then none else some cursor

/-- Reads a directive, to the end of its line. Directives of unknown names are
passed over. -/
def directive? (fuel : Nat) (cursor : Cursor) : Option (Token × Cursor) := do
  let cursor := cursor.next
  let name := cursor.run isNameChar
  let cursor := cursor.skip name.length
  if name.isEmpty || !isSeparator cursor.head then none
  else
    let cursor ←
      match String.ofList name with
      | "YAML" => version? cursor
      | "TAG" => tagDirective? fuel cursor
      | _ => some cursor.skipLine
    let cursor ← cursor.nextLine?
    return (.directive, cursor)

end UserThreads.Yaml.Property
