import UserThreads.Yaml.Cursor

/-!
The text of scalars: plain ones, quoted ones, and blocks of lines. A line break
inside a scalar is folded into a blank, unless lines are kept as they are.

The functions on scalars that may span lines take a bound on the number of their
pieces; the number of characters that are left, plus one, is enough.
-/

namespace UserThreads.Yaml.Scalar

structure Reading where
  text : String
  cursor : Cursor
  /-- Whether the scalar was ended by a line break. -/
  endsLine : Bool
  deriving Repr

/-- The number of line breaks; a carriage return and a line feed are one. -/
def lineBreaks : List Char → Nat
  | [] => 0
  | '\r' :: '\n' :: rest => lineBreaks rest + 1
  | c :: rest => if isBreak c then lineBreaks rest + 1 else lineBreaks rest

def newlines (count : Nat) : String := String.ofList (List.replicate count '\n')

/-- What the blanks and line breaks between two words count as: a single line
break is a blank, of several the first is dropped, and blanks beside a line
break are dropped too. -/
def folded (gap : List Char) : String :=
  match lineBreaks gap with
  | 0 => String.ofList gap
  | 1 => " "
  | breaks + 2 => newlines (breaks + 1)

/-! ## Plain scalars -/

/-- The leading word of a plain scalar. A colon that stands alone ends it; so do
the indicators of flow collections inside of one. -/
def plainWord (inFlow : Bool) : List Char → List Char
  | [] => []
  | c :: rest =>
      let following := rest.headD '\x00'
      if isSeparator c then []
      else if c == ':' && (isSeparator following || (inFlow && isFlowMark following)) then []
      else if inFlow && isFlowMark c then []
      else c :: plainWord inFlow rest

/-- Whether a tab stands left of the margin in a line that starts within the
gap. -/
def tabLeftOf (margin : Nat) (gap : List Char) (cursor : Cursor) (lineStarted : Bool) : Bool :=
  match gap with
  | [] => false
  | c :: rest =>
      (lineStarted && c == '\t' && decide (cursor.column < margin)) ||
        tabLeftOf margin rest cursor.next (lineStarted || isBreak c)

/-- Reads on in a plain scalar of which `text` and, after it, `gap` were read. -/
def plainFrom (inFlow : Bool) (margin : Nat) : Nat → Cursor → String → List Char → Option Reading
  | 0, _, _, _ => none
  | fuel + 1, cursor, text, gap =>
      if cursor.atDocumentMark || cursor.head == '#' then
        some ⟨text, cursor, lineBreaks gap != 0⟩
      else
        let word := plainWord inFlow cursor.rest
        let text := if word.isEmpty then text else text ++ folded gap ++ String.ofList word
        let endsLine := word.isEmpty && lineBreaks gap != 0
        let cursor := cursor.skip word.length
        let gap := cursor.run isGap
        if gap.isEmpty then some ⟨text, cursor, endsLine⟩
        else if tabLeftOf margin gap cursor false then none
        else
          let cursor := cursor.skip gap.length
          if !inFlow && decide (cursor.column < margin) then
            some ⟨text, cursor, lineBreaks gap != 0⟩
          else plainFrom inFlow margin fuel cursor text gap

/-- Reads a plain scalar; its lines stand right of the margin. -/
def plain (inFlow : Bool) (margin fuel : Nat) (cursor : Cursor) : Option Reading :=
  plainFrom inFlow margin fuel cursor "" []

/-! ## Quoted scalars -/

/-- What a backslash and one more character stand for. -/
def escaped? : Char → Option Char
  | '0' => some '\x00'
  | 'a' => some '\x07'
  | 'b' => some '\x08'
  | 't' | '\t' => some '\t'
  | 'n' => some '\n'
  | 'v' => some '\x0b'
  | 'f' => some '\x0c'
  | 'r' => some '\r'
  | 'e' => some '\x1b'
  | ' ' => some ' '
  | '"' => some '"'
  | '\'' => some '\''
  | '\\' => some '\\'
  | 'N' => some '\u0085'
  | '_' => some '\u00a0'
  | 'L' => some '\u2028'
  | 'P' => some '\u2029'
  | _ => none

/-- How many digits the number of an escaped character has. -/
def escapeWidth? : Char → Option Nat
  | 'x' => some 2
  | 'u' => some 4
  | 'U' => some 8
  | _ => none

def hexDigit? (c : Char) : Option Nat :=
  if c.isDigit then some (c.toNat - '0'.toNat)
  else if 'a' ≤ c && c ≤ 'f' then some (c.toNat - 'a'.toNat + 10)
  else if 'A' ≤ c && c ≤ 'F' then some (c.toNat - 'A'.toNat + 10)
  else none

/-- The number that some characters write in base sixteen. -/
def hexNumber? (digits : List Char) : Option Nat :=
  digits.foldlM (fun number c => (hexDigit? c).map (number * 16 + ·)) 0

/-- The character that a backslash and what follows it stand for, with the
place after it. -/
def escape? (cursor : Cursor) : Option (Char × Cursor) :=
  let name := cursor.peek 1
  match escaped? name with
  | some c => some (c, cursor.skip 2)
  | none => do
      let width ← escapeWidth? name
      let digits := (cursor.rest.drop 2).take width
      let number ← hexNumber? digits
      if digits.length = width ∧ number.isValidChar then
        some (Char.ofNat number, cursor.skip (2 + width))
      else none

/-- Reads on in a quoted scalar of which `text` was read. -/
def quotedFrom (quote : Char) : Nat → Cursor → String → Option Reading
  | 0, _, _ => none
  | fuel + 1, cursor, text =>
      let c := cursor.head
      if cursor.atDocumentMark || isEnd c then none
      else if isGap c then
        let gap := cursor.run isGap
        quotedFrom quote fuel (cursor.skip gap.length) (text ++ folded gap)
      else if c == quote then
        if quote == '\'' && cursor.peek 1 == quote then
          quotedFrom quote fuel (cursor.skip 2) (text.push quote)
        else some ⟨text, cursor.next, false⟩
      else if c == '\\' && quote == '"' then
        if isBreak (cursor.peek 1) then
          let cursor := cursor.next.skipBreak
          let gap := cursor.run isGap
          quotedFrom quote fuel (cursor.skip gap.length) (text ++ newlines (lineBreaks gap))
        else
          match escape? cursor with
          | none => none
          | some (c, cursor) => quotedFrom quote fuel cursor (text.push c)
      else quotedFrom quote fuel cursor.next (text.push c)

/-- Reads a scalar between quotes. Inside single quotes only the quote itself,
doubled, is special; inside double quotes a backslash escapes. -/
def quoted (fuel : Nat) (cursor : Cursor) : Option Reading :=
  quotedFrom cursor.head fuel cursor.next ""

/-! ## Blocks of lines -/

inductive Chomping
  | strip
  | clip
  | keep
  deriving DecidableEq, Repr

def chomping? : Char → Option Chomping
  | '-' => some .strip
  | '+' => some .keep
  | _ => none

/-- The indentation that a block's header states; one of zero cannot be. -/
structure Header where
  chomping : Chomping
  /-- The columns beyond the margin; zero if none are stated. -/
  increment : Nat
  cursor : Cursor

/-- Reads the indicators of a block, which come in either order. -/
def header? (cursor : Cursor) : Option Header :=
  let digit (cursor : Cursor) : Option (Nat × Cursor) :=
    if cursor.head == '0' then none
    else if cursor.head.isDigit then some (cursor.head.toNat - '0'.toNat, cursor.next)
    else some (0, cursor)
  match chomping? cursor.head with
  | some chomping =>
      (digit cursor.next).map fun (increment, cursor) => ⟨chomping, increment, cursor⟩
  | none =>
      (digit cursor).map fun (increment, cursor) =>
        match (if increment = 0 then none else chomping? cursor.head) with
        | some chomping => ⟨chomping, increment, cursor.next⟩
        | none => ⟨.clip, increment, cursor⟩

/-- The place where the next line with text starts, after its indentation. -/
structure LineStart where
  cursor : Cursor
  /-- The number of empty lines passed. -/
  empty : Nat
  /-- The widest indentation passed. -/
  widest : Nat

/-- Passes empty lines and indentation. An indentation of zero is not known yet:
all spaces count. -/
def lineStart (indent : Nat) : Nat → LineStart → Option LineStart
  | 0, _ => none
  | fuel + 1, start =>
      let spaces := (start.cursor.run (· == ' ')).length
      let cursor := start.cursor.skip
        (if indent = 0 then spaces else min spaces (indent - start.cursor.column))
      let widest := max start.widest cursor.column
      if (indent = 0 || cursor.column < indent) && cursor.head == '\t' then none
      else if isBreak cursor.head then
        lineStart indent fuel ⟨cursor.skipBreak, start.empty + 1, widest⟩
      else some ⟨cursor, start.empty, widest⟩

/-- A block of which some lines were read. -/
structure Block where
  text : String
  cursor : Cursor
  /-- Whether the last line was ended by a break that is not in the text yet. -/
  pendingBreak : Bool
  /-- The number of empty lines after it. -/
  empty : Nat
  /-- Whether the last line began with a blank. -/
  blankLed : Bool

/-- Reads the lines of a block. Unless it is literal, a line break between two
lines of text that begin with no blank is folded. -/
def blockLines (literal : Bool) (indent : Nat) : Nat → Block → Option Block
  | 0, _ => none
  | fuel + 1, block =>
      let cursor := block.cursor
      if cursor.column != indent || isEnd cursor.head then some block
      else
        let blankLed := isBlank cursor.head
        let joint :=
          if !block.pendingBreak then ""
          else if literal || block.blankLed || blankLed then "\n"
          else if block.empty = 0 then " "
          else ""
        let line := cursor.run fun c => !isBreakOrEnd c
        let text := block.text ++ joint ++ newlines block.empty ++ String.ofList line
        let cursor := cursor.skip line.length
        if isEnd cursor.head then some ⟨text, cursor, false, 0, blankLed⟩
        else
          match lineStart indent fuel ⟨cursor.skipBreak, 0, 0⟩ with
          | none => none
          | some start =>
              blockLines literal indent fuel ⟨text, start.cursor, true, start.empty, blankLed⟩

/-- Reads a block of lines that are kept (after a bar) or folded. -/
def block (margin fuel : Nat) (cursor : Cursor) : Option Reading := do
  let literal := cursor.head == '|'
  let header ← header? cursor.next
  let cursor ← header.cursor.nextLine?
  let stated := if header.increment = 0 then 0 else margin - 1 + header.increment
  let start ← lineStart stated fuel ⟨cursor, 0, 0⟩
  let indent := if stated = 0 then max (max start.widest margin) 1 else stated
  let block ← blockLines literal indent fuel ⟨"", start.cursor, false, start.empty, false⟩
  let ending :=
    match header.chomping with
    | .strip => ""
    | .clip => if block.pendingBreak then "\n" else ""
    | .keep => (if block.pendingBreak then "\n" else "") ++ newlines block.empty
  return ⟨block.text ++ ending, block.cursor, true⟩

end UserThreads.Yaml.Scalar
