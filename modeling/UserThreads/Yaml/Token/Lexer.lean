import UserThreads.Yaml.Token.Property

/-!
From a text to its tokens.

A mapping key is recognised only by the colon after it. So the lexer remembers,
for each collection it is in, where a key may have begun, and puts the key's
token there once it meets the colon.
-/

namespace UserThreads.Yaml

/-- A place where a mapping key may have begun. -/
structure KeyCandidate where
  /-- The number of tokens before it. -/
  number : Nat
  index : Nat
  line : Nat
  column : Nat
  /-- Whether the layout leaves no other reading than a key. -/
  required : Bool
  deriving Repr

structure Lexer where
  cursor : Cursor
  tokens : Array Token
  /-- For each open block collection, the innermost first, the least column of
  what belongs to its entries. -/
  margins : List Nat
  /-- Where a key may have begun in the innermost collection. -/
  candidate : Option KeyCandidate
  /-- The same for the collections around each open flow collection. -/
  outer : List (Option KeyCandidate)
  /-- Whether a key may begin here. -/
  keyAllowed : Bool
  /-- The index after the last quoted scalar, where a colon need not stand alone. -/
  quotedEnd : Nat

namespace Lexer

def start (text : String) : Lexer where
  cursor := .start text
  tokens := #[]
  margins := []
  candidate := none
  outer := []
  keyAllowed := true
  quotedEnd := 0

def maxDepth : Nat := 255

def maxKeyLength : Nat := 1024

def inFlow (lexer : Lexer) : Bool := !lexer.outer.isEmpty

/-- The least column of what belongs to the innermost block collection. -/
def margin (lexer : Lexer) : Nat := lexer.margins.headD 0

def push (lexer : Lexer) (token : Token) : Lexer :=
  { lexer with tokens := lexer.tokens.push token }

/-- Pushes a token and passes its characters. -/
def take (lexer : Lexer) (token : Token) (length : Nat) : Lexer :=
  { lexer.push token with cursor := lexer.cursor.skip length }

/-! ## Blanks -/

/-- Passes blanks, comments and line breaks; `chars` are the characters that are
left. A tab is no indentation: where a key may begin, it is not passed. -/
def skipSpace (lexer : Lexer) (inComment : Bool) (chars : List Char) : Lexer :=
  match chars with
  | [] => lexer
  | c :: rest =>
      let next := { lexer with cursor := lexer.cursor.next }
      if inComment && !isBreakOrEnd c then next.skipSpace true rest
      else if c == ' ' || (c == '\t' && (lexer.inFlow || !lexer.keyAllowed)) then
        next.skipSpace false rest
      else if isBreak c then
        { next with keyAllowed := lexer.keyAllowed || !lexer.inFlow }.skipSpace false rest
      else if c == '#' then next.skipSpace true rest
      else lexer

/-! ## Block collections -/

/-- Closes the block collections whose entries stand right of the margin. -/
def closeBlocks (lexer : Lexer) (margin : Nat) : Lexer :=
  if lexer.inFlow then lexer
  else
    let closed := lexer.margins.takeWhile fun inner => decide (margin < inner)
    { lexer with
      tokens := closed.foldl (fun tokens _ => tokens.push .blockEnd) lexer.tokens
      margins := lexer.margins.drop closed.length }

/-- Opens a block collection at a column, before the token numbered `number`,
if the column is right of the innermost one's. -/
def openBlock (lexer : Lexer) (column number : Nat) (token : Token) : Lexer :=
  if lexer.inFlow || decide (column < lexer.margin) then lexer
  else
    { lexer with
      tokens := lexer.tokens.insertIdxIfInBounds number token
      margins := (column + 1) :: lexer.margins }

def openBlockHere (lexer : Lexer) (token : Token) : Lexer :=
  lexer.openBlock lexer.cursor.column lexer.tokens.size token

/-! ## Keys -/

/-- Gives up the key that may have begun in the innermost collection. -/
def dropCandidate (lexer : Lexer) : Option Lexer :=
  if lexer.candidate.any KeyCandidate.required then none
  else some { lexer with candidate := none }

def noteCandidate (lexer : Lexer) : Option Lexer :=
  if lexer.keyAllowed then
    lexer.dropCandidate.map fun dropped =>
      let cursor := lexer.cursor
      { dropped with candidate := some {
          number := lexer.tokens.size
          index := cursor.index
          line := cursor.line
          column := cursor.column
          required := lexer.inFlow && lexer.margin == cursor.column + 1 } }
  else some lexer

/-- Whether a key cannot go on to here: it keeps to one line, and is not long. -/
def isStale (lexer : Lexer) (candidate : KeyCandidate) : Bool :=
  candidate.line < lexer.cursor.line || candidate.index + maxKeyLength < lexer.cursor.index

/-- Gives up all keys that cannot go on to here. -/
def dropStale (lexer : Lexer) : Option Lexer :=
  let refresh (candidate : Option KeyCandidate) : Option (Option KeyCandidate) :=
    match candidate with
    | none => some none
    | some key =>
        if !lexer.isStale key then some (some key)
        else if key.required then none
        else some none
  do
    let candidate ← refresh lexer.candidate
    let outer ← lexer.outer.mapM refresh
    return { lexer with candidate, outer }

/-! ## Single tokens -/

def documentMark (lexer : Lexer) (token : Token) : Option Lexer := do
  let lexer ← (lexer.closeBlocks 0).dropCandidate
  return { lexer with keyAllowed := false }.take token 3

def directive (lexer : Lexer) (fuel : Nat) : Option Lexer := do
  let lexer ← (lexer.closeBlocks 0).dropCandidate
  let (token, cursor) ← Property.directive? fuel lexer.cursor
  return { lexer.push token with cursor, keyAllowed := false }

def openFlow (lexer : Lexer) (token : Token) : Option Lexer := do
  let lexer ← lexer.noteCandidate
  if lexer.outer.length = maxDepth then none
  else
    let inner := { lexer with
      candidate := none
      outer := lexer.candidate :: lexer.outer
      keyAllowed := true }
    return inner.take token 1

def closeFlow (lexer : Lexer) (token : Token) : Option Lexer := do
  let lexer ← lexer.dropCandidate
  let around :=
    match lexer.outer with
    | [] => lexer
    | candidate :: outer => { lexer with candidate, outer }
  return { around with keyAllowed := false }.take token 1

def flowEntry (lexer : Lexer) : Option Lexer := do
  let lexer ← lexer.dropCandidate
  return { lexer with keyAllowed := true }.take .flowEntry 1

def blockEntry (lexer : Lexer) : Option Lexer :=
  if lexer.inFlow || !lexer.keyAllowed then none
  else do
    let lexer ← (lexer.openBlockHere .blockSequenceStart).dropCandidate
    return { lexer with keyAllowed := true }.take .blockEntry 1

/-- A question mark, which announces a key of any form. -/
def key (lexer : Lexer) : Option Lexer :=
  if !lexer.inFlow && !lexer.keyAllowed then none
  else do
    let lexer ← (lexer.openBlockHere .blockMappingStart).dropCandidate
    return { lexer with keyAllowed := !lexer.inFlow }.take .key 1

/-- The colon between a key and its value. -/
def value (lexer : Lexer) : Option Lexer :=
  match lexer.candidate with
  | some candidate =>
      let keyed := { lexer with
        tokens := lexer.tokens.insertIdxIfInBounds candidate.number .key
        candidate := none
        keyAllowed := false }
      some ((keyed.openBlock candidate.column candidate.number .blockMappingStart).take .value 1)
  | none =>
      if !lexer.inFlow && !lexer.keyAllowed then none
      else
        let opened := lexer.openBlockHere .blockMappingStart
        some ({ opened with keyAllowed := !lexer.inFlow }.take .value 1)

/-- An anchor, a reference or a tag. -/
def property (lexer : Lexer) (read : Cursor → Option (Token × Cursor)) : Option Lexer := do
  let lexer ← lexer.noteCandidate
  let (token, cursor) ← read lexer.cursor
  return { lexer.push token with cursor, keyAllowed := false }

def plainScalar (lexer : Lexer) (fuel : Nat) : Option Lexer := do
  let lexer ← lexer.noteCandidate
  let scalar ← Scalar.plain lexer.inFlow lexer.margin fuel lexer.cursor
  return { lexer.push (.scalar true scalar.text) with
    cursor := scalar.cursor
    keyAllowed := scalar.endsLine }

def quotedScalar (lexer : Lexer) (fuel : Nat) : Option Lexer := do
  let lexer ← lexer.noteCandidate
  let scalar ← Scalar.quoted fuel lexer.cursor
  return { lexer.push (.scalar false scalar.text) with
    cursor := scalar.cursor
    keyAllowed := false
    quotedEnd := scalar.cursor.index }

def blockScalar (lexer : Lexer) (fuel : Nat) : Option Lexer := do
  let lexer ← lexer.noteCandidate
  let scalar ← Scalar.block lexer.margin fuel lexer.cursor
  return { lexer.push (.scalar false scalar.text) with
    cursor := scalar.cursor
    keyAllowed := true }

/-- Whether the colon here is one between a key and its value. -/
def atValue (lexer : Lexer) : Bool :=
  let following := lexer.cursor.peek 1
  isSeparator following ||
    (lexer.inFlow && (isFlowMark following || lexer.cursor.index == lexer.quotedEnd))

def token (lexer : Lexer) (fuel : Nat) : Option Lexer :=
  let cursor := lexer.cursor
  let alone := isSeparator (cursor.peek 1)
  if cursor.column == 0 && cursor.head == '%' then lexer.directive fuel
  else if cursor.atMark '-' then lexer.documentMark .documentStart
  else if cursor.atMark '.' then lexer.documentMark .documentEnd
  else
    match cursor.head with
    | '[' => lexer.openFlow .flowSequenceStart
    | '{' => lexer.openFlow .flowMappingStart
    | ']' => lexer.closeFlow .flowSequenceEnd
    | '}' => lexer.closeFlow .flowMappingEnd
    | ',' => lexer.flowEntry
    | '-' => if alone then lexer.blockEntry else lexer.plainScalar fuel
    | '?' => if alone then lexer.key else lexer.plainScalar fuel
    | ':' => if lexer.atValue then lexer.value else lexer.plainScalar fuel
    | '*' => lexer.property (Property.anchor? .reference)
    | '&' => lexer.property (Property.anchor? .anchor)
    | '!' => lexer.property (Property.tag? fuel)
    | '|' | '>' => if lexer.inFlow then lexer.plainScalar fuel else lexer.blockScalar fuel
    | '\'' | '"' => lexer.quotedScalar fuel
    | '%' | '@' | '\x60' => none
    | _ => lexer.plainScalar fuel

/-- The tokens from here to the end of the stream. Each token takes at least one
character, so a little more fuel than there are characters is enough; it is
enough for the pieces of each scalar, too. -/
def finish (lexer : Lexer) : Nat → Option (Array Token)
  | 0 => none
  | fuel + 1 => do
      let lexer ← (lexer.skipSpace false lexer.cursor.rest).dropStale
      let lexer := lexer.closeBlocks (lexer.cursor.column + 1)
      if isEnd lexer.cursor.head then
        let lexer ← (lexer.closeBlocks 0).dropCandidate
        return lexer.tokens
      else
        let lexer ← lexer.token (fuel + 2)
        lexer.finish fuel

end Lexer

/-- The tokens of a text; none if it breaks the rules of tokens or of layout. -/
def Token.scan (text : String) : Option (List Token) :=
  ((Lexer.start text).finish (text.length + 2)).map Array.toList

end UserThreads.Yaml
