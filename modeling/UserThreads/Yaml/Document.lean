import UserThreads.Yaml.Node
import UserThreads.Yaml.Token.Lexer

/-!
From the tokens of a stream to the values of its documents.

The functions on nodes take a bound on the nesting of their calls. Two calls in
a row take at least one token, so a small multiple of the number of tokens is
enough.
-/

namespace UserThreads.Yaml

/-- The tokens that are left, and the anchors met in the document so far. -/
structure Reader where
  tokens : List Token
  /-- The anchors in order, each with its node once that is complete. -/
  anchors : Array (String × Option Node)

namespace Reader

def noteAnchor (reader : Reader) (name : String) : Nat × Reader :=
  (reader.anchors.size, { reader with anchors := reader.anchors.push (name, none) })

def complete (reader : Reader) (anchor : Option Nat) (node : Node) : Reader :=
  match anchor with
  | none => reader
  | some place =>
      { reader with
        anchors := reader.anchors.modify place fun (name, _) => (name, some node) }

/-- The node of the last anchor of a name. One that is not complete refers to
itself, and has no value. -/
def resolve? (reader : Reader) (name : String) : Option Node :=
  (reader.anchors.findRev? fun anchor => anchor.1 == name).map fun anchor =>
    anchor.2.getD .bad

/-- Takes the anchor and the tag before a node; they come in either order. -/
def properties (reader : Reader) : Option Nat × Option (String × String) × Reader :=
  match reader.tokens with
  | .anchor name :: .tag handle ending :: rest =>
      let (place, reader) := { reader with tokens := rest }.noteAnchor name
      (some place, some (handle, ending), reader)
  | .tag handle ending :: .anchor name :: rest =>
      let (place, reader) := { reader with tokens := rest }.noteAnchor name
      (some place, some (handle, ending), reader)
  | .anchor name :: rest =>
      let (place, reader) := { reader with tokens := rest }.noteAnchor name
      (some place, none, reader)
  | .tag handle ending :: rest => (none, some (handle, ending), { reader with tokens := rest })
  | _ => (none, none, reader)

end Reader

/-- Where a node stands, which decides what forms it may have. -/
inductive Position
  /-- In a flow collection: without block collections. -/
  | flow
  | block
  /-- A key or value of a block mapping, where the entries of a sequence need not
  be indented. -/
  | entry
  deriving DecidableEq, Repr

def Token.endsBlockItem : Token → Bool
  | .blockEntry | .blockEnd => true
  | _ => false

/-- Whether the token says that a key or value of a block mapping is empty. -/
def Token.endsBlockPart : Token → Bool
  | .key | .value | .blockEnd => true
  | _ => false

def Token.endsIndentlessItem (token : Token) : Bool :=
  token.endsBlockPart || token == .blockEntry

/-- Whether the token says that a key in a flow mapping is empty. -/
def Token.endsFlowKey : Token → Bool
  | .value | .flowEntry | .flowMappingEnd => true
  | _ => false

/-- Whether the token says that a key in a flow sequence is empty. -/
def Token.endsPairKey : Token → Bool
  | .value | .flowEntry | .flowSequenceEnd => true
  | _ => false

def Token.endsFlowValue : Token → Bool
  | .flowEntry | .flowMappingEnd => true
  | _ => false

def Token.endsPairValue : Token → Bool
  | .flowEntry | .flowSequenceEnd => true
  | _ => false

namespace Reader

def next (reader : Reader) (belongs : Token → Bool) : Bool :=
  (reader.tokens.head?.map belongs).getD false

mutual

/-- One node, with the anchor and the tag before it. -/
def node (fuel : Nat) (position : Position) (reader : Reader) : Option (Node × Reader) :=
  match fuel with
  | 0 => none
  | fuel + 1 =>
      match reader.tokens with
      | .reference name :: rest =>
          (reader.resolve? name).map fun node => (node, { reader with tokens := rest })
      | _ =>
          let (anchor, tag, reader) := reader.properties
          (content fuel position tag (anchor.isSome || tag.isSome) reader).map
            fun (node, reader) => (node, reader.complete anchor node)

/-- The content of a node. After an anchor or a tag it may be missing, and is an
empty text then. -/
def content (fuel : Nat) (position : Position) (tag : Option (String × String))
    (mayBeEmpty : Bool) (reader : Reader) : Option (Node × Reader) :=
  match fuel with
  | 0 => none
  | fuel + 1 =>
      let after (rest : List Token) : Reader := { reader with tokens := rest }
      let sequence (result : List Node × Reader) : Node × Reader :=
        (.sequence result.1, result.2)
      let mapping (result : List Node × Reader) : Node × Reader :=
        (.mapping (Node.entriesOf result.1), result.2)
      let empty : Option (Node × Reader) :=
        if mayBeEmpty then some (.ofScalar true tag "", reader) else none
      match reader.tokens with
      | .scalar plain written :: rest => some (.ofScalar plain tag written, after rest)
      | .flowSequenceStart :: rest => (flowItems fuel true (after rest)).map sequence
      | .flowMappingStart :: rest => (flowEntries fuel true (after rest)).map mapping
      | .blockSequenceStart :: rest =>
          if position = .flow then empty else (blockItems fuel (after rest)).map sequence
      | .blockMappingStart :: rest =>
          if position = .flow then empty else (blockEntries fuel (after rest)).map mapping
      | .blockEntry :: _ =>
          if position = .entry then (indentlessItems fuel reader).map sequence else empty
      | _ => empty

/-- A node, or a null if the next token says that it is missing. -/
def nodeUnless (fuel : Nat) (missing : Token → Bool) (position : Position)
    (reader : Reader) : Option (Node × Reader) :=
  match fuel with
  | 0 => none
  | fuel + 1 =>
      if reader.next missing then some (.null, reader) else node fuel position reader

/-- The items of an indented block sequence, to its end. -/
def blockItems (fuel : Nat) (reader : Reader) : Option (List Node × Reader) :=
  match fuel with
  | 0 => none
  | fuel + 1 =>
      match reader.tokens with
      | .blockEnd :: rest => some ([], { reader with tokens := rest })
      | .blockEntry :: rest => do
          let (item, reader) ←
            nodeUnless fuel Token.endsBlockItem .block { reader with tokens := rest }
          let (items, reader) ← blockItems fuel reader
          return (item :: items, reader)
      | _ => none

/-- The items of a block sequence that is not indented. -/
def indentlessItems (fuel : Nat) (reader : Reader) : Option (List Node × Reader) :=
  match fuel with
  | 0 => none
  | fuel + 1 =>
      match reader.tokens with
      | .blockEntry :: rest => do
          let (item, reader) ←
            nodeUnless fuel Token.endsIndentlessItem .block { reader with tokens := rest }
          let (items, reader) ← indentlessItems fuel reader
          return (item :: items, reader)
      | _ => some ([], reader)

/-- The keys and values of a block mapping in turn, to its end. -/
def blockEntries (fuel : Nat) (reader : Reader) : Option (List Node × Reader) :=
  match fuel with
  | 0 => none
  | fuel + 1 =>
      match reader.tokens with
      | .blockEnd :: rest => some ([], { reader with tokens := rest })
      | .key :: rest => do
          let (key, reader) ←
            nodeUnless fuel Token.endsBlockPart .entry { reader with tokens := rest }
          let (value, reader) ← valuePart fuel Token.endsBlockPart .entry reader
          let (entries, reader) ← blockEntries fuel reader
          return (key :: value :: entries, reader)
      | .value :: _ => do
          let (value, reader) ← valuePart fuel Token.endsBlockPart .entry reader
          let (entries, reader) ← blockEntries fuel reader
          return (.null :: value :: entries, reader)
      | _ => none

/-- The value of a mapping's entry: a null if there is no colon, or nothing
after it. -/
def valuePart (fuel : Nat) (missing : Token → Bool) (position : Position)
    (reader : Reader) : Option (Node × Reader) :=
  match fuel with
  | 0 => none
  | fuel + 1 =>
      match reader.tokens with
      | .value :: rest => nodeUnless fuel missing position { reader with tokens := rest }
      | _ => some (.null, reader)

/-- The items of a flow sequence, to its end. An item with a colon is a mapping
of one entry. -/
def flowItems (fuel : Nat) (first : Bool) (reader : Reader) :
    Option (List Node × Reader) :=
  match fuel with
  | 0 => none
  | fuel + 1 =>
      let item (reader : Reader) : Option (List Node × Reader) :=
        match reader.tokens with
        | .flowSequenceEnd :: rest => some ([], { reader with tokens := rest })
        | .key :: rest => do
            let (pair, reader) ← flowPair fuel { reader with tokens := rest }
            let (items, reader) ← flowItems fuel false reader
            return (pair :: items, reader)
        | _ => do
            let (item, reader) ← node fuel .flow reader
            let (items, reader) ← flowItems fuel false reader
            return (item :: items, reader)
      match first, reader.tokens with
      | true, _ => item reader
      | false, .flowSequenceEnd :: rest => some ([], { reader with tokens := rest })
      | false, .flowEntry :: rest => item { reader with tokens := rest }
      | false, _ => none

/-- A mapping of one entry in a flow sequence. The token that says that its key
is missing is passed over. -/
def flowPair (fuel : Nat) (reader : Reader) : Option (Node × Reader) :=
  match fuel with
  | 0 => none
  | fuel + 1 => do
      let (key, reader) ←
        if reader.next Token.endsPairKey then
          some (Node.null, { reader with tokens := reader.tokens.tail })
        else node fuel .flow reader
      let (value, reader) ← valuePart fuel Token.endsPairValue .flow reader
      return (.mapping (Node.entriesOf [key, value]), reader)

/-- The keys and values of a flow mapping in turn, to its end. -/
def flowEntries (fuel : Nat) (first : Bool) (reader : Reader) :
    Option (List Node × Reader) :=
  match fuel with
  | 0 => none
  | fuel + 1 =>
      let entry (reader : Reader) : Option (List Node × Reader) :=
        match reader.tokens with
        | .flowMappingEnd :: rest => some ([], { reader with tokens := rest })
        | .key :: rest => do
            let (key, reader) ←
              nodeUnless fuel Token.endsFlowKey .flow { reader with tokens := rest }
            let (value, reader) ← valuePart fuel Token.endsFlowValue .flow reader
            let (entries, reader) ← flowEntries fuel false reader
            return (key :: value :: entries, reader)
        | .value :: _ => do
            let (value, reader) ← valuePart fuel Token.endsFlowValue .flow reader
            let (entries, reader) ← flowEntries fuel false reader
            return (.null :: value :: entries, reader)
        | _ => do
            let (key, reader) ← node fuel .flow reader
            let (entries, reader) ← flowEntries fuel false reader
            return (key :: .null :: entries, reader)
      match first, reader.tokens with
      | true, _ => entry reader
      | false, .flowMappingEnd :: rest => some ([], { reader with tokens := rest })
      | false, .flowEntry :: rest => entry { reader with tokens := rest }
      | false, _ => none

end

/-- Enough for the nodes of some tokens. -/
def enough (tokens : List Token) : Nat := 4 * tokens.length + 8

/-- The node of a document that starts here; a null if the document is empty. -/
def documentNode (reader : Reader) : Option (Node × Reader) :=
  match reader.tokens with
  | [] | .directive :: _ | .documentStart :: _ | .documentEnd :: _ => some (.null, reader)
  | _ => node (enough reader.tokens) .block reader

end Reader

def Token.isDirective : Token → Bool
  | .directive => true
  | _ => false

def Token.isDocumentEnd : Token → Bool
  | .documentEnd => true
  | _ => false

/-- A document that its start is marked for, after its directives. -/
def markedDocument (tokens : List Token) : Option (Node × List Token) :=
  match tokens.dropWhile Token.isDirective with
  | .documentStart :: rest =>
      (Reader.documentNode ⟨rest, #[]⟩).map fun (node, reader) => (node, reader.tokens)
  | _ => none

/-- The documents of a stream. Only the first may begin without a mark. -/
def documentsFrom (fuel : Nat) (first : Bool) (tokens : List Token) : Option (List Node) :=
  match fuel with
  | 0 => none
  | fuel + 1 =>
      let proceed (document : Option (Node × List Token)) : Option (List Node) := do
        let (node, rest) ← document
        let rest :=
          match rest with
          | .documentEnd :: rest => rest
          | rest => rest
        let nodes ← documentsFrom fuel false rest
        return node :: nodes
      match (if first then tokens else tokens.dropWhile Token.isDocumentEnd) with
      | [] => some []
      | tokens@(.directive :: _) | tokens@(.documentStart :: _) => proceed (markedDocument tokens)
      | tokens =>
          if first then
            proceed ((Reader.node (Reader.enough tokens) .block ⟨tokens, #[]⟩).map
              fun (node, reader) => (node, reader.tokens))
          else none

def documents (text : String) : Option (List Node) :=
  (Token.scan text).bind fun tokens => documentsFrom (tokens.length + 1) true tokens

end UserThreads.Yaml
