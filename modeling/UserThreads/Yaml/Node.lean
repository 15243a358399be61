import UserThreads.Yaml.Number

/-!
Values of a YAML document.
-/

namespace UserThreads.Yaml

inductive Node
  | null
  | boolean (value : Bool)
  | integer (value : Int64)
  /-- A floating point number, as it is written. -/
  | real (text : String)
  | text (text : String)
  | sequence (items : List Node)
  /-- The entries in the order of the document; a later one replaces an earlier
  one of the same key. -/
  | mapping (entries : List (Node × Node))
  /-- A value that does not fit its tag, or that holds itself. -/
  | bad
  deriving Repr

namespace Node

instance : Inhabited Node := ⟨null⟩

/-- The value of a plain scalar without a tag. -/
def ofPlain (written : String) : Node :=
  let number? : Option Int64 :=
    match written.toList with
    | '0' :: 'x' :: digits => Number.int64? 16 digits
    | '0' :: 'o' :: digits => Number.int64? 8 digits
    | '+' :: digits => Number.int64? 10 digits
    | digits => Number.int64? 10 digits
  match number? with
  | some value => integer value
  | none =>
      match written with
      | "~" | "null" => null
      | "true" => boolean true
      | "false" => boolean false
      | _ => if Number.isFloat written then real written else text written

/-- The value of a plain scalar that has a tag of the core family. A text that
does not fit the tag has none. -/
def ofTagged (kind written : String) : Node :=
  match kind with
  | "bool" =>
      match written with
      | "true" => boolean true
      | "false" => boolean false
      | _ => bad
  | "int" =>
      match Number.int64? 10 written.toList with
      | some value => integer value
      | none => bad
  | "float" => if Number.isFloat written then real written else bad
  | "null" => if written = "~" ∨ written = "null" then null else bad
  | _ => text written

/-- The value of a scalar. A tag of another family makes it a text, and one that
is not plain is a text whatever its tag. -/
def ofScalar (plain : Bool) (tag : Option (String × String)) (written : String) : Node :=
  match plain, tag with
  | false, _ => text written
  | true, none => ofPlain written
  | true, some ("!!", kind) => ofTagged kind written
  | true, some _ => text written

/-- The entries of a mapping whose keys and values come in turn. A bad value is
no key: the next one is taken for the key in its place. -/
def entriesOf : List Node → List (Node × Node)
  | [] => []
  | bad :: rest => entriesOf rest
  | [_] => []
  | key :: value :: rest => (key, value) :: entriesOf rest

def isText (name : String) : Node → Bool
  | text written => written == name
  | _ => false

/-- The value that a mapping has under a text; bad if it has none, or if the node
is no mapping. -/
def get (node : Node) (name : String) : Node :=
  match node with
  | mapping entries =>
      match entries.findRev? fun entry => entry.1.isText name with
      | some entry => entry.2
      | none => bad
  | _ => bad

end Node

end UserThreads.Yaml
