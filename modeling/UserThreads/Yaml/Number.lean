/-!
Numbers as texts: integers of 64 bits, and the syntax of floating point numbers.
-/

namespace UserThreads.Yaml.Number

/-- The value of a digit; letters of either case are the digits from ten on. -/
def digit? (radix : Nat) (c : Char) : Option Nat :=
  let value? :=
    if c.isDigit then some (c.toNat - '0'.toNat)
    else if c.isLower then some (c.toNat - 'a'.toNat + 10)
    else if c.isUpper then some (c.toNat - 'A'.toNat + 10)
    else none
  value?.filter fun value => value < radix

/-- The number that some digits, at least one, write. -/
def natural? (radix : Nat) (digits : List Char) : Option Nat :=
  if digits.isEmpty then none
  else digits.foldlM (fun number c => (digit? radix c).map (number * radix + ·)) 0

/-- The integer that a text writes, with a sign or without. -/
def integer? (radix : Nat) (text : List Char) : Option Int :=
  match text with
  | '-' :: digits => (natural? radix digits).map fun number => -(number : Int)
  | '+' :: digits => (natural? radix digits).map Int.ofNat
  | digits => (natural? radix digits).map Int.ofNat

/-- The integer that a text writes, if 64 bits hold it. -/
def int64? (radix : Nat) (text : List Char) : Option Int64 :=
  (integer? radix text).bind fun value =>
    if Int64.minValue.toInt ≤ value ∧ value ≤ Int64.maxValue.toInt then some (.ofInt value)
    else none

/-- The characters after a sign, if there is one. -/
def unsigned (text : List Char) : List Char :=
  match text with
  | '+' :: rest | '-' :: rest => rest
  | rest => rest

/-- Whether the text is empty or an exponent. -/
def isExponent (text : List Char) : Bool :=
  match text with
  | [] => true
  | 'e' :: rest | 'E' :: rest =>
      !(unsigned rest).isEmpty && (unsigned rest).all Char.isDigit
  | _ => false

/-- Whether the text is a decimal fraction: digits on at least one side of the
point, and possibly an exponent. -/
def isDecimal (text : List Char) : Bool :=
  let whole := text.takeWhile Char.isDigit
  match text.dropWhile Char.isDigit with
  | '.' :: rest =>
      (!whole.isEmpty || !(rest.takeWhile Char.isDigit).isEmpty) &&
        isExponent (rest.dropWhile Char.isDigit)
  | rest => !whole.isEmpty && isExponent rest

def isFloat (text : String) : Bool :=
  let bare := unsigned text.toList
  [".inf", ".Inf", ".INF", "+.inf", "+.Inf", "+.INF", "-.inf", "-.Inf", "-.INF", ".nan",
    ".NAN"].contains text ||
    ["inf", "infinity", "nan"].contains (String.ofList (bare.map Char.toLower)) ||
    isDecimal bare

end UserThreads.Yaml.Number
