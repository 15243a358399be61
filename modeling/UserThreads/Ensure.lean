import UserThreads.Text.Quoted
import UserThreads.Thread

/-!
Checks that two values are equal, or that they differ. A failed check shows
both values.
-/

namespace UserThreads.Ensure

inductive Operand
  | int (value : Int)
  | bool (value : Bool)
  | string (value : String)
  | ints (values : List Int)
  | optional (value : Option Int)
  | id (thread : ThreadId)
  | status (status : ThreadStatus)
  deriving DecidableEq, Repr

def Operand.describe : Operand → String
  | .int value => toString value
  | .bool value => toString value
  | .string value => Text.quoted value
  | .ints values => "[" ++ ", ".intercalate (values.map toString) ++ "]"
  | .optional none => "None"
  | .optional (some value) => "Some(" ++ toString value ++ ")"
  | .id thread => thread.describe
  | .status held => held.describe

def message (relation : String) (left right : Operand) : String :=
  "ensure failed: \x60(left " ++ relation ++ " right)\x60\n  left: \x60" ++ left.describe ++
    "\x60,\n right: \x60" ++ right.describe ++ "\x60"

/-- Checks that the operands are equal, or with `differ` that they differ; the
text of the check if it fails. -/
def check (differ : Bool) (left right : Operand) : Option String :=
  if differ then
    if left = right then some (message "!=" left right) else none
  else
    if left = right then none else some (message "==" left right)

end UserThreads.Ensure
