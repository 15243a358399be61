/-!
White space, and texts without the white space around them.
-/

namespace UserThreads.Text

/-- The characters that have the property of white space. -/
def isSpace (c : Char) : Bool :=
  let number := c.toNat
  (0x9 ≤ number && number ≤ 0xd) || number == 0x20 || number == 0x85 || number == 0xa0 ||
    number == 0x1680 || (0x2000 ≤ number && number ≤ 0x200a) || number == 0x2028 ||
    number == 0x2029 || number == 0x202f || number == 0x205f || number == 0x3000

def trim (text : String) : String :=
  String.ofList ((text.toList.dropWhile isSpace).reverse.dropWhile isSpace).reverse

def hasSpace (text : String) : Bool := text.toList.any isSpace

end UserThreads.Text
