/-!
# White space

The characters that count as white space around numbers and between words, and those that end a
line.
-/

namespace MemberDispatch.Text

/-- Whether the character is white space. -/
def isBlank (character : Char) : Bool :=
  let point := character.toNat
  (0x9 ≤ point && point ≤ 0xd) || (0x1c ≤ point && point ≤ 0x20) || point == 0x85 ||
    point == 0xa0 || point == 0x1680 || (0x2000 ≤ point && point ≤ 0x200a) ||
    point == 0x2028 || point == 0x2029 || point == 0x202f || point == 0x205f || point == 0x3000

def isLineEnd (character : Char) : Bool :=
  let point := character.toNat
  (0xa ≤ point && point ≤ 0xd) || (0x1c ≤ point && point ≤ 0x1e) || point == 0x85 ||
    point == 0x2028 || point == 0x2029

/-- The characters without the leading ones that satisfy the test. -/
def trimStart (test : Char → Bool) (characters : List Char) : List Char :=
  characters.dropWhile test

/-- The characters without the trailing ones that satisfy the test. -/
def trimEnd (test : Char → Bool) (characters : List Char) : List Char :=
  (characters.reverse.dropWhile test).reverse

/-- The text without the white space around it. -/
def trim (text : String) : String :=
  String.ofList (trimEnd isBlank (trimStart isBlank text.toList))

end MemberDispatch.Text
