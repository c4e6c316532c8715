/-!
# White space

Blank characters are those with the Unicode property `White_Space`. Trimming and removal of blanks
are stated on lists of characters; the `String` versions only convert.
-/

namespace ApiRecovery.Text

/-- Whether a character has the property `White_Space`. -/
def isBlank (c : Char) : Bool :=
  let n := c.toNat
  (9 ≤ n && n ≤ 13) || n == 0x20 || n == 0x85 || n == 0xA0 || n == 0x1680 ||
    (0x2000 ≤ n && n ≤ 0x200A) || n == 0x2028 || n == 0x2029 || n == 0x202F || n == 0x205F ||
    n == 0x3000

def trimStartChars (cs : List Char) : List Char :=
  cs.dropWhile isBlank

def trimChars (cs : List Char) : List Char :=
  (trimStartChars (trimStartChars cs).reverse).reverse

def trim (s : String) : String :=
  String.ofList (trimChars s.toList)

def trimStart (s : String) : String :=
  String.ofList (trimStartChars s.toList)

def removeBlanks (s : String) : String :=
  String.ofList (s.toList.filter fun c => !isBlank c)

end ApiRecovery.Text
