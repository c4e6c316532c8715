import ApiRecovery.Text.IdentifierChars

/-!
# Word characters

The characters that a pattern's word class stands for: letters, marks, decimal digits, connectors
and the two joiners. They are the characters that may continue an identifier, except for a few, and
some more.
-/

namespace ApiRecovery.Text

/-- Word characters that may not continue an identifier. -/
def wordOnlyRanges : List (Nat × Nat) :=
  [(890, 890), (1160, 1161), (6846, 6846), (8204, 8205), (8413, 8416), (8418, 8420), (9398, 9449),
   (11823, 11823), (42608, 42610), (64606, 64611), (65018, 65019), (65136, 65136), (65138, 65138),
   (65140, 65140), (65142, 65142), (65144, 65144), (65146, 65146), (65148, 65148), (65150, 65150),
   (127280, 127305), (127312, 127337), (127344, 127369)]

/-- Characters that may continue an identifier and are no word characters. -/
def notWordRanges : List (Nat × Nat) :=
  [(183, 183), (903, 903), (4969, 4977), (6618, 6618), (8472, 8472), (8494, 8494)]

/-- Whether a character belongs to the word class of patterns. -/
def isWordChar (c : Char) : Bool :=
  if c.toNat < 128 then c.isAlphanum || c == '_'
  else (isIdentifierContinue c && !inRanges c.toNat notWordRanges) ||
    inRanges c.toNat wordOnlyRanges

end ApiRecovery.Text
