import ApiRecovery.Text.Marks

/-!
# Writing direction

The direction that each character of a text is written in. Letters have a direction of their own,
digits have a weak one, marks take that of the character before them, and other characters take that
of their surroundings. The ranges may cover code points that no character is assigned to.
-/

namespace ApiRecovery.Text

inductive Direction
  | leftToRight
  | rightToLeft
  | digit
  | arabicDigit
  | mark
  | neutral
  deriving DecidableEq, Repr

def rightToLeftRanges : List (Nat × Nat) :=
  [(1470, 1470), (1472, 1472), (1475, 1475), (1478, 1478), (1488, 1524), (1544, 1544), (1547, 1547),
   (1549, 1549), (1563, 1610), (1645, 1647), (1649, 1749), (1765, 1766), (1774, 1775), (1786, 1808),
   (1810, 1839), (1869, 1957), (1969, 2026), (2036, 2037), (2042, 2042), (2046, 2069), (2074, 2074),
   (2084, 2084), (2088, 2088), (2096, 2136), (2142, 2191), (2208, 2249), (64434, 64450),
   (65139, 65139), (67584, 67867), (67872, 68096), (68112, 68149), (68160, 68324), (68331, 68405),
   (68416, 68899), (68928, 68943), (68975, 69007), (69248, 69289), (69293, 69319), (69376, 69445),
   (69457, 69505), (69510, 69622), (124928, 125135), (125218, 125251), (125259, 126269)]

/-- Digits that keep their place among Arabic letters, and the signs within such numbers. -/
def arabicDigitRanges : List (Nat × Nat) :=
  [(1632, 1641), (1643, 1644), (68912, 68921), (69216, 69246)]

def digitRanges : List (Nat × Nat) :=
  [(1776, 1785), (66273, 66299)]

def neutralRanges : List (Nat × Nat) :=
  [(161, 215), (247, 247), (697, 698), (706, 719), (722, 749), (751, 767), (885, 885), (1014, 1014),
   (1418, 1423), (1542, 1543), (1545, 1546), (1548, 1548), (1550, 1551), (1642, 1642), (1758, 1758),
   (1769, 1769), (2038, 2041), (2546, 2547), (2555, 2555), (2801, 2801), (3059, 3066), (3192, 3198),
   (3647, 3647), (3898, 3901), (5008, 5017), (5120, 5120), (5787, 5788), (6107, 6107), (6128, 6154),
   (6464, 6469), (6622, 6655), (6990, 6991), (7039, 7039), (8204, 8385), (8452, 8525), (8586, 9013),
   (9083, 9108), (9110, 9899), (9901, 10239), (10496, 11263), (11493, 11498), (11513, 11519),
   (11776, 12292), (12296, 12320), (12336, 12336), (12343, 12343), (12349, 12351), (12448, 12448),
   (12539, 12539), (12736, 12773), (19904, 19967), (42128, 42182), (42509, 42511), (42611, 42611),
   (42622, 42623), (42752, 42785), (42888, 42888), (43048, 43051), (43064, 43065), (43124, 43127),
   (43882, 43883), (64451, 65023), (65093, 65094), (65793, 65793), (65856, 65932), (65936, 65952),
   (67871, 67871), (68409, 68415), (68974, 68974), (69328, 69336), (69714, 69733), (71264, 71276),
   (73685, 73713), (94178, 94178), (117760, 118512), (119273, 119361), (119365, 119365),
   (119552, 119638), (123647, 123647), (126704, 127279), (127341, 127343), (127405, 127405),
   (127584, 130042)]

/-- Nonspacing marks that are written from left to right like letters. -/
def leftToRightMarks : List Nat :=
  [0xCBF, 0xCC6, 0x11A07, 0x11A08, 0x11C3F]

def direction (c : Char) : Direction :=
  let n := c.toNat
  if n < 128 then if c.isAlpha then .leftToRight else if c.isDigit then .digit else .neutral
  else if inRanges n rightToLeftRanges then .rightToLeft
  else if inRanges n arabicDigitRanges then .arabicDigit
  else if inRanges n digitRanges then .digit
  else if isNonspacing c && !leftToRightMarks.contains n then .mark
  else if inRanges n neutralRanges then .neutral
  else .leftToRight

end ApiRecovery.Text
