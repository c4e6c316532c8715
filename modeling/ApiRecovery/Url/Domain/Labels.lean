import ApiRecovery.Text.CombiningClass
import ApiRecovery.Text.Direction
import ApiRecovery.Text.Joining

/-!
# Rules for labels

What the labels of a domain name may contain: no label begins with a mark, the two joiners stand
only where they change how a word is written, and where a label is written from right to left, every
label keeps to one direction.
-/

namespace ApiRecovery.Domain

open Text

def nonJoiner : Char := Char.ofNat 0x200C

def joiner : Char := Char.ofNat 0x200D

/-- Whether letters would join here; `before` is the text before, last character first. -/
def isInsideWord (before after : List Char) : Bool :=
  let meets (p : Char → Bool) (cs : List Char) : Bool :=
    ((cs.dropWhile isJoinTransparent).head?.map p).getD false
  meets joinsNext before && meets joinsPrevious after

/-- Whether the joiners of a label stand after a virama, or a nonjoiner between letters that join;
`before` is the text before, last character first. -/
def placesJoiners (before : List Char) : List Char → Bool
  | [] => true
  | c :: rest =>
    (if c == nonJoiner || c == joiner then
      (before.head?.map isVirama).getD false || (c == nonJoiner && isInsideWord before rest)
    else true) && placesJoiners (c :: before) rest

/-- Whether a label may stand in a domain name: it does not begin with a mark, and its joiners are
in their places. -/
def isLabel (label : List Char) : Bool :=
  !(label.head?.map isMark).getD false && placesJoiners [] label

/-- Whether a character makes a text one that is written in both directions. -/
def turns (c : Char) : Bool :=
  direction c == .rightToLeft || direction c == .arabicDigit

/-- Whether a label keeps to the direction that it begins with. Apart from marks it ends in a letter
or a digit of that direction, and it does not mix two kinds of digits. -/
def keepsDirection (label : List Char) : Bool :=
  match label.map direction with
  | [] => true
  | first :: rest =>
    let all := first :: rest
    let last := (all.reverse.dropWhile (· == .mark)).head?.getD first
    match first with
    | .leftToRight =>
      all.all [.leftToRight, .digit, .neutral, .mark].contains &&
        [.leftToRight, .digit].contains last
    | .rightToLeft =>
      !all.contains .leftToRight && [.rightToLeft, .digit, .arabicDigit].contains last &&
        !(all.contains .digit && all.contains .arabicDigit)
    | _ => false

end ApiRecovery.Domain
