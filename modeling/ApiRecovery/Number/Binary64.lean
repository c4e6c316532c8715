/-!
# Binary numbers of 53 digits

Scores are binary floating-point numbers. They are kept as exact rationals; `round` gives the
nearest one that has 53 binary digits, of two equally near ones the even one, and sums are rounded
after each addition. Numbers too large for the format do not occur.
-/

namespace ApiRecovery

/-- The whole number nearest to `n / d`, the even one of two. -/
def roundDiv (n d : Nat) : Nat :=
  let q := n / d
  if 2 * (n % d) < d then q
  else if 2 * (n % d) > d then q + 1
  else q + q % 2

namespace Binary64

/-- The power of two at the first binary digit of `n / d`. -/
def leading (n d : Nat) : Int :=
  let e : Int := (n.log2 : Int) - d.log2
  if n <<< (-e).toNat < d <<< e.toNat then e - 1 else e

/-- The power of two at the last binary digit that is kept. -/
def last (n d : Nat) : Int :=
  max (leading n d - 52) (-1074)

def roundNonneg (n d : Nat) : Rat :=
  let k := last n d
  let digits := roundDiv (n <<< (-k).toNat) (d <<< k.toNat)
  mkRat (digits <<< k.toNat) (1 <<< (-k).toNat)

def round (q : Rat) : Rat :=
  if q.num < 0 then -roundNonneg q.num.natAbs q.den else roundNonneg q.num.natAbs q.den

def add (a b : Rat) : Rat :=
  round (a + b)

def sum (xs : List Rat) : Rat :=
  xs.foldl add 0

def paddedDigits (width n : Nat) : String :=
  let digits := Nat.toDigits 10 n
  String.ofList (List.replicate (width - digits.length) '0' ++ digits)

def fixedFour (q : Rat) : String :=
  let scaled := roundDiv (q.num.natAbs * 10000) q.den
  (if q.num < 0 then "-" else "") ++ toString (scaled / 10000) ++ "." ++
    paddedDigits 4 (scaled % 10000)

end Binary64

end ApiRecovery
