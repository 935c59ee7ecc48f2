import ParenTokens.Number.Binary64

namespace ParenTokens

/-!
# Shortest decimals

The text of a binary number is the shortest decimal that reads back as it, the nearest one of those, and of two
equally near ones the one with the even last digit.

* `Shortest.readsBack`: whether a decimal lies among the reals that round to a binary number.
* `Shortest.select`: the decimal.
* `Binary64.display`: its layout.
-/

namespace Shortest

/-- Whether `d * 10 ^ p` is below (`.lt`), equal to or above `n * 2 ^ q`. -/
def compareScaled (d : Nat) (p : Int) (n : Nat) (q : Int) : Ordering :=
  compare (d * Nat.pow 10 p.toNat * Nat.pow 2 (-q).toNat) (n * Nat.pow 2 q.toNat * Nat.pow 10 (-p).toNat)

/-- Whether `d * 10 ^ p` lies between the midpoints to the neighbours of `m * 2 ^ q`; the midpoints belong to it if `m`
is even. Below a power of two the neighbour is half as far away. -/
def readsBack (m : Nat) (q : Int) (d : Nat) (p : Int) : Bool :=
  let narrow := m == Nat.pow 2 52 && Binary64.leastExponent < q
  let low := compareScaled d p (if narrow then 4 * m - 1 else 4 * m - 2) (q - 2)
  let high := compareScaled d p (4 * m + 2) (q - 2)
  let ends := m % 2 == 0
  (low == .gt || (ends && low == .eq)) && (high == .lt || (ends && high == .eq))

/-- The least `k` with `m * 2 ^ q < 10 ^ k`, for a positive `m`, from an estimate that is at most two too small. -/
def magnitude (m : Nat) (q : Int) : Int :=
  let guess : Int := ((m.log2 : Int) + q) * 30103 / 100000
  let above (k : Int) : Bool := compareScaled 1 k m q == .gt
  if above guess then guess else if above (guess + 1) then guess + 1 else guess + 2

/-- The better one of the two neighbours of `m * 2 ^ q` on the grid `10 ^ p`, if one of them reads back. -/
def onGrid (m : Nat) (q p : Int) : Option Nat :=
  let num := m * Nat.pow 2 q.toNat * Nat.pow 10 (-p).toNat
  let den := Nat.pow 2 (-q).toNat * Nat.pow 10 p.toNat
  let below := num / den
  let above := below + 1
  match readsBack m q below p, readsBack m q above p with
  | true, false => some below
  | false, true => some above
  | false, false => none
  | true, true =>
    match compare (2 * num) ((below + above) * den) with
    | .lt => some below
    | .gt => some above
    | .eq => some (if below % 2 = 0 then below else above)

/-- The first grid with a hit, for at most `left` further digits after `used` of them. -/
def selectFrom (m : Nat) (q k : Int) : (left used : Nat) → Nat × Int
  | 0, used => (m * Nat.pow 2 q.toNat * Nat.pow 10 (used - k).toNat / Nat.pow 2 (-q).toNat, k - used)
  | left + 1, used =>
    match onGrid m q (k - (used + 1)) with
    | some d => (d, k - (used + 1))
    | none => selectFrom m q k left (used + 1)

/-- Digits and exponent of the shortest decimal for `m * 2 ^ q`, for a positive `m`. -/
def select (m : Nat) (q : Int) : Nat × Int := selectFrom m q (magnitude m q) 17 0

end Shortest

/-- Decimal digits without the zeros at their end. -/
def Decimal.dropTrailingZeros (ds : List Nat) : List Nat := (ds.reverse.dropWhile (· == 0)).reverse

/-- The layout of digits `ds` whose point stands `point` digits after their start: positional for points from -3 to 16,
otherwise with an exponent of at least two digits. -/
def Decimal.layout (ds : List Nat) (point : Int) : Text :=
  let text (ds : List Nat) : Text := ds.map CodePoint.ofDigit
  if -4 < point && point ≤ 16 then
    if point ≤ 0 then ("0." : Text) ++ text (List.replicate (-point).toNat 0 ++ ds)
    else if ds.length ≤ point.toNat then
      text (ds ++ List.replicate (point.toNat - ds.length) 0) ++ (".0" : Text)
    else text (ds.take point.toNat) ++ ("." : Text) ++ text (ds.drop point.toNat)
  else
    let fraction := if ds.length ≤ 1 then [] else ("." : Text) ++ text (ds.drop 1)
    let exponent := (point - 1).natAbs
    let sign : Text := if point - 1 < 0 then "-" else "+"
    let padding : Text := if exponent < 10 then "0" else ""
    text (ds.take 1) ++ fraction ++ ("e" : Text) ++ sign ++ padding ++ Decimal.ofNat exponent

/-- The text of a number. -/
def Binary64.display : Binary64 → Text
  | nan => "nan"
  | infinite negative => if negative then "-inf" else "inf"
  | finite negative m q =>
    let sign : Text := if negative then "-" else ""
    if m = 0 then sign ++ ("0.0" : Text)
    else
      let (d, p) := Shortest.select m q
      let ds := Decimal.digits d
      sign ++ Decimal.layout (Decimal.dropTrailingZeros ds) (p + ds.length)

end ParenTokens
