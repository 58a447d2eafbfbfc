/-!
# Padded numbers

How a number is laid out in a field of a given width: a sign, a fill character and an alignment. Zero padding is aware of
the sign, fills between the sign and the digits, and takes precedence over a fill and an alignment given beside it.
-/

namespace ShieldedPool

/-- Where the text stands in a field wider than itself. -/
inductive Alignment
  | left
  | center
  | right
deriving DecidableEq, Repr

/-- The layout of a number. A number without an alignment stands to the right. -/
structure NumberFormat where
  fill : Char := ' '
  align : Alignment := .right
  plus : Bool := false
  zeroPad : Bool := false
  width : Nat := 0

namespace NumberFormat

/-- Fills a text up to a width; of an odd number of fill characters around the middle, the extra one goes to the right. -/
def pad (fill : Char) (align : Alignment) (width : Nat) (text : List Char) : List Char :=
  let missing := width - text.length
  let before := match align with
    | .left => 0
    | .center => missing / 2
    | .right => missing
  List.replicate before fill ++ text ++ List.replicate (missing - before) fill

/-- The text of a number that is not negative (`Display` of an integer). -/
def render (f : NumberFormat) (n : Nat) : String :=
  let sign := if f.plus then ['+'] else []
  let digits := (toString n).toList
  String.ofList <|
    if f.zeroPad then sign ++ pad '0' .right (f.width - sign.length) digits
    else pad f.fill f.align f.width (sign ++ digits)

end NumberFormat

end ShieldedPool
