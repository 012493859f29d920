/-!
# Decimals with a fixed number of places

A number is written with a fixed number of decimal places, rounded from its exact
binary value; a half goes to the even neighbour. `3.125` with two places is `3.12`.
-/

namespace BalineseChart.Text

/-- The quotient rounded to the nearest integer, a half to the even one. -/
def roundHalfEven (num den : Nat) : Nat :=
  let quotient := num / den
  let rest := 2 * (num % den)
  if rest < den then quotient
  else if den < rest then quotient + 1
  else quotient + quotient % 2

/-- The numerator and the denominator of the exact value of a finite number without
its sign. -/
def exactFraction (x : Float) : Nat × Nat :=
  let bits := x.toBits.toNat
  let exponent := bits / Nat.pow 2 52 % Nat.pow 2 11
  let fraction := bits % Nat.pow 2 52
  let mantissa := if exponent = 0 then fraction else fraction + Nat.pow 2 52
  let scale := max exponent 1
  (mantissa * Nat.pow 2 (scale - 1075), Nat.pow 2 (1075 - scale))

/-- The decimal digits of `n` with zeros before them up to the width. -/
def zeroPadded (width n : Nat) : String :=
  let digits := toString n
  String.ofList (List.replicate (width - digits.length) '0') ++ digits

/-- A finite number that is not negative, with the given number of places. -/
def fixed (places : Nat) (x : Float) : String :=
  let (num, den) := exactFraction x
  let scale := Nat.pow 10 places
  let units := roundHalfEven (num * scale) den
  toString (units / scale) ++ "." ++ zeroPadded places (units % scale)

end BalineseChart.Text
