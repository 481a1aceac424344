import Mathlib

/-! Rounding of numbers: to the nearest integer, ties to the even one, and to the nearest number with a
    binary fraction of 53 digits, as floating point has them. -/

namespace Rounding

def halfEven (q : ℚ) : ℤ :=
  let low := ⌊q⌋
  if q - low < 1 / 2 then low
  else if 1 / 2 < q - low then low + 1
  else if low % 2 = 0 then low else low + 1

/-- The nearest floating-point number, in the range where none is too large or too small. -/
def binary64 (q : ℚ) : ℚ :=
  if q = 0 then 0
  else
    let unit : ℚ := (2 : ℚ) ^ (Int.log 2 |q| - 52)
    unit * halfEven (q / unit)

/-- `round(x, 2)`, as the decimal number that the result shows -/
def roundTwo (x : ℚ) : ℚ := halfEven (x * 100) / 100

example : roundTwo (binary64 (100 / 4000)) = 3 / 100 := by decide +kernel

end Rounding
