import Mathlib

/-!
# Text formatting as `printf` and `iostream` do it

The generators build their text with `sprintf` and `std::ofstream`; these are the
conversions they use, on the values they print.

* `printfF` — `%f`: six decimals, the `C` numeric locale's `.` separator (the
  dispatcher installs that locale around every generation).
* `printf04i` — `%04i`.
* `printfDu32` — `%d` given an unsigned 32-bit value.
* `padLeft`, `hexDigits` — `std::setw`/`std::setfill` and `std::hex`.

`printfF` rounds half up at the sixth decimal where `printf` rounds the binary
value to nearest; every value the generators print (block sizes, sample counts
and `255 / 2 ^ k`) has at most five decimals, so no rounding happens.
-/

namespace ShaderGen

/-- `std::setw(w) << std::setfill(c)`: pad on the left to width `w`. -/
def padLeft (w : ℕ) (c : Char) (s : String) : String :=
  String.mk (List.replicate (w - s.length) c) ++ s

/-- `std::hex`: lower-case hexadecimal digits. -/
def hexDigits (n : ℕ) : String := String.mk (Nat.toDigits 16 n)

/-- `printf("%04i", n)`: at least four characters, zero-padded after the sign. -/
def printf04i (n : ℤ) : String :=
  if n < 0 then "-" ++ padLeft 3 '0' (toString n.natAbs) else padLeft 4 '0' (toString n)

/-- `printf("%d", n)` of an unsigned 32-bit `n`: `%d` reads the word as a signed
`int`, so values from `2^31` on print negative. -/
def printfDu32 (n : ℕ) : String := toString ((n : ℤ).bmod (2 ^ 32))

example : printfDu32 3000000000 = "-1294967296" := by decide

/-- `printf("%f", q)`: the value to six decimals. -/
def printfF (q : ℚ) : String :=
  let n := (2 * q.num.natAbs * 1000000 + q.den) / (2 * q.den)
  (if q.num < 0 then "-" else "") ++ toString (n / 1000000) ++ "." ++
    padLeft 6 '0' (toString (n % 1000000))

end ShaderGen
