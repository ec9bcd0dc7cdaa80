import Mathlib

/-!
# The block-tiled texture order

GameCube textures are stored in blocks of `blkW × blkH` texels: the blocks of a
block row left to right, the block rows top to bottom, and the texels of a
block row by row.  `tiledIndex` is the position of a texel in that order and
`untile` the texel at a position; on a texture `W` texels wide, with `blkW ∣ W`,
they are inverse to each other.

`swizzler_untile` is the arithmetic the swizzlers emit, on natural numbers: the
`S` samples of destination pixel `(x, y)` are the texels at positions
`(y · (W / S) + x) · S + i` of the tiled order.
-/

namespace ShaderGen

/-- The position of texel `(sx, sy)` in the block-tiled order of a texture `W`
texels wide. -/
def tiledIndex (blkW blkH W sx sy : ℕ) : ℕ :=
  sy / blkH * (W * blkH) + sx / blkW * (blkW * blkH) + sy % blkH * blkW + sx % blkW

/-- The texel at position `m` of the block-tiled order: the block row, the block
in it, and the texel in the block. -/
def untile (blkW blkH W m : ℕ) : ℕ × ℕ :=
  let k := m % (W * blkH)
  let j := k % (blkW * blkH)
  (k / (blkW * blkH) * blkW + j % blkW, m / (W * blkH) * blkH + j / blkW)

/-- Division with remainder, read backwards. -/
theorem div_mod_of_lt {m q n r : ℕ} (h : r < n) (he : m = q * n + r) : m / n = q ∧ m % n = r :=
  (Nat.div_mod_unique (by omega)).2 ⟨by rw [he]; ring, h⟩

/-- A row offset and a column below `blkW` stay inside one block. -/
theorem row_col_lt {blkW blkH a b : ℕ} (ha : a < blkH) (hb : b < blkW) :
    a * blkW + b < blkW * blkH :=
  calc a * blkW + b < (a + 1) * blkW := by rw [Nat.succ_mul]; omega
    _ ≤ blkH * blkW := Nat.mul_le_mul_right _ ha
    _ = blkW * blkH := Nat.mul_comm _ _

variable {blkW blkH W : ℕ}

/-- On texels of a `W`-wide texture, `untile` undoes `tiledIndex`. -/
theorem untile_tiledIndex (hw : 0 < blkW) (hh : 0 < blkH) (hW : blkW ∣ W) {sx : ℕ} (sy : ℕ)
    (hsx : sx < W) : untile blkW blkH W (tiledIndex blkW blkH W sx sy) = (sx, sy) := by
  obtain ⟨c, rfl⟩ := hW
  have hB : sx / blkW < c := (Nat.div_lt_iff_lt_mul hw).2 (by rwa [Nat.mul_comm])
  have hj := row_col_lt (Nat.mod_lt sy hh) (Nat.mod_lt sx hw)
  -- the position inside the block row
  have hk : sx / blkW * (blkW * blkH) + (sy % blkH * blkW + sx % blkW) < blkW * c * blkH :=
    calc _ < (sx / blkW + 1) * (blkW * blkH) := by rw [Nat.succ_mul]; omega
      _ ≤ c * (blkW * blkH) := Nat.mul_le_mul_right _ hB
      _ = blkW * c * blkH := by ring
  obtain ⟨hq, hr⟩ := div_mod_of_lt hk
    (show tiledIndex blkW blkH (blkW * c) sx sy = sy / blkH * (blkW * c * blkH) + _ by
      unfold tiledIndex; ring)
  obtain ⟨hq', hr'⟩ := div_mod_of_lt hj (show _ = sx / blkW * (blkW * blkH) + _ from rfl)
  obtain ⟨hq'', hr''⟩ := div_mod_of_lt (Nat.mod_lt sx hw) (show _ = sy % blkH * blkW + _ from rfl)
  simp only [untile, hq, hr, hq', hr', hq'', hr'', Nat.div_add_mod']

/-- `untile` is a right inverse of `tiledIndex`: the texel it gives for a
position sits at that position. -/
theorem tiledIndex_untile (hw : 0 < blkW) (hh : 0 < blkH) (m : ℕ) :
    tiledIndex blkW blkH W (untile blkW blkH W m).1 (untile blkW blkH W m).2 = m := by
  have hj := Nat.mod_lt (m % (W * blkH)) (Nat.mul_pos hw hh)
  have hrow : m % (W * blkH) % (blkW * blkH) / blkW < blkH :=
    (Nat.div_lt_iff_lt_mul hw).2 (by rw [Nat.mul_comm blkH]; exact hj)
  obtain ⟨hq, hr⟩ := div_mod_of_lt hrow (rfl : m / (W * blkH) * blkH + _ = _)
  obtain ⟨hq', hr'⟩ := div_mod_of_lt (Nat.mod_lt (m % (W * blkH) % (blkW * blkH)) hw)
    (rfl : m % (W * blkH) / (blkW * blkH) * blkW + _ = _)
  simp only [tiledIndex, untile, hq, hr, hq', hr']
  simp only [Nat.add_assoc, Nat.div_add_mod']

/-- On a texture of positive width `W` with `blkW ∣ W`, every position's texel
lies inside the width. -/
theorem untile_fst_lt (hw : 0 < blkW) (hh : 0 < blkH) (hW : blkW ∣ W) (hpos : 0 < W) (m : ℕ) :
    (untile blkW blkH W m).1 < W := by
  obtain ⟨c, rfl⟩ := hW
  have hk : m % (blkW * c * blkH) / (blkW * blkH) < c := by
    rw [Nat.div_lt_iff_lt_mul (Nat.mul_pos hw hh)]
    calc _ < blkW * c * blkH := Nat.mod_lt _ (Nat.mul_pos hpos hh)
      _ = c * (blkW * blkH) := by ring
  calc (untile blkW blkH (blkW * c) m).1
      < m % (blkW * c * blkH) / (blkW * blkH) * blkW + blkW := by
        simp only [untile]; have := Nat.mod_lt (m % (blkW * c * blkH) % (blkW * blkH)) hw; omega
    _ = (m % (blkW * c * blkH) / (blkW * blkH) + 1) * blkW := by ring
    _ ≤ c * blkW := Nat.mul_le_mul_right _ hk
    _ = blkW * c := Nat.mul_comm _ _

/-- **The swizzler's texels.**  With `S ∣ blkW ∣ W`, the texel the swizzler
arithmetic computes for destination pixel `(x, y)` (`x < W / S`), moved `i < S`
texels to the right, is the texel at position `(y · (W / S) + x) · S + i` of the
tiled order. -/
theorem swizzler_untile {S x y i : ℕ} (hh : 0 < blkH) (hS : S ∣ blkW) (hW : blkW ∣ W)
    (hx : x < W / S) (hi : i < S) :
    let xp := x * S + y % blkH * W
    untile blkW blkH W ((y * (W / S) + x) * S + i) =
      (x * S % blkW + i + xp / blkW / blkH * blkW, y / blkH * blkH + xp / blkW % blkH) := by
  intro xp
  obtain ⟨a, rfl⟩ := hS
  obtain ⟨c, rfl⟩ := hW
  have hS0 : 0 < S := by omega
  have hWS : S * a * c / S = a * c := by rw [Nat.mul_assoc, Nat.mul_div_cancel_left _ hS0]
  rw [hWS] at hx ⊢
  have ha : 0 < a := Nat.pos_of_ne_zero (by rintro rfl; simp at hx)
  have hw : 0 < S * a := Nat.mul_pos hS0 ha
  -- the sample stays in the block column of the first one
  have hcol : x * S % (S * a) + i < S * a := by
    rw [Nat.mul_comm x S, Nat.mul_mod_mul_left]
    calc S * (x % a) + i < S * (x % a) + S := by omega
      _ = S * (x % a + 1) := by ring
      _ ≤ S * a := Nat.mul_le_mul_left _ (Nat.mod_lt x ha)
  -- `xp` and the sample's column agree modulo the block width
  have hxm : xp % (S * a) = x * S % (S * a) := by
    rw [show xp = x * S + S * a * (c * (y % blkH)) by simp only [xp]; ring, Nat.add_mul_mod_self_left]
  have hsx : x * S % (S * a) + i + xp / (S * a) / blkH * (S * a) < S * a * c := by
    have hrow : xp < blkH * (S * a * c) := by
      have : x * S < S * a * c :=
        calc x * S < a * c * S := Nat.mul_lt_mul_of_pos_right hx hS0
          _ = S * a * c := by ring
      calc xp < y % blkH * (S * a * c) + S * a * c := by simp only [xp]; omega
        _ = (y % blkH + 1) * (S * a * c) := by ring
        _ ≤ blkH * (S * a * c) := Nat.mul_le_mul_right _ (Nat.mod_lt y hh)
    have hblk : xp / (S * a) / blkH < c := by
      rw [Nat.div_div_eq_div_mul, Nat.div_lt_iff_lt_mul (Nat.mul_pos hw hh)]
      calc xp < blkH * (S * a * c) := hrow
        _ = c * (S * a * blkH) := by ring
    calc _ < S * a + xp / (S * a) / blkH * (S * a) := by omega
      _ = (xp / (S * a) / blkH + 1) * (S * a) := by ring
      _ ≤ c * (S * a) := Nat.mul_le_mul_right _ hblk
      _ = S * a * c := by ring
  rw [← untile_tiledIndex hw hh (Dvd.intro c rfl) _ hsx]
  congr 1
  -- the position of that texel
  obtain ⟨hq1, hr1⟩ := div_mod_of_lt (Nat.mod_lt (xp / (S * a)) hh)
    (show y / blkH * blkH + xp / (S * a) % blkH = y / blkH * blkH + _ from rfl)
  obtain ⟨hq2, hr2⟩ := div_mod_of_lt hcol (by ring :
    x * S % (S * a) + i + xp / (S * a) / blkH * (S * a) =
      xp / (S * a) / blkH * (S * a) + (x * S % (S * a) + i))
  simp only [tiledIndex, hq1, hr1, hq2, hr2]
  have hdm := Nat.div_add_mod' (xp / (S * a)) blkH
  have hym := Nat.div_add_mod' y blkH
  have hxpm := Nat.div_add_mod' xp (S * a)
  rw [hxm] at hxpm
  calc (y * (a * c) + x) * S + i
      = (y / blkH * blkH + y % blkH) * (S * a * c) + x * S + i := by rw [hym]; ring
    _ = y / blkH * blkH * (S * a * c) + xp + i := by simp only [xp]; ring
    _ = y / blkH * blkH * (S * a * c) +
          (xp / (S * a) / blkH * blkH + xp / (S * a) % blkH) * (S * a) + x * S % (S * a) + i := by
        rw [hdm]; omega
    _ = y / blkH * (S * a * c * blkH) + xp / (S * a) / blkH * (S * a * blkH) +
          xp / (S * a) % blkH * (S * a) + (x * S % (S * a) + i) := by ring

end ShaderGen
