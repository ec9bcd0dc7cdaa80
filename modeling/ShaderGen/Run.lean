import ShaderGen.Encoders

/-!
# Running an encoder's shader

The shader an encoder writes runs once per destination pixel.  Its inputs are the
pixel's `uv0`, the two constants `setShaderParameters` loads into `I_COLORS` and
the sampler `samp0`.  This module gives what every run shares: the swizzler's
registers, the texel `writeSampleColor` fetches for each value of the counter,
and the arithmetic of the swizzler in closed form.

## Main definitions

* `setShaderParameters` — the eight floats, as the two `float4` constants.
* `swizzled`, `swizzled32` — the registers after the swizzler's lines.
* `fetch` — the texel the `n`-th `writeSampleColor` reads.
* `swizzlerTexel`, `swizzler32Texel` — the swizzlers' arithmetic on `⌊uv0⌋`.

## Main results

* `swizzled_closed`, `swizzled32_closed` — from any registers, each swizzler's
  registers as a function of `⌊uv0⌋` (`swizzlerTexel`, `swizzler32Texel`).
* `swizzled_sampleUv` — `writeSwizzler`'s `sampleUv` for a destination pixel:
  the texel `(x·S mod blkW + ⌊xp / blkW / blkH⌋·blkW, ⌊y / blkH⌋·blkH +
  ⌊xp / blkW⌋ mod blkH)` with `xp = x·S + (y mod blkH)·W`, scaled by the
  constants; the floors are exact, so the coordinates are whole texels.
-/

namespace ShaderGen

/-- A fresh generation: nothing written and both statics at their initial values. -/
def GenState.init : GenState := ⟨[], false, 0⟩

section Swizzlers

variable (h : Headers) (format : ℕ) (st : GenState)

@[simp] theorem writeSwizzler_ops :
    (writeSwizzler h format st).out.map Line.op =
      st.out.map Line.op ++ (swizzlerLines h format).map Line.op := by
  simp only [writeSwizzler, List.map_append]

@[simp] theorem writeSwizzler_IntensityConstantAdded :
    (writeSwizzler h format st).IntensityConstantAdded = st.IntensityConstantAdded := rfl

@[simp] theorem writeSwizzler_s_incrementSampleXCount :
    (writeSwizzler h format st).s_incrementSampleXCount = st.s_incrementSampleXCount := rfl

@[simp] theorem write32BitSwizzler_ops :
    (write32BitSwizzler h format st).out.map Line.op =
      st.out.map Line.op ++ (swizzler32Lines h format).map Line.op := by
  simp only [write32BitSwizzler, List.map_append]

@[simp] theorem write32BitSwizzler_IntensityConstantAdded :
    (write32BitSwizzler h format st).IntensityConstantAdded = st.IntensityConstantAdded := rfl

@[simp] theorem write32BitSwizzler_s_incrementSampleXCount :
    (write32BitSwizzler h format st).s_incrementSampleXCount = st.s_incrementSampleXCount := rfl

end Swizzlers

variable {α : Type} [LinearOrderedField α] [FloorRing α]

/-- `SetShaderParameters(width, height, offsetX, offsetY, widthStride,
heightStride, buffW, buffH)`: the eight floats `cbuff[0..7]`, which the shader
reads as `I_COLORS[0]` and `I_COLORS[1]`. -/
def setShaderParameters (width height offsetX offsetY widthStride heightStride buffW buffH : α) :
    Fin 2 → V4 α
  | 0 => ⟨widthStride, heightStride, buffW, buffH⟩
  | 1 => ⟨width, height - 1, offsetX, offsetY⟩

variable (inp : Inputs α) (h : Headers) (format : ℕ)

/-- The registers after `writeSwizzler`'s lines, run from `r`. -/
def swizzled (r : Regs α) : Regs α :=
  (execOps inp ((swizzlerLines h format).map Line.op) ⟨r, []⟩).regs

/-- The registers after `write32BitSwizzler`'s lines, run from `r`. -/
def swizzled32 (r : Regs α) : Regs α :=
  (execOps inp ((swizzler32Lines h format).map Line.op) ⟨r, []⟩).regs

/-- The swizzler is straight-line code: it ends outside any `if`. -/
@[simp] theorem swizzlerLines_exec (r : Regs α) :
    execOps inp ((swizzlerLines h format).map Line.op) ⟨r, []⟩ = ⟨swizzled inp h format r, []⟩ :=
  execOps_of_straight inp _ (by rfl) r

@[simp] theorem swizzler32Lines_exec (r : Regs α) :
    execOps inp ((swizzler32Lines h format).map Line.op) ⟨r, []⟩ =
      ⟨swizzled32 inp h format r, []⟩ :=
  execOps_of_straight inp _ (by rfl) r

/-- The texel `writeSampleColor` reads from the registers `r` when the counter is
`n`: `tex2D(samp0, sampleUv + float2(n * (I_COLORS[0].x / I_COLORS[0].z), 0))`. -/
def fetch (r : Regs α) (n : ℕ) : V4 α :=
  inp.samp0 ((r.get .sampleUv).x + n * ((inp.I_COLORS 0).x / (inp.I_COLORS 0).z))
    (r.get .sampleUv).y

/-- The texel `p = (sx, sy)` of the source as the shaders address it: `samp0`
at `((sx · I[0].x + I[1].z) / I[0].z, (sy · I[0].y + I[1].w + 1) / I[0].w)`. -/
def readTexel (p : ℕ × ℕ) : V4 α :=
  inp.samp0 (((p.1 : α) * (inp.I_COLORS 0).x + (inp.I_COLORS 1).z) / (inp.I_COLORS 0).z)
    (((p.2 : α) * (inp.I_COLORS 0).y + (inp.I_COLORS 1).w + 1) / (inp.I_COLORS 0).w)

/-- A sample read is a `fetch`. -/
@[simp] theorem Expr.eval_sample (r : Regs α) (n : ℕ) (c : Comp) :
    (Expr.sample c (sampleCoords n).1 (sampleCoords n).2).eval inp r = (fetch inp r n).get c := by
  simp [Expr.eval, sampleCoords, fetch]

omit [FloorRing α] in
/-- Only `sampleUv` moves the texels read. -/
@[simp] theorem fetch_put_of_ne (r : Regs α) {v : Var} (a : V4 α) (hv : v ≠ .sampleUv) (n : ℕ) :
    fetch inp (r.put v a) n = fetch inp r n := by
  simp only [fetch, Regs.get_put_of_ne r a hv.symm]

/-! ## Exact floors

The swizzlers divide whole numbers by whole numbers and take the floor: in exact
arithmetic that is integer division. -/

theorem floor_intCast_div_natCast (z : ℤ) (n : ℕ) : ⌊(z : α) / n⌋ = z / n := by
  have h : ⌊(((z : ℚ) / n : ℚ) : α)⌋ = ⌊(z : ℚ) / n⌋ := Rat.floor_cast _
  rw [Rat.floor_intCast_div_natCast] at h
  rw [← h]; push_cast; rfl

theorem floor_natCast_div_natCast (m n : ℕ) : ⌊(m : α) / n⌋ = ((m / n : ℕ) : ℤ) := by
  have h : ⌊((m : ℤ) : α) / n⌋ = (m : ℤ) / n := floor_intCast_div_natCast _ _
  push_cast at h ⊢
  exact h

omit [FloorRing α] in
theorem natCast_sub_div_mul (m n : ℕ) : (m : α) - ((m / n * n : ℕ) : α) = ((m % n : ℕ) : α) := by
  rw [sub_eq_iff_eq_add, ← Nat.cast_add, Nat.mod_add_div']

/-! The same with a literal, as in `floor(xp / 2.0f)` or `gInt / 8.0f`. -/

omit [FloorRing α] in
@[simp] theorem natCast_mul_ofNat (m n : ℕ) [n.AtLeastTwo] :
    (m : α) * (no_index (OfNat.ofNat n : α)) = ((m * n : ℕ) : α) := by
  rw [Nat.cast_mul]; rfl

@[simp] theorem floor_natCast_div_ofNat (m n : ℕ) [n.AtLeastTwo] :
    ⌊(m : α) / (no_index (OfNat.ofNat n : α))⌋ = ((m / n : ℕ) : ℤ) :=
  floor_natCast_div_natCast m n

@[simp] theorem floor_intCast_div_ofNat (z : ℤ) (n : ℕ) [n.AtLeastTwo] :
    ⌊(z : α) / (no_index (OfNat.ofNat n : α))⌋ = z / (OfNat.ofNat n : ℤ) :=
  floor_intCast_div_natCast z n

omit [FloorRing α] in
@[simp] theorem natCast_sub_div_mul_ofNat (m n : ℕ) [n.AtLeastTwo] :
    (m : α) - ((m / n : ℕ) : α) * (no_index (OfNat.ofNat n : α)) = ((m % n : ℕ) : α) := by
  rw [← natCast_sub_div_mul, Nat.cast_mul]; rfl

omit [FloorRing α] in
@[simp] theorem intCast_sub_div_mul_ofNat (z : ℤ) (n : ℕ) [n.AtLeastTwo] :
    (z : α) - ((z / (no_index (OfNat.ofNat n : ℤ)) : ℤ) : α) * (no_index (OfNat.ofNat n : α)) =
      ((z % (OfNat.ofNat n : ℤ) : ℤ) : α) := by
  rw [Int.emod_def]; push_cast; ring

/-! ## The swizzlers' arithmetic

Each swizzler's registers depend on the pixel only through `(X, Y) = ⌊uv0⌋`:
`swizzlerTexel` and `swizzler32Texel` are its lines in exact arithmetic, and
`swizzled_closed`, `swizzled32_closed` say that a run leaves their values in the
registers.  For a pixel in the destination the floors are integer divisions
(`swizzlerTexel_natCast`, `swizzler32Texel_natCast`). -/

/-- `writeSwizzler`'s lines for the pixel `(X, Y) = ⌊uv0⌋`, with `W` the value of
`I_COLORS[1].x`: the texel `(xib + xb·blkW, yb + xoff)` before scaling. -/
def swizzlerTexel (blkW blkH samples W : α) (X Y : ℤ) : α × α :=
  let uv1x : α := X * samples
  let xl : α := ⌊uv1x / blkW⌋
  let xib := uv1x - xl * blkW
  let yb : α := ⌊(Y : α) / blkH⌋ * blkH
  let xp := uv1x + (Y - yb) * W
  let xel : α := ⌊xp / blkW⌋
  let xb : α := ⌊xel / blkH⌋
  let xoff := xel - xb * blkH
  (xib + xb * blkW, yb + xoff)

/-- `write32BitSwizzler`'s `xb = ⌊⌊xp / 2⌋ / blkH⌋` for the pixel `(X, Y) = ⌊uv0⌋`. -/
def swizzler32Block (blkH W : α) (X Y : ℤ) : α :=
  let yb : α := ⌊(Y : α) / blkH⌋ * blkH
  let xel : α := ⌊(X + (Y - yb) * W) / 2⌋
  ⌊xel / blkH⌋

/-- `write32BitSwizzler`'s lines for the pixel `(X, Y) = ⌊uv0⌋`: the texel
`(xib + halfxb·blkW, yb + xoff)` before scaling. -/
def swizzler32Texel (blkW blkH W : α) (X Y : ℤ) : α × α :=
  let yb : α := ⌊(Y : α) / blkH⌋ * blkH
  let xel : α := ⌊(X + (Y - yb) * W) / 2⌋
  let xb := swizzler32Block blkH W X Y
  let xoff := xel - xb * blkH
  let x2 : α := X * 2
  let xl : α := ⌊x2 / blkW⌋
  let xib := x2 - xl * blkW
  let halfxb : α := ⌊xb / 2⌋
  (xib + halfxb * blkW, yb + xoff)

/-- The scaling all swizzlers end with: `(t · I[0].xy + I[1].zw + (0, 1)) / I[0].zw`. -/
def scaledUv (t : α × α) : α × α :=
  ((t.1 * (inp.I_COLORS 0).x + (inp.I_COLORS 1).z) / (inp.I_COLORS 0).z,
    (t.2 * (inp.I_COLORS 0).y + (inp.I_COLORS 1).w + 1) / (inp.I_COLORS 0).w)

section Closed

variable (r : Regs α)

/-- **`writeSwizzler` in closed form**: from any registers, `sampleUv` is the
scaled `swizzlerTexel` of `⌊uv0⌋`. -/
theorem swizzled_closed :
    (((swizzled inp h format r).get .sampleUv).x, ((swizzled inp h format r).get .sampleUv).y) =
      scaledUv inp (swizzlerTexel (h.TexDecoder_GetBlockWidthInTexels format : α)
        (h.TexDecoder_GetBlockHeightInTexels format) (h.GetEncodedSampleCount format)
        (inp.I_COLORS 1).x ⌊(r.get .uv0).x⌋ ⌊(r.get .uv0).y⌋) := by
  simp only [swizzled, swizzlerLines, List.map, execOps_cons, execOps_nil, Op.exec_none,
    Op.exec_assign_top, assignAll, List.foldl, Op.setAll, Op.set, Expr.eval_ref, Expr.eval_lit,
    Expr.eval_uniform, Expr.eval_add, Expr.eval_sub, Expr.eval_mul, Expr.eval_div, Expr.eval_floor,
    Regs.write, Regs.read, Regs.get_put_self, ne_eq, reduceCtorEq, not_false_eq_true,
    Regs.get_put_of_ne, V4.get, V4.set, Rat.cast_natCast, Rat.cast_zero, Rat.cast_one, add_zero,
    swizzlerTexel, scaledUv]

/-- **`write32BitSwizzler` in closed form**: from any registers, `xb` is
`swizzler32Block`, `halfxb` its half, and `sampleUv` the scaled `swizzler32Texel`
of `⌊uv0⌋`. -/
theorem swizzled32_closed :
    let bw : α := h.TexDecoder_GetBlockWidthInTexels format
    let bh : α := h.TexDecoder_GetBlockHeightInTexels format
    let R := swizzled32 inp h format r
    let X := ⌊(r.get .uv0).x⌋
    let Y := ⌊(r.get .uv0).y⌋
    (R.get .xb).x = swizzler32Block bh (inp.I_COLORS 1).x X Y ∧
      (R.get .halfxb).x = ⌊swizzler32Block bh (inp.I_COLORS 1).x X Y / 2⌋ ∧
      ((R.get .sampleUv).x, (R.get .sampleUv).y) =
        scaledUv inp (swizzler32Texel bw bh (inp.I_COLORS 1).x X Y) := by
  simp only [swizzled32, swizzler32Lines, List.map, execOps_cons, execOps_nil, Op.exec_none,
    Op.exec_assign_top, assignAll, List.foldl, Op.setAll, Op.set, Expr.eval_ref, Expr.eval_lit,
    Expr.eval_uniform, Expr.eval_add, Expr.eval_sub, Expr.eval_mul, Expr.eval_div, Expr.eval_floor,
    Regs.write, Regs.read, Regs.get_put_self, ne_eq, reduceCtorEq, not_false_eq_true,
    Regs.get_put_of_ne, V4.get, V4.set, Rat.cast_natCast, Rat.cast_zero, Rat.cast_one,
    Rat.cast_ofNat, add_zero, swizzler32Texel, swizzler32Block, scaledUv, and_self]

end Closed

/-! ### Whole pixels -/

section Pixel

variable {x y W : ℕ} (bw bh S : ℕ)

/-- For the pixel `(x, y)` of a `W`-wide destination the floors of
`writeSwizzler` are integer divisions: the texel `(x·S mod blkW +
⌊xp / blkW / blkH⌋·blkW, ⌊y / blkH⌋·blkH + ⌊xp / blkW⌋ mod blkH)`,
`xp = x·S + (y mod blkH)·W`. -/
theorem swizzlerTexel_natCast :
    let xp := x * S + y % bh * W
    swizzlerTexel (bw : α) bh S W x y =
      (((x * S % bw + xp / bw / bh * bw : ℕ) : α), ((y / bh * bh + xp / bw % bh : ℕ) : α)) := by
  simp only [swizzlerTexel, Int.cast_natCast, ← Nat.cast_mul, floor_natCast_div_natCast,
    natCast_sub_div_mul, ← Nat.cast_add]

/-- For the pixel `(x, y)` of a `W`-wide destination `write32BitSwizzler`'s block
is `⌊xp / 2 / blkH⌋`, `xp = x + (y mod blkH)·W`. -/
theorem swizzler32Block_natCast :
    swizzler32Block (bh : α) W x y = (((x + y % bh * W) / 2 / bh : ℕ) : α) := by
  simp only [swizzler32Block, Int.cast_natCast, ← Nat.cast_mul, floor_natCast_div_natCast,
    natCast_sub_div_mul, ← Nat.cast_add, floor_natCast_div_ofNat]

/-- For the pixel `(x, y)` of a `W`-wide destination the floors of
`write32BitSwizzler` are integer divisions: the texel `(2x mod blkW +
⌊xp / 2 / blkH / 2⌋·blkW, ⌊y / blkH⌋·blkH + ⌊xp / 2⌋ mod blkH)`,
`xp = x + (y mod blkH)·W`. -/
theorem swizzler32Texel_natCast :
    let xp := x + y % bh * W
    swizzler32Texel (bw : α) bh W x y =
      (((x * 2 % bw + xp / 2 / bh / 2 * bw : ℕ) : α), ((y / bh * bh + xp / 2 % bh : ℕ) : α)) := by
  simp only [swizzler32Texel, swizzler32Block_natCast, Int.cast_natCast, ← Nat.cast_mul,
    floor_natCast_div_natCast, natCast_sub_div_mul, ← Nat.cast_add, floor_natCast_div_ofNat,
    natCast_mul_ofNat, natCast_sub_div_mul_ofNat]

end Pixel

section Whole

variable {x y W : ℕ} {r : Regs α} (hx : ⌊(r.get .uv0).x⌋ = x) (hy : ⌊(r.get .uv0).y⌋ = y)
  (hW : (inp.I_COLORS 1).x = W)
include hx hy hW

/-- `writeSwizzler`'s `sampleUv` for the destination pixel `(x, y)`, `W` wide:
the whole texel of `swizzlerTexel_natCast`, scaled by the constants. -/
theorem swizzled_sampleUv :
    let bw := h.TexDecoder_GetBlockWidthInTexels format
    let bh := h.TexDecoder_GetBlockHeightInTexels format
    let S := h.GetEncodedSampleCount format
    let xp := x * S + y % bh * W
    ((swizzled inp h format r).get .sampleUv).x =
        (((x * S % bw + xp / bw / bh * bw : ℕ) : α) * (inp.I_COLORS 0).x + (inp.I_COLORS 1).z) /
          (inp.I_COLORS 0).z ∧
    ((swizzled inp h format r).get .sampleUv).y =
        (((y / bh * bh + xp / bw % bh : ℕ) : α) * (inp.I_COLORS 0).y + (inp.I_COLORS 1).w + 1) /
          (inp.I_COLORS 0).w := by
  have hc := swizzled_closed inp h format r
  rw [hx, hy, hW, swizzlerTexel_natCast] at hc
  exact Prod.mk.inj hc

/-- `write32BitSwizzler`'s registers for the destination pixel `(x, y)`, `W`
wide: with `xp = x + (y mod blkH)·W`, `xb = ⌊xp / 2 / blkH⌋` and `halfxb =
⌊xb / 2⌋`, and `sampleUv` the whole texel of `swizzler32Texel_natCast` scaled by
the constants. -/
theorem swizzled32_regs :
    let bw := h.TexDecoder_GetBlockWidthInTexels format
    let bh := h.TexDecoder_GetBlockHeightInTexels format
    let xp := x + y % bh * W
    let R := swizzled32 inp h format r
    (R.get .xb).x = ((xp / 2 / bh : ℕ) : α) ∧ (R.get .halfxb).x = ((xp / 2 / bh / 2 : ℕ) : α) ∧
    (R.get .sampleUv).x =
        (((x * 2 % bw + xp / 2 / bh / 2 * bw : ℕ) : α) * (inp.I_COLORS 0).x + (inp.I_COLORS 1).z) /
          (inp.I_COLORS 0).z ∧
    (R.get .sampleUv).y =
        (((y / bh * bh + xp / 2 % bh : ℕ) : α) * (inp.I_COLORS 0).y + (inp.I_COLORS 1).w + 1) /
          (inp.I_COLORS 0).w := by
  obtain ⟨hxb, hhalf, huv⟩ := swizzled32_closed inp h format r
  rw [hx, hy, hW] at hxb hhalf huv
  rw [swizzler32Block_natCast] at hxb hhalf
  rw [floor_natCast_div_ofNat, Int.cast_natCast] at hhalf
  rw [swizzler32Texel_natCast] at huv
  exact ⟨hxb, hhalf, Prod.mk.inj huv⟩

end Whole

omit [FloorRing α] in
/-- The `n`-th sample right of a whole texel: `writeSampleColor`'s offset
`n · I[0].x / I[0].z` moves the swizzler's coordinates of the texel `(sx, sy)` on
to the texel `(sx + n, sy)`. -/
theorem fetch_of_sampleUv {R : Regs α} {sx sy : ℕ}
    (hsx : (R.get .sampleUv).x =
      ((sx : α) * (inp.I_COLORS 0).x + (inp.I_COLORS 1).z) / (inp.I_COLORS 0).z)
    (hsy : (R.get .sampleUv).y =
      ((sy : α) * (inp.I_COLORS 0).y + (inp.I_COLORS 1).w + 1) / (inp.I_COLORS 0).w) (n : ℕ) :
    fetch inp R n = readTexel inp (sx + n, sy) := by
  rw [fetch, readTexel, hsx, hsy]
  congr 1
  push_cast
  ring

end ShaderGen
