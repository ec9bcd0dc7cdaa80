import ShaderGen.Outputs
import ShaderGen.Tiling

/-!
# The 32-bit formats: two cache lines a block

`RGBA8` and `Z24X8` store each 4×4 block of texels as 64 bytes: a 32-byte line
holding alpha and red of the sixteen texels, then a 32-byte line holding green
and blue (`rgba8Byte`).  `write32BitSwizzler` lets destination pixel `(x, y)`
take two texels from one of the lines, which `cl1 = xb - 2·halfxb` selects.

## Main results

* `writeRGBA8Encoder_ocol0`, `writeZ24Encoder_ocol0` — the pixel each 32-bit
  encoder writes once the selector is `0` or `1`.
* `rgba8Byte_pixel` — the arithmetic of the layout: channel `k` (`b, g, r, a`) of
  the pixel the encoders write is byte `4·(y·W + x) + k` of the stream.
* `two_cache_lines_exact` — with 4×4 blocks and `4 ∣ W`: `xb = ⌊t / 8⌋`,
  `halfxb = ⌊t / 16⌋` for `t = (y mod 4)·W + x`, the selector is `0` or `1`, the
  shader stores the two texels of the selected line, and every byte of the
  destination is the byte of the GameCube layout.
-/

namespace ShaderGen

variable {α : Type} [LinearOrderedField α] [FloorRing α] (inp : Inputs α) (h : Headers)
  (r : Regs α)

/-! ## The encoders -/

/-- `writeRGBA8Encoder` writes `cl0 · color0 + cl1 · color1`: the alpha-red pixel
when the selector is `0`, the green-blue pixel when it is `1`. -/
theorem writeRGBA8Encoder_ocol0 (line : Bool)
    (hc : ((swizzled32 inp h (h.code .GX_TF_RGBA8) r).get .xb).x -
      ((swizzled32 inp h (h.code .GX_TF_RGBA8) r).get .halfxb).x * 2 = if line then 1 else 0) :
    (runShader inp (writeRGBA8Encoder h .init).out r).get .ocol0 =
      encodePixel line (fetch inp (swizzled32 inp h (h.code .GX_TF_RGBA8) r)) .GX_TF_RGBA8 := by
  cases line <;> simp [writeRGBA8Encoder, GenState.init, runShader, encodePixel, slots2, hc]

/-- `writeZ24Encoder` takes the branch `cl > 0.5` exactly when the selector is `1`. -/
theorem writeZ24Encoder_ocol0 (line : Bool)
    (hc : ((swizzled32 inp h (h.code .GX_TF_Z24X8) r).get .xb).x -
      ((swizzled32 inp h (h.code .GX_TF_Z24X8) r).get .halfxb).x * 2 = if line then 1 else 0) :
    (runShader inp (writeZ24Encoder h .init).out r).get .ocol0 =
      encodePixel line (fetch inp (swizzled32 inp h (h.code .GX_TF_Z24X8) r)) .GX_TF_Z24X8 := by
  cases line <;> simp [writeZ24Encoder, GenState.init, runShader, encodePixel, slots2, depthDigits,
    hc, Cond.holds, List.range_succ, (by norm_num : ¬ (2 : α) < 0), (by norm_num : (2 : α)⁻¹ < 1)]

/-! ## The layout -/

/-- Byte `n` of a texture `W` texels wide stored as `RGBA8`: 64-byte blocks of
4×4 texels, the blocks of a block row left to right and the block rows top to
bottom; in a block, an `AR` line of 32 bytes and then a `GB` line, each with two
bytes per texel and the texels row by row. -/
def rgba8Byte (tex : ℕ × ℕ → V4 α) (W n : ℕ) : α :=
  let blk := n / 64
  let o := n % 64
  let j := o % 32 / 2
  let v := tex (blk % (W / 4) * 4 + j % 4, blk / (W / 4) * 4 + j / 4)
  if o < 32 then (if o % 2 = 0 then v.w else v.x) else (if o % 2 = 0 then v.y else v.z)

/-- The channel a pixel stores `k`-th: `b, g, r, a`. -/
def bgra : ℕ → Comp
  | 0 => .b
  | 1 => .g
  | 2 => .r
  | _ => .a

/-- A depth as the texel `Z24X8` stores: alpha `1` (the `X8` byte) and the top,
middle and low bytes of the depth as red, green and blue. -/
def z24Texel (d : α) : V4 α :=
  ⟨(depthDigits d).1 / 255, (depthDigits d).2.1 / 255, (depthDigits d).2.2 / 255, 1⟩

/-- The texel format `f` stores for a sampled texel. -/
def storedTexel (f : Format) (v : V4 α) : V4 α :=
  if f = .GX_TF_Z24X8 then z24Texel v.z else v

/-- The bytes of a 24-bit depth level `k / (2^24 - 1)`: the emitted chain of
floors and subtractions extracts the base-256 digits of `k`. -/
theorem depthDigits_level (k : ℕ) :
    depthDigits ((k : α) / 16777215) =
      (((k / 65536 : ℕ) : ℤ), ((k / 256 % 256 : ℕ) : ℤ), ((k % 256 : ℕ) : α)) := by
  have hD : (k : α) / 16777215 * 16777215 = k := div_mul_cancel₀ _ (by norm_num)
  have h65536 : ∀ z : α, z * 256 * 256 = z * (65536 : ℕ) := fun z => by push_cast; ring
  have htop : ⌊(k : α) / (256 * 256)⌋ = ((k / 65536 : ℕ) : ℤ) := by
    rw [show (256 * 256 : α) = (65536 : ℕ) by norm_num, floor_natCast_div_natCast]
  have hrest : (k : α) - ((k / 65536 : ℕ) : α) * 256 * 256 = ((k % 65536 : ℕ) : α) := by
    rw [h65536, ← Nat.cast_mul, natCast_sub_div_mul]
  have hmid : ⌊((k % 65536 : ℕ) : α) / 256⌋ = ((k / 256 % 256 : ℕ) : ℤ) := by
    rw [floor_natCast_div_ofNat, show 65536 = 256 * 256 from rfl, Nat.mod_mul_right_div_self]
  have hlow : ((k % 65536 : ℕ) : α) - ((k / 256 % 256 : ℕ) : α) * 256 = ((k % 256 : ℕ) : α) := by
    rw [← Nat.mod_mul_right_div_self, natCast_sub_div_mul_ofNat, Nat.mod_mod_of_dvd _ (by norm_num)]
  simp only [depthDigits, hD, htop, Int.cast_natCast, hrest, hmid]
  rw [hlow]

theorem encodePixel_Z24X8 (line : Bool) (t : ℕ → V4 α) :
    encodePixel line t .GX_TF_Z24X8 = encodePixel line (fun k => z24Texel (t k).z) .GX_TF_RGBA8 := by
  cases line <;> rfl

/-- Where byte `4·(y·W + x) + k` of the stream lies, for `W = 4c`: its block is
`⌊t / 16⌋` of block row `⌊y / 4⌋`, and its place in the block is `4·(t mod 16) + k`,
with `t = (y mod 4)·W + x`. -/
theorem rgba8_address {W c x y k : ℕ} (hc : W = 4 * c) (hx : x < W) (hk : k < 4) :
    let t := y % 4 * W + x
    (4 * (y * W + x) + k) / 64 % c = t / 16 ∧ (4 * (y * W + x) + k) / 64 / c = y / 4 ∧
      (4 * (y * W + x) + k) % 64 = 4 * (t % 16) + k ∧ t % 2 = x % 2 := by
  intro t
  have ht : t = 4 * (y % 4 * c) + x := by simp only [t, hc]; ring
  have hrow : y % 4 * c ≤ 3 * c := Nat.mul_le_mul_right c (by omega)
  have hn : 4 * (y * W + x) + k = 64 * (y / 4 * c) + (4 * t + k) := by
    rw [ht, hc]; conv_lhs => rw [← Nat.div_add_mod y 4]
    ring
  have hblk : (4 * (y * W + x) + k) / 64 = y / 4 * c + t / 16 := by omega
  obtain ⟨hq, hr⟩ := div_mod_of_lt (show t / 16 < c by omega) hblk
  exact ⟨hr, hq, by omega, by omega⟩

omit [LinearOrderedField α] [FloorRing α] in
/-- Byte `4·(y·W + x) + k` of the stream, for `k < 4`: byte `k mod 2` of texel
`(4⌊t/16⌋ + 2(x mod 2) + ⌊k/2⌋, 4⌊y/4⌋ + ⌊t/2⌋ mod 4)` in the line `⌊t/8⌋ mod 2`. -/
theorem rgba8Byte_address (tex : ℕ × ℕ → V4 α) {W x y k : ℕ} (hW : 4 ∣ W) (hx : x < W)
    (hk : k < 4) :
    let t := y % 4 * W + x
    let v := tex (4 * (t / 16) + 2 * (x % 2) + k / 2, 4 * (y / 4) + t / 2 % 4)
    rgba8Byte tex W (4 * (y * W + x) + k) =
      if t / 8 % 2 = 0 then (if k % 2 = 0 then v.w else v.x) else (if k % 2 = 0 then v.y else v.z) := by
  intro t v
  obtain ⟨c, hc⟩ := hW
  obtain ⟨hq, hr, hm, hx2⟩ := rgba8_address (y := y) hc hx hk
  have hWc : W / 4 = c := by omega
  have hcol : (4 * (t % 16) + k) % 32 / 2 % 4 = 2 * (x % 2) + k / 2 := by omega
  have hrow : (4 * (t % 16) + k) % 32 / 2 / 4 = t / 2 % 4 := by omega
  have hline : 4 * (t % 16) + k < 32 ↔ t / 8 % 2 = 0 := by omega
  have hbyte : (4 * (t % 16) + k) % 2 = k % 2 := by omega
  simp only [rgba8Byte, hWc, hq, hr, hm, hcol, hrow, hline, hbyte, Nat.mul_comm _ 4, v, t,
    Nat.add_assoc]

/-- **The layout of a 32-bit pixel.**  The pixel the encoders write for `(x, y)`
— the texels `(4⌊t/16⌋ + 2(x mod 2) + i, 4⌊y/4⌋ + ⌊t/2⌋ mod 4)` of the line
`⌊t/8⌋ mod 2` — holds in channel `k` byte `4·(y·W + x) + k` of the stream. -/
theorem rgba8Byte_pixel (tex : ℕ × ℕ → V4 α) {W x y k : ℕ} (hW : 4 ∣ W) (hx : x < W)
    (hk : k < 4) :
    let t := y % 4 * W + x
    (encodePixel (t / 8 % 2 = 1)
        (fun i => tex (4 * (t / 16) + 2 * (x % 2) + i, 4 * (y / 4) + t / 2 % 4)) .GX_TF_RGBA8).get
        (bgra k) = rgba8Byte tex W (4 * (y * W + x) + k) := by
  intro t
  rw [rgba8Byte_address tex hW hx hk]
  rcases Nat.mod_two_eq_zero_or_one (t / 8) with hl | hl <;>
  interval_cases k <;> simp [encodePixel, slots2, bgra, hl, t]

/-! ## The two cache lines -/

/-- `write32BitSwizzler` with 4×4 blocks, for `t = (y mod 4)·W + x`: `xb = ⌊t/8⌋`,
`halfxb = ⌊t/16⌋`, the selector is `⌊t/8⌋ mod 2`, and sample `i` reads the texel
`(4⌊t/16⌋ + 2(x mod 2) + i, 4⌊y/4⌋ + ⌊t/2⌋ mod 4)`. -/
theorem swizzled32_texels {format x y W t : ℕ} {r : Regs α} (hx : ⌊(r.get .uv0).x⌋ = x)
    (hy : ⌊(r.get .uv0).y⌋ = y) (hW : (inp.I_COLORS 1).x = W)
    (hbw : h.TexDecoder_GetBlockWidthInTexels format = 4)
    (hbh : h.TexDecoder_GetBlockHeightInTexels format = 4) (ht : y % 4 * W + x = t) :
    ((swizzled32 inp h format r).get .xb).x = ((t / 8 : ℕ) : α) ∧
      ((swizzled32 inp h format r).get .halfxb).x = ((t / 16 : ℕ) : α) ∧
      ((swizzled32 inp h format r).get .xb).x - ((swizzled32 inp h format r).get .halfxb).x * 2 =
        ((t / 8 % 2 : ℕ) : α) ∧
      fetch inp (swizzled32 inp h format r) =
        fun i => readTexel inp (4 * (t / 16) + 2 * (x % 2) + i, 4 * (y / 4) + t / 2 % 4) := by
  obtain ⟨hxb, hhalf, hsx, hsy⟩ := swizzled32_regs inp h format hx hy hW
  simp only [hbw, hbh] at hxb hhalf hsx hsy
  have e8 : (x + y % 4 * W) / 2 / 4 = t / 8 := by omega
  have e16 : (x + y % 4 * W) / 2 / 4 / 2 = t / 8 / 2 := by omega
  have e16' : t / 8 / 2 = t / 16 := by omega
  refine ⟨by rw [hxb, e8], by rw [hhalf, e16, e16'], ?_, funext fun i => ?_⟩
  · rw [hxb, hhalf, e8, natCast_sub_div_mul_ofNat]
  · have hp : (x * 2 % 4 + (x + y % 4 * W) / 2 / 4 / 2 * 4 + i, y / 4 * 4 + (x + y % 4 * W) / 2 % 4) =
        (4 * (t / 16) + 2 * (x % 2) + i, 4 * (y / 4) + t / 2 % 4) := by
      rw [Prod.mk.injEq]; omega
    rw [fetch_of_sampleUv inp hsx hsy i, hp]

/-- **The two-cache-line translation is exact.**  For `RGBA8` and `Z24X8`, whose
tables give 4×4 blocks, a copy `W` wide with `4 ∣ W` and the destination pixel
`(x, y)`, with `t = (y mod 4)·W + x`: the swizzler computes `xb = ⌊t/8⌋` and
`halfxb = ⌊t/16⌋`, the selector `cl1 = xb - 2·halfxb` is `0` or `1`, the shader
stores the two texels `(4⌊t/16⌋ + 2(x mod 2) + i, 4⌊y/4⌋ + ⌊t/2⌋ mod 4)` of the
line `cl1` selects (alpha and red, or green and blue; for `Z24X8`, `1` and the top
byte, or the middle and low bytes), every byte of a pixel inside the width is the
byte of the GameCube layout at its place in the destination, and a depth level
`k / (2^24 - 1)` is stored as the base-256 digits of `k`. -/
theorem two_cache_lines_exact (f : Format) (hf : f = .GX_TF_RGBA8 ∨ f = .GX_TF_Z24X8)
    {x y W : ℕ} {r : Regs α} (hx : ⌊(r.get .uv0).x⌋ = x) (hy : ⌊(r.get .uv0).y⌋ = y)
    (hW : (inp.I_COLORS 1).x = W) (hbw : h.TexDecoder_GetBlockWidthInTexels (h.code f) = 4)
    (hbh : h.TexDecoder_GetBlockHeightInTexels (h.code f) = 4) (h4 : 4 ∣ W) :
    let R := swizzled32 inp h (h.code f) r
    let t := y % 4 * W + x
    let cl1 := (R.get .xb).x - (R.get .halfxb).x * 2
    let ocol0 := (runShader inp (encoderFor h f .init).out r).get .ocol0
    (R.get .xb).x = ((t / 8 : ℕ) : α) ∧ (R.get .halfxb).x = ((t / 16 : ℕ) : α) ∧
    (cl1 = 0 ∨ cl1 = 1) ∧
    ocol0 = encodePixel (t / 8 % 2 = 1)
      (fun i => readTexel inp (4 * (t / 16) + 2 * (x % 2) + i, 4 * (y / 4) + t / 2 % 4)) f ∧
    (x < W → ∀ k < 4, ocol0.get (bgra k) =
      rgba8Byte (fun p => storedTexel f (readTexel inp p)) W (4 * (y * W + x) + k)) ∧
    ∀ k : ℕ, z24Texel ((k : α) / 16777215) =
      ⟨((k / 65536 : ℕ) : α) / 255, ((k / 256 % 256 : ℕ) : α) / 255, ((k % 256 : ℕ) : α) / 255, 1⟩ := by
  intro R t cl1 ocol0
  obtain ⟨hxb, hhalf, hcl, hfetch⟩ := swizzled32_texels inp h hx hy hW hbw hbh rfl
  -- the selector is the line the pixel takes
  have hline : cl1 = if decide (t / 8 % 2 = 1) then 1 else 0 := by
    show (R.get .xb).x - (R.get .halfxb).x * 2 = _
    rw [hcl]; rcases Nat.mod_two_eq_zero_or_one (t / 8) with h0 | h1 <;> simp [*]
  have hpix : ocol0 = encodePixel (t / 8 % 2 = 1)
      (fun i => readTexel inp (4 * (t / 16) + 2 * (x % 2) + i, 4 * (y / 4) + t / 2 % 4)) f := by
    rw [← hfetch]
    rcases hf with rfl | rfl
    · exact writeRGBA8Encoder_ocol0 inp h r _ hline
    · exact writeZ24Encoder_ocol0 inp h r _ hline
  refine ⟨hxb, hhalf, ?_, hpix, fun hxW k hk => ?_, fun k => ?_⟩
  · rw [hline]; split <;> simp
  · rw [hpix, ← rgba8Byte_pixel _ h4 hxW hk]
    rcases hf with rfl | rfl
    · rfl
    · rw [encodePixel_Z24X8]; rfl
  · simp only [z24Texel, depthDigits_level, Int.cast_natCast]

/-- The destination pixel `(9, 5)` of a 16-wide `RGBA8` copy with the GameCube's
tables, in the second block row: `t = 25`, so it takes the `GB` line, through a
sampler that varies over the source. -/
theorem rgba8_pixel_two_cache_lines :
    let inp : Inputs ℚ := ⟨setShaderParameters 16 8 0 0 1 1 16 8,
      fun u v => ⟨Int.fract u, Int.fract v, 1 / 2, 1⟩⟩
    let r : Regs ℚ := fun _ => ⟨19 / 2, 11 / 2, 0, 0⟩
    let R := swizzled32 inp gxHeaders (gxHeaders.code .GX_TF_RGBA8) r
    let t := 5 % 4 * 16 + 9
    let cl1 := (R.get .xb).x - (R.get .halfxb).x * 2
    let ocol0 := (runShader inp (encoderFor gxHeaders .GX_TF_RGBA8 .init).out r).get .ocol0
    (R.get .xb).x = ((t / 8 : ℕ) : ℚ) ∧ (R.get .halfxb).x = ((t / 16 : ℕ) : ℚ) ∧
    (cl1 = 0 ∨ cl1 = 1) ∧
    ocol0 = encodePixel (t / 8 % 2 = 1)
      (fun i => readTexel inp (4 * (t / 16) + 2 * (9 % 2) + i, 4 * (5 / 4) + t / 2 % 4))
        .GX_TF_RGBA8 ∧
    (9 < 16 → ∀ k < 4, ocol0.get (bgra k) =
      rgba8Byte (fun p => storedTexel .GX_TF_RGBA8 (readTexel inp p)) 16 (4 * (5 * 16 + 9) + k)) ∧
    ∀ k : ℕ, z24Texel ((k : ℚ) / 16777215) =
      ⟨((k / 65536 : ℕ) : ℚ) / 255, ((k / 256 % 256 : ℕ) : ℚ) / 255, ((k % 256 : ℕ) : ℚ) / 255, 1⟩ :=
  two_cache_lines_exact _ gxHeaders .GX_TF_RGBA8 (Or.inl rfl) (by norm_num [Regs.get])
    (by norm_num [Regs.get]) (by norm_num [setShaderParameters]) (by decide) (by decide) (by decide)

end ShaderGen
