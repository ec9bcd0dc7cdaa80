import ShaderGen.Outputs
import ShaderGen.Tiling

/-!
# The swizzler reads the tiled texels

`writeSwizzler` turns the destination pixel `(x, y)` into the coordinates of the
first of its `S` texels; `writeSampleColor` moves right by the counter.  Here the
two are put together: sample `i` of the pixel reads the texel at position
`(y · (W / S) + x) · S + i` of the block-tiled order (`swizzled_fetch`), and the
shader of every `writeSwizzler`-based case of the switch stores in slot `i` of
its pixel the sample `i` (`encoder_reads_tiled_texels`).

The tables the headers provide enter as three hypotheses: the format the encoder
hard-codes has `S = samplesPerPixel f` samples a pixel, blocks of positive
height, and `S ∣ blkW`; the GameCube's tables satisfy them for every such format
(`gxHeaders_tables`).
-/

namespace ShaderGen

variable {α : Type} [LinearOrderedField α] [FloorRing α] (inp : Inputs α) (h : Headers)

/-- Sample `i` of the destination pixel `(x, y)`, `W` wide, reads the texel at
position `(y · (W / S) + x) · S + i` of the tiled order. -/
theorem swizzled_fetch {format x y W i : ℕ} {r : Regs α} (hx : ⌊(r.get .uv0).x⌋ = x)
    (hy : ⌊(r.get .uv0).y⌋ = y) (hW : (inp.I_COLORS 1).x = W)
    (hh : 0 < h.TexDecoder_GetBlockHeightInTexels format)
    (hS : h.GetEncodedSampleCount format ∣ h.TexDecoder_GetBlockWidthInTexels format)
    (hWd : h.TexDecoder_GetBlockWidthInTexels format ∣ W)
    (hxl : x < W / h.GetEncodedSampleCount format) (hi : i < h.GetEncodedSampleCount format) :
    fetch inp (swizzled inp h format r) i =
      readTexel inp (untile (h.TexDecoder_GetBlockWidthInTexels format)
        (h.TexDecoder_GetBlockHeightInTexels format) W
        ((y * (W / h.GetEncodedSampleCount format) + x) * h.GetEncodedSampleCount format + i)) := by
  obtain ⟨hsx, hsy⟩ := swizzled_sampleUv inp h format hx hy hW
  rw [fetch_of_sampleUv inp hsx hsy, swizzler_untile hh hS hWd hxl hi, Nat.add_right_comm]

/-- **Every swizzler-based encoder stores the tiled texels, sample `i` in slot
`i`.**  For a format `f` whose `case` calls a `writeSwizzler`-based encoder, with
`blkW`, `blkH` and `S` the tables of the format the encoder hard-codes, the
destination pixel `(x, y)` (`x < W / S`) of a `W`-wide copy: the texel at
position `(y · (W / S) + x) · S + i` of the tiled order (`untile`, which
`tiledIndex` inverts) lies inside the width, and the pixel the shader writes is
the format's encoding of these texels, the `i`-th in slot `i`. -/
theorem encoder_reads_tiled_texels (f : Format) (hf : f ≠ .GX_TF_RGBA8 ∧ f ≠ .GX_TF_Z24X8)
    {x y W : ℕ} {r : Regs α} (hx : ⌊(r.get .uv0).x⌋ = x) (hy : ⌊(r.get .uv0).y⌋ = y)
    (hW : (inp.I_COLORS 1).x = W) :
    let F := h.code (swizzlerFormat f)
    let bw := h.TexDecoder_GetBlockWidthInTexels F
    let bh := h.TexDecoder_GetBlockHeightInTexels F
    let S := h.GetEncodedSampleCount F
    S = samplesPerPixel f → 0 < bh → S ∣ bw → bw ∣ W → x < W / S →
    (∀ i < S, (untile bw bh W ((y * (W / S) + x) * S + i)).1 < W ∧
      tiledIndex bw bh W (untile bw bh W ((y * (W / S) + x) * S + i)).1
        (untile bw bh W ((y * (W / S) + x) * S + i)).2 = (y * (W / S) + x) * S + i) ∧
    (runShader inp (encoderFor h f .init).out r).get .ocol0 =
      encodePixel false (fun i => readTexel inp (untile bw bh W ((y * (W / S) + x) * S + i))) f := by
  intro F bw bh S hSf hh hS hWd hxl
  have hW0 : 0 < W := Nat.pos_of_ne_zero fun h0 => by simp [h0] at hxl
  have hw : 0 < bw := Nat.pos_of_ne_zero fun h0 => by rw [h0, zero_dvd_iff] at hWd; omega
  refine ⟨fun i _ => ⟨untile_fst_lt hw hh hWd hW0 _, tiledIndex_untile hw hh _⟩, ?_⟩
  rw [encoderFor_ocol0 inp h r f hf]
  exact encodePixel_congr false f fun i hi =>
    swizzled_fetch inp h hx hy hW hh hS hWd hxl (lt_of_lt_of_eq hi hSf.symm)

/-- The destination pixel `(1, 5)`, in the second block row of a 16-wide `I8`
copy with the GameCube's tables, stores the four texels at tiled positions
`84, …, 87`, read through a sampler that varies over the source. -/
theorem i8_pixel_reads_tiled_texels :
    let inp : Inputs ℚ := ⟨setShaderParameters 16 8 0 0 1 1 16 8,
      fun u v => ⟨Int.fract u, Int.fract v, 1 / 2, 1⟩⟩
    let r : Regs ℚ := fun _ => ⟨3 / 2, 11 / 2, 0, 0⟩
    let F := gxHeaders.code (swizzlerFormat .GX_TF_I8)
    let bw := gxHeaders.TexDecoder_GetBlockWidthInTexels F
    let bh := gxHeaders.TexDecoder_GetBlockHeightInTexels F
    let S := gxHeaders.GetEncodedSampleCount F
    (∀ i < S, (untile bw bh 16 ((5 * (16 / S) + 1) * S + i)).1 < 16 ∧
      tiledIndex bw bh 16 (untile bw bh 16 ((5 * (16 / S) + 1) * S + i)).1
        (untile bw bh 16 ((5 * (16 / S) + 1) * S + i)).2 = (5 * (16 / S) + 1) * S + i) ∧
    (runShader inp (encoderFor gxHeaders .GX_TF_I8 .init).out r).get .ocol0 =
      encodePixel false
        (fun i => readTexel inp (untile bw bh 16 ((5 * (16 / S) + 1) * S + i))) .GX_TF_I8 :=
  encoder_reads_tiled_texels _ gxHeaders .GX_TF_I8 ⟨by decide, by decide⟩
    (by norm_num [Regs.get]) (by norm_num [Regs.get]) (by norm_num [setShaderParameters])
    (by decide) (by decide) (by decide) (by decide) (by decide)

/-- The GameCube's tables meet the hypotheses of `encoder_reads_tiled_texels` for
every format it covers, and the format each encoder hard-codes has the tables of
the format itself. -/
theorem gxHeaders_tables (f : Format) (hf : f ≠ .GX_TF_RGBA8 ∧ f ≠ .GX_TF_Z24X8) :
    let h := gxHeaders
    let F := h.code (swizzlerFormat f)
    h.GetEncodedSampleCount F = samplesPerPixel f ∧ 0 < h.TexDecoder_GetBlockHeightInTexels F ∧
      h.GetEncodedSampleCount F ∣ h.TexDecoder_GetBlockWidthInTexels F ∧
      h.TexDecoder_GetBlockWidthInTexels F = h.TexDecoder_GetBlockWidthInTexels (h.code f) ∧
      h.TexDecoder_GetBlockHeightInTexels F = h.TexDecoder_GetBlockHeightInTexels (h.code f) ∧
      h.GetEncodedSampleCount F = h.GetEncodedSampleCount (h.code f) := by
  revert hf
  cases f <;> decide

end ShaderGen
