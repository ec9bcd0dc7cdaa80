import ShaderGen.CacheLines

/-!
# No uninitialised local reaches the pixel

A generated shader declares its locals (`uv1`, `xl`, …, `expanded1`, `ocol0`)
without initialising them; HLSL leaves such a value undefined.  The pixel the
shader writes must therefore depend on its inputs only: the pixel's coordinates
`uv0.xy`, the constants `I_COLORS` and the sampler.  In the model a run starts
from arbitrary registers `r`, so the statement is relational: two runs from
register files whose `uv0` lies in the same pixel store the same `ocol0`
(`encoder_pixel_depends_only_on_pixel`); `uv0` itself only enters through
`floor(uv0)`, so the runs may even start from different points of the same
pixel.  The statement fails for an encoder that reads a local before assigning
it, or leaves a component of `ocol0` unassigned.

## Main results

* `fetch_swizzled_congr`, `swizzled32_congr` — the swizzlers' coordinates depend
  on `⌊uv0.xy⌋` only, read off the closed forms `swizzled_closed` and
  `swizzled32_closed`.
* `swizzled32_line` — the cache-line selector `xb - 2·halfxb` is always `0` or `1`.
* `encoder_pixel_depends_only_on_pixel` — for every `case` of the switch.
-/

namespace ShaderGen

variable {α : Type} [LinearOrderedField α] [FloorRing α] (inp : Inputs α) (h : Headers)
  (format : ℕ)

/-! ## The swizzlers read `⌊uv0.xy⌋` only -/

omit [FloorRing α] in
/-- `writeSampleColor` reads `sampleUv.xy` only. -/
theorem fetch_congr_sampleUv {R R' : Regs α}
    (huv : ((R.get .sampleUv).x, (R.get .sampleUv).y) = ((R'.get .sampleUv).x, (R'.get .sampleUv).y)) :
    fetch inp R = fetch inp R' := by
  obtain ⟨hx, hy⟩ := Prod.mk.inj huv
  funext n
  rw [fetch, fetch, hx, hy]

section Congr

variable {r r' : Regs α} (hx : ⌊(r.get .uv0).x⌋ = ⌊(r'.get .uv0).x⌋)
  (hy : ⌊(r.get .uv0).y⌋ = ⌊(r'.get .uv0).y⌋)
include hx hy

theorem fetch_swizzled_congr :
    fetch inp (swizzled inp h format r) = fetch inp (swizzled inp h format r') :=
  fetch_congr_sampleUv inp <| by rw [swizzled_closed, swizzled_closed, hx, hy]

theorem swizzled32_congr :
    let R := swizzled32 inp h format r
    let R' := swizzled32 inp h format r'
    (R.get .xb).x = (R'.get .xb).x ∧ (R.get .halfxb).x = (R'.get .halfxb).x ∧
      fetch inp R = fetch inp R' := by
  obtain ⟨hxb, hhalf, huv⟩ := swizzled32_closed inp h format r
  obtain ⟨hxb', hhalf', huv'⟩ := swizzled32_closed inp h format r'
  rw [hx, hy] at hxb hhalf huv
  exact ⟨hxb.trans hxb'.symm, hhalf.trans hhalf'.symm, fetch_congr_sampleUv inp (huv.trans huv'.symm)⟩

end Congr

omit [FloorRing α] in
theorem exists_line_of_emod_two (z : ℤ) :
    ∃ line : Bool, ((z % 2 : ℤ) : α) = if line then 1 else 0 := by
  rcases Int.emod_two_eq_zero_or_one z with hz | hz
  · exact ⟨false, by simp [hz]⟩
  · exact ⟨true, by simp [hz]⟩

/-- `write32BitSwizzler`'s selector `xb - 2·halfxb` is `xb mod 2`, a cache line,
from any registers. -/
theorem swizzled32_line (r : Regs α) : ∃ line : Bool,
    ((swizzled32 inp h format r).get .xb).x - ((swizzled32 inp h format r).get .halfxb).x * 2 =
      if line then 1 else 0 := by
  obtain ⟨hxb, hhalf, -⟩ := swizzled32_closed inp h format r
  rw [hxb, hhalf]
  simp only [swizzler32Block, floor_intCast_div_ofNat, intCast_sub_div_mul_ofNat]
  exact exists_line_of_emod_two _

/-! ## Every `case` -/

/-- **Only the inputs reach the pixel.**  For every format of the switch, every
header table and all inputs, the shader its `case` writes from reset statics,
run from two register files whose `uv0` lies in the same pixel (`⌊uv0.x⌋` and
`⌊uv0.y⌋` agree), stores the same `ocol0`: every encoder assigns all four
components of `ocol0` from values that never depend on a local read before it is
assigned, nor on where inside the pixel `uv0` falls. -/
theorem encoder_pixel_depends_only_on_pixel (f : Format) {r r' : Regs α}
    (hx : ⌊(r.get .uv0).x⌋ = ⌊(r'.get .uv0).x⌋) (hy : ⌊(r.get .uv0).y⌋ = ⌊(r'.get .uv0).y⌋) :
    (runShader inp (encoderFor h f .init).out r).get .ocol0 =
      (runShader inp (encoderFor h f .init).out r').get .ocol0 := by
  by_cases h32 : f ≠ .GX_TF_RGBA8 ∧ f ≠ .GX_TF_Z24X8
  · rw [encoderFor_ocol0 inp h r f h32, encoderFor_ocol0 inp h r' f h32,
      fetch_swizzled_congr inp h _ hx hy]
  -- the two 32-bit formats: the same cache line and the same texels on both runs
  obtain ⟨hxb, hhalf, hfetch⟩ := swizzled32_congr inp h (h.code f) hx hy
  obtain ⟨line, hc⟩ := swizzled32_line inp h (h.code f) r
  have hc' := hc
  rw [hxb, hhalf] at hc'
  rcases not_and_or.1 h32 with hf | hf <;> obtain rfl := not_not.1 hf
  · show (runShader inp (writeRGBA8Encoder h .init).out r).get .ocol0 =
      (runShader inp (writeRGBA8Encoder h .init).out r').get .ocol0
    rw [writeRGBA8Encoder_ocol0 inp h r line hc, writeRGBA8Encoder_ocol0 inp h r' line hc', hfetch]
  · show (runShader inp (writeZ24Encoder h .init).out r).get .ocol0 =
      (runShader inp (writeZ24Encoder h .init).out r').get .ocol0
    rw [writeZ24Encoder_ocol0 inp h r line hc, writeZ24Encoder_ocol0 inp h r' line hc', hfetch]

/-- Two runs of the `I8` shader, one from zeroed registers and one whose `ocol0`
starts at `1` and whose `uv0` is the centre of the same pixel, store the same
pixel. -/
theorem i8_pixel_ignores_initial_ocol0 :
    let inp : Inputs ℚ := ⟨setShaderParameters 8 4 0 0 1 1 8 4, fun _ _ => ⟨0, 0, 0, 0⟩⟩
    let r : Regs ℚ := fun _ => ⟨0, 0, 0, 0⟩
    let r' := (r.put .ocol0 ⟨1, 1, 1, 1⟩).put .uv0 ⟨1 / 2, 1 / 2, 0, 0⟩
    (runShader inp (encoderFor gxHeaders .GX_TF_I8 .init).out r).get .ocol0 =
      (runShader inp (encoderFor gxHeaders .GX_TF_I8 .init).out r').get .ocol0 :=
  encoder_pixel_depends_only_on_pixel _ gxHeaders .GX_TF_I8 (by norm_num [Regs.get, Regs.put])
    (by norm_num [Regs.get, Regs.put])

end ShaderGen
