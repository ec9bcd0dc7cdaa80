import ShaderGen.Run
import ShaderGen.Formats

/-!
# What each encoder's shader writes

Each encoder's shader, run from any registers, leaves in `ocol0` the pixel that
`encodePixel` describes, over the texels `fetch` reads after the swizzler: the
sampling counter, the intensity constant, the bit-depth floors and the packing
lines compute exactly the slots of the format.  One theorem per encoder
(`writeI8Encoder_ocol0`, …, `writeZ16LEncoder_ocol0`), stated for the component
strings each takes, and `encoderFor_ocol0` for every `case` of the switch that
calls a `writeSwizzler`-based encoder.

## Design notes

Every proof runs the shader symbolically: `simp` unfolds the encoder into the
statements its lines perform (`WRITE_ops`, never the text), runs them
(`execOps_cons` and the `Op.exec_*` steps), and keeps each sample read folded as
a `fetch`.  `writeRGB5A3Encoder` branches on each texel's alpha, so its proof
splits on the two conditions first.
-/

namespace ShaderGen

variable {α : Type} [LinearOrderedField α] [FloorRing α] (inp : Inputs α) (h : Headers)
  (r : Regs α)

/-! ## The intensity encoders -/

theorem writeI8Encoder_ocol0 :
    (runShader inp (writeI8Encoder h .init).out r).get .ocol0 =
      encodePixel false (fetch inp (swizzled inp h (h.code .GX_TF_I8) r)) .GX_TF_I8 := by
  simp [writeI8Encoder, GenState.init, runShader, encodePixel, slots4, intensity]

theorem writeI4Encoder_ocol0 :
    (runShader inp (writeI4Encoder h .init).out r).get .ocol0 =
      encodePixel false (fetch inp (swizzled inp h (h.code .GX_TF_I4) r)) .GX_TF_I4 := by
  simp [writeI4Encoder, GenState.init, runShader, encodePixel, slots8, slots4, nibbleByte,
    intensity]

theorem writeIA8Encoder_ocol0 :
    (runShader inp (writeIA8Encoder h .init).out r).get .ocol0 =
      encodePixel false (fetch inp (swizzled inp h (h.code .GX_TF_IA8) r)) .GX_TF_IA8 := by
  simp [writeIA8Encoder, GenState.init, runShader, encodePixel, slots2, intensity]

theorem writeIA4Encoder_ocol0 :
    (runShader inp (writeIA4Encoder h .init).out r).get .ocol0 =
      encodePixel false (fetch inp (swizzled inp h (h.code .GX_TF_IA4) r)) .GX_TF_IA4 := by
  simp [writeIA4Encoder, GenState.init, runShader, encodePixel, slots4, nibbleByte, intensity]

/-! ## The 16-bit colour encoders -/

theorem writeRGB565Encoder_ocol0 :
    (runShader inp (writeRGB565Encoder h .init).out r).get .ocol0 =
      encodePixel false (fetch inp (swizzled inp h (h.code .GX_TF_RGB565) r)) .GX_TF_RGB565 := by
  simp [writeRGB565Encoder, GenState.init, runShader, encodePixel, slots2, byteChannels,
    rgb565Bytes]

theorem writeRGB5A3Encoder_ocol0 :
    (runShader inp (writeRGB5A3Encoder h .init).out r).get .ocol0 =
      encodePixel false (fetch inp (swizzled inp h (h.code .GX_TF_RGB5A3) r)) .GX_TF_RGB5A3 := by
  by_cases h0 : (878 / 1000 : α) < (fetch inp (swizzled inp h (h.code .GX_TF_RGB5A3) r) 0).w <;>
  by_cases h1 : (878 / 1000 : α) < (fetch inp (swizzled inp h (h.code .GX_TF_RGB5A3) r) 1).w <;>
  simp [h0, h1, writeRGB5A3Encoder, GenState.init, runShader, encodePixel, slots2, byteChannels,
    rgb5a3Bytes, Cond.holds]

/-- `writeRGBA4443Encoder`, which no `case` calls, stores the `RGBA4443` bytes. -/
theorem writeRGBA4443Encoder_ocol0 :
    (runShader inp (writeRGBA4443Encoder h .init).out r).get .ocol0 =
      slots2 fun k =>
        byteChannels (rgba4443Bytes (fetch inp (swizzled inp h (h.code .GX_TF_RGB5A3) r) k)) := by
  simp [writeRGBA4443Encoder, GenState.init, runShader, slots2, byteChannels, rgba4443Bytes,
    nibbleByte]

/-! ## The channel and depth encoders, for the components they are passed -/

theorem writeC4Encoder_ocol0 (c : Comp) :
    (runShader inp (writeC4Encoder h [c] .init).out r).get .ocol0 =
      slots8 fun k => level 4 ((fetch inp (swizzled inp h (h.code .GX_CTF_R4) r) k).get c) := by
  simp [writeC4Encoder, GenState.init, runShader, slots8, slots4, nibbleByte]

theorem writeC8Encoder_ocol0 (c : Comp) :
    (runShader inp (writeC8Encoder h [c] .init).out r).get .ocol0 =
      slots4 fun k => (fetch inp (swizzled inp h (h.code .GX_CTF_R8) r) k).get c := by
  simp [writeC8Encoder, GenState.init, runShader, slots4]

theorem writeCC4Encoder_ocol0 (c d : Comp) :
    (runShader inp (writeCC4Encoder h [c, d] .init).out r).get .ocol0 =
      slots4 fun k =>
        let t := fetch inp (swizzled inp h (h.code .GX_CTF_RA4) r) k
        ((nibbleByte (level 4 (t.get c)) (level 4 (t.get d)) : ℤ) : α) / 255 := by
  simp [writeCC4Encoder, GenState.init, runShader, slots4, nibbleByte]

theorem writeCC8Encoder_ocol0 (c d : Comp) :
    (runShader inp (writeCC8Encoder h [c, d] .init).out r).get .ocol0 =
      slots2 fun k =>
        let t := fetch inp (swizzled inp h (h.code .GX_CTF_RA8) r) k
        (t.get c, t.get d) := by
  simp [writeCC8Encoder, GenState.init, runShader, slots2]

theorem writeZ8Encoder_ocol0 (multiplier : FloatLit) :
    (runShader inp (writeZ8Encoder h multiplier .init).out r).get .ocol0 =
      slots4 fun k =>
        Int.fract ((fetch inp (swizzled inp h (h.code .GX_CTF_Z8M) r) k).z * multiplier.value) := by
  simp [writeZ8Encoder, GenState.init, runShader, slots4]

theorem writeZ16Encoder_ocol0 :
    (runShader inp (writeZ16Encoder h .init).out r).get .ocol0 =
      encodePixel false (fetch inp (swizzled inp h (h.code .GX_TF_Z16) r)) .GX_TF_Z16 := by
  simp [writeZ16Encoder, GenState.init, runShader, encodePixel, slots2, depthDigits]

theorem writeZ16LEncoder_ocol0 :
    (runShader inp (writeZ16LEncoder h .init).out r).get .ocol0 =
      encodePixel false (fetch inp (swizzled inp h (h.code .GX_CTF_Z16L) r)) .GX_CTF_Z16L := by
  simp [writeZ16LEncoder, GenState.init, runShader, encodePixel, slots2, depthDigits]

/-! ## Every `writeSwizzler`-based case of the switch -/

/-- **The switch's encoders compute their formats.**  For every format but the
two 32-bit ones, the shader of its `case` leaves in `ocol0` the pixel
`encodePixel` gives for the texels read after the swizzler of the format the
encoder hard-codes. -/
theorem encoderFor_ocol0 (f : Format) (hf : f ≠ .GX_TF_RGBA8 ∧ f ≠ .GX_TF_Z24X8) :
    (runShader inp (encoderFor h f .init).out r).get .ocol0 =
      encodePixel false (fetch inp (swizzled inp h (h.code (swizzlerFormat f)) r)) f := by
  cases f
  case GX_TF_RGBA8 => exact absurd rfl hf.1
  case GX_TF_Z24X8 => exact absurd rfl hf.2
  all_goals
    simp only [encoderFor, swizzlerFormat, writeI4Encoder_ocol0, writeI8Encoder_ocol0,
      writeIA4Encoder_ocol0, writeIA8Encoder_ocol0, writeRGB565Encoder_ocol0,
      writeRGB5A3Encoder_ocol0, writeC4Encoder_ocol0, writeC8Encoder_ocol0, writeCC4Encoder_ocol0,
      writeCC8Encoder_ocol0, writeZ8Encoder_ocol0, writeZ16Encoder_ocol0, writeZ16LEncoder_ocol0,
      encodePixel, V4.get, Rat.cast_ofNat]

end ShaderGen
