import ShaderGen.CacheLines

/-!
# The two ways of taking a depth byte

The depth formats take the bytes of a sampled depth `d ∈ [0, 1]` in two ways.
`writeZ16Encoder`, `writeZ16LEncoder` and `writeZ24Encoder` scale it to 24 bits,
`D = d · 16777215`, and extract the base-256 digits of `D` with floors
(`depthDigits`); the `GX_CTF_Z8M` and `GX_CTF_Z8L` cases instead call
`writeZ8Encoder` with a multiplier and store `frac(d · 256)`, `frac(d · 65536)`.
The render target turns each stored channel into a byte by the unorm
conversion `unormByte`.

The two ways do not agree.  At the far plane `d = 1` every digit of
`D = 0xFFFFFF` is `255`, and the Z16 and Z16L encoders store middle and low
bytes `255`, but `frac(256) = frac(65536) = 0`, so Z8M and Z8L store `0`
(`z8_depth_bytes_differ_at_far_plane`).

## Main definitions

* `unormByte` — the render target's conversion of a channel to a byte.

## Main results

* `z8_depth_bytes_differ_at_far_plane` — for every header table, constants and
  registers, with every texel at depth `1`.
-/

namespace ShaderGen

variable {α : Type} [LinearOrderedField α] [FloorRing α]

/-- The render target's unorm conversion of a channel to a byte,
`round(255 · clamp(v, 0, 1))`.  It happens outside the generated shader. -/
def unormByte (v : α) : ℤ := round (255 * max 0 (min v 1))

/-- A channel holding the byte `n / 255` converts back to `n`. -/
theorem unormByte_byte {n : ℕ} (hn : n ≤ 255) : unormByte ((n : α) / 255) = n := by
  have h1 : (n : α) / 255 ≤ 1 := by
    rw [div_le_one (by norm_num)]; exact_mod_cast hn
  rw [unormByte, min_eq_left h1, max_eq_right (by positivity),
    mul_div_cancel₀ _ (by norm_num), round_natCast]

@[simp] theorem unormByte_zero : unormByte (0 : α) = 0 := by
  simpa using unormByte_byte (α := α) (n := 0) (by norm_num)

/-- Every digit of the far plane's depth `0xFFFFFF` is `255`. -/
theorem depthDigits_one : depthDigits (1 : α) = (255, 255, 255) := by
  have h := depthDigits_level (α := α) 16777215
  norm_num at h
  exact h

/-- **The Z8 depth bytes are not the Z16/Z24 digits.**  With every texel at the
far plane (`samp0` returning depth `1`), for any header tables, constants and
registers: the digits the Z16, Z16L and Z24 encoders extract are all `255`;
the Z16 encoder stores middle byte `255` and the Z16L encoder low byte `255` in
`ocol0.b`, while the `GX_CTF_Z8M` and `GX_CTF_Z8L` cases store
`frac(256) = frac(65536) = 0`, the byte `0`. -/
theorem z8_depth_bytes_differ_at_far_plane (h : Headers) (c : Fin 2 → V4 α) (r : Regs α) :
    let inp : Inputs α := ⟨c, fun _ _ => ⟨0, 0, 1, 0⟩⟩
    let out := fun f => (runShader inp (encoderFor h f .init).out r).get .ocol0
    depthDigits (1 : α) = (255, 255, 255) ∧
    unormByte (out .GX_CTF_Z8M).z = 0 ∧ unormByte (out .GX_TF_Z16).z = 255 ∧
    unormByte (out .GX_CTF_Z8L).z = 0 ∧ unormByte (out .GX_CTF_Z16L).z = 255 := by
  intro inp out
  have hout : ∀ f, f ≠ .GX_TF_RGBA8 ∧ f ≠ .GX_TF_Z24X8 →
      out f = encodePixel false (fun _ => ⟨0, 0, 1, 0⟩) f :=
    fun f hf => encoderFor_ocol0 inp h r f hf
  have h255 : unormByte (1 : α) = 255 := by
    have h := unormByte_byte (α := α) (n := 255) le_rfl
    norm_num at h
    exact h
  refine ⟨depthDigits_one, ?_, ?_, ?_, ?_⟩
  all_goals
    rw [hout _ ⟨by decide, by decide⟩]
    simp [encodePixel, slots4, slots2, depthDigits_one, h255]

end ShaderGen
