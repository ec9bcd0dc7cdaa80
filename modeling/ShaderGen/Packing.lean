import ShaderGen.Outputs

/-!
# Bit packing: every field fits its bits

The quantising encoders floor each channel to `N` bits with `writeToBitDepth`
(`level N v = ⌊v · 255 / 2^(8 - N)⌋`) and add the fields into bytes.  For
channel values in `[0, 1]` — the sampler's, and the intensities
`0.257 r + 0.504 g + 0.098 b + 0.0625` made from them — no field overflows into
its neighbour: every level lies in `[0, 2^N - 1]` (`level_mem`), every byte in
`[0, 255]`, and the two bytes of a 16-bit texel are the halves of the hardware
word (`rgb565Bytes_eq`, `rgb5a3Bytes_eq`), whose top bit is set exactly for an
opaque `RGB5A3` texel (`rgb5a3Word_top_bit`).

## Main definitions

* `V4.Unit` — a colour with all channels in `[0, 1]`.
* `BytePixel` — a pixel each of whose channels is a byte `n / 255`.
* `hardwarePixel` — the pixel in the hardware's terms: the 16-bit formats as the
  big-endian halves of their words.

## Main results

* `quantized_pixels_fit` — for `I4`, `IA4`, `R4`, `Z4`, `RA4`, `RGB565` and
  `RGB5A3`, the encoder's pixel is made of bytes and is the hardware's pixel.
-/

namespace ShaderGen

variable {α : Type} [LinearOrderedField α] [FloorRing α]

/-- A colour whose channels all lie in `[0, 1]`. -/
def V4.Unit (v : V4 α) : Prop := ∀ c, 0 ≤ v.get c ∧ v.get c ≤ 1

/-- A pixel each of whose channels holds a byte: `n / 255` with `n ≤ 255`. -/
def BytePixel (p : V4 α) : Prop := ∀ c, ∃ n : ℕ, n ≤ 255 ∧ p.get c = n / 255

/-! ## Levels -/

/-- `q_N(v)` lies in `[0, 2^N - 1]` for `v ∈ [0, 1]`. -/
theorem level_mem {N : ℕ} (hN : N ≤ 8) {v : α} (h0 : 0 ≤ v) (h1 : v ≤ 1) :
    0 ≤ level N v ∧ level N v ≤ 2 ^ N - 1 := by
  rw [level]
  have hp : (0 : α) < 2 ^ (8 - N) := by positivity
  refine ⟨Int.floor_nonneg.2 (by positivity), ?_⟩
  have hlt : v * (255 / 2 ^ (8 - N)) < ((2 ^ N : ℤ) : α) :=
    calc v * (255 / 2 ^ (8 - N)) ≤ 1 * (255 / 2 ^ (8 - N)) :=
          mul_le_mul_of_nonneg_right h1 (by positivity)
      _ < ((2 ^ N : ℤ) : α) := by
          rw [one_mul, div_lt_iff₀ hp]; push_cast
          rw [← pow_add, Nat.add_sub_cancel' hN]; norm_num
  have := Int.floor_lt.2 hlt
  omega

omit [FloorRing α] in
/-- The intensity of a colour in `[0, 1]` is in `[0, 1]`. -/
theorem intensity_mem {v : V4 α} (hv : v.Unit) : 0 ≤ intensity v ∧ intensity v ≤ 1 := by
  obtain ⟨hx0, hx1⟩ := hv .x
  obtain ⟨hy0, hy1⟩ := hv .y
  obtain ⟨hz0, hz1⟩ := hv .z
  simp only [V4.get] at *
  constructor <;> simp only [intensity] <;> linarith

/-! ## Bytes -/

omit [FloorRing α] in
theorem byte_of_int {n : ℤ} (h0 : 0 ≤ n) (h1 : n ≤ 255) :
    ∃ m : ℕ, m ≤ 255 ∧ (n : α) / 255 = m / 255 :=
  ⟨n.toNat, by omega, by rw [← Int.cast_natCast, Int.toNat_of_nonneg h0]⟩

omit [FloorRing α] in
theorem slots4_bytes {s : ℕ → α} (h : ∀ k < 4, ∃ n : ℕ, n ≤ 255 ∧ s k = n / 255) :
    BytePixel (slots4 s) := by
  intro c; cases c <;> exact h _ (by norm_num)

omit [FloorRing α] in
theorem slots2_bytes {s : ℕ → ℤ × ℤ}
    (h : ∀ k < 2, (0 ≤ (s k).1 ∧ (s k).1 ≤ 255) ∧ 0 ≤ (s k).2 ∧ (s k).2 ≤ 255) :
    BytePixel (slots2 fun k => (byteChannels (s k) : α × α)) := by
  intro c
  cases c
  case x => exact byte_of_int (h 1 (by norm_num)).1.1 (h 1 (by norm_num)).1.2
  case y => exact byte_of_int (h 0 (by norm_num)).2.1 (h 0 (by norm_num)).2.2
  case z => exact byte_of_int (h 0 (by norm_num)).1.1 (h 0 (by norm_num)).1.2
  case w => exact byte_of_int (h 1 (by norm_num)).2.1 (h 1 (by norm_num)).2.2

omit [FloorRing α] in
theorem nibble_bytes {s : ℕ → ℤ} (h : ∀ k < 8, 0 ≤ s k ∧ s k ≤ 15) : BytePixel (slots8 s : V4 α) := by
  refine slots4_bytes fun j hj => ?_
  have hhi := h (2 * j) (by omega)
  have hlo := h (2 * j + 1) (by omega)
  exact byte_of_int (by simp only [nibbleByte]; omega) (by simp only [nibbleByte]; omega)

/-! ## The 16-bit words -/

section Words

variable {v : V4 α} (hv : v.Unit)
include hv

theorem level_mem_of_unit (N : ℕ) (hN : N ≤ 8) (c : Comp) :
    0 ≤ level N (v.get c) ∧ level N (v.get c) ≤ 2 ^ N - 1 :=
  level_mem hN (hv c).1 (hv c).2

/-- The bytes `writeRGB565Encoder` assembles are the halves of `R5 << 11 | G6 << 5 | B5`. -/
theorem rgb565Bytes_eq : rgb565Bytes v = (rgb565Word v / 256, rgb565Word v % 256) := by
  have hr := level_mem_of_unit hv 5 (by norm_num) .x
  have hg := level_mem_of_unit hv 6 (by norm_num) .y
  have hb := level_mem_of_unit hv 5 (by norm_num) .z
  simp only [V4.get] at hr hg hb
  simp only [rgb565Bytes, rgb565Word, Prod.mk.injEq]
  norm_num at hr hg hb ⊢
  omega

/-- The bytes `writeRGB5A3Encoder` assembles are the halves of the `RGB5A3` word. -/
theorem rgb5a3Bytes_eq : rgb5a3Bytes v = (rgb5a3Word v / 256, rgb5a3Word v % 256) := by
  have r5 := level_mem_of_unit hv 5 (by norm_num) .x
  have g5 := level_mem_of_unit hv 5 (by norm_num) .y
  have b5 := level_mem_of_unit hv 5 (by norm_num) .z
  have a3 := level_mem_of_unit hv 3 (by norm_num) .w
  have r4 := level_mem_of_unit hv 4 (by norm_num) .x
  have g4 := level_mem_of_unit hv 4 (by norm_num) .y
  have b4 := level_mem_of_unit hv 4 (by norm_num) .z
  simp only [V4.get] at r5 g5 b5 a3 r4 g4 b4
  simp only [rgb5a3Bytes, rgb5a3Word]
  split_ifs <;> simp only [Prod.mk.injEq] <;> norm_num at * <;> omega

/-- The top bit of the `RGB5A3` word is set exactly for an opaque texel. -/
theorem rgb5a3Word_top_bit : 2 ^ 15 ≤ rgb5a3Word v ↔ 878 / 1000 < v.w := by
  have a3 := level_mem_of_unit hv 3 (by norm_num) .w
  have r4 := level_mem_of_unit hv 4 (by norm_num) .x
  have g4 := level_mem_of_unit hv 4 (by norm_num) .y
  have b4 := level_mem_of_unit hv 4 (by norm_num) .z
  have r5 := level_mem_of_unit hv 5 (by norm_num) .x
  have g5 := level_mem_of_unit hv 5 (by norm_num) .y
  have b5 := level_mem_of_unit hv 5 (by norm_num) .z
  simp only [V4.get] at a3 r4 g4 b4 r5 g5 b5
  simp only [rgb5a3Word]
  split_ifs with h <;> simp only [h, iff_true, iff_false] <;> norm_num at * <;> omega

/-- Both bytes of an `RGB565` texel lie in `[0, 255]`. -/
theorem rgb565Bytes_mem :
    (0 ≤ (rgb565Bytes v).1 ∧ (rgb565Bytes v).1 ≤ 255) ∧ 0 ≤ (rgb565Bytes v).2 ∧ (rgb565Bytes v).2 ≤ 255 := by
  have hr := level_mem_of_unit hv 5 (by norm_num) .x
  have hg := level_mem_of_unit hv 6 (by norm_num) .y
  have hb := level_mem_of_unit hv 5 (by norm_num) .z
  simp only [V4.get] at hr hg hb
  simp only [rgb565Bytes]
  norm_num at hr hg hb
  omega

/-- Both bytes of an `RGB5A3` texel lie in `[0, 255]`, in either branch. -/
theorem rgb5a3Bytes_mem :
    (0 ≤ (rgb5a3Bytes v).1 ∧ (rgb5a3Bytes v).1 ≤ 255) ∧ 0 ≤ (rgb5a3Bytes v).2 ∧ (rgb5a3Bytes v).2 ≤ 255 := by
  have r5 := level_mem_of_unit hv 5 (by norm_num) .x
  have g5 := level_mem_of_unit hv 5 (by norm_num) .y
  have b5 := level_mem_of_unit hv 5 (by norm_num) .z
  have a3 := level_mem_of_unit hv 3 (by norm_num) .w
  have r4 := level_mem_of_unit hv 4 (by norm_num) .x
  have g4 := level_mem_of_unit hv 4 (by norm_num) .y
  have b4 := level_mem_of_unit hv 4 (by norm_num) .z
  simp only [V4.get] at r5 g5 b5 a3 r4 g4 b4
  simp only [rgb5a3Bytes]
  norm_num at r5 g5 b5 a3 r4 g4 b4
  split_ifs <;> omega

end Words

/-! ## The quantising encoders -/

/-- The pixel in the hardware's terms: a 16-bit texel as the two halves of its
word, the other formats as `encodePixel` gives them. -/
def hardwarePixel (t : ℕ → V4 α) : Format → V4 α
  | .GX_TF_RGB565 => slots2 fun k => wordChannels (rgb565Word (t k))
  | .GX_TF_RGB5A3 => slots2 fun k => wordChannels (rgb5a3Word (t k))
  | f => encodePixel false t f

/-- The quantising formats, whose encoders floor channels to fewer bits. -/
def quantizingFormats : List Format :=
  [.GX_TF_I4, .GX_TF_IA4, .GX_CTF_R4, .GX_CTF_Z4, .GX_CTF_RA4, .GX_TF_RGB565, .GX_TF_RGB5A3]

/-- For texels in `[0, 1]`, the pixel of a quantising format is made of bytes and
is the hardware's pixel. -/
theorem encodePixel_bytes {f : Format} (hf : f ∈ quantizingFormats) {t : ℕ → V4 α}
    (ht : ∀ k, (t k).Unit) :
    BytePixel (encodePixel false t f) ∧ encodePixel false t f = hardwarePixel t f := by
  have l4 : ∀ k c, 0 ≤ level 4 ((t k).get c) ∧ level 4 ((t k).get c) ≤ 15 :=
    fun k => level_mem_of_unit (ht k) 4 (by norm_num)
  have i4 : ∀ k, 0 ≤ level 4 (intensity (t k)) ∧ level 4 (intensity (t k)) ≤ 15 :=
    fun k => level_mem (by norm_num) (intensity_mem (ht k)).1 (intensity_mem (ht k)).2
  have nib : ∀ a b : ℤ, 0 ≤ a ∧ a ≤ 15 → 0 ≤ b ∧ b ≤ 15 →
      ∃ n : ℕ, n ≤ 255 ∧ ((nibbleByte a b : ℤ) : α) / 255 = n / 255 := fun a b ha hb =>
    byte_of_int (by simp only [nibbleByte]; omega) (by simp only [nibbleByte]; omega)
  simp only [quantizingFormats, List.mem_cons, List.mem_singleton, List.not_mem_nil,
    or_false] at hf
  rcases hf with rfl | rfl | rfl | rfl | rfl | rfl | rfl
  · exact ⟨nibble_bytes fun k _ => i4 k, rfl⟩
  · exact ⟨slots4_bytes fun k _ => nib _ _ (l4 k .w) (i4 k), rfl⟩
  · exact ⟨nibble_bytes fun k _ => l4 k .x, rfl⟩
  · exact ⟨nibble_bytes fun k _ => l4 k .z, rfl⟩
  · exact ⟨slots4_bytes fun k _ => nib _ _ (l4 k .w) (l4 k .x), rfl⟩
  · refine ⟨slots2_bytes fun k _ => rgb565Bytes_mem (ht k), ?_⟩
    simp only [encodePixel, hardwarePixel, rgb565Bytes_eq (ht _)]
    rfl
  · refine ⟨slots2_bytes fun k _ => rgb5a3Bytes_mem (ht k), ?_⟩
    simp only [encodePixel, hardwarePixel, rgb5a3Bytes_eq (ht _)]
    rfl

variable (inp : Inputs α) (h : Headers)

/-- **No field overflows.**  With a sampler returning colours in `[0, 1]`: the
multiplier `writeToBitDepth` prints for `N ≤ 8` bits is `255 / 2^(8 - N)`, the
factor of `q_N`, and every `q_N` lies in `[0, 2^N - 1]`; for each quantising format (`I4`, `IA4`, `R4`, `Z4`,
`RA4`, `RGB565`, `RGB5A3`) every channel of the pixel its encoder writes holds a
byte `n / 255`, `n ≤ 255`, and the pixel is the hardware's — nibble pairs
`16·q4(hi) + q4(lo)`, the big-endian halves of `R5 << 11 | G6 << 5 | B5` and of
the `RGB5A3` word, first texel in `b, g` and second in `r, a`; and the `RGB5A3`
word has its top bit set exactly when the texel's alpha exceeds `0.878`. -/
theorem quantized_pixels_fit (f : Format) (hf : f ∈ quantizingFormats)
    (hunit : ∀ u v, (inp.samp0 u v).Unit) (r : Regs α) :
    let p := (runShader inp (encoderFor h f .init).out r).get .ocol0
    let t := fetch inp (swizzled inp h (h.code (swizzlerFormat f)) r)
    (∀ N ≤ 8, ((bitDepthScale N : ℚ) : α) = 255 / 2 ^ (8 - N)) ∧
    (∀ N ≤ 8, ∀ v : α, 0 ≤ v → v ≤ 1 → 0 ≤ level N v ∧ level N v ≤ 2 ^ N - 1) ∧
    BytePixel p ∧ p = hardwarePixel t f ∧
    ∀ v : V4 α, v.Unit → (2 ^ 15 ≤ rgb5a3Word v ↔ 878 / 1000 < v.w) := by
  intro p t
  have h32 : f ≠ .GX_TF_RGBA8 ∧ f ≠ .GX_TF_Z24X8 := by
    constructor <;> rintro rfl <;> simp [quantizingFormats] at hf
  have hp : p = encodePixel false t f := encoderFor_ocol0 inp h r f h32
  obtain ⟨hbytes, hhw⟩ := encodePixel_bytes hf fun k => hunit _ _
  exact ⟨fun N hN => bitDepthScale_cast hN, fun N hN v h0 h1 => level_mem hN h0 h1, hp ▸ hbytes,
    hp.trans hhw, fun v hv => rgb5a3Word_top_bit hv⟩

/-! ## `RGB5A3`'s translucent branch -/

/-- **A translucent `RGB5A3` pair is stored as `RGBA4443` stores it.**  For every
header table, input and registers, when neither texel the `RGB5A3` swizzler reads
has alpha above `0.878`, the shader of `writeRGB5A3Encoder` stores the same pixel
as the shader of `writeRGBA4443Encoder`, which no `case` calls: the `else`
branch of `if (color0.a > 0.878f)` is that encoder's packing. -/
theorem rgb5a3_translucent_matches_rgba4443 (r : Regs α)
    (ht : ∀ k < 2, ¬ 878 / 1000 < (fetch inp (swizzled inp h (h.code .GX_TF_RGB5A3) r) k).w) :
    (runShader inp (writeRGB5A3Encoder h .init).out r).get .ocol0 =
      (runShader inp (writeRGBA4443Encoder h .init).out r).get .ocol0 := by
  rw [writeRGB5A3Encoder_ocol0, writeRGBA4443Encoder_ocol0]
  simp only [encodePixel, slots2, rgb5a3Bytes_of_translucent (ht 0 (by norm_num)),
    rgb5a3Bytes_of_translucent (ht 1 (by norm_num))]

/-- A sampler whose alpha stays below one half, and registers on the pixel
`(2, 6)` of a 16-wide copy: the two encoders agree. -/
theorem translucent_rgb5a3_pixel_matches_rgba4443 :
    let inp : Inputs ℚ := ⟨setShaderParameters 16 8 0 0 1 1 16 8,
      fun u v => ⟨Int.fract u, Int.fract v, 1 / 2, Int.fract (u + v) / 2⟩⟩
    let r : Regs ℚ := fun _ => ⟨5 / 2, 13 / 2, 0, 0⟩
    (runShader inp (writeRGB5A3Encoder gxHeaders .init).out r).get .ocol0 =
      (runShader inp (writeRGBA4443Encoder gxHeaders .init).out r).get .ocol0 :=
  rgb5a3_translucent_matches_rgba4443 _ gxHeaders _ fun _ _ => not_lt.2 <| by
    show Int.fract _ / 2 ≤ _
    exact (div_le_div_of_nonneg_right (Int.fract_lt_one _).le (by norm_num)).trans (by norm_num)

/-- With a sampler whose channels vary over the source, the `RGB565` pixel of the
GameCube's switch at `(2, 6)` is made of bytes and is the hardware's pixel. -/
theorem rgb565_pixel_fits :
    let inp : Inputs ℚ := ⟨setShaderParameters 16 8 0 0 1 1 16 8,
      fun u v => ⟨Int.fract u, Int.fract v, 1 / 2, 1⟩⟩
    let r : Regs ℚ := fun _ => ⟨5 / 2, 13 / 2, 0, 0⟩
    let p := (runShader inp (encoderFor gxHeaders .GX_TF_RGB565 .init).out r).get .ocol0
    let t := fetch inp (swizzled inp gxHeaders (gxHeaders.code (swizzlerFormat .GX_TF_RGB565)) r)
    (∀ N ≤ 8, ((bitDepthScale N : ℚ) : ℚ) = 255 / 2 ^ (8 - N)) ∧
    (∀ N ≤ 8, ∀ v : ℚ, 0 ≤ v → v ≤ 1 → 0 ≤ level N v ∧ level N v ≤ 2 ^ N - 1) ∧
    BytePixel p ∧ p = hardwarePixel t .GX_TF_RGB565 ∧
    ∀ v : V4 ℚ, v.Unit → (2 ^ 15 ≤ rgb5a3Word v ↔ 878 / 1000 < v.w) :=
  quantized_pixels_fit _ gxHeaders .GX_TF_RGB565 (by decide)
    (fun _ _ c => by cases c <;> norm_num [V4.get, Int.fract_nonneg, (Int.fract_lt_one _).le]) _

end ShaderGen
