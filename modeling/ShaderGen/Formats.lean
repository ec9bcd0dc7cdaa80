import ShaderGen.Generator

/-!
# What each copy format stores

The abstract side of the encoders: for every format, the destination pixel a
group of source texels becomes.  A destination pixel is four channels, `b, g, r,
a` in memory order; a format with `S` samples per pixel splits them into `S`
equal slots, slot `k` holding texel `k`:

* `slots4` — four one-byte slots, one per channel;
* `slots2` — two two-byte slots, `b, g` then `r, a`;
* `slots8` — eight 4-bit slots, two per channel, the even one in the high nibble.

Channel values are unorm: a channel holding byte `n` is `n / 255`.  Quantised
fields are integers, `level N v = ⌊v · 255 / 2^(8 - N)⌋`: `bitDepthScale_cast`
says the multiplier `writeToBitDepth` prints is that factor, so the floor it
emits is `level N` (`floor_mul_bitDepthScale`).  The 16-bit colour formats are given as the two
bytes the encoders assemble (`rgb565Bytes`, `rgb5a3Bytes`); that these are the
halves of the hardware's 16-bit words (`rgb565Word`, `rgb5a3Word`) is proved in
`ShaderGen.Packing`, for channel values in `[0, 1]`.

The two 32-bit formats store each 4×4 block as two 32-byte cache lines, alpha
and red first, then green and blue; their pixels take two texels from one of the
two lines, which `encodePixel` receives as `line`.
-/

namespace ShaderGen

variable {α : Type} [LinearOrderedField α] [FloorRing α]

/-- `q_N(v) = ⌊v · 255 / 2^(8 - N)⌋`, the `N`-bit level of a channel value. -/
def level (N : ℕ) (v : α) : ℤ := ⌊v * (255 / 2 ^ (8 - N))⌋

omit [FloorRing α] in
/-- The multiplier `writeToBitDepth` prints for a depth of at most `8` bits is
the one of `q_N`. -/
theorem bitDepthScale_cast {N : ℕ} (hN : N ≤ 8) :
    ((bitDepthScale N : ℚ) : α) = 255 / 2 ^ (8 - N) := by
  rw [bitDepthScale, show (8 : ℤ) - N = ((8 - N : ℕ) : ℤ) by omega, zpow_natCast]
  push_cast; rfl

/-- The floor `writeToBitDepth` emits is `q_N`. -/
@[simp] theorem floor_mul_bitDepthScale {N : ℕ} (hN : N ≤ 8) (v : α) :
    ⌊v * ((bitDepthScale N : ℚ) : α)⌋ = level N v := by
  rw [bitDepthScale_cast hN, level]

/-- The intensity `0.257 r + 0.504 g + 0.098 b + 0.0625` of a colour. -/
def intensity (v : V4 α) : α := 257 / 1000 * v.x + 504 / 1000 * v.y + 98 / 1000 * v.z + 625 / 10000

/-- A byte holding two 4-bit levels, `hi` in the high nibble. -/
def nibbleByte (hi lo : ℤ) : ℤ := hi * 16 + lo

/-- The `RGB565` word `R5 << 11 | G6 << 5 | B5`. -/
def rgb565Word (v : V4 α) : ℤ := level 5 v.x * 2 ^ 11 + level 6 v.y * 2 ^ 5 + level 5 v.z

/-- The `RGB5A3` word: `0x8000 | R5 << 10 | G5 << 5 | B5` for an opaque texel
(alpha above `0.878`), `A3 << 12 | R4 << 8 | G4 << 4 | B4` otherwise. -/
def rgb5a3Word (v : V4 α) : ℤ :=
  if 878 / 1000 < v.w then 2 ^ 15 + level 5 v.x * 2 ^ 10 + level 5 v.y * 2 ^ 5 + level 5 v.z
  else level 3 v.w * 2 ^ 12 + level 4 v.x * 2 ^ 8 + level 4 v.y * 2 ^ 4 + level 4 v.z

/-- A 16-bit word as two unorm channels, high byte first. -/
def wordChannels (w : ℤ) : α × α := (((w / 256 : ℤ) : α) / 255, ((w % 256 : ℤ) : α) / 255)

/-- Two bytes as two unorm channels. -/
def byteChannels (p : ℤ × ℤ) : α × α := ((p.1 : α) / 255, (p.2 : α) / 255)

/-- The bytes `writeRGB565Encoder` assembles: `R5·8 + ⌊G6 / 8⌋` and
`B5 + (G6 mod 8)·32`. -/
def rgb565Bytes (v : V4 α) : ℤ × ℤ :=
  (level 5 v.x * 8 + level 6 v.y / 8, level 5 v.z + level 6 v.y % 8 * 32)

/-- The bytes `writeRGBA4443Encoder` assembles, `A3·16 + R4` and `G4·16 + B4`. -/
def rgba4443Bytes (v : V4 α) : ℤ × ℤ :=
  (nibbleByte (level 3 v.w) (level 4 v.x), nibbleByte (level 4 v.y) (level 4 v.z))

/-- The bytes `writeRGB5A3Encoder` assembles: `R5·4 + ⌊G5 / 8⌋ + 128` and
`B5 + (G5 mod 8)·32` for an opaque texel (alpha above `0.878`), `R4 + A3·16` and
`B4 + G4·16` otherwise. -/
def rgb5a3Bytes (v : V4 α) : ℤ × ℤ :=
  if 878 / 1000 < v.w then (level 5 v.x * 4 + level 5 v.y / 8 + 128, level 5 v.z + level 5 v.y % 8 * 32)
  else (level 4 v.x + level 3 v.w * 16, level 4 v.z + level 4 v.y * 16)

/-- A translucent `RGB5A3` texel is stored as `RGBA4443` stores it. -/
theorem rgb5a3Bytes_of_translucent {v : V4 α} (hv : ¬ 878 / 1000 < v.w) :
    rgb5a3Bytes v = rgba4443Bytes v := by
  simp only [rgb5a3Bytes, hv, if_false, rgba4443Bytes, nibbleByte, add_comm]

/-- The top, middle and low base-256 digits of a depth scaled to 24 bits, the
low one with the fraction the scaling leaves. -/
def depthDigits (d : α) : ℤ × ℤ × α :=
  let D := d * 16777215
  let top := ⌊D / (256 * 256)⌋
  let mid := ⌊(D - top * 256 * 256) / 256⌋
  (top, mid, D - top * 256 * 256 - mid * 256)

/-- Four one-byte slots, in `b, g, r, a` order. -/
def slots4 (s : ℕ → α) : V4 α := ⟨s 2, s 1, s 0, s 3⟩

/-- Two two-byte slots: `b, g` then `r, a`. -/
def slots2 (s : ℕ → α × α) : V4 α := ⟨(s 1).1, (s 0).2, (s 0).1, (s 1).2⟩

/-- Eight 4-bit slots, two per byte, the even one in the high nibble. -/
def slots8 (s : ℕ → ℤ) : V4 α := slots4 fun j => (nibbleByte (s (2 * j)) (s (2 * j + 1)) : α) / 255

/-- The pixel a format stores for the texels `t 0, t 1, …`; `line` is the cache
line of a 32-bit format's pixel (`true` for green and blue). -/
def encodePixel (line : Bool) (t : ℕ → V4 α) : Format → V4 α
  | .GX_TF_I4 => slots8 fun k => level 4 (intensity (t k))
  | .GX_TF_I8 => slots4 fun k => intensity (t k)
  | .GX_TF_IA4 => slots4 fun k => (nibbleByte (level 4 (t k).w) (level 4 (intensity (t k))) : α) / 255
  | .GX_TF_IA8 => slots2 fun k => ((t k).w, intensity (t k))
  | .GX_TF_RGB565 => slots2 fun k => byteChannels (rgb565Bytes (t k))
  | .GX_TF_RGB5A3 => slots2 fun k => byteChannels (rgb5a3Bytes (t k))
  | .GX_TF_RGBA8 => slots2 fun k => if line then ((t k).y, (t k).z) else ((t k).w, (t k).x)
  | .GX_CTF_R4 => slots8 fun k => level 4 (t k).x
  | .GX_CTF_RA4 => slots4 fun k => (nibbleByte (level 4 (t k).w) (level 4 (t k).x) : α) / 255
  | .GX_CTF_RA8 => slots2 fun k => ((t k).w, (t k).x)
  | .GX_CTF_A8 => slots4 fun k => (t k).w
  | .GX_CTF_R8 => slots4 fun k => (t k).x
  | .GX_CTF_G8 => slots4 fun k => (t k).y
  | .GX_CTF_B8 => slots4 fun k => (t k).z
  | .GX_CTF_RG8 => slots2 fun k => ((t k).x, (t k).y)
  | .GX_CTF_GB8 => slots2 fun k => ((t k).y, (t k).z)
  | .GX_TF_Z8 => slots4 fun k => (t k).z
  | .GX_TF_Z16 => slots2 fun k =>
      (((depthDigits (t k).z).2.1 : α) / 255, ((depthDigits (t k).z).1 : α) / 255)
  | .GX_TF_Z24X8 => slots2 fun k =>
      if line then (((depthDigits (t k).z).2.1 : α) / 255, (depthDigits (t k).z).2.2 / 255)
      else (1, ((depthDigits (t k).z).1 : α) / 255)
  | .GX_CTF_Z4 => slots8 fun k => level 4 (t k).z
  | .GX_CTF_Z8M => slots4 fun k => Int.fract ((t k).z * 256)
  | .GX_CTF_Z8L => slots4 fun k => Int.fract ((t k).z * 65536)
  | .GX_CTF_Z16L => slots2 fun k =>
      ((depthDigits (t k).z).2.2 / 255, ((depthDigits (t k).z).2.1 : α) / 255)

/-! ## The slots a pixel reads -/

omit [LinearOrderedField α] [FloorRing α] in
theorem slots2_congr {s s' : ℕ → α × α} (h : ∀ k < 2, s k = s' k) : slots2 s = slots2 s' := by
  simp only [slots2, h 0 (by norm_num), h 1 (by norm_num)]

omit [LinearOrderedField α] [FloorRing α] in
theorem slots4_congr {s s' : ℕ → α} (h : ∀ k < 4, s k = s' k) : slots4 s = slots4 s' := by
  simp only [slots4, h 0 (by norm_num), h 1 (by norm_num), h 2 (by norm_num), h 3 (by norm_num)]

omit [FloorRing α] in
theorem slots8_congr {s s' : ℕ → ℤ} (h : ∀ k < 8, s k = s' k) : (slots8 s : V4 α) = slots8 s' :=
  slots4_congr fun j hj => by simp only [h (2 * j) (by omega), h (2 * j + 1) (by omega)]

/-- The texels one destination pixel takes: the slots of `encodePixel`, and two
for the 32-bit formats. -/
def samplesPerPixel : Format → ℕ
  | .GX_TF_I4 | .GX_CTF_R4 | .GX_CTF_Z4 => 8
  | .GX_TF_I8 | .GX_TF_IA4 | .GX_CTF_RA4 | .GX_CTF_A8 | .GX_CTF_R8 | .GX_CTF_G8 | .GX_CTF_B8
  | .GX_TF_Z8 | .GX_CTF_Z8M | .GX_CTF_Z8L => 4
  | .GX_TF_IA8 | .GX_TF_RGB565 | .GX_TF_RGB5A3 | .GX_CTF_RA8 | .GX_CTF_RG8 | .GX_CTF_GB8
  | .GX_TF_Z16 | .GX_CTF_Z16L | .GX_TF_RGBA8 | .GX_TF_Z24X8 => 2

/-- A pixel reads only the texels of its slots. -/
theorem encodePixel_congr (line : Bool) {t t' : ℕ → V4 α} (f : Format)
    (h : ∀ k < samplesPerPixel f, t k = t' k) : encodePixel line t f = encodePixel line t' f := by
  cases f <;> simp only [encodePixel] <;> simp only [samplesPerPixel] at h <;>
    first
    | exact slots8_congr fun k hk => by simp only [h k hk]
    | exact slots4_congr fun k hk => by simp only [h k hk]
    | exact slots2_congr fun k hk => by simp only [h k hk]

end ShaderGen
