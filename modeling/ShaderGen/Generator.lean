import ShaderGen.Shader
import ShaderGen.Printf

/-!
# The generator's building blocks

`TextureConversionShaderDX` writes a shader into the static buffer `text` through
the helpers `writeSwizzler`, `write32BitSwizzler`, `writeSampleColor`,
`writeColorToIntensity`, `writeIncrementSampleX`, `writeToBitDepth` and
`writeEncoderEnd`, and two file-scope statics: `IntensityConstantAdded` and
`s_incrementSampleXCount`.

## Main definitions

* `Headers` — what the file takes from headers that are not part of it: the
  uniform's name and register, the `GX_TF_*`/`GX_CTF_*` codes, the block tables
  and the encoded sample counts.
* `GenState` — the lines written since `p = text` and the two statics; a helper
  is a `Gen`, a function on it.
* `Target` — an operand the helpers take as a `const char*`: its text and the
  components of a variable it denotes.

## Design notes

Each `WRITE(p, …)` appends one `Line`: the exact text `sprintf` produces and the
statement's meaning.  The helpers are written as pipelines `st |> … |> …`, in the
order of the source's calls.  `%f` is `printfF`, `%d` and `%i` are `toString`.
-/

namespace ShaderGen

/-- The copy formats `generateEncodingShader` handles, one per `case`. -/
inductive Format
  | GX_TF_I4 | GX_TF_I8 | GX_TF_IA4 | GX_TF_IA8 | GX_TF_RGB565 | GX_TF_RGB5A3 | GX_TF_RGBA8
  | GX_CTF_R4 | GX_CTF_RA4 | GX_CTF_RA8 | GX_CTF_A8 | GX_CTF_R8 | GX_CTF_G8 | GX_CTF_B8
  | GX_CTF_RG8 | GX_CTF_GB8 | GX_TF_Z8 | GX_TF_Z16 | GX_TF_Z24X8 | GX_CTF_Z4 | GX_CTF_Z8M
  | GX_CTF_Z8L | GX_CTF_Z16L
  deriving DecidableEq, Repr

/-- The formats in the order of the switch's cases. -/
def Format.all : List Format :=
  [.GX_TF_I4, .GX_TF_I8, .GX_TF_IA4, .GX_TF_IA8, .GX_TF_RGB565, .GX_TF_RGB5A3, .GX_TF_RGBA8,
    .GX_CTF_R4, .GX_CTF_RA4, .GX_CTF_RA8, .GX_CTF_A8, .GX_CTF_R8, .GX_CTF_G8, .GX_CTF_B8,
    .GX_CTF_RG8, .GX_CTF_GB8, .GX_TF_Z8, .GX_TF_Z16, .GX_TF_Z24X8, .GX_CTF_Z4, .GX_CTF_Z8M,
    .GX_CTF_Z8L, .GX_CTF_Z16L]

theorem Format.mem_all (f : Format) : f ∈ Format.all := by
  cases f <;> decide

/-- The definitions the file includes from elsewhere, as parameters: the name
`I_COLORS` and register `C_COLORS` of the uniform array, the code of each format
(distinct, as the switch's case labels must be), and the three tables the
swizzlers read. -/
structure Headers where
  I_COLORS : String
  C_COLORS : ℕ
  code : Format → ℕ
  codes_nodup : (Format.all.map code).Nodup
  TexDecoder_GetBlockWidthInTexels : ℕ → ℕ
  TexDecoder_GetBlockHeightInTexels : ℕ → ℕ
  GetEncodedSampleCount : ℕ → ℕ

/-! ## The GameCube's header values

To run the generator on concrete formats: the GameCube's format codes, the size
of each format's tiling blocks and the texels each destination pixel encodes. -/

/-- The code of each copy format. -/
def gxCode : Format → ℕ
  | .GX_TF_I4 => 0x0 | .GX_TF_I8 => 0x1 | .GX_TF_IA4 => 0x2 | .GX_TF_IA8 => 0x3
  | .GX_TF_RGB565 => 0x4 | .GX_TF_RGB5A3 => 0x5 | .GX_TF_RGBA8 => 0x6
  | .GX_CTF_R4 => 0x20 | .GX_CTF_RA4 => 0x22 | .GX_CTF_RA8 => 0x23 | .GX_CTF_A8 => 0x27
  | .GX_CTF_R8 => 0x28 | .GX_CTF_G8 => 0x29 | .GX_CTF_B8 => 0x2A | .GX_CTF_RG8 => 0x2B
  | .GX_CTF_GB8 => 0x2C | .GX_TF_Z8 => 0x11 | .GX_TF_Z16 => 0x13 | .GX_TF_Z24X8 => 0x16
  | .GX_CTF_Z4 => 0x30 | .GX_CTF_Z8M => 0x39 | .GX_CTF_Z8L => 0x3A | .GX_CTF_Z16L => 0x3C

/-- The codes of the 4-bit formats, stored in 8×8 blocks, eight texels a pixel. -/
def gxCodes4 : List ℕ := [0x0, 0x20, 0x30]

/-- The codes of the 8-bit formats, stored in 8×4 blocks, four texels a pixel. -/
def gxCodes8 : List ℕ := [0x1, 0x2, 0x22, 0x27, 0x28, 0x29, 0x2A, 0x11, 0x39, 0x3A]

/-- The GameCube's header values; the other formats are stored in 4×4 blocks,
the 16-bit ones two texels a pixel and the 32-bit ones one. -/
def gxHeaders : Headers where
  I_COLORS := "color"
  C_COLORS := 0
  code := gxCode
  codes_nodup := by decide
  TexDecoder_GetBlockWidthInTexels c := if c ∈ gxCodes4 ∨ c ∈ gxCodes8 then 8 else 4
  TexDecoder_GetBlockHeightInTexels c := if c ∈ gxCodes4 then 8 else 4
  GetEncodedSampleCount c :=
    if c ∈ gxCodes4 then 8 else if c ∈ gxCodes8 then 4 else if c = 0x6 ∨ c = 0x16 then 1 else 2

/-- The lines written since `p = text`, and the statics `IntensityConstantAdded`
and `s_incrementSampleXCount`. -/
structure GenState where
  out : List Line
  IntensityConstantAdded : Bool
  s_incrementSampleXCount : ℕ

/-- A generator helper: what it does to the state. -/
abbrev Gen := GenState → GenState

/-- `WRITE(p, …)`: append a line. -/
def WRITE (text : String) (op : Op) : Gen := fun st => { st with out := st.out ++ [⟨text, op⟩] }

/-- One component assigned. -/
@[simp] def Op.set (v : Var) (c : Comp) (e : Expr) : Op := .assign [((v, c), e)]

/-- The components `cs` of `v` assigned, each from its own expression. -/
@[simp] def Op.setAll (v : Var) (cs : List Comp) (e : Comp → Expr) : Op :=
  .assign (cs.map fun c => ((v, c), e c))

/-- A `const char*` operand naming (components of) a variable: its text, the
variable and the components it denotes, in order. -/
structure Target where
  text : String
  var : Var
  comps : List Comp

/-- `v.cs`, e.g. `ocol0.br`. -/
@[simp] def Var.dot (v : Var) (cs : List Comp) : Target := ⟨v.name ++ "." ++ swizzleText cs, v, cs⟩

/-- A variable of `n` components named without a swizzle. -/
@[simp] def Var.whole (v : Var) (n : ℕ) : Target := ⟨v.name, v, Comp.all.take n⟩

/-- A target preceded by its declared type, e.g. `float2 gInt`. -/
@[simp] def Target.declared (type : String) (t : Target) : Target :=
  ⟨type ++ " " ++ t.text, t.var, t.comps⟩

section Helpers

variable (h : Headers)

/-- `WriteRegister(prefix, num)`: `sprintf(result, " : register(%s%d)", prefix,
num)`, e.g. `" : register(c0)"`; the `u32` number goes through `%d`. -/
def writeRegister (registerClass : String) (num : ℕ) : String :=
  " : register(" ++ registerClass ++ printfDu32 num ++ ")"

open Expr in
/-- The lines `WriteSwizzler(p, format)` writes, one per `WRITE`: the
declarations, then the block-tiling arithmetic that leaves the first sample's
coordinates in `sampleUv`. -/
def swizzlerLines (format : ℕ) : List Line :=
  let I := h.I_COLORS
  let blkW : ℚ := h.TexDecoder_GetBlockWidthInTexels format
  let blkH : ℚ := h.TexDecoder_GetBlockHeightInTexels format
  let samples : ℚ := h.GetEncodedSampleCount format
  [⟨"uniform float4 " ++ I ++ "[2] " ++ writeRegister "c" h.C_COLORS ++ ";\n", .none⟩,
   ⟨"uniform sampler samp0 : register(s0);\n", .none⟩,
   ⟨"void main(\n", .none⟩,
   ⟨"  out float4 ocol0 : SV_Target,\n", .none⟩,
   ⟨"  in float2 uv0 : TEXCOORD0)\n", .none⟩,
   ⟨"\x7b\n  float2 sampleUv;\n  float2 uv1 = floor(uv0);\n",
    .setAll .uv1 [.x, .y] fun c => floor (ref .uv0 c)⟩,
   ⟨"  uv1.x = uv1.x * " ++ printfF samples ++ ";\n",
    .set .uv1 .x (mul (ref .uv1 .x) (lit samples))⟩,
   ⟨"  float xl =  floor(uv1.x / " ++ printfF blkW ++ ");\n",
    .set .xl .x (floor (div (ref .uv1 .x) (lit blkW)))⟩,
   ⟨"  float xib = uv1.x - (xl * " ++ printfF blkW ++ ");\n",
    .set .xib .x (sub (ref .uv1 .x) (mul (ref .xl .x) (lit blkW)))⟩,
   ⟨"  float yl = floor(uv1.y / " ++ printfF blkH ++ ");\n",
    .set .yl .x (floor (div (ref .uv1 .y) (lit blkH)))⟩,
   ⟨"  float yb = yl * " ++ printfF blkH ++ ";\n", .set .yb .x (mul (ref .yl .x) (lit blkH))⟩,
   ⟨"  float yoff = uv1.y - yb;\n", .set .yoff .x (sub (ref .uv1 .y) (ref .yb .x))⟩,
   ⟨"  float xp = uv1.x + (yoff * " ++ I ++ "[1].x);\n",
    .set .xp .x (add (ref .uv1 .x) (mul (ref .yoff .x) (uniform 1 .x)))⟩,
   ⟨"  float xel = floor(xp / " ++ printfF blkW ++ ");\n",
    .set .xel .x (floor (div (ref .xp .x) (lit blkW)))⟩,
   ⟨"  float xb = floor(xel / " ++ printfF blkH ++ ");\n",
    .set .xb .x (floor (div (ref .xel .x) (lit blkH)))⟩,
   ⟨"  float xoff = xel - (xb * " ++ printfF blkH ++ ");\n",
    .set .xoff .x (sub (ref .xel .x) (mul (ref .xb .x) (lit blkH)))⟩,
   ⟨"  sampleUv.x = xib + (xb * " ++ printfF blkW ++ ");\n",
    .set .sampleUv .x (add (ref .xib .x) (mul (ref .xb .x) (lit blkW)))⟩,
   ⟨"  sampleUv.y = yb + xoff;\n", .set .sampleUv .y (add (ref .yb .x) (ref .xoff .x))⟩,
   ⟨"  sampleUv = sampleUv * " ++ I ++ "[0].xy;\n",
    .setAll .sampleUv [.x, .y] fun c => mul (ref .sampleUv c) (uniform 0 c)⟩,
   ⟨"  sampleUv = sampleUv + " ++ I ++ "[1].zw;\n",
    .assign [((.sampleUv, .x), add (ref .sampleUv .x) (uniform 1 .z)),
      ((.sampleUv, .y), add (ref .sampleUv .y) (uniform 1 .w))]⟩,
   ⟨"  sampleUv = sampleUv + float2(0.0f,1.0f);\n",
    .assign [((.sampleUv, .x), add (ref .sampleUv .x) (lit 0)),
      ((.sampleUv, .y), add (ref .sampleUv .y) (lit 1))]⟩,
   ⟨"  sampleUv = sampleUv / " ++ I ++ "[0].zw;\n",
    .assign [((.sampleUv, .x), div (ref .sampleUv .x) (uniform 0 .z)),
      ((.sampleUv, .y), div (ref .sampleUv .y) (uniform 0 .w))]⟩]

/-- `WriteSwizzler(p, format)`: write `swizzlerLines`. -/
def writeSwizzler (format : ℕ) : Gen := fun st =>
  { st with out := st.out ++ swizzlerLines h format }

open Expr in
/-- The lines `Write32BitSwizzler(p, format)` writes: the swizzler of the
32-bit formats, whose blocks are stored as two cache lines. -/
def swizzler32Lines (format : ℕ) : List Line :=
  let I := h.I_COLORS
  let blkW : ℚ := h.TexDecoder_GetBlockWidthInTexels format
  let blkH : ℚ := h.TexDecoder_GetBlockHeightInTexels format
  [⟨"uniform float4 " ++ I ++ "[2] " ++ writeRegister "c" h.C_COLORS ++ ";\n", .none⟩,
   ⟨"uniform sampler samp0 : register(s0);\n", .none⟩,
   ⟨"void main(\n", .none⟩,
   ⟨"  out float4 ocol0 : COLOR0,\n", .none⟩,
   ⟨"  in float2 uv0 : TEXCOORD0)\n", .none⟩,
   ⟨"\x7b\n  float2 sampleUv;\n  float2 uv1 = floor(uv0);\n",
    .setAll .uv1 [.x, .y] fun c => floor (ref .uv0 c)⟩,
   ⟨"  float yl = floor(uv1.y / " ++ printfF blkH ++ ");\n",
    .set .yl .x (floor (div (ref .uv1 .y) (lit blkH)))⟩,
   ⟨"  float yb = yl * " ++ printfF blkH ++ ";\n", .set .yb .x (mul (ref .yl .x) (lit blkH))⟩,
   ⟨"  float yoff = uv1.y - yb;\n", .set .yoff .x (sub (ref .uv1 .y) (ref .yb .x))⟩,
   ⟨"  float xp = uv1.x + (yoff * " ++ I ++ "[1].x);\n",
    .set .xp .x (add (ref .uv1 .x) (mul (ref .yoff .x) (uniform 1 .x)))⟩,
   ⟨"  float xel = floor(xp / 2.0f);\n", .set .xel .x (floor (div (ref .xp .x) (lit 2)))⟩,
   ⟨"  float xb = floor(xel / " ++ printfF blkH ++ ");\n",
    .set .xb .x (floor (div (ref .xel .x) (lit blkH)))⟩,
   ⟨"  float xoff = xel - (xb * " ++ printfF blkH ++ ");\n",
    .set .xoff .x (sub (ref .xel .x) (mul (ref .xb .x) (lit blkH)))⟩,
   ⟨"  float x2 = uv1.x * 2.0f;\n", .set .x2 .x (mul (ref .uv1 .x) (lit 2))⟩,
   ⟨"  float xl = floor(x2 / " ++ printfF blkW ++ ");\n",
    .set .xl .x (floor (div (ref .x2 .x) (lit blkW)))⟩,
   ⟨"  float xib = x2 - (xl * " ++ printfF blkW ++ ");\n",
    .set .xib .x (sub (ref .x2 .x) (mul (ref .xl .x) (lit blkW)))⟩,
   ⟨"  float halfxb = floor(xb / 2.0f);\n", .set .halfxb .x (floor (div (ref .xb .x) (lit 2)))⟩,
   ⟨"  sampleUv.x = xib + (halfxb * " ++ printfF blkW ++ ");\n",
    .set .sampleUv .x (add (ref .xib .x) (mul (ref .halfxb .x) (lit blkW)))⟩,
   ⟨"  sampleUv.y = yb + xoff;\n", .set .sampleUv .y (add (ref .yb .x) (ref .xoff .x))⟩,
   ⟨"  sampleUv = sampleUv * " ++ I ++ "[0].xy;\n",
    .setAll .sampleUv [.x, .y] fun c => mul (ref .sampleUv c) (uniform 0 c)⟩,
   ⟨"  sampleUv = sampleUv + " ++ I ++ "[1].zw;\n",
    .assign [((.sampleUv, .x), add (ref .sampleUv .x) (uniform 1 .z)),
      ((.sampleUv, .y), add (ref .sampleUv .y) (uniform 1 .w))]⟩,
   ⟨"  sampleUv = sampleUv + float2(0.0f,1.0f);\n",
    .assign [((.sampleUv, .x), add (ref .sampleUv .x) (lit 0)),
      ((.sampleUv, .y), add (ref .sampleUv .y) (lit 1))]⟩,
   ⟨"  sampleUv = sampleUv / " ++ I ++ "[0].zw;\n",
    .assign [((.sampleUv, .x), div (ref .sampleUv .x) (uniform 0 .z)),
      ((.sampleUv, .y), div (ref .sampleUv .y) (uniform 0 .w))]⟩]

/-- `Write32BitSwizzler(p, format)`: write `swizzler32Lines`. -/
def write32BitSwizzler (format : ℕ) : Gen := fun st =>
  { st with out := st.out ++ swizzler32Lines h format }

/-- The coordinates `writeSampleColor` samples at when the counter is `n`:
`sampleUv + float2(n.0f * (I_COLORS[0].x / I_COLORS[0].z), 0.0f)`. -/
def sampleCoords (n : ℕ) : Expr × Expr :=
  (.add (.ref .sampleUv .x) (.mul (.lit n) (.div (.uniform 0 .x) (.uniform 0 .z))),
    .add (.ref .sampleUv .y) (.lit 0))

/-- `WriteSampleColor(p, colorComp, dest)`: sample at the next texel, which the
counter `s_incrementSampleXCount` selects. -/
@[simp] def writeSampleColor (colorComp : List Comp) (dest : Target) : Gen := fun st =>
  let n := st.s_incrementSampleXCount
  let I := h.I_COLORS
  st |> WRITE ("  " ++ dest.text ++ " = tex2D(samp0, sampleUv + float2(" ++ toString n ++
      ".0f * (" ++ I ++ "[0].x / " ++ I ++ "[0].z), 0.0f))." ++ swizzleText colorComp ++ ";\n")
    (.assign ((dest.comps.zip colorComp).map fun p =>
      ((dest.var, p.1), .sample p.2 (sampleCoords n).1 (sampleCoords n).2)))

/-- `dot(IntensityConst.rgb, src.rgb)`. -/
@[simp] def intensityDot (src : Var) : Expr :=
  .add (.add (.mul (.ref .IntensityConst .r) (.ref src .r))
    (.mul (.ref .IntensityConst .g) (.ref src .g))) (.mul (.ref .IntensityConst .b) (.ref src .b))

/-- `WriteColorToIntensity(p, src, dest)`: declare `IntensityConst` the first
time, then write the weighted sum of `src`'s colour channels. -/
@[simp] def writeColorToIntensity (src : Var) (dest : Target) : Gen := fun st =>
  let st := if !st.IntensityConstantAdded then
    { (st |> WRITE "  float4 IntensityConst = float4(0.257f,0.504f,0.098f,0.0625f);\n"
        (.assign [((.IntensityConst, .x), .lit (257 / 1000)),
      ((.IntensityConst, .y), .lit (504 / 1000)),
          ((.IntensityConst, .z), .lit (98 / 1000)), ((.IntensityConst, .w), .lit (625 / 10000))]))
      with IntensityConstantAdded := true }
  else st
  st |> WRITE ("  " ++ dest.text ++ " = dot(IntensityConst.rgb, " ++ src.name ++ ".rgb);\n")
    (.assign (dest.comps.map fun c => ((dest.var, c), intensityDot src)))

end Helpers

/-- `WriteIncrementSampleX(p)`: only the counter moves; the next
`writeSampleColor` writes the offset. -/
@[simp] def writeIncrementSampleX : Gen := fun st =>
  { st with s_incrementSampleXCount := st.s_incrementSampleXCount + 1 }

/-- `float result = 255 / pow(2.0f, (8 - depth))`. -/
def bitDepthScale (depth : ℕ) : ℚ := 255 / 2 ^ ((8 : ℤ) - depth)

/-- `WriteToBitDepth(p, depth, src, dest)`: `dest = floor(src * result)`. -/
@[simp] def writeToBitDepth (depth : ℕ) (src dest : Target) : Gen :=
  WRITE ("  " ++ dest.text ++ " = floor(" ++ src.text ++ " * " ++ printfF (bitDepthScale depth) ++
      "f);\n")
    (.assign ((dest.comps.zip src.comps).map fun p =>
      ((dest.var, p.1), .floor (.mul (.ref src.var p.2) (.lit (bitDepthScale depth))))))

/-- `WriteEncoderEnd(p)`: close `main` and reset both statics. -/
@[simp] def writeEncoderEnd : Gen := fun st =>
  { (st |> WRITE "\x7d\n" .none) with IntensityConstantAdded := false, s_incrementSampleXCount := 0 }

/-! ## What each helper does to the statics -/

section Statics

variable (h : Headers) (st : GenState)

@[simp] theorem WRITE_IntensityConstantAdded (t : String) (op : Op) :
    (WRITE t op st).IntensityConstantAdded = st.IntensityConstantAdded := rfl

@[simp] theorem WRITE_s_incrementSampleXCount (t : String) (op : Op) :
    (WRITE t op st).s_incrementSampleXCount = st.s_incrementSampleXCount := rfl

theorem WRITE_out (t : String) (op : Op) :
    (WRITE t op st).out = st.out ++ [⟨t, op⟩] := rfl

/-- What a written line does: the semantic proofs go through this lemma, so that
they never carry the text along. -/
@[simp] theorem WRITE_ops (t : String) (op : Op) :
    (WRITE t op st).out.map Line.op = st.out.map Line.op ++ [op] := by
  simp only [WRITE_out, List.map_append, List.map_cons, List.map_nil]

@[simp] theorem writeEncoderEnd_IntensityConstantAdded :
    (writeEncoderEnd st).IntensityConstantAdded = false := rfl

@[simp] theorem writeEncoderEnd_s_incrementSampleXCount :
    (writeEncoderEnd st).s_incrementSampleXCount = 0 := rfl

end Statics

end ShaderGen
