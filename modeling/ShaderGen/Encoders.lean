import ShaderGen.Generator

/-!
# The encoders

One `Write…Encoder` per family of copy formats, each a swizzler followed by the
sampling, packing and `writeEncoderEnd` of `TextureConversionShader.cpp`, in the
source's order.  The `const char*` arguments (`comp`, `multiplier`) become
component lists and a `FloatLit`.

`writeRGBA4443Encoder` is in the file but no `case` calls it; it is modelled all
the same.
-/

namespace ShaderGen

/-- A float literal passed as text, with the value it denotes. -/
structure FloatLit where
  text : String
  value : ℚ

/-- `src.c` for one component `c`. -/
@[simp] def Var.comp (v : Var) (c : Comp) : Target := v.dot [c]

open Expr

section Encoders

variable (h : Headers)

/-- `ocol0 = (color0 * 16.0f + color1) / 255.0f`: two 4-bit levels per byte. -/
@[simp] def nibblePackLine : Gen :=
  WRITE "  ocol0 = (color0 * 16.0f + color1) / 255.0f;\n"
    (.setAll .ocol0 Comp.all fun c =>
      div (add (mul (ref .color0 c) (lit 16)) (ref .color1 c)) (lit 255))

/-- `v.rgba += IntensityConst.aaaa`, the intensity offset added last. -/
@[simp] def addIntensityOffset (text : String) (v : Var) : Gen :=
  WRITE text (.setAll v Comp.all fun c => add (ref v c) (ref .IntensityConst .a))

/-- `writeI8Encoder`. -/
def writeI8Encoder : Gen := fun st => st
  |> writeSwizzler h (h.code .GX_TF_I8)
  |> WRITE "  float3 texSample;\n" .none
  |> writeSampleColor h [.r, .g, .b] (Var.whole .texSample 3)
  |> writeColorToIntensity .texSample (Var.comp .ocol0 .b)
  |> writeIncrementSampleX
  |> writeSampleColor h [.r, .g, .b] (Var.whole .texSample 3)
  |> writeColorToIntensity .texSample (Var.comp .ocol0 .g)
  |> writeIncrementSampleX
  |> writeSampleColor h [.r, .g, .b] (Var.whole .texSample 3)
  |> writeColorToIntensity .texSample (Var.comp .ocol0 .r)
  |> writeIncrementSampleX
  |> writeSampleColor h [.r, .g, .b] (Var.whole .texSample 3)
  |> writeColorToIntensity .texSample (Var.comp .ocol0 .a)
  |> addIntensityOffset "  ocol0.rgba += IntensityConst.aaaa;\n" .ocol0
  |> writeEncoderEnd

/-- `writeI4Encoder`. -/
def writeI4Encoder : Gen := fun st => st
  |> writeSwizzler h (h.code .GX_TF_I4)
  |> WRITE "  float3 texSample;\n" .none
  |> WRITE "  float4 color0;\n" .none
  |> WRITE "  float4 color1;\n" .none
  |> writeSampleColor h [.r, .g, .b] (Var.whole .texSample 3)
  |> writeColorToIntensity .texSample (Var.comp .color0 .b)
  |> writeIncrementSampleX
  |> writeSampleColor h [.r, .g, .b] (Var.whole .texSample 3)
  |> writeColorToIntensity .texSample (Var.comp .color1 .b)
  |> writeIncrementSampleX
  |> writeSampleColor h [.r, .g, .b] (Var.whole .texSample 3)
  |> writeColorToIntensity .texSample (Var.comp .color0 .g)
  |> writeIncrementSampleX
  |> writeSampleColor h [.r, .g, .b] (Var.whole .texSample 3)
  |> writeColorToIntensity .texSample (Var.comp .color1 .g)
  |> writeIncrementSampleX
  |> writeSampleColor h [.r, .g, .b] (Var.whole .texSample 3)
  |> writeColorToIntensity .texSample (Var.comp .color0 .r)
  |> writeIncrementSampleX
  |> writeSampleColor h [.r, .g, .b] (Var.whole .texSample 3)
  |> writeColorToIntensity .texSample (Var.comp .color1 .r)
  |> writeIncrementSampleX
  |> writeSampleColor h [.r, .g, .b] (Var.whole .texSample 3)
  |> writeColorToIntensity .texSample (Var.comp .color0 .a)
  |> writeIncrementSampleX
  |> writeSampleColor h [.r, .g, .b] (Var.whole .texSample 3)
  |> writeColorToIntensity .texSample (Var.comp .color1 .a)
  |> addIntensityOffset "  color0.rgba += IntensityConst.aaaa;\n" .color0
  |> addIntensityOffset "  color1.rgba += IntensityConst.aaaa;\n" .color1
  |> writeToBitDepth 4 (Var.whole .color0 4) (Var.whole .color0 4)
  |> writeToBitDepth 4 (Var.whole .color1 4) (Var.whole .color1 4)
  |> nibblePackLine
  |> writeEncoderEnd

/-- `writeIA8Encoder`. -/
def writeIA8Encoder : Gen := fun st => st
  |> writeSwizzler h (h.code .GX_TF_IA8)
  |> WRITE "  float4 texSample;\n" .none
  |> writeSampleColor h [.r, .g, .b, .a] (Var.whole .texSample 4)
  |> WRITE "  ocol0.b = texSample.a;\n" (.set .ocol0 .b (ref .texSample .a))
  |> writeColorToIntensity .texSample (Var.comp .ocol0 .g)
  |> writeIncrementSampleX
  |> writeSampleColor h [.r, .g, .b, .a] (Var.whole .texSample 4)
  |> WRITE "  ocol0.r = texSample.a;\n" (.set .ocol0 .r (ref .texSample .a))
  |> writeColorToIntensity .texSample (Var.comp .ocol0 .a)
  |> WRITE "  ocol0.ga += IntensityConst.aa;\n"
      (.setAll .ocol0 [.g, .a] fun c => add (ref .ocol0 c) (ref .IntensityConst .a))
  |> writeEncoderEnd

/-- `writeIA4Encoder`. -/
def writeIA4Encoder : Gen := fun st => st
  |> writeSwizzler h (h.code .GX_TF_IA4)
  |> WRITE "  float4 texSample;\n" .none
  |> WRITE "  float4 color0;\n" .none
  |> WRITE "  float4 color1;\n" .none
  |> writeSampleColor h [.r, .g, .b, .a] (Var.whole .texSample 4)
  |> WRITE "  color0.b = texSample.a;\n" (.set .color0 .b (ref .texSample .a))
  |> writeColorToIntensity .texSample (Var.comp .color1 .b)
  |> writeIncrementSampleX
  |> writeSampleColor h [.r, .g, .b, .a] (Var.whole .texSample 4)
  |> WRITE "  color0.g = texSample.a;\n" (.set .color0 .g (ref .texSample .a))
  |> writeColorToIntensity .texSample (Var.comp .color1 .g)
  |> writeIncrementSampleX
  |> writeSampleColor h [.r, .g, .b, .a] (Var.whole .texSample 4)
  |> WRITE "  color0.r = texSample.a;\n" (.set .color0 .r (ref .texSample .a))
  |> writeColorToIntensity .texSample (Var.comp .color1 .r)
  |> writeIncrementSampleX
  |> writeSampleColor h [.r, .g, .b, .a] (Var.whole .texSample 4)
  |> WRITE "  color0.a = texSample.a;\n" (.set .color0 .a (ref .texSample .a))
  |> writeColorToIntensity .texSample (Var.comp .color1 .a)
  |> addIntensityOffset "  color1.rgba += IntensityConst.aaaa;\n" .color1
  |> writeToBitDepth 4 (Var.whole .color0 4) (Var.whole .color0 4)
  |> writeToBitDepth 4 (Var.whole .color1 4) (Var.whole .color1 4)
  |> nibblePackLine
  |> writeEncoderEnd

/-- `writeRGB565Encoder`. -/
def writeRGB565Encoder : Gen := fun st => st
  |> writeSwizzler h (h.code .GX_TF_RGB565)
  |> writeSampleColor h [.r, .g, .b] ((Var.whole .texSample0 3).declared "float3")
  |> writeIncrementSampleX
  |> writeSampleColor h [.r, .g, .b] ((Var.whole .texSample1 3).declared "float3")
  |> WRITE "  float2 texRs = float2(texSample0.r, texSample1.r);\n"
      (.assign [((.texRs, .x), ref .texSample0 .r), ((.texRs, .y), ref .texSample1 .r)])
  |> WRITE "  float2 texGs = float2(texSample0.g, texSample1.g);\n"
      (.assign [((.texGs, .x), ref .texSample0 .g), ((.texGs, .y), ref .texSample1 .g)])
  |> WRITE "  float2 texBs = float2(texSample0.b, texSample1.b);\n"
      (.assign [((.texBs, .x), ref .texSample0 .b), ((.texBs, .y), ref .texSample1 .b)])
  |> writeToBitDepth 6 (Var.whole .texGs 2) ((Var.whole .gInt 2).declared "float2")
  |> WRITE "  float2 gUpper = floor(gInt / 8.0f);\n"
      (.setAll .gUpper [.x, .y] fun c => floor (div (ref .gInt c) (lit 8)))
  |> WRITE "  float2 gLower = gInt - gUpper * 8.0f;\n"
      (.setAll .gLower [.x, .y] fun c => sub (ref .gInt c) (mul (ref .gUpper c) (lit 8)))
  |> writeToBitDepth 5 (Var.whole .texRs 2) (Var.dot .ocol0 [.b, .r])
  |> WRITE "  ocol0.br = ocol0.br * 8.0f + gUpper;\n"
      (.assign [((.ocol0, .b), add (mul (ref .ocol0 .b) (lit 8)) (ref .gUpper .x)),
        ((.ocol0, .r), add (mul (ref .ocol0 .r) (lit 8)) (ref .gUpper .y))])
  |> writeToBitDepth 5 (Var.whole .texBs 2) (Var.dot .ocol0 [.g, .a])
  |> WRITE "  ocol0.ga = ocol0.ga + gLower * 32.0f;\n"
      (.assign [((.ocol0, .g), add (ref .ocol0 .g) (mul (ref .gLower .x) (lit 32))),
        ((.ocol0, .a), add (ref .ocol0 .a) (mul (ref .gLower .y) (lit 32)))])
  |> WRITE "  ocol0 = ocol0 / 255.0f;\n"
      (.setAll .ocol0 Comp.all fun c => div (ref .ocol0 c) (lit 255))
  |> writeEncoderEnd

/-- One texel of `writeRGB5A3Encoder`: the `if`/`else` that packs the sample into
the channels `hi` and `lo` of `ocol0`. -/
@[simp] def rgb5a3Texel (hi lo : Comp) : Gen := fun st =>
  let o (c : Comp) := Var.comp .ocol0 c
  st
  |> WRITE "if(texSample.a > 0.878f) \x7b\n" (.ifOpen ⟨ref .texSample .a, lit (878 / 1000)⟩)
  |> writeToBitDepth 5 (Var.comp .texSample .g) (Var.whole .color0 1)
  |> WRITE "  gUpper = floor(color0 / 8.0f);\n"
      (.set .gUpper .x (floor (div (ref .color0 .x) (lit 8))))
  |> WRITE "  gLower = color0 - gUpper * 8.0f;\n"
      (.set .gLower .x (sub (ref .color0 .x) (mul (ref .gUpper .x) (lit 8))))
  |> writeToBitDepth 5 (Var.comp .texSample .r) (o hi)
  |> WRITE ("  ocol0." ++ swizzleText [hi] ++ " = ocol0." ++ swizzleText [hi] ++
      " * 4.0f + gUpper + 128.0f;\n")
      (.set .ocol0 hi (add (add (mul (ref .ocol0 hi) (lit 4)) (ref .gUpper .x)) (lit 128)))
  |> writeToBitDepth 5 (Var.comp .texSample .b) (o lo)
  |> WRITE ("  ocol0." ++ swizzleText [lo] ++ " = ocol0." ++ swizzleText [lo] ++
      " + gLower * 32.0f;\n")
      (.set .ocol0 lo (add (ref .ocol0 lo) (mul (ref .gLower .x) (lit 32))))
  |> WRITE "\x7d else \x7b\n" .ifElse
  |> writeToBitDepth 4 (Var.comp .texSample .r) (o hi)
  |> writeToBitDepth 4 (Var.comp .texSample .b) (o lo)
  |> writeToBitDepth 3 (Var.comp .texSample .a) (Var.whole .color0 1)
  |> WRITE ("ocol0." ++ swizzleText [hi] ++ " = ocol0." ++ swizzleText [hi] ++
      " + color0 * 16.0f;\n")
      (.set .ocol0 hi (add (ref .ocol0 hi) (mul (ref .color0 .x) (lit 16))))
  |> writeToBitDepth 4 (Var.comp .texSample .g) (Var.whole .color0 1)
  |> WRITE ("ocol0." ++ swizzleText [lo] ++ " = ocol0." ++ swizzleText [lo] ++
      " + color0 * 16.0f;\n")
      (.set .ocol0 lo (add (ref .ocol0 lo) (mul (ref .color0 .x) (lit 16))))
  |> WRITE "\x7d\n" .ifClose

/-- `writeRGB5A3Encoder`; the two texels' blocks differ only in the channels
they write (`b`/`g`, then `r`/`a`), so they are `rgb5a3Texel` twice. -/
def writeRGB5A3Encoder : Gen := fun st => st
  |> writeSwizzler h (h.code .GX_TF_RGB5A3)
  |> WRITE "  float4 texSample;\n" .none
  |> WRITE "  float color0;\n" .none
  |> WRITE "  float gUpper;\n" .none
  |> WRITE "  float gLower;\n" .none
  |> writeSampleColor h [.r, .g, .b, .a] (Var.whole .texSample 4)
  |> rgb5a3Texel .b .g
  |> writeIncrementSampleX
  |> writeSampleColor h [.r, .g, .b, .a] (Var.whole .texSample 4)
  |> rgb5a3Texel .r .a
  |> WRITE "  ocol0 = ocol0 / 255.0f;\n"
      (.setAll .ocol0 Comp.all fun c => div (ref .ocol0 c) (lit 255))
  |> writeEncoderEnd

/-- `writeRGBA4443Encoder` (no `case` dispatches to it). -/
def writeRGBA4443Encoder : Gen := fun st => st
  |> writeSwizzler h (h.code .GX_TF_RGB5A3)
  |> WRITE "  float4 texSample;\n" .none
  |> WRITE "  float4 color0;\n" .none
  |> WRITE "  float4 color1;\n" .none
  |> writeSampleColor h [.r, .g, .b, .a] (Var.whole .texSample 4)
  |> writeToBitDepth 3 (Var.comp .texSample .a) (Var.comp .color0 .b)
  |> writeToBitDepth 4 (Var.comp .texSample .r) (Var.comp .color1 .b)
  |> writeToBitDepth 4 (Var.comp .texSample .g) (Var.comp .color0 .g)
  |> writeToBitDepth 4 (Var.comp .texSample .b) (Var.comp .color1 .g)
  |> writeIncrementSampleX
  |> writeSampleColor h [.r, .g, .b, .a] (Var.whole .texSample 4)
  |> writeToBitDepth 3 (Var.comp .texSample .a) (Var.comp .color0 .r)
  |> writeToBitDepth 4 (Var.comp .texSample .r) (Var.comp .color1 .r)
  |> writeToBitDepth 4 (Var.comp .texSample .g) (Var.comp .color0 .a)
  |> writeToBitDepth 4 (Var.comp .texSample .b) (Var.comp .color1 .a)
  |> nibblePackLine
  |> writeEncoderEnd

/-- `writeRGBA8Encoder`. -/
def writeRGBA8Encoder : Gen := fun st => st
  |> write32BitSwizzler h (h.code .GX_TF_RGBA8)
  |> WRITE "  float cl1 = xb - (halfxb * 2.0f);\n"
      (.set .cl1 .x (sub (ref .xb .x) (mul (ref .halfxb .x) (lit 2))))
  |> WRITE "  float cl0 = 1.0f - cl1;\n" (.set .cl0 .x (sub (lit 1) (ref .cl1 .x)))
  |> WRITE "  float4 texSample;\n" .none
  |> WRITE "  float4 color0;\n" .none
  |> WRITE "  float4 color1;\n" .none
  |> writeSampleColor h [.r, .g, .b, .a] (Var.whole .texSample 4)
  |> WRITE "  color0.b = texSample.a;\n" (.set .color0 .b (ref .texSample .a))
  |> WRITE "  color0.g = texSample.r;\n" (.set .color0 .g (ref .texSample .r))
  |> WRITE "  color1.b = texSample.g;\n" (.set .color1 .b (ref .texSample .g))
  |> WRITE "  color1.g = texSample.b;\n" (.set .color1 .g (ref .texSample .b))
  |> writeIncrementSampleX
  |> writeSampleColor h [.r, .g, .b, .a] (Var.whole .texSample 4)
  |> WRITE "  color0.r = texSample.a;\n" (.set .color0 .r (ref .texSample .a))
  |> WRITE "  color0.a = texSample.r;\n" (.set .color0 .a (ref .texSample .r))
  |> WRITE "  color1.r = texSample.g;\n" (.set .color1 .r (ref .texSample .g))
  |> WRITE "  color1.a = texSample.b;\n" (.set .color1 .a (ref .texSample .b))
  |> WRITE "  ocol0 = (cl0 * color0) + (cl1 * color1);\n"
      (.setAll .ocol0 Comp.all fun c =>
        add (mul (ref .cl0 .x) (ref .color0 c)) (mul (ref .cl1 .x) (ref .color1 c)))
  |> writeEncoderEnd

/-- `WriteC4Encoder(p, comp)`. -/
def writeC4Encoder (comp : List Comp) : Gen := fun st => st
  |> writeSwizzler h (h.code .GX_CTF_R4)
  |> WRITE "  float4 color0;\n" .none
  |> WRITE "  float4 color1;\n" .none
  |> writeSampleColor h comp (Var.comp .color0 .b)
  |> writeIncrementSampleX
  |> writeSampleColor h comp (Var.comp .color1 .b)
  |> writeIncrementSampleX
  |> writeSampleColor h comp (Var.comp .color0 .g)
  |> writeIncrementSampleX
  |> writeSampleColor h comp (Var.comp .color1 .g)
  |> writeIncrementSampleX
  |> writeSampleColor h comp (Var.comp .color0 .r)
  |> writeIncrementSampleX
  |> writeSampleColor h comp (Var.comp .color1 .r)
  |> writeIncrementSampleX
  |> writeSampleColor h comp (Var.comp .color0 .a)
  |> writeIncrementSampleX
  |> writeSampleColor h comp (Var.comp .color1 .a)
  |> writeToBitDepth 4 (Var.whole .color0 4) (Var.whole .color0 4)
  |> writeToBitDepth 4 (Var.whole .color1 4) (Var.whole .color1 4)
  |> nibblePackLine
  |> writeEncoderEnd

/-- `WriteC8Encoder(p, comp)`. -/
def writeC8Encoder (comp : List Comp) : Gen := fun st => st
  |> writeSwizzler h (h.code .GX_CTF_R8)
  |> writeSampleColor h comp (Var.comp .ocol0 .b)
  |> writeIncrementSampleX
  |> writeSampleColor h comp (Var.comp .ocol0 .g)
  |> writeIncrementSampleX
  |> writeSampleColor h comp (Var.comp .ocol0 .r)
  |> writeIncrementSampleX
  |> writeSampleColor h comp (Var.comp .ocol0 .a)
  |> writeEncoderEnd

/-- `WriteCC4Encoder(p, comp)`. -/
def writeCC4Encoder (comp : List Comp) : Gen := fun st => st
  |> writeSwizzler h (h.code .GX_CTF_RA4)
  |> WRITE "  float2 texSample;\n" .none
  |> WRITE "  float4 color0;\n" .none
  |> WRITE "  float4 color1;\n" .none
  |> writeSampleColor h comp (Var.whole .texSample 2)
  |> WRITE "  color0.b = texSample.x;\n" (.set .color0 .b (ref .texSample .x))
  |> WRITE "  color1.b = texSample.y;\n" (.set .color1 .b (ref .texSample .y))
  |> writeIncrementSampleX
  |> writeSampleColor h comp (Var.whole .texSample 2)
  |> WRITE "  color0.g = texSample.x;\n" (.set .color0 .g (ref .texSample .x))
  |> WRITE "  color1.g = texSample.y;\n" (.set .color1 .g (ref .texSample .y))
  |> writeIncrementSampleX
  |> writeSampleColor h comp (Var.whole .texSample 2)
  |> WRITE "  color0.r = texSample.x;\n" (.set .color0 .r (ref .texSample .x))
  |> WRITE "  color1.r = texSample.y;\n" (.set .color1 .r (ref .texSample .y))
  |> writeIncrementSampleX
  |> writeSampleColor h comp (Var.whole .texSample 2)
  |> WRITE "  color0.a = texSample.x;\n" (.set .color0 .a (ref .texSample .x))
  |> WRITE "  color1.a = texSample.y;\n" (.set .color1 .a (ref .texSample .y))
  |> writeToBitDepth 4 (Var.whole .color0 4) (Var.whole .color0 4)
  |> writeToBitDepth 4 (Var.whole .color1 4) (Var.whole .color1 4)
  |> nibblePackLine
  |> writeEncoderEnd

/-- `WriteCC8Encoder(p, comp)`. -/
def writeCC8Encoder (comp : List Comp) : Gen := fun st => st
  |> writeSwizzler h (h.code .GX_CTF_RA8)
  |> writeSampleColor h comp (Var.dot .ocol0 [.b, .g])
  |> writeIncrementSampleX
  |> writeSampleColor h comp (Var.dot .ocol0 [.r, .a])
  |> writeEncoderEnd

/-- `ocol0.c = frac(depth * multiplier)`. -/
@[simp] def fracLine (multiplier : FloatLit) (c : Comp) : Gen :=
  WRITE ("ocol0." ++ swizzleText [c] ++ " = frac(depth * " ++ multiplier.text ++ ");\n")
    (.set .ocol0 c (frac (mul (ref .depth .x) (lit multiplier.value))))

/-- `WriteZ8Encoder(p, multiplier)`. -/
def writeZ8Encoder (multiplier : FloatLit) : Gen := fun st => st
  |> writeSwizzler h (h.code .GX_CTF_Z8M)
  |> WRITE " float depth;\n" .none
  |> writeSampleColor h [.b] (Var.whole .depth 1)
  |> fracLine multiplier .b
  |> writeIncrementSampleX
  |> writeSampleColor h [.b] (Var.whole .depth 1)
  |> fracLine multiplier .g
  |> writeIncrementSampleX
  |> writeSampleColor h [.b] (Var.whole .depth 1)
  |> fracLine multiplier .r
  |> writeIncrementSampleX
  |> writeSampleColor h [.b] (Var.whole .depth 1)
  |> fracLine multiplier .a
  |> writeEncoderEnd

/-- The digit extraction the depth encoders share: `depth` scaled to 24 bits,
its top byte to `expanded.r` and its middle byte to `expanded.g`. -/
@[simp] def extractDigits : Gen := fun st => st
  |> WRITE "  depth *= 16777215.0f;\n" (.set .depth .x (mul (ref .depth .x) (lit 16777215)))
  |> WRITE "  expanded.r = floor(depth / (256.0f * 256.0f));\n"
      (.set .expanded .r (floor (div (ref .depth .x) (mul (lit 256) (lit 256)))))
  |> WRITE "  depth -= expanded.r * 256.0f * 256.0f;\n"
      (.set .depth .x (sub (ref .depth .x) (mul (mul (ref .expanded .r) (lit 256)) (lit 256))))
  |> WRITE "  expanded.g = floor(depth / 256.0f);\n"
      (.set .expanded .g (floor (div (ref .depth .x) (lit 256))))

/-- `ocol0.c = expanded.d / 255.0f`. -/
@[simp] def byteOutLine (c d : Comp) : Gen :=
  WRITE ("  ocol0." ++ swizzleText [c] ++ " = expanded." ++ swizzleText [d] ++ " / 255.0f;\n")
    (.set .ocol0 c (div (ref .expanded d) (lit 255)))

/-- `writeZ16Encoder`. -/
def writeZ16Encoder : Gen := fun st => st
  |> writeSwizzler h (h.code .GX_TF_Z16)
  |> WRITE "  float depth;\n" .none
  |> WRITE "  float3 expanded;\n" .none
  |> writeSampleColor h [.b] (Var.whole .depth 1)
  |> extractDigits
  |> byteOutLine .b .g
  |> byteOutLine .g .r
  |> writeIncrementSampleX
  |> writeSampleColor h [.b] (Var.whole .depth 1)
  |> extractDigits
  |> byteOutLine .r .g
  |> byteOutLine .a .r
  |> writeEncoderEnd

/-- The low byte, which only `writeZ16LEncoder` goes on to extract. -/
@[simp] def extractLowDigit : Gen := fun st => st
  |> WRITE "  depth -= expanded.g * 256.0f;\n"
      (.set .depth .x (sub (ref .depth .x) (mul (ref .expanded .g) (lit 256))))
  |> WRITE "  expanded.b = depth;\n" (.set .expanded .b (ref .depth .x))

/-- `writeZ16LEncoder`. -/
def writeZ16LEncoder : Gen := fun st => st
  |> writeSwizzler h (h.code .GX_CTF_Z16L)
  |> WRITE "  float depth;\n" .none
  |> WRITE "  float3 expanded;\n" .none
  |> writeSampleColor h [.b] (Var.whole .depth 1)
  |> extractDigits
  |> extractLowDigit
  |> byteOutLine .b .b
  |> byteOutLine .g .g
  |> writeIncrementSampleX
  |> writeSampleColor h [.b] (Var.whole .depth 1)
  |> extractDigits
  |> extractLowDigit
  |> byteOutLine .r .b
  |> byteOutLine .a .g
  |> writeEncoderEnd

/-- `depth%i` and `expanded%i` of the `Z24X8` loop. -/
@[simp] def depthVar : ℕ → Var
  | 0 => .depth0
  | _ => .depth1

/-- `expanded%i`. -/
@[simp] def expandedVar : ℕ → Var
  | 0 => .expanded0
  | _ => .expanded1

/-- One pass of `writeZ24Encoder`'s loop: the three bytes of `depth%i`. -/
@[simp] def z24Digits (i : ℕ) : Gen := fun st =>
  let n := toString i
  let d := depthVar i
  let e := expandedVar i
  st
  |> WRITE ("  depth" ++ n ++ " *= 16777215.0f;\n") (.set d .x (mul (ref d .x) (lit 16777215)))
  |> WRITE ("  expanded" ++ n ++ ".r = floor(depth" ++ n ++ " / (256.0f * 256.0f));\n")
      (.set e .r (floor (div (ref d .x) (mul (lit 256) (lit 256)))))
  |> WRITE ("  depth" ++ n ++ " -= expanded" ++ n ++ ".r * 256.0f * 256.0f;\n")
      (.set d .x (sub (ref d .x) (mul (mul (ref e .r) (lit 256)) (lit 256))))
  |> WRITE ("  expanded" ++ n ++ ".g = floor(depth" ++ n ++ " / 256.0f);\n")
      (.set e .g (floor (div (ref d .x) (lit 256))))
  |> WRITE ("  depth" ++ n ++ " -= expanded" ++ n ++ ".g * 256.0f;\n")
      (.set d .x (sub (ref d .x) (mul (ref e .g) (lit 256))))
  |> WRITE ("  expanded" ++ n ++ ".b = depth" ++ n ++ ";\n") (.set e .b (ref d .x))

/-- `writeZ24Encoder`. -/
def writeZ24Encoder : Gen := fun st => st
  |> write32BitSwizzler h (h.code .GX_TF_Z24X8)
  |> WRITE "  float cl = xb - (halfxb * 2.0f);\n"
      (.set .cl .x (sub (ref .xb .x) (mul (ref .halfxb .x) (lit 2))))
  |> WRITE "  float depth0;\n" .none
  |> WRITE "  float depth1;\n" .none
  |> WRITE "  float3 expanded0;\n" .none
  |> WRITE "  float3 expanded1;\n" .none
  |> writeSampleColor h [.b] (Var.whole .depth0 1)
  |> writeIncrementSampleX
  |> writeSampleColor h [.b] (Var.whole .depth1 1)
  |> fun st => (List.range 2).foldl (fun st i => z24Digits i st) st
  |> WRITE "  if(cl > 0.5f) \x7b\n" (.ifOpen ⟨ref .cl .x, lit (1 / 2)⟩)
  |> WRITE "     ocol0.b = expanded0.g / 255.0f;\n"
      (.set .ocol0 .b (div (ref .expanded0 .g) (lit 255)))
  |> WRITE "     ocol0.g = expanded0.b / 255.0f;\n"
      (.set .ocol0 .g (div (ref .expanded0 .b) (lit 255)))
  |> WRITE "     ocol0.r = expanded1.g / 255.0f;\n"
      (.set .ocol0 .r (div (ref .expanded1 .g) (lit 255)))
  |> WRITE "     ocol0.a = expanded1.b / 255.0f;\n"
      (.set .ocol0 .a (div (ref .expanded1 .b) (lit 255)))
  |> WRITE "  \x7d else \x7b\n" .ifElse
  |> WRITE "     ocol0.b = 1.0f;\n" (.set .ocol0 .b (lit 1))
  |> WRITE "     ocol0.g = expanded0.r / 255.0f;\n"
      (.set .ocol0 .g (div (ref .expanded0 .r) (lit 255)))
  |> WRITE "     ocol0.r = 1.0f;\n" (.set .ocol0 .r (lit 1))
  |> WRITE "     ocol0.a = expanded1.r / 255.0f;\n"
      (.set .ocol0 .a (div (ref .expanded1 .r) (lit 255)))
  |> WRITE "  \x7d\n" .ifClose
  |> writeEncoderEnd

/-- The encoder each `case` of `generateEncodingShader`'s switch calls, with the
component strings it passes (`"ar"` is `[.a, .r]`). -/
def encoderFor : Format → Gen
  | .GX_TF_I4 => writeI4Encoder h
  | .GX_TF_I8 => writeI8Encoder h
  | .GX_TF_IA4 => writeIA4Encoder h
  | .GX_TF_IA8 => writeIA8Encoder h
  | .GX_TF_RGB565 => writeRGB565Encoder h
  | .GX_TF_RGB5A3 => writeRGB5A3Encoder h
  | .GX_TF_RGBA8 => writeRGBA8Encoder h
  | .GX_CTF_R4 => writeC4Encoder h [.r]
  | .GX_CTF_RA4 => writeCC4Encoder h [.a, .r]
  | .GX_CTF_RA8 => writeCC8Encoder h [.a, .r]
  | .GX_CTF_A8 => writeC8Encoder h [.a]
  | .GX_CTF_R8 => writeC8Encoder h [.r]
  | .GX_CTF_G8 => writeC8Encoder h [.g]
  | .GX_CTF_B8 => writeC8Encoder h [.b]
  | .GX_CTF_RG8 => writeCC8Encoder h [.r, .g]
  | .GX_CTF_GB8 => writeCC8Encoder h [.g, .b]
  | .GX_TF_Z8 => writeC8Encoder h [.b]
  | .GX_TF_Z16 => writeZ16Encoder h
  | .GX_TF_Z24X8 => writeZ24Encoder h
  | .GX_CTF_Z4 => writeC4Encoder h [.b]
  | .GX_CTF_Z8M => writeZ8Encoder h ⟨"256.0f", 256⟩
  | .GX_CTF_Z8L => writeZ8Encoder h ⟨"65536.0f", 65536⟩
  | .GX_CTF_Z16L => writeZ16LEncoder h

end Encoders

/-- The format whose tables the encoder of `f` passes to its swizzler: each
encoder hard-codes one (`writeC8Encoder` always passes `GX_CTF_R8`). -/
def swizzlerFormat : Format → Format
  | .GX_CTF_A8 | .GX_CTF_R8 | .GX_CTF_G8 | .GX_CTF_B8 | .GX_TF_Z8 => .GX_CTF_R8
  | .GX_CTF_R4 | .GX_CTF_Z4 => .GX_CTF_R4
  | .GX_CTF_RA8 | .GX_CTF_RG8 | .GX_CTF_GB8 => .GX_CTF_RA8
  | .GX_CTF_Z8M | .GX_CTF_Z8L => .GX_CTF_Z8M
  | f => f

end ShaderGen
