import ShaderGen.Encoders
import ShaderGen.Buffer

/-!
# `GenerateEncodingShader`: the dispatcher and its static buffer

`GenerateEncodingShader(format)` stores the canary `0x7C` in the last byte of the
static `char text[16384]`, lets the `case` whose label is `format` write its
encoder's shader from `text` on (the `default` branch writes nothing and raises a
`PanicAlert`), raises a second `PanicAlert` when the canary is gone, and returns
`text`.  `text` and the generator's two statics live for the whole process, so a
call starts from what the previous ones left.

## Main definitions

* `Process` — the process-wide state: `text`, `IntensityConstantAdded` and
  `s_incrementSampleXCount`; `Process.initial` — all zero.
* `Headers.decode` — the `case` a code selects.
* `switchCase` — what the selected `case` writes, and the statics after it.
* `generateEncodingShader` — one call: the new state and the `PanicAlert`s;
  `none` when the text runs past `text`, which C leaves undefined.
* `runCalls` — a sequence of calls.

## Main results

* `canary_detects_only_exact_fill` — the canary check fires exactly when the
  text is `16383` characters long: any longer text has already written past
  `text` before the check runs.
* `handled_format_returns_its_text` — for every format of the switch, the string
  returned is the text its encoder writes, whatever the buffer held before.

## Design notes

The encoders write their lines into `text` one `sprintf` at a time while they
update the statics; the text they write never depends on what `text` holds, so
the model runs the encoder on the statics first and then writes its lines with
`sprintfChain`.  The `C` locale installed around the switch is the one `printfF`
prints in.
-/

namespace ShaderGen

/-- `sizeof(text)`. -/
def textSize : ℕ := 16384

/-- The canary `0x7C`. -/
def canary : Char := '|'

/-- The message of the canary check's `PanicAlert`. -/
def canaryEaten : String :=
  "TextureConversionShader generator - buffer too small, canary has been eaten!"

/-- The process-wide state the dispatcher reads and writes. -/
structure Process where
  text : Chars
  IntensityConstantAdded : Bool
  s_incrementSampleXCount : ℕ

/-- The string a call returns: `text`, read as a C string. -/
def Process.returned (s : Process) : List Char := readCString s.text textSize 0

/-- The `case` whose label is `format`, if any. -/
def Headers.decode (h : Headers) (format : ℕ) : Option Format :=
  Format.all.find? fun f => h.code f = format

/-- The switch selects a format's own `case`: the labels are distinct. -/
theorem Headers.decode_code (h : Headers) (f : Format) : h.decode (h.code f) = some f := by
  cases hfind : h.decode (h.code f) with
  | none =>
    rw [Headers.decode, List.find?_eq_none] at hfind
    exact absurd (by simp) (hfind f (Format.mem_all f))
  | some g =>
    have hg : h.code g = h.code f := by simpa using List.find?_some hfind
    rw [List.inj_on_of_nodup_map h.codes_nodup (Format.mem_all g) (Format.mem_all f) hg]

/-- What the `case` for `format` leaves: the encoder the switch calls, run from
the statics as the process holds them; the `default` branch writes nothing. -/
def switchCase (h : Headers) (s : Process) (format : ℕ) : GenState :=
  let st : GenState := ⟨[], s.IntensityConstantAdded, s.s_incrementSampleXCount⟩
  match h.decode format with
  | some f => encoderFor h f st
  | none => st

/-- The `PanicAlert` of the `default` branch, `"Unknown texture copy format: 0x%x\n"`. -/
def unknownFormatAlert (h : Headers) (format : ℕ) : List String :=
  match h.decode format with
  | some _ => []
  | none => ["Unknown texture copy format: 0x" ++ hexDigits format ++ "\n"]

/-- `GenerateEncodingShader(format)`: the state after the call and the
`PanicAlert`s it raised, in order; `none` when a `sprintf` writes past `text`. -/
def generateEncodingShader (h : Headers) (s : Process) (format : ℕ) :
    Option (Process × List String) :=
  let text := Function.update s.text (textSize - 1) canary
  let st := switchCase h s format
  (sprintfChain textSize text 0 (st.out.map Line.text)).map fun text =>
    (⟨text, st.IntensityConstantAdded, st.s_incrementSampleXCount⟩,
      unknownFormatAlert h format ++ if text (textSize - 1) ≠ canary then [canaryEaten] else [])

/-- A sequence of calls: the final state and, for each call, its `PanicAlert`s
and the string it returned. -/
def runCalls (h : Headers) : Process → List ℕ → Option (Process × List (List String × List Char))
  | s, [] => some (s, [])
  | s, format :: formats =>
    (generateEncodingShader h s format).bind fun r =>
      (runCalls h r.1 formats).map fun rest => (rest.1, (r.2, r.1.returned) :: rest.2)

/-! ## Every encoder ends with `writeEncoderEnd` -/

/-- Each `case` calls an encoder whose last step is `writeEncoderEnd`. -/
theorem encoderFor_ends (h : Headers) (f : Format) (st : GenState) :
    ∃ st', encoderFor h f st = writeEncoderEnd st' := by
  cases f <;> exact ⟨_, rfl⟩

theorem encoderFor_out_ne_nil (h : Headers) (f : Format) (st : GenState) :
    (encoderFor h f st).out ≠ [] := by
  obtain ⟨st', hst⟩ := encoderFor_ends h f st
  simp [hst, WRITE]

/-! ## The statics across calls -/

/-- Both statics at their initial values. -/
def Process.Reset (s : Process) : Prop :=
  s.IntensityConstantAdded = false ∧ s.s_incrementSampleXCount = 0

/-- A `case` leaves the statics reset when they were: its encoder resets them in
`writeEncoderEnd`, the `default` branch does not touch them. -/
theorem switchCase_reset (h : Headers) {s : Process} (hs : s.Reset) (format : ℕ) :
    (switchCase h s format).IntensityConstantAdded = false ∧
      (switchCase h s format).s_incrementSampleXCount = 0 := by
  unfold switchCase
  split
  · obtain ⟨st', hst⟩ := encoderFor_ends h ‹_› ⟨[], s.IntensityConstantAdded, s.s_incrementSampleXCount⟩
    simp [hst]
  · exact hs

/-- One call keeps the statics reset. -/
theorem generateEncodingShader_reset (h : Headers) {s : Process} (hs : s.Reset) {format : ℕ}
    {r : Process × List String} (hr : generateEncodingShader h s format = some r) : r.1.Reset := by
  simp only [generateEncodingShader, Option.map_eq_some'] at hr
  obtain ⟨text, -, rfl⟩ := hr
  exact switchCase_reset h hs format

/-- Every run of calls from reset statics ends with them reset. -/
theorem runCalls_reset (h : Headers) {s : Process} (hs : s.Reset) {formats : List ℕ}
    {r : Process × List (List String × List Char)} (hr : runCalls h s formats = some r) :
    r.1.Reset := by
  induction formats generalizing s r with
  | nil => cases hr; exact hs
  | cons format formats ih =>
    simp only [runCalls, Option.bind_eq_some, Option.map_eq_some'] at hr
    obtain ⟨r₁, h₁, rest, hrest, rfl⟩ := hr
    show rest.1.Reset
    exact ih (generateEncodingShader_reset h hs h₁) hrest

/-! ## The canary -/

theorem canaryEaten_not_mem_unknownFormatAlert (h : Headers) (format : ℕ) :
    canaryEaten ∉ unknownFormatAlert h format := by
  unfold unknownFormatAlert
  split
  · simp
  · intro hmem
    have hhead := congrArg (fun s : String => s.data.head?) (List.mem_singleton.1 hmem)
    simp [canaryEaten, String.append] at hhead

/-- The last byte of `text` after a write that fits: the NUL when the text fills
all the bytes before it, else what it held. -/
theorem overlay_last (buf : Chars) {cs : List Char} (hfit : cs.length < textSize) :
    overlay buf 0 (cs ++ ['\x00']) (textSize - 1) =
      if cs.length = textSize - 1 then '\x00' else buf (textSize - 1) := by
  simp only [overlay, List.length_append, List.length_singleton, zero_le, true_and, zero_add,
    Nat.sub_zero]
  by_cases hL : cs.length = textSize - 1
  · rw [if_pos (by omega), if_pos hL, ← hL, List.getD_append_right _ _ _ _ le_rfl, Nat.sub_self,
      List.getD_cons_zero]
  · rw [if_neg (by omega), if_neg hL]

/-- **The canary only sees an exact fill.**  Let `L` be the length of the text
the selected `case` writes.  A call is defined exactly when `L < 16384`, and then
the canary check raises its `PanicAlert` exactly when `L = 16383`: a text of
`16384` characters or more has written past `text` before the check runs. -/
theorem canary_detects_only_exact_fill (h : Headers) (s : Process) (format : ℕ) :
    let L := (joined ((switchCase h s format).out.map Line.text)).length
    (generateEncodingShader h s format).map (fun r => decide (canaryEaten ∈ r.2)) =
      if L < textSize then some (decide (L = textSize - 1)) else none := by
  intro L
  have hcanary := canaryEaten_not_mem_unknownFormatAlert h format
  simp only [generateEncodingShader]
  cases hout : (switchCase h s format).out with
  | nil => simp [L, hout, sprintfChain, hcanary, textSize]
  | cons l ls =>
    have hL : L = (joined (l.text :: ls.map Line.text)).length := by simp only [L, hout, List.map_cons]
    rw [List.map_cons, sprintfChain_cons, zero_add, ← hL]
    split_ifs with hfit
    · simp only [Option.map_some', List.mem_append, hcanary, false_or, hL ▸ overlay_last _ (hL ▸ hfit),
        Function.update_same]
      by_cases hend : L = textSize - 1 <;> simp [hend, canary]
    · rfl

/-! ## The returned text -/

/-- **A handled format returns its own text.**  For every format of the switch
and every state of the process, the string returned is the text its encoder
writes from the statics as they were, up to its first NUL — nothing of a longer
text an earlier call left in `text` shows through — provided that text fits in
`text`; otherwise the call writes past it. -/
theorem handled_format_returns_its_text (h : Headers) (s : Process) (f : Format) :
    let T := joined ((encoderFor h f ⟨[], s.IntensityConstantAdded, s.s_incrementSampleXCount⟩).out.map
      Line.text)
    (generateEncodingShader h s (h.code f)).map (fun r => r.1.returned) =
      if T.length < textSize then some (T.takeWhile (· != '\x00')) else none := by
  intro T
  obtain ⟨l, ls, hout⟩ := List.exists_cons_of_ne_nil
    (encoderFor_out_ne_nil h f ⟨[], s.IntensityConstantAdded, s.s_incrementSampleXCount⟩)
  have hT : T = joined (l.text :: ls.map Line.text) := by simp only [T, hout, List.map_cons]
  simp only [generateEncodingShader, switchCase, h.decode_code f, hout, List.map_cons]
  rw [sprintfChain_cons, zero_add, ← hT]
  split_ifs with hfit
  · simp only [Option.map_some', Process.returned]
    exact congrArg some (readCString_overlay _ _ _ hfit)
  · rfl

end ShaderGen
