import ShaderGen.Printf

/-!
# `char` arrays, `sprintf` and `ShaderCode`

The generators build their text with `sprintf` and `vsprintf` into `char`
arrays: `TextureConversionShaderDX` into its static `text`, a `ShaderCode`
(`VideoCommon/ShaderGenCommon.h`) into the buffer given to `setBuffer`.  Each call
stores the characters of its result and a terminating NUL at the write pointer
and returns the number of characters, by which the pointer advances; whoever
reads the array takes the characters before the first NUL.

A `Char` stands for one `char`: every text the generators write is ASCII, one
byte a character, so a string's `length` is the number of bytes `sprintf`
stores and returns.

## Main definitions

* `Chars` — the contents of a `char` array, by index.
* `overlay` — a list of characters stored from an index on.
* `sprintfAt` — one `sprintf` into an array of `size` characters; `none` for a
  write past the end of the array, which C leaves undefined.
* `sprintfChain` — `p += sprintf(p, …)` for each piece in turn.
* `readCString` — the C string at an index.
* `ShaderCode` — the writer class, with `write`, `getBuffer`, `setBuffer` and
  `bufferSize`; `Common.writeLocation`, `Common.writeRegister` and
  `Common.declareUniform` — the templates that write a uniform's declaration
  through it.

## Main results

* `sprintfChain_cons` — consecutive writes leave the concatenation of the pieces and
  one NUL, and fail exactly when that NUL would fall past the array.
* `readCString_overlay` — the text read back is what was stored, up to its first
  NUL.
* `ShaderCode.writes_read_back` — after `setBuffer` and any number of `write`s,
  `getBuffer` holds their concatenation and `bufferSize` is its length.
-/

namespace ShaderGen

/-- The contents of a `char` array, by index. -/
abbrev Chars := ℕ → Char

/-- `cs` stored from index `p` on, the rest of `buf` unchanged. -/
def overlay (buf : Chars) (p : ℕ) (cs : List Char) : Chars := fun i =>
  if p ≤ i ∧ i < p + cs.length then cs.getD (i - p) '\x00' else buf i

/-- `sprintf(buf + p, …)` whose result is `s`, into an array of `size`
characters: the characters of `s` and a NUL from `p` on, or `none` when the NUL
would fall at or past `size`. -/
def sprintfAt (size : ℕ) (buf : Chars) (p : ℕ) (s : String) : Option Chars :=
  if p + s.length < size then some (overlay buf p (s.toList ++ ['\x00'])) else none

/-- `p += sprintf(p, …)` for each piece in turn, from `p`. -/
def sprintfChain (size : ℕ) : Chars → ℕ → List String → Option Chars
  | buf, _, [] => some buf
  | buf, p, s :: ss => (sprintfAt size buf p s).bind fun buf => sprintfChain size buf (p + s.length) ss

/-- The characters of the pieces, one after the other. -/
def joined (ss : List String) : List Char := (ss.map String.toList).flatten

@[simp] theorem length_toList (s : String) : s.toList.length = s.length := rfl

@[simp] theorem joined_nil : joined [] = [] := rfl

@[simp] theorem joined_cons (s : String) (ss : List String) :
    joined (s :: ss) = s.toList ++ joined ss := rfl

/-- The C string at index `i`: the characters before the first NUL, reading at
most `n`. -/
def readCString (buf : Chars) : ℕ → ℕ → List Char
  | 0, _ => []
  | n + 1, i => if buf i = '\x00' then [] else buf i :: readCString buf n (i + 1)

/-! ## Consecutive writes -/

/-- A store that begins on the last character of the previous one overwrites it:
the NUL a `sprintf` leaves is replaced by the next piece. -/
theorem overlay_overlay (buf : Chars) (p : ℕ) (a : List Char) (c : Char) {b : List Char}
    (hb : b ≠ []) : overlay (overlay buf p (a ++ [c])) (p + a.length) b = overlay buf p (a ++ b) := by
  have hb' := List.length_pos.2 hb
  funext i
  simp only [overlay, List.length_append, List.length_singleton]
  by_cases h1 : p + a.length ≤ i ∧ i < p + a.length + b.length
  · rw [if_pos h1, if_pos (by omega), List.getD_append_right _ _ _ _ (by omega), Nat.sub_sub]
  rw [if_neg h1]
  by_cases h2 : p ≤ i ∧ i < p + a.length
  · rw [if_pos (by omega), if_pos (by omega), List.getD_append _ _ _ _ (by omega),
      List.getD_append _ _ _ _ (by omega)]
  · rw [if_neg (by omega), if_neg (by omega)]

/-- **Consecutive `sprintf`s.**  Writing the pieces `s :: ss` from `p` leaves
their characters and one NUL from `p` on, and fails exactly when that NUL would
fall past the array. -/
theorem sprintfChain_cons (size : ℕ) (buf : Chars) (p : ℕ) (s : String) (ss : List String) :
    sprintfChain size buf p (s :: ss) =
      if p + (joined (s :: ss)).length < size then
        some (overlay buf p (joined (s :: ss) ++ ['\x00']))
      else none := by
  induction ss generalizing s buf p with
  | nil => simp [sprintfChain, sprintfAt]
  | cons s' ss ih =>
    rw [sprintfChain, sprintfAt]
    by_cases hs : p + s.length < size
    · have hover := overlay_overlay buf p s.toList '\x00' (b := joined (s' :: ss) ++ ['\x00']) (by simp)
      rw [length_toList] at hover
      rw [if_pos hs, Option.some_bind, ih, hover]
      simp only [joined_cons, List.length_append, length_toList, List.append_assoc, Nat.add_assoc]
    · rw [if_neg hs, Option.none_bind, if_neg]
      simp only [joined_cons, List.length_append, length_toList]
      omega

/-- A stored string followed by a NUL reads back as itself, up to its own first
NUL. -/
theorem readCString_of_stored {buf : Chars} {i n : ℕ} {cs : List Char}
    (hcs : ∀ j < cs.length, buf (i + j) = cs.getD j '\x00') (hnul : buf (i + cs.length) = '\x00')
    (hn : cs.length < n) : readCString buf n i = cs.takeWhile (· != '\x00') := by
  induction cs generalizing i n with
  | nil =>
    obtain ⟨m, rfl⟩ : ∃ m, n = m + 1 := ⟨n - 1, by omega⟩
    simpa [readCString] using hnul
  | cons c cs ih =>
    obtain ⟨m, rfl⟩ : ∃ m, n = m + 1 := ⟨n - 1, by omega⟩
    have hc : buf i = c := by simpa using hcs 0 (by simp)
    rw [readCString, hc, List.takeWhile_cons]
    by_cases h0 : c = '\x00'
    · simp [h0]
    rw [if_neg h0, ih (fun j hj => by
        simpa [Nat.add_assoc, Nat.add_comm 1] using hcs (j + 1) (by simp; omega))
      (by simpa [Nat.add_assoc, Nat.add_comm 1] using hnul) (by simp at hn; omega)]
    simp [h0]

/-- **Read-back.**  The C string at `p` after storing `cs` and a NUL there is `cs`
up to its first NUL. -/
theorem readCString_overlay (buf : Chars) (p : ℕ) (cs : List Char) {n : ℕ} (hn : cs.length < n) :
    readCString (overlay buf p (cs ++ ['\x00'])) n p = cs.takeWhile (· != '\x00') :=
  readCString_of_stored
    (fun j hj => by
      simp only [overlay, List.length_append, List.length_singleton, Nat.add_sub_cancel_left,
        if_pos (show p ≤ p + j ∧ p + j < p + (cs.length + 1) by omega), List.getD_append _ _ _ _ hj])
    (by simp [overlay, List.getD_append_right]) hn

/-! ## `ShaderCode` -/

/-- A `ShaderCode`: its pointers `buf` and `write_ptr`, as indices of the memory
it writes into, `none` for `NULL`. -/
structure ShaderCode where
  buf : Option ℕ
  write_ptr : Option ℕ

namespace ShaderCode

/-- `ShaderCode() : buf(NULL), write_ptr(NULL)`. -/
def new : ShaderCode := ⟨none, none⟩

/-- `SetBuffer(buffer)`: `buf = buffer; write_ptr = buffer;`. -/
def setBuffer (_c : ShaderCode) (buffer : ℕ) : ShaderCode := ⟨some buffer, some buffer⟩

/-- `GetBuffer()`. -/
def getBuffer (c : ShaderCode) : Option ℕ := c.buf

/-- `BufferSize()`: `write_ptr - buf`. -/
def bufferSize (c : ShaderCode) : ℤ := (c.write_ptr.getD 0 : ℤ) - c.buf.getD 0

/-- `Write(fmt, …)` whose text is `s`: `write_ptr += vsprintf(write_ptr, fmt, …)`
into `mem`, an array of `size` characters; `none` through a `NULL` pointer or
past the end of the array. -/
def write (size : ℕ) (mem : Chars) (c : ShaderCode) (s : String) : Option (Chars × ShaderCode) :=
  c.write_ptr.bind fun w =>
    (sprintfAt size mem w s).map fun mem => (mem, { c with write_ptr := some (w + s.length) })

/-- `write` for each piece in turn. -/
def writeAll (size : ℕ) (mem : Chars) (c : ShaderCode) : List String → Option (Chars × ShaderCode)
  | [] => some (mem, c)
  | s :: ss => (c.write size mem s).bind fun r => writeAll size r.1 r.2 ss

/-- The `write`s of a `ShaderCode` are the `sprintf` chain from its write pointer. -/
theorem writeAll_eq (size : ℕ) (mem : Chars) {c : ShaderCode} {w : ℕ} (hw : c.write_ptr = some w)
    (ss : List String) :
    c.writeAll size mem ss =
      (sprintfChain size mem w ss).map fun mem => (mem, { c with write_ptr := some (w + (joined ss).length) }) := by
  induction ss generalizing mem c w with
  | nil => cases c; simp_all [writeAll, sprintfChain]
  | cons s ss ih =>
    simp only [writeAll, write, hw, Option.some_bind, sprintfChain]
    cases sprintfAt size mem w s with
    | none => rfl
    | some mem' =>
      simp only [Option.map_some', Option.some_bind]
      rw [ih mem' rfl]
      simp [Nat.add_assoc]

/-- **What a `ShaderCode` holds.**  After `SetBuffer(buffer)` and the `write`s of
the pieces `s :: ss` into an array of `size` characters, `GetBuffer()` is
`buffer`, the C string there is the pieces' concatenation up to its first NUL,
and `BufferSize()` is the concatenation's length; the writes are defined exactly
when the concatenation and its NUL fit before the end of the array. -/
theorem writes_read_back (size : ℕ) (mem : Chars) (buffer : ℕ) (s : String) (ss : List String) :
    ((new.setBuffer buffer).writeAll size mem (s :: ss)).map
        (fun r => (readCString r.1 (size - buffer) buffer, r.2.getBuffer, r.2.bufferSize)) =
      if buffer + (joined (s :: ss)).length < size then
        some ((joined (s :: ss)).takeWhile (· != '\x00'), some buffer, ((joined (s :: ss)).length : ℤ))
      else none := by
  rw [writeAll_eq size mem (c := new.setBuffer buffer) rfl, sprintfChain_cons]
  split_ifs with hfit
  · have hn : (joined (s :: ss)).length < size - buffer := by omega
    simp only [Option.map_some', readCString_overlay _ _ _ hn]
    simp [getBuffer, bufferSize, setBuffer]
  · rfl

/-- A `write` before `setBuffer` goes through `NULL`. -/
theorem write_new (size : ℕ) (mem : Chars) (s : String) : new.write size mem s = none := rfl

end ShaderCode

/-! ## Declaring a uniform through a writer -/

namespace Common

/-- `WriteRegister<T, api_type>(object, prefix, num)`: what it passes to
`object.Write` — nothing for `API_OPENGL`, else `" : register(%s%d)"` with the
`u32` number through `%d`. -/
def writeRegister (opengl : Bool) (registerPrefix : String) (num : ℕ) : List String :=
  if opengl then [] else [" : register(" ++ registerPrefix ++ printfDu32 num ++ ")"]

/-- `WriteLocation<T, api_type>(object)`: nothing for `API_OPENGL`, else
`"uniform "`. -/
def writeLocation (opengl : Bool) : List String :=
  if opengl then [] else ["uniform "]

/-- `DeclareUniform<T, api_type>(object, num, type, name)`: the location, the
type and name, the register and `";\n"`. -/
def declareUniform (opengl : Bool) (num : ℕ) (type name : String) : List String :=
  writeLocation opengl ++ [type ++ " " ++ name ++ " "] ++ writeRegister opengl "c" num ++ [";\n"]

end Common

end ShaderGen
