import ShaderGen.Uid
import ShaderGen.StdMap
import ShaderGen.Printf

/-!
# The uid checker

`UidChecker<UidT, CodeT>` (`VideoCommon/ShaderGenCommon.h`) remembers, for every
uid it has seen since the last `invalidate`, the shader text first generated for
it, and reports a *uid mismatch* — an `ERROR_LOG` line and a dump file — when a
uid comes back with different text.

## Main definitions

* `UidChecker` — the two containers: `m_shaders`, a `std::map` ordered by
  `operator<`, and `m_uids`, a `std::vector` searched with `std::find`.
* `UidChecker.addToIndexAndCheck`, `UidChecker.invalidate` — the two members.
* `uidDumpLoop` — the loop that writes the uid's 32-bit words into the dump file.
* `CheckerSystem` — the checkers of one template instantiation together with the
  instantiation's `static int num_failures`, which they share.

## Design notes

`CodeT` enters only through `GetBuffer()`, read as a C string; the model takes
that string.  `strcmp(a, b) != 0` on two C strings is `a ≠ b`.  `num_failures`
is a 32-bit `int`, kept as `BitVec 32`; `++num_failures` past `INT_MAX` is
undefined in C++, and the model lets it wrap as the hardware does.

The dump path is `sprintf`ed into `char szTemp[MAX_PATH]`.  The model takes that
`sprintf` to be defined: it assumes the dump directory, `dump_prefix` and the
number fit, with their NUL, in `MAX_PATH` characters.  A longer path writes past
`szTemp`, which C leaves undefined and the model does not cover (`sprintfAt` in
`ShaderGen.Buffer` is this `sprintf` with the bound explicit).

The dump reads `((u32*)&new_uid.GetUidData())[i]` for every `i` below
`GetUidDataSize()`, the record's size in *bytes*.  Words past the record read
whatever memory follows it, given as `beyond`; words are little-endian.
`uid_dump_reads_past_record` evaluates the loop on a four-byte record.
-/

namespace ShaderGen

/-! ## The uid dump -/

/-- The 32-bit word `((u32*)mem)[i]`, little-endian. -/
def wordAt (mem : ℕ → UInt8) (i : ℕ) : ℕ :=
  (mem (4 * i)).toNat + 256 * (mem (4 * i + 1)).toNat + 65536 * (mem (4 * i + 2)).toNat +
    16777216 * (mem (4 * i + 3)).toNat

/-- What one iteration of the dump loop writes for word `i` holding `value`: the
`Values a - b: ` header at the start of every group of four, the word as eight
hex digits, and a space or `std::endl`. -/
def dumpPiece (size i value : ℕ) : String :=
  (if i % 4 = 0 then
    "Values " ++ padLeft 2 ' ' (toString i) ++ " - " ++
      toString (if i + 3 < size - 1 then i + 3 else size) ++ ": "
  else "") ++
  padLeft 8 '0' (hexDigits value) ++ (if i % 4 < 3 then " " else "\n")

/-- The loop `for (i = 0; i < GetUidDataSize(); ++i)`: each iteration's word
index, read through `word`, with what it writes. -/
def uidDumpLoop (size : ℕ) (word : ℕ → ℕ) : List (ℕ × String) :=
  (List.range size).map fun i => (i, dumpPiece size i (word i))

/-- The loop reads one word for every *byte* of the record. -/
theorem uidDumpLoop_reads (size : ℕ) (word : ℕ → ℕ) :
    (uidDumpLoop size word).map Prod.fst = List.range size := by
  simp [uidDumpLoop, Function.comp_def]

/-- **The dump reads past the record.**  For every record of `size ≥ 4` bytes
the loop reads word `size / 4`, whose bytes end at `4 * (size / 4 + 1) > size`,
and it prints `size` words rather than `size / 4`.  On a four-byte record the
single header reads `Values  0 - 4: ` over words `0` to `3`, of which only word
`0` is inside the record. -/
theorem uid_dump_reads_past_record :
    (∀ (size : ℕ) (word : ℕ → ℕ), 4 ≤ size →
      size / 4 ∈ (uidDumpLoop size word).map Prod.fst ∧ size < 4 * (size / 4 + 1) ∧
        ((uidDumpLoop size word).map Prod.fst).length = size) ∧
    (uidDumpLoop 4 fun _ => 0).map Prod.snd =
      ["Values  0 - 4: 00000000 ", "00000000 ", "00000000 ", "00000000\n"] := by
  refine ⟨fun size word h => ?_, by decide⟩
  rw [uidDumpLoop_reads]
  refine ⟨List.mem_range.mpr (by omega), by omega, List.length_range size⟩

/-! ## The checker -/

variable {L : UidLayout}

namespace ShaderUid

/-- The bytes from `&GetUidData()` on: the record, then whatever follows it. -/
def memory (u : ShaderUid L) (beyond : ℕ → UInt8) (j : ℕ) : UInt8 :=
  u.values.getD j (beyond j)

end ShaderUid

/-- The map's comparator, `UidT::operator<`. -/
def uidLt (u v : ShaderUid L) : Bool := u.operatorLt v

/-- `UidChecker<UidT, CodeT>`'s members `m_shaders` and `m_uids`. -/
structure UidChecker (L : UidLayout) where
  m_shaders : StdMap (ShaderUid L) String
  m_uids : List (ShaderUid L)

/-- What a reported mismatch produces: the counter value it used, the dump
file's path and contents, and the `ERROR_LOG` line. -/
structure Mismatch where
  num_failures : BitVec 32
  path : String
  file : String
  log : String

namespace UidChecker

/-- `invalidate`: clear both containers. -/
def invalidate (_c : UidChecker L) : UidChecker L := ⟨[], []⟩

/-- `std::find(m_uids.begin(), m_uids.end(), new_uid) != m_uids.end()`. -/
def uidIsIndexed (c : UidChecker L) (new_uid : ShaderUid L) : Bool :=
  c.m_uids.any fun u => u.operatorEq new_uid

/-- The report of a mismatch between `old_code` and `new_code` under `new_uid`,
numbered `num_failures`: the path `sprintf` builds into `szTemp`, the dump file
and the `ERROR_LOG` line. -/
def mismatchReport (userDumpPath : String) (num_failures : BitVec 32) (old_code new_code : String)
    (new_uid : ShaderUid L) (beyond : ℕ → UInt8) (shader_type dump_prefix : String) :
    Mismatch :=
  let szTemp := userDumpPath ++ dump_prefix ++ "suid_mismatch_" ++
    printf04i num_failures.toInt ++ ".txt"
  { num_failures
    path := szTemp
    file := "Old shader code:\n" ++ old_code ++ "\n\nNew shader code:\n" ++ new_code ++
      "\n\nShader uid:\n" ++
      String.join ((uidDumpLoop L.size (wordAt (new_uid.memory beyond))).map Prod.snd)
    log := shader_type ++ " shader uid mismatch! See " ++ szTemp ++ " for details" }

/-- `AddToIndexAndCheck(new_code, new_uid, shader_type, dump_prefix)`, reading
the instantiation's counter `num_failures`, the user's dump directory and the
memory `beyond` the uid record: the checker and counter afterwards, and the
mismatch reported, if any. -/
def addToIndexAndCheck (c : UidChecker L) (num_failures : BitVec 32) (userDumpPath : String)
    (new_code : String) (new_uid : ShaderUid L) (beyond : ℕ → UInt8)
    (shader_type dump_prefix : String) : UidChecker L × BitVec 32 × Option Mismatch :=
  if !c.uidIsIndexed new_uid then
    (⟨StdMap.assign uidLt new_uid new_code c.m_shaders, c.m_uids ++ [new_uid]⟩, num_failures,
      none)
  else
    let (m_shaders, old_code) := StdMap.subscript uidLt new_uid "" c.m_shaders
    if old_code = new_code then (⟨m_shaders, c.m_uids⟩, num_failures, none)
    else
      (⟨m_shaders, c.m_uids⟩, num_failures + 1,
        some (mismatchReport userDumpPath (num_failures + 1) old_code new_code new_uid beyond
          shader_type dump_prefix))

end UidChecker

/-! ## The checkers of one instantiation -/

/-- One call on one of the checkers. -/
inductive CheckerCall (L : UidLayout) (ι : Type)
  | invalidate (checker : ι)
  | addToIndexAndCheck (checker : ι) (new_code : String) (new_uid : ShaderUid L)
      (beyond : ℕ → UInt8) (shader_type dump_prefix : String)

/-- The checkers of one `UidChecker<UidT, CodeT>` instantiation, indexed by `ι`,
and its `static int num_failures`. -/
structure CheckerSystem (L : UidLayout) (ι : Type) where
  checkers : ι → UidChecker L
  num_failures : BitVec 32

namespace CheckerSystem

variable {ι : Type} [DecidableEq ι] (userDumpPath : String)

/-- One call: the system afterwards and the mismatch reported, if any. -/
def step (s : CheckerSystem L ι) : CheckerCall L ι → CheckerSystem L ι × Option Mismatch
  | .invalidate i => (⟨Function.update s.checkers i (s.checkers i).invalidate, s.num_failures⟩, none)
  | .addToIndexAndCheck i new_code new_uid beyond shader_type dump_prefix =>
    let r := (s.checkers i).addToIndexAndCheck s.num_failures userDumpPath new_code new_uid beyond
      shader_type dump_prefix
    (⟨Function.update s.checkers i r.1, r.2.1⟩, r.2.2)

/-- A run of calls: the system afterwards and each call's mismatch, if any. -/
def run : CheckerSystem L ι → List (CheckerCall L ι) → CheckerSystem L ι × List (Option Mismatch)
  | s, [] => (s, [])
  | s, call :: calls =>
    let r := s.step userDumpPath call
    let rest := run r.1 calls
    (rest.1, r.2 :: rest.2)

end CheckerSystem

end ShaderGen
