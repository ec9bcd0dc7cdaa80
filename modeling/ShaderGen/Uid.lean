import Mathlib

/-!
# Shader uids: the meaningful byte range, its order, and the memoised hash

`ShaderUid<uid_data>` (`VideoCommon/ShaderGenCommon.h`) keeps a generator's
configuration record in a union with a byte array and compares, orders and
hashes only the *meaningful* range `[StartValue(), StartValue() + NumValues())`
of those bytes.  This file models the class at byte level.

## Main definitions

* `UidLayout` — what a `uid_data` type fixes: its size and its meaningful range,
  which lies inside the record.
* `ShaderUid` — the record's bytes together with the memoised `HASH`.
* `memcmp` — the C library comparison on unsigned bytes.
* `ShaderUid.operatorEq`, `operatorNe`, `operatorLt` — the three member operators.
* `hashAdler32`, `ShaderUid.clearUID`, `ShaderUid.calculateUIDHash`,
  `ShaderUid.shaderUidHasher` — the hash and its lifecycle.

## Design notes

`memcmp` returns the difference of the first differing pair, as glibc does; the
operators only read its sign.  The operators compare `NumValues()` bytes from
`StartValue()` of *both* records with the layout of the left one, which is the
same layout here because the layout is a parameter of the type.

`clearUID` zeroes the bytes and leaves `HASH` alone; `calculateUIDHash` only
computes when `HASH` is `0`.  `reused_uid_keeps_stale_hash` evaluates what that
does to an object that goes through two clear/fill/hash cycles.
-/

namespace ShaderGen

/-- The byte layout of a `uid_data` type: `sizeof(uid_data)` and the meaningful
range `[StartValue(), StartValue() + NumValues())`, fixed by the type and inside
the record. -/
structure UidLayout where
  size : ℕ
  start : ℕ
  count : ℕ
  range_le : start + count ≤ size
  deriving DecidableEq, Repr

/-! ## `memcmp` -/

/-- `memcmp(p, q, n)` over unsigned bytes: the difference of the first differing
pair among the first `n`, and `0` when they all agree.  (A range that runs out
before `n` bytes reads as agreeing; the operators never get there.) -/
def memcmp : List UInt8 → List UInt8 → ℕ → ℤ
  | a :: as, b :: bs, n + 1 => if a = b then memcmp as bs n else (a.toNat : ℤ) - b.toNat
  | _, _, _ => 0

@[simp] theorem memcmp_zero (as bs : List UInt8) : memcmp as bs 0 = 0 := by
  cases as <;> cases bs <;> rfl

theorem memcmp_cons (a b : UInt8) (as bs : List UInt8) (n : ℕ) :
    memcmp (a :: as) (b :: bs) (n + 1) =
      if a = b then memcmp as bs n else (a.toNat : ℤ) - b.toNat := rfl

theorem memcmp_self (as : List UInt8) (n : ℕ) : memcmp as as n = 0 := by
  induction as generalizing n with
  | nil => cases n <;> rfl
  | cons a as ih => cases n <;> simp [memcmp, ih]

/-- Swapping the operands negates the result. -/
theorem memcmp_swap (as bs : List UInt8) (n : ℕ) : memcmp bs as n = -memcmp as bs n := by
  induction as generalizing bs n with
  | nil => cases bs <;> cases n <;> rfl
  | cons a as ih =>
    cases bs with
    | nil => cases n <;> rfl
    | cons b bs =>
      cases n with
      | zero => rfl
      | succ n =>
        by_cases hab : a = b
        · simp [memcmp_cons, hab, ih]
        · simp [memcmp_cons, hab, Ne.symm hab]

/-- `memcmp` is zero exactly when the first `n` bytes agree. -/
theorem memcmp_eq_zero_iff {as bs : List UInt8} {n : ℕ} (ha : n ≤ as.length)
    (hb : n ≤ bs.length) : memcmp as bs n = 0 ↔ as.take n = bs.take n := by
  induction as generalizing bs n with
  | nil => cases n <;> simp_all
  | cons a as ih =>
    cases bs with
    | nil => cases n <;> simp_all
    | cons b bs =>
      cases n with
      | zero => simp
      | succ n =>
        simp only [List.length_cons, Nat.add_le_add_iff_right] at ha hb
        by_cases hab : a = b
        · simp [memcmp_cons, hab, ih ha hb]
        · have hne : a.toNat ≠ b.toNat := fun h => hab (UInt8.toNat.inj h)
          simp only [memcmp_cons, hab, if_false, List.take_succ_cons, List.cons.injEq,
            false_and, iff_false]
          omega

/-- A negative `memcmp` is transitive: the first difference of `as` and `cs`
comes no later than the earlier of the two given ones. -/
theorem memcmp_neg_trans {as bs cs : List UInt8} {n : ℕ} (hab : memcmp as bs n < 0)
    (hbc : memcmp bs cs n < 0) : memcmp as cs n < 0 := by
  induction as generalizing bs cs n with
  | nil => cases bs <;> cases n <;> simp [memcmp] at hab
  | cons a as ih =>
    rcases bs with _ | ⟨b, bs⟩ <;> rcases cs with _ | ⟨c, cs⟩ <;> rcases n with _ | n <;>
      simp only [memcmp, lt_self_iff_false] at hab hbc ⊢
    by_cases e1 : a = b <;> by_cases e2 : b = c <;> simp only [e1, e2, if_true, if_false] at hab hbc
    · subst e1 e2; simpa using ih hab hbc
    · subst e1; simpa [e2] using hbc
    · subst e2; simpa [e1] using hab
    · have hac : a ≠ c := fun h => by subst h; omega
      simp only [hac, if_false]; omega

/-- Modelled from the spec: `hashAdler32` (`Common/Hash`, not among the sources)
is Adler-32 — two running sums modulo 65521, the first starting at `1`, combined
as `(sum2 << 16) | sum1`. -/
def hashAdler32 (data : List UInt8) : ℕ :=
  let sums := data.foldl (fun (s : ℕ × ℕ) x =>
    ((s.1 + x.toNat) % 65521, (s.2 + (s.1 + x.toNat) % 65521) % 65521)) (1, 0)
  sums.2 <<< 16 ||| sums.1

/-! ## The uid and its operators -/

/-- `ShaderUid<uid_data>`: the bytes of the union's `values` view and the
memoised `HASH`. -/
structure ShaderUid (L : UidLayout) where
  values : List UInt8
  length_values : values.length = L.size
  HASH : ℕ
  deriving DecidableEq

namespace ShaderUid

variable {L : UidLayout}

/-- The constructor `ShaderUid() : HASH(0)`; the record's bytes are whatever the
storage held. -/
def fresh (values : List UInt8) (h : values.length = L.size) : ShaderUid L :=
  ⟨values, h, 0⟩

/-- The meaningful bytes `[StartValue(), StartValue() + NumValues())`. -/
def meaningfulBytes (u : ShaderUid L) : List UInt8 :=
  (u.values.drop L.start).take L.count

/-- `operator ==`: `memcmp` of the meaningful ranges is `0`. -/
def operatorEq (u v : ShaderUid L) : Bool :=
  memcmp (u.values.drop L.start) (v.values.drop L.start) L.count = 0

/-- `operator !=`: `memcmp` of the meaningful ranges is not `0`. -/
def operatorNe (u v : ShaderUid L) : Bool :=
  memcmp (u.values.drop L.start) (v.values.drop L.start) L.count ≠ 0

/-- `operator <`, which orders uids inside STL containers: `memcmp < 0`. -/
def operatorLt (u v : ShaderUid L) : Bool :=
  memcmp (u.values.drop L.start) (v.values.drop L.start) L.count < 0

theorem count_le_length_drop (u : ShaderUid L) : L.count ≤ (u.values.drop L.start).length := by
  have := L.range_le
  simp only [List.length_drop, u.length_values]
  omega

theorem operatorEq_iff (u v : ShaderUid L) :
    u.operatorEq v = true ↔ u.meaningfulBytes = v.meaningfulBytes := by
  simp only [operatorEq, decide_eq_true_eq, meaningfulBytes]
  exact memcmp_eq_zero_iff u.count_le_length_drop v.count_le_length_drop

theorem operatorNe_eq_not_operatorEq (u v : ShaderUid L) :
    u.operatorNe v = !u.operatorEq v := by
  simp [operatorNe, operatorEq]

theorem operatorLt_irrefl (u : ShaderUid L) : u.operatorLt u = false := by
  simp [operatorLt, memcmp_self]

theorem operatorLt_trans {u v w : ShaderUid L} (huv : u.operatorLt v = true)
    (hvw : v.operatorLt w = true) : u.operatorLt w = true := by
  simp only [operatorLt, decide_eq_true_eq] at *
  exact memcmp_neg_trans huv hvw

theorem operatorEq_iff_not_lt (u v : ShaderUid L) :
    u.operatorEq v = true ↔ u.operatorLt v = false ∧ v.operatorLt u = false := by
  simp only [operatorEq, operatorLt, memcmp_swap (v.values.drop L.start), decide_eq_true_eq,
    decide_eq_false_iff_not]
  omega

theorem operatorLt_trichotomy (u v : ShaderUid L) :
    u.operatorLt v = true ∨ u.operatorEq v = true ∨ v.operatorLt u = true := by
  simp only [operatorEq, operatorLt, memcmp_swap (v.values.drop L.start), decide_eq_true_eq]
  omega

/-- The three operators agree and `<` is a strict total order on meaningful byte
ranges: `!=` is the negation of `==`, `==` is equality of the meaningful bytes and
is the equivalence `<` induces, and `<` is irreflexive, transitive and
trichotomous — the strict weak ordering `std::map` needs, with `std::find`'s `==`
as its equivalence. -/
theorem comparisons_form_strict_total_order (L : UidLayout) :
    (∀ u v : ShaderUid L, u.operatorNe v = !u.operatorEq v) ∧
    (∀ u v : ShaderUid L, u.operatorEq v = true ↔ u.meaningfulBytes = v.meaningfulBytes) ∧
    (∀ u v : ShaderUid L,
      u.operatorEq v = true ↔ u.operatorLt v = false ∧ v.operatorLt u = false) ∧
    (∀ u : ShaderUid L, u.operatorLt u = false) ∧
    (∀ u v w : ShaderUid L, u.operatorLt v = true → v.operatorLt w = true →
      u.operatorLt w = true) ∧
    (∀ u v : ShaderUid L,
      u.operatorLt v = true ∨ u.operatorEq v = true ∨ v.operatorLt u = true) :=
  ⟨operatorNe_eq_not_operatorEq, operatorEq_iff, operatorEq_iff_not_lt, operatorLt_irrefl,
    fun _ _ _ => operatorLt_trans, operatorLt_trichotomy⟩

/-! ## The hash and its lifecycle -/

/-- `clearUID`: `memset(values, 0, sizeof(uid_data))`; `HASH` is left as it was. -/
def clearUID (u : ShaderUid L) : ShaderUid L :=
  ⟨List.replicate L.size 0, List.length_replicate _ _, u.HASH⟩

/-- A generator writing one byte of a `uid_data` field. -/
def writeField (u : ShaderUid L) (offset : ℕ) (byte : UInt8) : ShaderUid L :=
  ⟨u.values.set offset byte, by simp [u.length_values], u.HASH⟩

/-- `calculateUIDHash`: hash the meaningful range, unless `HASH` is already
non-zero. -/
def calculateUIDHash (u : ShaderUid L) : ShaderUid L :=
  if u.HASH = 0 then { u with HASH := hashAdler32 u.meaningfulBytes } else u

/-- `shaderUidHasher`, the hash an unordered container keys by: `HASH`. -/
def shaderUidHasher (u : ShaderUid L) : ℕ := u.HASH

/-- One call on a uid object. -/
inductive Event
  | clearUID
  | writeField (offset : ℕ) (byte : UInt8)
  | calculateUIDHash
  deriving DecidableEq, Repr

/-- What one call does to the object. -/
def step (u : ShaderUid L) : Event → ShaderUid L
  | .clearUID => u.clearUID
  | .writeField offset byte => u.writeField offset byte
  | .calculateUIDHash => u.calculateUIDHash

/-- A run of calls on one object. -/
def run (u : ShaderUid L) (events : List Event) : ShaderUid L :=
  events.foldl step u

/-- Whether a run writes fields only between a `clearUID` and the next
`calculateUIDHash`; `filling` says whether a `clearUID` is open. -/
def fillsOnlyAfterClear : Bool → List Event → Bool
  | _, [] => true
  | _, .clearUID :: events => fillsOnlyAfterClear true events
  | filling, .writeField _ _ :: events => filling && fillsOnlyAfterClear filling events
  | _, .calculateUIDHash :: events => fillsOnlyAfterClear false events

/-- Whether the run has cleared the object and hashed it since its last
`clearUID`; `state` is `none` before any `clearUID`, then whether a hash
followed it. -/
def hashedSinceClear : Option Bool → List Event → Bool
  | state, [] => state == some true
  | _, .clearUID :: events => hashedSinceClear (some false) events
  | state, .writeField _ _ :: events => hashedSinceClear state events
  | state, .calculateUIDHash :: events => hashedSinceClear (state.map fun _ => true) events

/-- **`clearUID` does not reset the memoised hash.**  A fresh one-byte uid that
goes through two clear/fill/hash cycles, writing `1` and then `2`, keeps the hash
of `[1]`: `HASH` is `0x00020002` while the hash of its bytes `[2]` is
`0x00030003`, and a fresh uid filled with `[2]` compares `==` to it yet hashes
differently. -/
theorem reused_uid_keeps_stale_hash :
    let L : UidLayout := ⟨1, 0, 1, le_refl 1⟩
    let events := [Event.clearUID, .writeField 0 1, .calculateUIDHash,
      .clearUID, .writeField 0 2, .calculateUIDHash]
    let reused := (fresh [0] rfl : ShaderUid L).run events
    let other := (fresh [2] rfl : ShaderUid L).calculateUIDHash
    fillsOnlyAfterClear false events = true ∧ hashedSinceClear none events = true ∧
      reused.shaderUidHasher = 0x00020002 ∧ hashAdler32 reused.meaningfulBytes = 0x00030003 ∧
      reused.operatorEq other = true ∧ other.shaderUidHasher = 0x00030003 := by
  decide

end ShaderUid

end ShaderGen
