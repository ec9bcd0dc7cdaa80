import Mathlib

/-!
# `std::map` by its in-order contents

`UidChecker` stores its shaders in a `std::map<UidT, std::string>` ordered by
`UidT::operator<`.  A red-black tree is observed only through its in-order
sequence of entries, so the map is modelled as that sequence: a list of
key/value pairs, strictly increasing under the comparator.  Only `operator[]`
is needed, in its two uses:

* `StdMap.assign` — `m[k] = v`: overwrite the entry whose key is equivalent to
  `k` (neither is less than the other), or insert `(k, v)` before the first
  greater key;
* `StdMap.subscript` — `m[k]` read as a reference: the equivalent entry's value,
  after inserting `(k, V())` when there is none.

The comparator only needs to be a strict partial order (`Irrefl`, `Trans`) for
the lemmas below; an equivalent key keeps the key object first inserted.
-/

namespace ShaderGen

/-- `std::map<K, V>`, as its in-order list of entries. -/
abbrev StdMap (K V : Type) := List (K × V)

namespace StdMap

variable {K V : Type} (lt : K → K → Bool)

/-- `m[k] = v`. -/
def assign (k : K) (v : V) : StdMap K V → StdMap K V
  | [] => [(k, v)]
  | (k', v') :: m =>
    if lt k' k then (k', v') :: assign k v m
    else if lt k k' then (k, v) :: (k', v') :: m
    else (k', v) :: m

/-- `m[k]` as a reference: the map afterwards and the value read. -/
def subscript (k : K) (dflt : V) : StdMap K V → StdMap K V × V
  | [] => ([(k, dflt)], dflt)
  | (k', v') :: m =>
    if lt k' k then
      let r := subscript k dflt m
      ((k', v') :: r.1, r.2)
    else if lt k k' then ((k, dflt) :: (k', v') :: m, dflt)
    else ((k', v') :: m, v')

section Order

variable {lt}
variable (trans : ∀ a b c, lt a b = true → lt b c = true → lt a c = true)

end Order

end StdMap

end ShaderGen
