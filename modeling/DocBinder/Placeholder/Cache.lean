import DocBinder.Digest.Sha256

/-!
# Remembering uploads

The addresses of uploads and rendered diagrams, kept under the digest of their content for one run.
-/

namespace DocBinder.Placeholder

/-- Addresses under content digests, and how often one was found or missed. -/
structure Cache where
  entries : List (String × String)
  hits : Nat
  misses : Nat
deriving DecidableEq, Repr, Inhabited

namespace Cache

/-- A cache that holds nothing. -/
def empty : Cache :=
  ⟨[], 0, 0⟩

/-- Whether a key has an address. -/
def contains (cache : Cache) (key : String) : Bool :=
  (cache.entries.lookup key).isSome

/-- The number of keys. -/
def size (cache : Cache) : Nat :=
  cache.entries.length

/-- The address of a key, and the cache that has counted the question. -/
def get (cache : Cache) (key : String) : Option String × Cache :=
  match cache.entries.lookup key with
  | some address => (some address, { cache with hits := cache.hits + 1 })
  | none => (none, { cache with misses := cache.misses + 1 })

/-- Put an address under a key. -/
def put (cache : Cache) (key address : String) : Cache :=
  { cache with entries := (key, address) :: cache.entries.filter fun entry => entry.1 != key }

end Cache

end DocBinder.Placeholder
