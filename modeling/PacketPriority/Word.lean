/-!
Fixed-width words read from unbounded integers.

Every number of a rule, a packet or a setting is a word of 8, 16 or 32 bits. Files, JSON and the
command line give integers without a bound, so each reading ends in `Word.ofInt?`, which refuses a
value that the word cannot hold: nothing is ever wrapped or clamped on the way in.
-/

namespace PacketPriority

/-- A word type: how many values it has, and the way to and from the natural numbers. -/
class Word (α : Type) where
  size : Nat
  ofNat : Nat → α
  toNat : α → Nat
  toNat_ofNat : ∀ n, n < size → toNat (ofNat n) = n
  toNat_lt : ∀ w, toNat w < size
  ofNat_toNat : ∀ w, ofNat (toNat w) = w

namespace Word

instance : Word UInt8 where
  size := 256
  ofNat := UInt8.ofNat
  toNat := UInt8.toNat
  toNat_ofNat n h := by simpa using Nat.mod_eq_of_lt h
  toNat_lt w := w.toNat_lt
  ofNat_toNat w := by simp

instance : Word UInt16 where
  size := 65536
  ofNat := UInt16.ofNat
  toNat := UInt16.toNat
  toNat_ofNat n h := by simpa using Nat.mod_eq_of_lt h
  toNat_lt w := w.toNat_lt
  ofNat_toNat w := by simp

instance : Word UInt32 where
  size := 4294967296
  ofNat := UInt32.ofNat
  toNat := UInt32.toNat
  toNat_ofNat n h := by simpa using Nat.mod_eq_of_lt h
  toNat_lt w := w.toNat_lt
  ofNat_toNat w := by simp

variable {α : Type} [Word α]

/-- The word with the value `n`, if there is one. -/
def ofNat? (n : Nat) : Option α := if n < size α then some (ofNat n) else none

/-- The word with the value `n`, if there is one; negative numbers have none. -/
def ofInt? : Int → Option α
  | .ofNat n => ofNat? n
  | .negSucc _ => none

theorem ofNat?_toNat (w : α) : ofNat? (toNat w) = some w := by
  simp [ofNat?, toNat_lt, ofNat_toNat]

theorem ofInt?_toNat (w : α) : ofInt? (toNat w : Int) = some w :=
  ofNat?_toNat w

/-- A reading succeeds only with the word of that very value. -/
theorem toNat_of_ofNat? {n : Nat} {w : α} (h : ofNat? n = some w) : toNat w = n := by
  unfold ofNat? at h
  split at h
  · cases h; exact toNat_ofNat n ‹_›
  · cases h

end Word

end PacketPriority
