import Mathlib.Data.List.Induction
import PacketPriority.Text.Digits

/-!
Digits and numerals in base sixteen.

The value of a digit is its place among the sixteen digits, in lower or in upper case
(`Text.HexDigit`), and no other character has a value (`hexValue?_eq_some_iff`). A numeral is read
from left to right, so that its last digit is the last to count (`numeral?_append_one`); hence the
digits in which a number is written are read as that number (`numeral?_hexDigits`). Upper case
changes neither the value of a character nor the bytes that it takes.
-/

namespace PacketPriority.Text

/-! ### Digits -/

/-- The value of a digit: its place among the sixteen digits, in either case. -/
def HexDigit (c : Char) (v : Nat) : Prop :=
  "0123456789abcdef".toList[v]? = some c ∨ "0123456789ABCDEF".toList[v]? = some c

instance (c : Char) (v : Nat) : Decidable (HexDigit c v) :=
  inferInstanceAs (Decidable (_ ∨ _))

variable {c : Char} {v : Nat}

/-- What holds of the characters below 128 holds of every ASCII character. -/
theorem forall_ascii {P : Char → Prop} (all : ∀ k : Fin 128, P (Char.ofNat k))
    (h : c.toNat < 128) : P c := by
  have at_c := all ⟨c.toNat, h⟩
  rwa [Char.ofNat_toNat] at at_c

theorem toNat_lt_of_hexValue? (h : hexValue? c = some v) : c.toNat < 128 := by
  have below (top : Char) (hle : c ≤ top) : c.toNat ≤ top.toNat := UInt32.le_iff_toNat_le.1 hle
  unfold hexValue? at h
  split at h
  next digit => exact Nat.lt_of_le_of_lt (below _ digit.2) (by decide)
  split at h
  next lower => exact Nat.lt_of_le_of_lt (below _ lower.2) (by decide)
  split at h
  next upper => exact Nat.lt_of_le_of_lt (below _ upper.2) (by decide)
  cases h

theorem HexDigit.lt (h : HexDigit c v) : v < 16 := by
  rcases h with h | h
  · exact (List.getElem?_eq_some_iff.1 h).1
  · exact (List.getElem?_eq_some_iff.1 h).1

/-- **The digits of base sixteen have their values**, and no other character has one. -/
theorem hexValue?_eq_some_iff : hexValue? c = some v ↔ HexDigit c v := by
  constructor
  · intro h
    have all : ∀ k : Fin 128, ∀ v ∈ hexValue? (Char.ofNat k), HexDigit (Char.ofNat k) v := by
      decide +kernel
    exact forall_ascii (P := fun c => ∀ v ∈ hexValue? c, HexDigit c v) all
      (toNat_lt_of_hexValue? h) v h
  · intro h
    have all : ∀ k : Fin 16, "0123456789abcdef".toList[k.val]?.bind hexValue? = some k.val ∧
        "0123456789ABCDEF".toList[k.val]?.bind hexValue? = some k.val := by
      decide +kernel
    have place := all ⟨v, h.lt⟩
    rcases h with lower | upper
    · rw [← place.1, lower, Option.bind_some]
    · rw [← place.2, upper, Option.bind_some]

theorem HexDigit.toNat_lt (h : HexDigit c v) : c.toNat < 128 :=
  toNat_lt_of_hexValue? (hexValue?_eq_some_iff.2 h)

/-- ASCII characters take one byte. -/
theorem utf8Size_of_toNat_lt (h : c.toNat < 128) : c.utf8Size = 1 :=
  forall_ascii (P := fun c => c.utf8Size = 1) (by decide +kernel) h

/-- Digits take one byte each. -/
theorem byteLength_of_digits {cs : List Char} (digits : ∀ c ∈ cs, ∃ v, hexValue? c = some v) :
    byteLength cs = cs.length := by
  induction cs with
  | nil => rfl
  | cons c cs ih =>
    obtain ⟨⟨v, hv⟩, rest⟩ := List.forall_mem_cons.1 digits
    rw [byteLength, utf8Size_of_toNat_lt (toNat_lt_of_hexValue? hv), ih rest, List.length_cons,
      Nat.add_comm]

/-! ### Numerals -/

section Numerals

variable {base : Nat} {digit? : Char → Option Nat} {cs : List Char}

/-- The last digit of a numeral is the last to count. -/
theorem numeral?_append_one (h : cs ≠ []) (c : Char) :
    numeral? base digit? (cs ++ [c]) =
      (numeral? base digit? cs).bind fun n => (digit? c).map (base * n + ·) := by
  obtain ⟨d, cs, rfl⟩ := List.exists_cons_of_ne_nil h
  rw [List.cons_append, numeral?, numeral?, ← List.cons_append, List.foldlM_append]
  refine congrArg _ (funext fun n => ?_)
  rw [List.foldlM_cons]
  cases (digit? c).map (base * n + ·) <;> rfl

theorem numeral?_singleton (c : Char) : numeral? base digit? [c] = digit? c := by
  show ((digit? c).map (base * 0 + ·)).bind _ = digit? c
  cases digit? c <;> simp

theorem numeral?_pair (c d : Char) :
    numeral? base digit? [c, d] =
      (digit? c).bind fun h => (digit? d).map (base * h + ·) := by
  show numeral? base digit? ([c] ++ [d]) = _
  rw [numeral?_append_one (List.cons_ne_nil c []), numeral?_singleton]

/-- Every character of a numeral is a digit. -/
theorem digit_of_mem_numeral {n : Nat} (h : numeral? base digit? cs = some n) :
    ∀ c ∈ cs, ∃ v, digit? c = some v := by
  -- the digits from the right, as the last one is taken off first
  induction cs using List.reverseRecOn generalizing n with
  | nil => cases h
  | append_singleton cs d ih =>
    by_cases hcs : cs = []
    · subst hcs
      rw [List.nil_append, numeral?_singleton] at h
      simpa using ⟨n, h⟩
    · rw [numeral?_append_one hcs, Option.bind_eq_some_iff] at h
      obtain ⟨m, read, last⟩ := h
      obtain ⟨v, hv, -⟩ := Option.map_eq_some_iff.1 last
      intro c hc
      rcases List.mem_append.1 hc with hc | hc
      · exact ih read c hc
      · rw [List.mem_singleton.1 hc]
        exact ⟨v, hv⟩

/-- A change of characters that respects the values of digits respects numerals. -/
theorem numeral?_map {f : Char → Char} (hf : ∀ c, digit? (f c) = digit? c) :
    numeral? base digit? (cs.map f) = numeral? base digit? cs := by
  cases cs with
  | nil => rfl
  | cons c cs =>
    rw [List.map_cons, numeral?, numeral?, ← List.map_cons, List.foldlM_map]
    simp only [hf]

end Numerals

theorem hexValue?_digitChar {n : Nat} (h : n < 16) : hexValue? n.digitChar = some n := by
  have all : ∀ k : Fin 16, hexValue? (Nat.digitChar k) = some k.val := by decide
  exact all ⟨n, h⟩

/-- **The digits in which a number is written are read as that number.** -/
theorem numeral?_hexDigits (n : Nat) : numeral? 16 hexValue? (hexDigits n) = some n := by
  induction n using Nat.strongRecOn with
  | ind n ih =>
    rw [hexDigits, Nat.toDigits_eq_if (by decide)]
    split
    next small => rw [numeral?_singleton, hexValue?_digitChar small]
    next large =>
      have last : n % 16 < 16 := Nat.mod_lt n (by decide)
      have front : numeral? 16 hexValue? (Nat.toDigits 16 (n / 16)) = some (n / 16) :=
        ih (n / 16) (by omega)
      rw [numeral?_append_one Nat.toDigits_ne_nil, front, Option.bind_some,
        hexValue?_digitChar last, Option.map_some, Nat.div_add_mod]

theorem digit_of_mem_hexDigits {n : Nat} (h : c ∈ hexDigits n) : ∃ v, hexValue? c = some v :=
  digit_of_mem_numeral (numeral?_hexDigits n) c h

/-! ### Upper case -/

/-- Upper case changes the letters from a to z and nothing else. -/
theorem toUpper_cases (c : Char) :
    c.toUpper = c ∨ ∃ k : Fin 26, c = Char.ofNat (97 + k) := by
  by_cases lower : 97 ≤ c.toNat ∧ c.toNat ≤ 122
  · refine .inr ⟨⟨c.toNat - 97, by omega⟩, ?_⟩
    rw [show 97 + (c.toNat - 97) = c.toNat by omega, Char.ofNat_toNat]
  · refine .inl (dif_neg fun h => lower ?_)
    exact ⟨UInt32.le_iff_toNat_le.1 h.1, UInt32.le_iff_toNat_le.1 h.2⟩

theorem hexValue?_toUpper (c : Char) : hexValue? c.toUpper = hexValue? c := by
  rcases toUpper_cases c with same | ⟨k, rfl⟩
  · rw [same]
  · revert k
    decide +kernel

theorem utf8Size_toUpper (c : Char) : c.toUpper.utf8Size = c.utf8Size := by
  rcases toUpper_cases c with same | ⟨k, rfl⟩
  · rw [same]
  · revert k
    decide +kernel

theorem byteLength_map_toUpper (cs : List Char) :
    byteLength (cs.map Char.toUpper) = byteLength cs := by
  induction cs with
  | nil => rfl
  | cons c cs ih => rw [List.map_cons, byteLength, byteLength, utf8Size_toUpper, ih]

theorem withoutPlus_map_toUpper (cs : List Char) :
    withoutPlus (cs.map Char.toUpper) = (withoutPlus cs).map Char.toUpper := by
  have plus (c : Char) : c.toUpper = '+' ↔ c = '+' := by
    rcases toUpper_cases c with same | ⟨k, rfl⟩
    · rw [same]
    · revert k
      decide +kernel
  cases cs with
  | nil => rfl
  | cons c cs =>
    by_cases hc : c = '+'
    · subst hc
      rfl
    · have hne : c.toUpper ≠ '+' := fun h => hc ((plus c).1 h)
      rw [List.map_cons, withoutPlus, withoutPlus]
      · simp
      · intro rest h
        exact hc (List.cons.inj h).1
      · intro rest h
        exact hne (List.cons.inj h).1

end PacketPriority.Text
