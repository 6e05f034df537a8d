import Mathlib.Data.List.Induction
import Mathlib.Data.Nat.Digits.Defs
import PacketPriority.Text.Blank
import PacketPriority.Text.Digits

/-!
Numerals between blanks.

A text stands for a word if it consists of blanks, at most one plus sign, decimal digits that make
the value of the word, and blanks again (`Text.Denotes`). Leading zeros are allowed, and a word is
too small for a numeral whose value it does not have. Reading a trimmed text finds the word that the
text stands for, and no other (`word?_trim_eq_some_iff`).
-/

namespace PacketPriority

theorem Word.ofNat?_eq_some_iff {α : Type} [Word α] {n : Nat} {w : α} :
    Word.ofNat? n = some w ↔ n = Word.toNat w := by
  constructor
  · exact fun h => (Word.toNat_of_ofNat? h).symm
  · rintro rfl
    exact Word.ofNat?_toNat w

namespace Text

/-! ### Trimming -/

/-- Trimming takes off blanks and nothing else. -/
theorem exists_eq_append_trim (cs : List Char) :
    ∃ left right, cs = left ++ trim cs ++ right ∧
      (∀ c ∈ left, isBlank c = true) ∧ ∀ c ∈ right, isBlank c = true := by
  have blanks : ∀ l : List Char, ∀ c ∈ l.takeWhile isBlank, isBlank c = true :=
    fun l => List.all_eq_true.1 List.all_takeWhile
  let rest := (cs.dropWhile isBlank).reverse
  have right_end : cs.dropWhile isBlank = trim cs ++ (rest.takeWhile isBlank).reverse := by
    rw [trim, ← List.reverse_append, List.takeWhile_append_dropWhile, List.reverse_reverse]
  refine ⟨cs.takeWhile isBlank, (rest.takeWhile isBlank).reverse, ?_, blanks cs, ?_⟩
  · rw [List.append_assoc, ← right_end, List.takeWhile_append_dropWhile]
  · intro c hc
    exact blanks rest c (List.mem_reverse.1 hc)

/-- A text without blanks is what is left when the blanks around it are taken off. -/
theorem trim_append {left cs right : List Char} (hleft : ∀ c ∈ left, isBlank c = true)
    (hright : ∀ c ∈ right, isBlank c = true) (nonempty : cs ≠ [])
    (solid : ∀ c ∈ cs, isBlank c = false) : trim (left ++ cs ++ right) = cs := by
  -- what begins with no blank is not cut
  have uncut : ∀ l m : List Char, l ≠ [] → (∀ c ∈ l, isBlank c = false) →
      (l ++ m).dropWhile isBlank = l ++ m := by
    intro l m hl hsolid
    cases l with
    | nil => exact absurd rfl hl
    | cons c l => simp [hsolid c List.mem_cons_self]
  have ahead : (left ++ cs ++ right).dropWhile isBlank = cs ++ right := by
    rw [List.append_assoc, List.dropWhile_append_of_pos hleft, uncut cs right nonempty solid]
  have behind : (right.reverse ++ cs.reverse).dropWhile isBlank = cs.reverse := by
    rw [List.dropWhile_append_of_pos fun c hc => hright c (List.mem_reverse.1 hc)]
    have := uncut cs.reverse [] (by simpa using nonempty) (by simpa using solid)
    rwa [List.append_nil] at this
  rw [trim, ahead, List.reverse_append, behind, List.reverse_reverse]

/-! ### Digits -/

/-- The number that decimal digits make. -/
def decimal (digits : List Char) : Nat := Nat.ofDigits 10 (digits.reverse.map fun c => c.toNat - 48)

theorem decimal_append_one (cs : List Char) (c : Char) :
    decimal (cs ++ [c]) = 10 * decimal cs + (c.toNat - 48) := by
  rw [decimal, List.reverse_append, List.reverse_singleton, List.singleton_append, List.map_cons,
    Nat.ofDigits_cons, Nat.add_comm]
  rfl

theorem decimalValue?_eq (c : Char) :
    decimalValue? c = if c.isDigit then some (c.toNat - 48) else none := by
  have digit : ('0' ≤ c ∧ c ≤ '9') ↔ c.isDigit = true := by
    simp [Char.isDigit, Char.le_def, UInt32.le_iff_toNat_le]
  rw [decimalValue?]
  simp only [digit]

/-- Reading digits from left to right makes their number. -/
theorem foldlM_decimalValue? (cs : List Char) :
    cs.foldlM (fun value c => (decimalValue? c).map (10 * value + ·)) 0 =
      if cs.all Char.isDigit then some (decimal cs) else none := by
  -- on the digits from the right, as the last one is the last to be read
  induction cs using List.reverseRecOn with
  | nil => rfl
  | append_singleton cs c ih =>
    rw [List.foldlM_append, ih, decimal_append_one, List.all_append]
    cases digits : cs.all Char.isDigit
    · rfl
    · cases last : c.isDigit <;> simp [decimalValue?_eq, last]

theorem numeral?_eq_some_iff {cs : List Char} {n : Nat} :
    numeral? 10 decimalValue? cs = some n ↔
      cs ≠ [] ∧ (∀ c ∈ cs, c.isDigit = true) ∧ decimal cs = n := by
  cases cs with
  | nil => simp [numeral?]
  | cons c cs =>
    rw [numeral?, foldlM_decimalValue?, ← List.all_eq_true]
    cases (c :: cs).all Char.isDigit <;> simp

/-- A plus sign is no digit. -/
theorem unsigned?_eq_some_iff {cs : List Char} {n : Nat} :
    unsigned? cs = some n ↔ ∃ sign digits, cs = sign ++ digits ∧ (sign = [] ∨ sign = ['+']) ∧
      digits ≠ [] ∧ (∀ c ∈ digits, c.isDigit = true) ∧ decimal digits = n := by
  constructor
  · intro h
    unfold unsigned? at h
    split at h
    · exact ⟨['+'], _, rfl, .inr rfl, numeral?_eq_some_iff.1 h⟩
    · exact ⟨[], _, rfl, .inl rfl, numeral?_eq_some_iff.1 h⟩
  · rintro ⟨sign, digits, rfl, rfl | rfl, written⟩
    · have unsigned : ∀ rest, digits ≠ '+' :: rest := by
        rintro rest rfl
        have plus := written.2.1 '+' List.mem_cons_self
        revert plus
        decide
      rw [List.nil_append, unsigned?]
      · exact numeral?_eq_some_iff.2 written
      · exact unsigned
    · exact numeral?_eq_some_iff.2 written

/-! ### Texts that stand for words -/

/-- A text stands for a word: blanks, at most one plus sign, decimal digits that make the value of
the word, and blanks. -/
def Denotes {α : Type} [Word α] (text : List Char) (w : α) : Prop :=
  ∃ left sign digits right : List Char, text = left ++ (sign ++ digits) ++ right ∧
    (∀ c ∈ left, isBlank c = true) ∧ (∀ c ∈ right, isBlank c = true) ∧
    (sign = [] ∨ sign = ['+']) ∧ digits ≠ [] ∧ (∀ c ∈ digits, c.isDigit = true) ∧
    decimal digits = Word.toNat w

theorem isBlank_of_isDigit {c : Char} (h : c.isDigit = true) : isBlank c = false := by
  have digit : 48 ≤ c.toNat ∧ c.toNat ≤ 57 := by
    simpa [Char.isDigit, UInt32.le_iff_toNat_le] using h
  rw [← Bool.not_eq_true]
  intro blank
  simp [isBlank, blankRanges] at blank
  omega

/-- **A trimmed text is read as the word that the text stands for**, or not at all. -/
theorem word?_trim_eq_some_iff {α : Type} [Word α] {text : List Char} {w : α} :
    word? (trim text) = some w ↔ Denotes text w := by
  have read : word? (trim text) = some w ↔ unsigned? (trim text) = some (Word.toNat w) := by
    simp [word?, Option.bind_eq_some_iff, Word.ofNat?_eq_some_iff]
  rw [read, unsigned?_eq_some_iff]
  constructor
  · rintro ⟨sign, digits, trimmed, written⟩
    obtain ⟨left, right, around, hleft, hright⟩ := exists_eq_append_trim text
    rw [trimmed] at around
    exact ⟨left, sign, digits, right, around, hleft, hright, written⟩
  · rintro ⟨left, sign, digits, right, rfl, hleft, hright, hsign, written⟩
    refine ⟨sign, digits, ?_, hsign, written⟩
    refine trim_append hleft hright (by simp [written.1]) ?_
    intro c hc
    rcases List.mem_append.1 hc with hc | hc
    · rcases hsign with rfl | rfl
      · cases hc
      · rw [List.mem_singleton.1 hc]
        decide
    · exact isBlank_of_isDigit (written.2.1 c hc)

end Text

end PacketPriority
