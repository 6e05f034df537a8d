/-!
Blank characters.

The table holds the characters with the Unicode property `White_Space`. `trim` takes them off both
ends of a text.
-/

namespace PacketPriority.Text

/-- The ranges of code points of blank characters, in order, each with both ends. -/
def blankRanges : List (Nat × Nat) :=
  [(0x9, 0xD), (0x20, 0x20), (0x85, 0x85), (0xA0, 0xA0), (0x1680, 0x1680), (0x2000, 0x200A),
    (0x2028, 0x2029), (0x202F, 0x202F), (0x205F, 0x205F), (0x3000, 0x3000)]

def isBlank (c : Char) : Bool :=
  blankRanges.any fun range => range.1 ≤ c.toNat && c.toNat ≤ range.2

/-- A text without the blank characters at its ends. -/
def trim (cs : List Char) : List Char :=
  ((cs.dropWhile isBlank).reverse.dropWhile isBlank).reverse

/-- Nothing is left of a text if and only if all of it is blank. -/
theorem trim_eq_nil_iff {cs : List Char} : trim cs = [] ↔ ∀ c ∈ cs, isBlank c = true := by
  have drop : ∀ l : List Char, l.dropWhile isBlank = [] ↔ ∀ c ∈ l, isBlank c = true := by
    intro l
    induction l with
    | nil => simp
    | cons c l ih => cases h : isBlank c <;> simp [h, ih]
  rw [trim, List.reverse_eq_nil_iff, drop]
  constructor
  · intro h c hc
    rw [← List.takeWhile_append_dropWhile (p := isBlank) (l := cs), List.mem_append] at hc
    rcases hc with hc | hc
    · exact List.all_eq_true.1 List.all_takeWhile c hc
    · exact h c (by simpa using hc)
  · intro h c hc
    refine h c ?_
    have sub : cs.dropWhile isBlank <:+ cs := List.dropWhile_suffix isBlank
    exact sub.mem (by simpa using hc)

end PacketPriority.Text
