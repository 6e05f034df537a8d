import PacketPriority.Text.Parts

/-!
Groups between separators.

A text consists of groups if it is the groups in order with one separator between each two of them
(`Text.Grouped`). Cutting at every separator finds the only such groups that hold no separator
themselves (`parts_eq_iff`). A change of single characters that makes no separator and takes none
away leaves the cuts where they are (`parts_map`).
-/

namespace PacketPriority.Text

/-- A text consists of groups, with one separator between each two of them. -/
inductive Grouped (p : Char → Bool) : List Char → List (List Char) → Prop
  | last (g : List Char) : Grouped p g [g]
  | more (g : List Char) {sep : Char} {cs : List Char} {gs : List (List Char)}
      (hsep : p sep = true) (rest : Grouped p cs gs) : Grouped p (g ++ sep :: cs) (g :: gs)

variable {p : Char → Bool} {cs : List Char} {gs : List (List Char)}

/-- A character in front of a text lengthens its first group. -/
theorem Grouped.cons {g : List Char} (c : Char) (h : Grouped p cs (g :: gs)) :
    Grouped p (c :: cs) ((c :: g) :: gs) := by
  cases h with
  | last => exact .last (c :: cs)
  | more _ hsep rest => exact .more (c :: g) hsep rest

/-- A character of the text is a separator or stands in a group. -/
theorem Grouped.sep_or_mem {c : Char} (h : Grouped p cs gs) :
    c ∈ cs → p c = true ∨ ∃ g ∈ gs, c ∈ g := by
  induction h with
  | last g => intro hc; exact .inr ⟨g, List.mem_singleton_self g, hc⟩
  | more g hsep rest ih =>
    intro hc
    rcases List.mem_append.1 hc with hc | hc
    · exact .inr ⟨g, List.mem_cons_self, hc⟩
    · rcases List.mem_cons.1 hc with rfl | hc
      · exact .inl hsep
      · exact (ih hc).imp_right fun ⟨g', hg', mem⟩ => ⟨g', List.mem_cons_of_mem _ hg', mem⟩

theorem Grouped.mem_of_mem {g : List Char} {c : Char} (h : Grouped p cs gs) (hg : g ∈ gs)
    (hc : c ∈ g) : c ∈ cs := by
  induction h with
  | last => rwa [List.mem_singleton.1 hg] at hc
  | more g' _ _ ih =>
    rcases List.mem_cons.1 hg with rfl | hg
    · exact List.mem_append_left _ hc
    · exact List.mem_append_right g' (List.mem_cons_of_mem _ (ih hg))

theorem exists_parts_eq_cons (p : Char → Bool) (cs : List Char) :
    ∃ g gs, parts p cs = g :: gs := by
  cases cs with
  | nil => exact ⟨[], [], rfl⟩
  | cons c cs =>
    rw [parts_cons]
    split
    · exact ⟨_, _, rfl⟩
    · split <;> exact ⟨_, _, rfl⟩

theorem parts_cons_of_sep {c : Char} (h : p c = true) (cs : List Char) :
    parts p (c :: cs) = [] :: parts p cs := by
  rw [parts_cons, if_pos h]

theorem parts_cons_of_not_sep {c : Char} {g : List Char} (h : p c = false)
    (rest : parts p cs = g :: gs) : parts p (c :: cs) = (c :: g) :: gs := by
  rw [parts_cons, rest, h]
  rfl

theorem grouped_parts (p : Char → Bool) (cs : List Char) : Grouped p cs (parts p cs) := by
  induction cs with
  | nil => exact .last []
  | cons c cs ih =>
    cases hc : p c with
    | true =>
      rw [parts_cons_of_sep hc]
      exact .more [] hc ih
    | false =>
      obtain ⟨g, gs, rest⟩ := exists_parts_eq_cons p cs
      rw [rest] at ih
      rw [parts_cons_of_not_sep hc rest]
      exact ih.cons c

theorem not_sep_of_mem_parts : ∀ g ∈ parts p cs, ∀ c ∈ g, p c = false := by
  induction cs with
  | nil => simp [parts]
  | cons d cs ih =>
    cases hd : p d with
    | true =>
      rw [parts_cons_of_sep hd]
      simpa using ih
    | false =>
      obtain ⟨g, gs, rest⟩ := exists_parts_eq_cons p cs
      rw [rest] at ih
      rw [parts_cons_of_not_sep hd rest]
      simp only [List.mem_cons, forall_eq_or_imp] at ih ⊢
      exact ⟨⟨hd, ih.1⟩, ih.2⟩

/-- **Cutting at every separator finds the groups without separators**, and there are no others. -/
theorem parts_eq_iff :
    parts p cs = gs ↔ Grouped p cs gs ∧ ∀ g ∈ gs, ∀ c ∈ g, p c = false := by
  constructor
  · rintro rfl
    exact ⟨grouped_parts p cs, not_sep_of_mem_parts⟩
  · rintro ⟨grouped, clean⟩
    induction grouped with
    | last g => exact parts_of_none (clean g List.mem_cons_self)
    | more g hsep rest ih =>
      rw [parts_append hsep _ (clean g List.mem_cons_self),
        ih fun g' hg' => clean g' (List.mem_cons_of_mem _ hg')]

theorem grouped_joined {sep : Char} (hsep : p sep = true) :
    ∀ {gs : List (List Char)}, gs ≠ [] → Grouped p (joined [sep] gs) gs
  | [], h => absurd rfl h
  | [g], _ => .last g
  | g :: g' :: gs, _ => by
    show Grouped p (g ++ [sep] ++ joined [sep] (g' :: gs)) (g :: g' :: gs)
    rw [List.append_assoc, List.singleton_append]
    exact .more g hsep (grouped_joined hsep (List.cons_ne_nil g' gs))

/-- Joining groups with a separator and cutting at separators gives the groups back. -/
theorem parts_joined {sep : Char} (hsep : p sep = true) (nonempty : gs ≠ [])
    (clean : ∀ g ∈ gs, ∀ c ∈ g, p c = false) : parts p (joined [sep] gs) = gs :=
  parts_eq_iff.2 ⟨grouped_joined hsep nonempty, clean⟩

/-- A change of characters that respects separators changes the groups and keeps the cuts. -/
theorem parts_map {f : Char → Char} (hf : ∀ c, p (f c) = p c) (cs : List Char) :
    parts p (cs.map f) = (parts p cs).map (List.map f) := by
  induction cs with
  | nil => rfl
  | cons c cs ih =>
    rw [List.map_cons]
    cases hc : p c with
    | true => rw [parts_cons_of_sep hc, parts_cons_of_sep ((hf c).trans hc), ih]; rfl
    | false =>
      obtain ⟨g, gs, rest⟩ := exists_parts_eq_cons p cs
      rw [rest] at ih
      rw [parts_cons_of_not_sep hc rest, parts_cons_of_not_sep ((hf c).trans hc) ih]
      rfl

end PacketPriority.Text
