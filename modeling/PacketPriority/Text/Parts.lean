/-!
Texts that are made of parts between separators.

`parts p cs` cuts `cs` at every character that satisfies `p`; there is always one part more than
there are separators, so empty parts show. `joined sep` is the way back for one separator.
-/

namespace PacketPriority.Text

/-- The parts of a text between its separators. -/
def parts (p : Char → Bool) (cs : List Char) : List (List Char) :=
  cs.foldr (fun c rest =>
    if p c then [] :: rest
    else
      match rest with
      | [] => [[c]]
      | part :: rest => (c :: part) :: rest) [[]]

theorem parts_cons (p : Char → Bool) (c : Char) (cs : List Char) :
    parts p (c :: cs) =
      if p c then [] :: parts p cs
      else
        match parts p cs with
        | [] => [[c]]
        | part :: rest => (c :: part) :: rest := rfl

/-- Parts written one after another with a separator between them. -/
def joined (sep : List Char) : List (List Char) → List Char
  | [] => []
  | [part] => part
  | part :: rest => part ++ sep ++ joined sep rest

theorem parts_of_none {p : Char → Bool} : ∀ {cs : List Char}, (∀ c ∈ cs, p c = false) →
    parts p cs = [cs]
  | [], _ => rfl
  | c :: cs, h => by
    have hc : p c = false := h c (by simp)
    have ih : parts p cs = [cs] := parts_of_none fun d hd => h d (by simp [hd])
    rw [parts_cons, ih]; simp [hc]

/-- The first part ends at the first separator. -/
theorem parts_append {p : Char → Bool} {s : Char} (hs : p s = true) (cs : List Char) :
    ∀ {part : List Char}, (∀ c ∈ part, p c = false) →
      parts p (part ++ s :: cs) = part :: parts p cs
  | [], _ => by rw [List.nil_append, parts_cons]; simp [hs]
  | c :: part, h => by
    have hc : p c = false := h c (by simp)
    have ih : parts p (part ++ s :: cs) = part :: parts p cs :=
      parts_append hs cs fun d hd => h d (by simp [hd])
    rw [List.cons_append, parts_cons, ih]; simp [hc]

end PacketPriority.Text
