import Mathlib.Data.List.Basic
import PacketPriority.Packet.Json

/-!
What an object gives under a key.

An object is a row of members, and `Json.valuesOf` are the values that stand under one key in it, in
order. Reading a record depends on these alone: a field must have one value at most, and the first
is the one that is looked up (`record?_object`). Members under other keys change nothing
(`valuesOf_insert`), and leaving keys out leaves nothing under them (`valuesOf_filter`).
-/

namespace PacketPriority

namespace Json

/-- The values that an object gives under a key. -/
def valuesOf (key : String) (ms : List (String × Json)) : List Json :=
  (ms.filter (·.1 == key)).map (·.2)

variable {key name : String} {ms : List (String × Json)}

theorem valuesOf_append (key : String) (a b : List (String × Json)) :
    valuesOf key (a ++ b) = valuesOf key a ++ valuesOf key b := by
  simp [valuesOf]

theorem valuesOf_cons_self (key : String) (v : Json) (ms : List (String × Json)) :
    valuesOf key ((key, v) :: ms) = v :: valuesOf key ms := by
  simp [valuesOf]

theorem valuesOf_cons_of_ne (h : name ≠ key) (v : Json) (ms : List (String × Json)) :
    valuesOf key ((name, v) :: ms) = valuesOf key ms := by
  simp [valuesOf, h]

theorem valuesOf_eq_nil (h : key ∉ ms.map Prod.fst) : valuesOf key ms = [] := by
  rw [valuesOf, List.map_eq_nil_iff, List.filter_eq_nil_iff]
  intro m hm same
  exact h (eq_of_beq same ▸ List.mem_map_of_mem hm)

/-- A member under another key changes nothing. -/
theorem valuesOf_insert (h : name ≠ key) (v : Json) (front back : List (String × Json)) :
    valuesOf key (front ++ (name, v) :: back) = valuesOf key (front ++ back) := by
  rw [valuesOf_append, valuesOf_append, valuesOf_cons_of_ne h]

theorem valuesOf_filter (key : String) (dropped : List String) (ms : List (String × Json)) :
    valuesOf key (ms.filter (·.1 ∉ dropped)) = if key ∈ dropped then [] else valuesOf key ms := by
  induction ms with
  | nil => simp [valuesOf]
  | cons m ms ih =>
    obtain ⟨name, v⟩ := m
    by_cases gone : name ∈ dropped
    · rw [List.filter_cons_of_neg (by simpa using gone), ih]
      split
      next => rfl
      next kept =>
        have differs : name ≠ key := by
          rintro rfl
          exact kept gone
        rw [valuesOf_cons_of_ne differs]
    · rw [List.filter_cons_of_pos (by simpa using gone)]
      by_cases same : name = key
      · subst same
        rw [valuesOf_cons_self, ih, if_neg gone, if_neg gone, valuesOf_cons_self]
      · rw [valuesOf_cons_of_ne same, ih, valuesOf_cons_of_ne same]

theorem lookup_eq_head? (key : String) (ms : List (String × Json)) :
    ms.lookup key = (valuesOf key ms).head? := by
  induction ms with
  | nil => rfl
  | cons m ms ih =>
    obtain ⟨name, v⟩ := m
    by_cases h : name = key
    · subst h
      rw [valuesOf_cons_self, List.lookup_cons_self, List.head?_cons]
    · have differs : (key == name) = false := beq_false_of_ne (Ne.symm h)
      rw [valuesOf_cons_of_ne h, ← ih, List.lookup_cons, differs]

theorem textOf?_string {α : Type} (read : String → Option α) (s : String) :
    textOf? read (.string s) = read s := rfl

/-- A record looks up values, each of which must not be given twice. -/
theorem record?_object (names : List String) (ms : List (String × Json)) :
    record? names (.object ms) =
      if ∀ name ∈ names, (valuesOf name ms).length ≤ 1 then
        some fun name => (valuesOf name ms).head?
      else none := by
  have once : (names.all fun name => (ms.filter (·.1 == name)).length ≤ 1) = true ↔
      ∀ name ∈ names, (valuesOf name ms).length ≤ 1 := by
    simp [valuesOf]
  rw [record?, if_congr once rfl rfl]
  simp only [lookup_eq_head?]

/-- A key that names nothing of a record changes nothing that is looked up in it. -/
theorem record?_insert {names : List String} (unknown : name ∉ names) (hkey : key ∈ names)
    (v : Json) (front back : List (String × Json)) :
    (record? names (.object (front ++ (name, v) :: back))).map (· key) =
      (record? names (.object (front ++ back))).map (· key) := by
  have same : ∀ k ∈ names,
      valuesOf k (front ++ (name, v) :: back) = valuesOf k (front ++ back) := by
    intro k hk
    have differs : name ≠ k := by
      rintro rfl
      exact unknown hk
    exact valuesOf_insert differs v front back
  have once : (∀ k ∈ names, (valuesOf k (front ++ (name, v) :: back)).length ≤ 1) ↔
      ∀ k ∈ names, (valuesOf k (front ++ back)).length ≤ 1 :=
    forall₂_congr fun k hk => by rw [same k hk]
  rw [record?_object, record?_object, if_congr once rfl rfl]
  split
  next => exact congrArg (fun vs : List Json => some vs.head?) (same key hkey)
  next => rfl

end Json

end PacketPriority
