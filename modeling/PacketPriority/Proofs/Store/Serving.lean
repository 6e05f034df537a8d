import PacketPriority.Proofs.Store.Reading
import PacketPriority.Table

/-!
What a store does when it serves a request.

A request comes to one of a few ends, each said in one line here: it fails one of the checks
(`add_of_full`, `add_of_code`, `delete_of_empty`, `delete_of_absent`), or it places a rule or takes
one out (`add_of_room`, `delete_of_present`), and a rule is placed in one of three ways
(`place_of_new`, `place_of_same`, `place_of_other`). `serve_ok_cases` reads the same from the other
end: whatever has been served, this is what was done and these are the checks it has passed.
-/

namespace PacketPriority

namespace Store

/-! ### Writers -/

theorem beginWrite_of_idle {s : Store} (h : s.writing = false) :
    s.beginWrite = some { s with writing := true } := beginWrite_eq_some_iff.2 ⟨h, rfl⟩

/-! ### Placing and removing -/

theorem place_of_new {s : Store} {r : Rule} (h : s.find? r.key = none) :
    s.place r = ⟨(s.insert r).1, .added, ⟨.add, r⟩⟩ := by
  simp only [place, h]
  rfl

theorem place_of_same {s : Store} {r : Rule} {old : Node} (h : s.find? r.key = some old)
    (hp : old.rule.precedence = r.precedence) :
    s.place r =
      ⟨(s.replace old r).1, .modified (old.rule.differsInPayload r), ⟨.modify, r⟩⟩ := by
  simp only [place, h, if_pos hp]
  rfl

theorem place_of_other {s : Store} {r : Rule} {old : Node} (h : s.find? r.key = some old)
    (hp : old.rule.precedence ≠ r.precedence) :
    s.place r = ⟨(s.relocate old r).1,
      .moved old.rule.precedence (old.rule.differsInPayload r), ⟨.modify, r⟩⟩ := by
  simp only [place, h, if_neg hp]
  rfl

theorem place_writing (s : Store) (r : Rule) : (s.place r).store.writing = s.writing := by
  rcases e : s.find? r.key with - | old
  · rw [place_of_new e]
    rfl
  · by_cases hp : old.rule.precedence = r.precedence
    · rw [place_of_same e hp]
      rfl
    · rw [place_of_other e hp]
      rfl

theorem remove_some {s w : Store} {k : RuleKey} {n : Node} (h : s.remove k = some (w, n)) :
    s.find? k = some n ∧ w.writing = s.writing ∧ w.count = s.count - 1 := by
  obtain ⟨m, hm, hw⟩ := Option.map_eq_some_iff.1 h
  cases hw
  exact ⟨hm, rfl, rfl⟩

/-! ### Serving -/

section

variable {s w : Store} {limits : Limits} {r : Rule} {k : RuleKey} {n : Node}

theorem add_of_full (full : limits.ruleMax ≤ s.count) : s.add limits r = .error .tableFull :=
  if_pos full

theorem add_of_code (room : s.count < limits.ruleMax) (code : 10 ≤ r.treatment.output) :
    s.add limits r = .error .invalidEntry :=
  (if_neg (UInt32.not_le.2 room)).trans (if_pos (PrioritySource.maxCode_lt_iff.2 code))

theorem add_of_room (room : s.count < limits.ruleMax) (code : r.treatment.output < 10) :
    s.add limits r = .ok (s.place (stored r)) :=
  (if_neg (UInt32.not_le.2 room)).trans
    (if_neg (mt PrioritySource.maxCode_lt_iff.1 (UInt8.not_le.2 code)))

theorem delete_of_empty (h : s.count = 0) : s.delete k = .error .tableEmpty := if_pos h

theorem delete_of_absent (nonzero : s.count ≠ 0) (h : s.remove k = none) :
    s.delete k = .error .ruleNotFound := by
  rw [delete, if_neg nonzero, h]

theorem delete_of_present (nonzero : s.count ≠ 0) (h : s.remove k = some (w, n)) :
    s.delete k = .ok ⟨w, .deleted, ⟨.remove, n.rule⟩⟩ := by
  rw [delete, if_neg nonzero, h]

end

/-- **All that serving a request can do**, with the checks that it has then passed. -/
theorem serve_ok_cases {s : Store} {limits : Limits} {q : Request} {c : Change}
    (h : s.serve limits q = .ok c) :
    (q.command = .add ∧ s.count < limits.ruleMax ∧ q.rule.treatment.output < 10 ∧
        c = s.place (stored q.rule)) ∨
      (q.command = .delete ∧ s.count ≠ 0 ∧
        ∃ w n, s.remove q.key = some (w, n) ∧ c = ⟨w, .deleted, ⟨.remove, n.rule⟩⟩) := by
  unfold serve at h
  rcases e : q.command with - | - | code
  · replace h : s.add limits q.rule = .ok c := by rwa [e] at h
    rcases UInt32.lt_or_le s.count limits.ruleMax with room | full
    · rcases UInt8.lt_or_le q.rule.treatment.output 10 with code | code
      · rw [add_of_room room code] at h
        exact .inl ⟨rfl, room, code, (Except.ok.inj h).symm⟩
      · rw [add_of_code room code] at h
        cases h
    · rw [add_of_full full] at h
      cases h
  · replace h : s.delete q.key = .ok c := by rwa [e] at h
    by_cases hcount : s.count = 0
    · rw [delete_of_empty hcount] at h
      cases h
    · rcases hr : s.remove q.key with - | ⟨w, n⟩
      · rw [delete_of_absent hcount hr] at h
        cases h
      · rw [delete_of_present hcount hr] at h
        exact .inr ⟨rfl, hcount, w, n, rfl, (Except.ok.inj h).symm⟩
  · rw [e] at h
    cases h

/-- Serving a request leaves the writer as it is. -/
theorem serve_writing {s : Store} {limits : Limits} {q : Request} {c : Change}
    (h : s.serve limits q = .ok c) : c.store.writing = s.writing := by
  obtain ⟨-, -, -, rfl⟩ | ⟨-, -, w, n, hr, rfl⟩ := serve_ok_cases h
  · exact place_writing s _
  · exact (remove_some hr).2.1

end Store

end PacketPriority
