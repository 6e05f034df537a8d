import PacketPriority.Proofs.Store.Reading

/-!
A dump, call by call, on a store that changes between the calls.

One call of a dump goes from bucket to bucket until it comes to a rule. `Dump.Rounds` is this loop
as it stands, and it has exactly one end, the one that `Dump.next` computes (`rounds_iff`).

A dump has read a bucket (`Dump.HasRead`) if it holds it or has left it behind. A call depends on no
bucket but those that it is the first to read (`next_congr`). What a dump has given is therefore
decided by what it found in each bucket as it read it, whatever the store has become since:
`Dump.Gave seen given` says so of the buckets `seen`, and every call keeps it (`Gave.next`).
-/

namespace PacketPriority

namespace Dump

variable {s s' : Store} {d d' : Dump} {r : Option Rule} {p : Nat}

/-! ### The rounds of a call -/

/-- The bucket that the dump is at, as it was read; if it has not been read, it is read now. -/
def bucket (d : Dump) (s : Store) : List Rule := d.held.getD (s.bucketRules d.cursor.precedence)

/-- The dump with its bucket left behind. -/
def leave (d : Dump) : Dump :=
  match d.cursor.precedence with
  | 0 => ⟨{ d.cursor with done := true }, none⟩
  | p + 1 => ⟨⟨p, 0, false⟩, none⟩

theorem held_leave (d : Dump) : d.leave.held = none := by
  unfold leave
  split <;> rfl

theorem offset_leave (h : d.leave.cursor.done = false) : d.leave.cursor.offset = 0 := by
  rcases e : d.cursor.precedence with - | p
  · simp [leave, e] at h
  · simp [leave, e]

theorem precedence_leave_le (d : Dump) : d.leave.cursor.precedence ≤ d.cursor.precedence := by
  rcases e : d.cursor.precedence with - | p
  · simp [leave, e]
  · simp [leave, e]

/-- The rounds of one call, up to an answer and the dump behind it. -/
inductive Rounds (s : Store) : Dump → Option Rule → Dump → Prop
  | done {d : Dump} : d.cursor.done = true → Rounds s d none d
  | found {d : Dump} {r : Rule} : d.cursor.done = false →
      (d.bucket s)[d.cursor.offset]? = some r →
      Rounds s d (some r) ⟨{ d.cursor with offset := d.cursor.offset + 1 }, some (d.bucket s)⟩
  | used {d d' : Dump} {r : Option Rule} : d.cursor.done = false →
      (d.bucket s)[d.cursor.offset]? = none → Rounds s d.leave r d' → Rounds s d r d'

theorem next_of_done (h : d.cursor.done = true) : d.next s = (none, d) := by
  simp [next, h]

theorem next_of_found {r : Rule} (h : d.cursor.done = false)
    (hr : (d.bucket s)[d.cursor.offset]? = some r) :
    d.next s =
      (some r, ⟨{ d.cursor with offset := d.cursor.offset + 1 }, some (d.bucket s)⟩) := by
  rw [bucket] at hr ⊢
  simp only [next, h, Bool.false_eq_true, if_false, hr]

/-- A call that finds its bucket used up is a call of the dump that has left it. -/
theorem next_of_used (h : d.cursor.done = false) (hr : (d.bucket s)[d.cursor.offset]? = none) :
    d.next s = d.leave.next s := by
  rw [bucket] at hr
  have gone : d.next s = descend s d.cursor.precedence d.cursor.offset := by
    simp only [next, h, Bool.false_eq_true, if_false, hr]
  rw [gone, leave]
  rcases e : d.cursor.precedence with - | p
  · simp [descend, next, e]
  · rcases hb : s.bucketRules p with - | ⟨r, rest⟩
    · simp [descend, next, hb]
    · simp [descend, next, hb]

/-- A call has an end if it has one from the next bucket on, should it go there. -/
theorem rounds_of_leave (h : d.cursor.done = false → (d.bucket s)[d.cursor.offset]? = none →
    Rounds s d.leave (d.leave.next s).1 (d.leave.next s).2) :
    Rounds s d (d.next s).1 (d.next s).2 := by
  rcases hd : d.cursor.done with - | -
  · rcases hr : (d.bucket s)[d.cursor.offset]? with - | r
    · rw [next_of_used hd hr]
      exact .used hd hr (h hd hr)
    · rw [next_of_found hd hr]
      exact .found hd hr
  · rw [next_of_done hd]
    exact .done hd

theorem rounds_next (s : Store) (d : Dump) : Rounds s d (d.next s).1 (d.next s).2 := by
  -- every round but the last one goes to a lower bucket
  rcases e : d.cursor.precedence with - | p
  · refine rounds_of_leave fun _ _ => ?_
    have last : d.leave.cursor.done = true := by simp [leave, e]
    rw [next_of_done last]
    exact .done last
  · have below : d.leave.cursor.precedence = p := by simp [leave, e]
    exact rounds_of_leave fun _ _ => rounds_next s d.leave
termination_by d.cursor.precedence

/-- **A call has exactly one end**, and it is reached after finitely many rounds. -/
theorem rounds_iff : Rounds s d r d' ↔ d.next s = (r, d') := by
  constructor
  · intro h
    induction h with
    | done hd => exact next_of_done hd
    | found hd hr => exact next_of_found hd hr
    | used hd hr _ ih => rw [next_of_used hd hr, ih]
  · intro h
    have rounds := rounds_next s d
    rwa [h] at rounds

/-- A call gives nothing if and only if the dump has come to its end. -/
theorem Rounds.eq_none_iff (rounds : Rounds s d r d') : r = none ↔ d'.cursor.done = true := by
  induction rounds with
  | done hd => simp [hd]
  | found hd _ => simp [hd]
  | used _ _ _ ih => exact ih

/-! ### The buckets that have been read -/

/-- Whether the dump has read a bucket: it holds it, or has left it behind. -/
def HasRead (d : Dump) (p : Nat) : Prop :=
  d.cursor.done = true ∨ d.cursor.precedence < p ∨ d.cursor.precedence = p ∧ d.held.isSome

instance (d : Dump) : DecidablePred d.HasRead := fun _ =>
  inferInstanceAs (Decidable (_ ∨ _ ∨ _ ∧ _))

theorem hasRead_leave : d.leave.HasRead p ↔ d.cursor.precedence ≤ p := by
  unfold HasRead leave
  rcases e : d.cursor.precedence with - | q
  · simp
  · simp only [Bool.false_eq_true, Option.isSome_none, and_false, or_false, false_or,
      Nat.add_one_le_iff]

/-- A dump on its way has read the bucket that it is at if it holds it. -/
theorem hasRead_precedence (hd : d.cursor.done = false) :
    d.HasRead d.cursor.precedence ↔ d.held.isSome := by
  simp [HasRead, hd]

theorem HasRead.leave (hd : d.cursor.done = false) (h : d.HasRead p) : d.leave.HasRead p := by
  rw [hasRead_leave]
  rcases h with done | below | ⟨here, -⟩
  · rw [hd] at done
    cases done
  · exact Nat.le_of_lt below
  · exact Nat.le_of_eq here

/-- What has been read stays read. -/
theorem HasRead.rounds (h : d.HasRead p) (rounds : Rounds s d r d') : d'.HasRead p := by
  induction rounds with
  | done _ => exact h
  | found _ _ =>
    rcases h with done | below | ⟨here, -⟩
    · exact .inl done
    · exact .inr (.inl below)
    · exact .inr (.inr ⟨here, rfl⟩)
  | used hd _ _ ih => exact ih (h.leave hd)

theorem HasRead.next (h : d.HasRead p) (s : Store) : (d.next s).2.HasRead p :=
  h.rounds (rounds_next s d)

theorem bucket_congr (hd : d.cursor.done = false)
    (h : ¬ d.HasRead d.cursor.precedence →
      s.bucketRules d.cursor.precedence = s'.bucketRules d.cursor.precedence) :
    d.bucket s = d.bucket s' := by
  rcases e : d.held with - | rules
  · have unread : ¬ d.HasRead d.cursor.precedence := by simp [hasRead_precedence hd, e]
    rw [bucket, bucket, h unread]
  · rw [bucket, bucket, e]
    rfl

/-- A call goes the same way in two stores if the buckets that it is the first to read are the same
in both. -/
theorem Rounds.congr (rounds : Rounds s d r d')
    (h : ∀ p, ¬ d.HasRead p → d'.HasRead p → s.bucketRules p = s'.bucketRules p) :
    Rounds s' d r d' := by
  induction rounds with
  | done hd => exact .done hd
  | @found d r hd hr =>
    have same : d.bucket s = d.bucket s' :=
      bucket_congr hd fun unread => h _ unread (.inr (.inr ⟨rfl, rfl⟩))
    rw [same] at hr ⊢
    exact .found hd hr
  | @used d d' r hd hr later ih =>
    have left : d'.HasRead d.cursor.precedence := (hasRead_leave.2 (Nat.le_refl _)).rounds later
    have same : d.bucket s = d.bucket s' := bucket_congr hd fun unread => h _ unread left
    rw [same] at hr
    exact .used hd hr (ih fun p unread => h p (mt (HasRead.leave hd) unread))

/-- **A call depends on no bucket but those that it is the first to read.** -/
theorem next_congr (h : ∀ p, ¬ d.HasRead p → (d.next s).2.HasRead p →
      s.bucketRules p = s'.bucketRules p) : d.next s = d.next s' :=
  (rounds_iff.1 ((rounds_next s d).congr h)).symm

/-! ### What a dump has given -/

/-- The rules of a bucket that a dump has behind it, of those that it found there. -/
def behind (d : Dump) (seen : Nat → List Rule) (p : Nat) : List Rule :=
  if d.cursor.done = true ∨ d.cursor.precedence < p then seen p
  else if d.cursor.precedence = p then (seen p).take d.cursor.offset
  else []

theorem behind_of_left {seen : Nat → List Rule}
    (h : d.cursor.done = true ∨ d.cursor.precedence < p) : d.behind seen p = seen p :=
  if_pos h

theorem behind_precedence {seen : Nat → List Rule} (hd : d.cursor.done = false) :
    d.behind seen d.cursor.precedence = (seen d.cursor.precedence).take d.cursor.offset := by
  simp [behind, hd]

theorem behind_below {seen : Nat → List Rule} (hd : d.cursor.done = false)
    (h : p < d.cursor.precedence) : d.behind seen p = [] := by
  have above : ¬ d.cursor.precedence < p := Nat.not_lt.2 (Nat.le_of_lt h)
  simp [behind, hd, above, Nat.ne_of_gt h]

theorem behind_sublist (d : Dump) (seen : Nat → List Rule) (p : Nat) :
    (d.behind seen p).Sublist (seen p) := by
  unfold behind
  split
  · exact .refl _
  · split
    · exact List.take_sublist _ _
    · exact List.nil_sublist _

/-- Of a bucket that has been read all is behind, or what the cursor counts if the dump is there. -/
theorem behind_of_hasRead {seen : Nat → List Rule} (read : d.HasRead p) :
    d.behind seen p =
      if d.cursor.precedence? = some p then (seen p).take d.cursor.offset else seen p := by
  unfold Cursor.precedence?
  rcases hd : d.cursor.done with - | -
  · rcases read with done | below | ⟨here, -⟩
    · rw [hd] at done
      cases done
    · rw [behind_of_left (.inr below)]
      simp [Nat.ne_of_lt below]
    · subst here
      simp [behind_precedence hd]
  · rw [behind_of_left (.inl hd)]
    simp

theorem behind_leave (d : Dump) (seen : Nat → List Rule) (p : Nat) :
    d.leave.behind seen p = if d.cursor.precedence ≤ p then seen p else [] := by
  unfold behind leave
  rcases e : d.cursor.precedence with - | q
  · simp
  · rcases Nat.lt_trichotomy q p with above | rfl | below
    · simp [above, Nat.succ_le_of_lt above]
    · simp only [Bool.false_eq_true, Nat.lt_irrefl, or_self, ↓reduceIte, List.take_zero,
        Nat.not_succ_le_self]
    · simp [Nat.not_lt.2 (Nat.le_of_lt below), Nat.ne_of_gt below,
        Nat.not_le.2 (Nat.lt_succ_of_lt below)]

theorem behind_found {seen : Nat → List Rule} (hd : d.cursor.done = false) {r : Rule}
    (hr : (seen d.cursor.precedence)[d.cursor.offset]? = some r) (held : Option (List Rule))
    (p : Nat) :
    Dump.behind ⟨{ d.cursor with offset := d.cursor.offset + 1 }, held⟩ seen p =
      if p = d.cursor.precedence then d.behind seen p ++ [r] else d.behind seen p := by
  by_cases here : p = d.cursor.precedence
  · subst here
    simp [behind, hd, List.take_add_one, hr]
  · rw [if_neg here, behind, behind, if_neg (Ne.symm here), if_neg (Ne.symm here)]

/-- What a dump has found in the buckets, if it finds in those that it has not read what is there.
-/
def finds (d : Dump) (seen : Nat → List Rule) (s : Store) (p : Nat) : List Rule :=
  if d.HasRead p then seen p else s.bucketRules p

/-- The dump has given these rules, having found `seen` in the buckets that it has read. -/
structure Gave (d : Dump) (seen : Nat → List Rule) (given : List Rule) : Prop where
  given_eq : given = stacked (d.behind seen) bucketCount
  held_eq : d.cursor.done = false → ∀ rules, d.held = some rules →
    seen d.cursor.precedence = rules
  /-- A bucket that has not been read has nothing behind. -/
  offset_eq : d.cursor.done = false → d.held = none → d.cursor.offset = 0
  precedence_lt : d.cursor.precedence < bucketCount

namespace Gave

variable {seen seen' : Nat → List Rule} {given : List Rule}

/-- Of a bucket that has not been read nothing has been given. -/
theorem behind_unread (h : d.Gave seen given) (f : Nat → List Rule) (unread : ¬ d.HasRead p) :
    d.behind f p = [] := by
  rcases hd : d.cursor.done with - | -
  · have above : ¬ d.cursor.precedence < p := fun below => unread (.inr (.inl below))
    rcases Nat.lt_or_eq_of_le (Nat.not_lt.1 above) with below | rfl
    · exact behind_below hd below
    · have empty : d.held = none := by
        rwa [hasRead_precedence hd, Option.not_isSome_iff_eq_none] at unread
      rw [behind_precedence hd, h.offset_eq hd empty, List.take_zero]
  · exact absurd (.inl hd) unread

/-- Only the buckets that have been read matter. -/
theorem congr (h : d.Gave seen given) (same : ∀ p, d.HasRead p → seen p = seen' p) :
    d.Gave seen' given where
  given_eq := by
    rw [h.given_eq]
    refine stacked_congr fun p _ => ?_
    by_cases read : d.HasRead p
    · rw [behind, behind, same p read]
    · rw [h.behind_unread seen read, h.behind_unread seen' read]
  held_eq hd rules e := by
    rw [← same _ ((hasRead_precedence hd).2 (by rw [e]; rfl))]
    exact h.held_eq hd rules e
  offset_eq := h.offset_eq
  precedence_lt := h.precedence_lt

/-- What the dump is at is what it found there, as soon as it has read it. -/
theorem bucket_eq (h : d.Gave seen given) (hd : d.cursor.done = false)
    (now : ∀ p, ¬ d.HasRead p → seen p = s.bucketRules p) :
    d.bucket s = seen d.cursor.precedence := by
  rcases e : d.held with - | rules
  · have unread : ¬ d.HasRead d.cursor.precedence := by simp [hasRead_precedence hd, e]
    rw [bucket, e, now _ unread]
    rfl
  · rw [bucket, e, h.held_eq hd rules e]
    rfl

/-- Leaving a bucket that is used up gives nothing and misses nothing. -/
theorem leave (h : d.Gave seen given) (hd : d.cursor.done = false)
    (used : (seen d.cursor.precedence)[d.cursor.offset]? = none) : d.leave.Gave seen given where
  given_eq := by
    rw [h.given_eq]
    refine stacked_congr fun p _ => ?_
    have all : (seen d.cursor.precedence).take d.cursor.offset = seen d.cursor.precedence :=
      List.take_of_length_le (List.getElem?_eq_none_iff.1 used)
    rw [behind_leave]
    rcases Nat.lt_trichotomy p d.cursor.precedence with below | rfl | above
    · rw [behind_below hd below, if_neg (Nat.not_le.2 below)]
    · rw [behind_precedence hd, all, if_pos (Nat.le_refl _)]
    · rw [behind_of_left (.inr above), if_pos (Nat.le_of_lt above)]
  held_eq _ rules e := by
    rw [held_leave] at e
    cases e
  offset_eq going _ := offset_leave going
  precedence_lt := Nat.lt_of_le_of_lt (precedence_leave_le d) h.precedence_lt

/-- Giving a rule of the bucket that it is at leaves that rule behind. -/
theorem found (h : d.Gave seen given) (hd : d.cursor.done = false) {r : Rule}
    (hr : (seen d.cursor.precedence)[d.cursor.offset]? = some r) :
    Gave ⟨{ d.cursor with offset := d.cursor.offset + 1 }, some (seen d.cursor.precedence)⟩ seen
      (given ++ [r]) where
  given_eq := by
    rw [h.given_eq, ← stacked_concat r h.precedence_lt fun p below => behind_below hd below]
    exact stacked_congr fun p _ => (behind_found hd hr _ p).symm
  held_eq _ rules e := Option.some.inj e
  offset_eq _ e := by cases e
  precedence_lt := h.precedence_lt

/-- **Every round keeps what has been given**, if the buckets that have not been read are found as
they are now. -/
theorem rounds (h : d.Gave seen given) (now : ∀ p, ¬ d.HasRead p → seen p = s.bucketRules p)
    (rounds : Rounds s d r d') : d'.Gave seen (given ++ r.toList) := by
  -- on the rounds; the buckets that are found stay the same through all of them
  induction rounds with
  | done _ =>
    rw [Option.toList_none, List.append_nil]
    exact h
  | found hd hr =>
    rw [h.bucket_eq hd now] at hr ⊢
    exact h.found hd hr
  | used hd hr _ ih =>
    rw [h.bucket_eq hd now] at hr
    exact ih (h.leave hd hr) fun p unread => now p (mt (HasRead.leave hd) unread)

/-- **Every call keeps what has been given**, and finds in the buckets that it is the first to read
what is there. -/
theorem next (h : d.Gave seen given) (s : Store) :
    (d.next s).2.Gave (d.finds seen s) (given ++ (d.next s).1.toList) := by
  have same : ∀ p, d.HasRead p → seen p = d.finds seen s p := fun p read => (if_pos read).symm
  exact (h.congr same).rounds (fun p unread => if_neg unread) (rounds_next s d)

end Gave

theorem gave_start (seen : Nat → List Rule) : Gave start seen [] where
  given_eq := by
    refine (stacked_eq_nil fun p hp => ?_).symm
    rcases Nat.lt_or_eq_of_le (Nat.le_sub_one_of_lt hp) with below | rfl
    · exact behind_below rfl below
    · exact behind_precedence (d := start) rfl
  held_eq _ _ h := by cases h
  offset_eq _ _ := rfl
  precedence_lt := by decide

end Dump

end PacketPriority
