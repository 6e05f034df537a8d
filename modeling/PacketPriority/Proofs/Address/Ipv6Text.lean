import PacketPriority.Address.Ipv6
import PacketPriority.Proofs.Text.Groups
import PacketPriority.Proofs.Text.Hexadecimal

/-!
Written IPv6 addresses are read as the addresses that they write.

An address is written in groups, with `::` for its longest run of zero groups. The run that is left
out is one of zeros (`longestZeroRun_eq`), and no two colons stand together in groups that are
written one after another, so the `::` of a written address is where the run was
(`cut?_groupsText_append`). What is read on the two sides are the groups around the run
(`side?_groupsText`), and the groups that are missing are filled up with zeros. An address that
embeds an IPv4 address takes a way of its own, through the dotted quad (`groups_of_embedded`).
-/

namespace PacketPriority

/-! ### Dotted quads -/

namespace Ipv4

theorem dot_mem_toList (x : Ipv4) : '.' ∈ x.toList := by
  simp [toList, octets, Text.joined]

theorem mem_toList {x : Ipv4} {c : Char} (h : c ∈ x.toList) : c = '.' ∨ c.isDigit = true := by
  have quad : Text.Grouped (· = '.') x.toList (x.octets.map octetText) :=
    Text.grouped_joined rfl (by simp [octets])
  rcases quad.sep_or_mem h with dot | ⟨text, ht, hc⟩
  · exact .inl (of_decide_eq_true dot)
  · obtain ⟨b, -, rfl⟩ := List.mem_map.1 ht
    exact .inr (Nat.isDigit_of_mem_toDigits (by decide) (by decide) hc)

theorem ofString?_toString (x : Ipv4) : ofString? x.toString = some x := by
  rw [ofString?, toString, String.toList_ofList, ofList?_toList]

end Ipv4

namespace Ipv6

/-! ### Zero runs -/

theorem takeWhile_zero (gs : List UInt16) :
    gs.takeWhile (· == 0) = List.replicate (leadingZeros gs) 0 := by
  refine List.eq_replicate_iff.2 ⟨rfl, ?_⟩
  intro g hg
  have zero := List.all_eq_true.1 (List.all_takeWhile (p := (· == (0 : UInt16))) (l := gs)) g hg
  exact eq_of_beq zero

/-- **The run that is found is one of zeros**, with the groups before it and those behind it. -/
theorem longestZeroRun_eq (gs : List UInt16) :
    ∃ head tail, gs = head ++ List.replicate (longestZeroRun gs).2 0 ++ tail ∧
      head.length = (longestZeroRun gs).1 := by
  induction gs with
  | nil => exact ⟨[], [], rfl, rfl⟩
  | cons g gs ih =>
    rw [longestZeroRun]
    split
    next =>
      refine ⟨[], (g :: gs).dropWhile (· == 0), ?_, rfl⟩
      rw [List.nil_append, ← takeWhile_zero, List.takeWhile_append_dropWhile]
    next =>
      obtain ⟨head, tail, run, length⟩ := ih
      refine ⟨g :: head, tail, ?_, congrArg (· + 1) length⟩
      rw [List.cons_append, List.cons_append, ← run]

/-! ### Groups -/

theorem group?_hexDigits (g : UInt16) : group? (Text.hexDigits g.toNat) = some g := by
  have short : (Text.hexDigits g.toNat).length ≤ 4 :=
    (Nat.length_toDigits_le_iff (by decide) (by decide)).2 g.toNat_lt
  rw [group?, if_pos short, Text.numeral?_hexDigits]
  exact Word.ofNat?_toNat g

theorem ne_colon_of_mem_hexDigits {n : Nat} : ∀ c ∈ Text.hexDigits n, c ≠ ':' := by
  rintro c hc rfl
  obtain ⟨v, hv⟩ := Text.digit_of_mem_hexDigits hc
  cases hv

theorem parts_groupsText {gs : List UInt16} (h : gs ≠ []) :
    Text.parts (· = ':') (groupsText gs) = gs.map fun g => Text.hexDigits g.toNat := by
  refine Text.parts_joined rfl (by simpa using h) ?_
  intro text ht
  obtain ⟨g, -, rfl⟩ := List.mem_map.1 ht
  exact fun c hc => decide_eq_false (ne_colon_of_mem_hexDigits c hc)

theorem groupsOf?_hexDigits (quad : Bool) :
    ∀ gs : List UInt16, groupsOf? quad (gs.map fun g => Text.hexDigits g.toNat) = some gs
  | [] => rfl
  | [g] => by rw [List.map_cons, List.map_nil, groupsOf?, group?_hexDigits]
  | g :: g' :: gs => by
    have rest := groupsOf?_hexDigits quad (g' :: gs)
    rw [List.map_cons] at rest
    rw [List.map_cons, List.map_cons, groupsOf?, group?_hexDigits, Option.bind_some, rest]
    · rfl
    · exact nofun

/-- Written groups begin with a digit. -/
theorem exists_groupsText_eq_cons (g : UInt16) (gs : List UInt16) :
    ∃ c cs, groupsText (g :: gs) = c :: cs ∧ c ≠ ':' := by
  obtain ⟨c, cs, digits⟩ : ∃ c cs, Text.hexDigits g.toNat = c :: cs :=
    List.exists_cons_of_ne_nil Nat.toDigits_ne_nil
  have solid : c ≠ ':' := by
    have mem : c ∈ Text.hexDigits g.toNat := by rw [digits]; exact List.mem_cons_self
    exact ne_colon_of_mem_hexDigits c mem
  cases gs with
  | nil => exact ⟨c, cs, digits, solid⟩
  | cons g' gs =>
    refine ⟨c, cs ++ [':'] ++ groupsText (g' :: gs), ?_, solid⟩
    show Text.hexDigits g.toNat ++ [':'] ++ groupsText (g' :: gs) = _
    rw [digits]
    rfl

/-- A side of an address that is written in groups is read as these groups. -/
theorem side?_groupsText (quad : Bool) (gs : List UInt16) :
    side? quad (groupsText gs) = some gs := by
  cases gs with
  | nil => rfl
  | cons g gs =>
    have nonempty : (groupsText (g :: gs)).isEmpty = false := by
      obtain ⟨c, cs, text, -⟩ := exists_groupsText_eq_cons g gs
      rw [text]
      rfl
    rw [side?, nonempty, parts_groupsText (List.cons_ne_nil g gs)]
    exact groupsOf?_hexDigits quad (g :: gs)

/-! ### The place of two colons -/

theorem cut?_cons_of_ne {c : Char} (h : c ≠ ':') (cs : List Char) :
    cut? (c :: cs) = (cut? cs).map fun (before, after) => (c :: before, after) := by
  rw [cut?]
  intro cs' start
  exact absurd start h

theorem cut?_colon_cons {c : Char} (h : c ≠ ':') (cs : List Char) :
    cut? (':' :: c :: cs) =
      (cut? (c :: cs)).map fun (before, after) => (':' :: before, after) := by
  rw [cut?]
  intro cs' _ start
  exact absurd (List.cons.inj start).1 h

/-- Two colons are looked for behind a text without colons. -/
theorem cut?_append {text : List Char} (clean : ∀ c ∈ text, c ≠ ':') (rest : List Char) :
    cut? (text ++ rest) = (cut? rest).map fun (before, after) => (text ++ before, after) := by
  induction text with
  | nil => simp
  | cons c text ih =>
    rw [List.forall_mem_cons] at clean
    rw [List.cons_append, cut?_cons_of_ne clean.1, ih clean.2, Option.map_map]
    rfl

/-- No two colons stand together in written groups. -/
theorem cut?_groupsText_append : ∀ (gs : List UInt16) (rest : List Char),
    cut? (groupsText gs ++ rest) =
      (cut? rest).map fun (before, after) => (groupsText gs ++ before, after)
  | [], rest => by simp [groupsText, Text.joined]
  | [_], rest => cut?_append ne_colon_of_mem_hexDigits rest
  | g :: g' :: gs, rest => by
    obtain ⟨c, cs, text, solid⟩ := exists_groupsText_eq_cons g' gs
    have behind := cut?_groupsText_append (g' :: gs) rest
    have written : groupsText (g :: g' :: gs) =
        Text.hexDigits g.toNat ++ ':' :: groupsText (g' :: gs) := by
      show Text.hexDigits g.toNat ++ [':'] ++ groupsText (g' :: gs) = _
      rw [List.append_assoc, List.singleton_append]
    rw [written, List.append_assoc, cut?_append ne_colon_of_mem_hexDigits]
    rw [text] at behind ⊢
    rw [List.cons_append, List.cons_append, cut?_colon_cons solid, ← List.cons_append, behind,
      Option.map_map, Option.map_map]
    refine congrArg (fun f => (cut? rest).map f) (funext fun p => ?_)
    simp

theorem cut?_groupsText (gs : List UInt16) : cut? (groupsText gs) = none := by
  have whole := cut?_groupsText_append gs []
  rwa [List.append_nil] at whole

/-! ### Embedded IPv4 addresses -/

/-- A group is made of its upper and its lower eight bits. -/
theorem joined_octets (w : UInt16) :
    (w >>> 8).toUInt8.toUInt16 <<< 8 ||| w.toUInt8.toUInt16 = w := by
  have bound : w.toNat < 65536 := w.toNat_lt
  have high : (w >>> 8).toUInt8.toUInt16.toNat = w.toNat / 256 := by
    have shifted : (w >>> 8).toNat = w.toNat / 256 := Nat.shiftRight_eq_div_pow w.toNat 8
    rw [UInt8.toNat_toUInt16, UInt16.toNat_toUInt8, shifted]
    exact Nat.mod_eq_of_lt (by omega)
  have upper : ((w >>> 8).toUInt8.toUInt16 <<< 8).toNat = (w.toNat / 256) <<< 8 := by
    rw [UInt16.toNat_shiftLeft, high]
    show (w.toNat / 256) <<< 8 % 65536 = _
    rw [Nat.shiftLeft_eq]
    exact Nat.mod_eq_of_lt (by omega)
  have lower : w.toUInt8.toUInt16.toNat = w.toNat % 256 := by simp
  have apart : w.toNat % 256 < 2 ^ 8 := Nat.mod_lt _ (by decide)
  rw [← UInt16.toNat_inj, UInt16.toNat_or, upper, lower, ← Nat.shiftLeft_add_eq_or_of_lt apart,
    Nat.shiftLeft_eq]
  omega

/-- The groups of an address that embeds an IPv4 address. -/
theorem groups_of_embedded {x : Ipv6} {v4 : Ipv4} (h : x.embedded? = some v4) :
    x.groups = List.replicate 5 0 ++ 65535 :: quadGroups v4 := by
  unfold embedded? at h
  split at h
  next zeros =>
    obtain ⟨h0, h1, h2, h3, h4, h5⟩ := zeros
    obtain rfl := Option.some.inj h
    rw [groups, h0, h1, h2, h3, h4, h5, quadGroups, joined_octets, joined_octets]
    rfl
  next => cases h

theorem group?_quad (v4 : Ipv4) : group? v4.toList = none := by
  rw [← Option.not_isSome_iff_eq_none, Option.isSome_iff_exists]
  rintro ⟨g, hg⟩
  unfold group? at hg
  split at hg
  next =>
    obtain ⟨n, read, -⟩ := Option.bind_eq_some_iff.1 hg
    obtain ⟨v, dot⟩ := Text.digit_of_mem_numeral read '.' v4.dot_mem_toList
    cases dot
  next => cases hg

theorem side?_quad (v4 : Ipv4) :
    side? true (['f', 'f', 'f', 'f', ':'] ++ v4.toList) = some (65535 :: quadGroups v4) := by
  have clean : ∀ c ∈ v4.toList, (c = ':' : Bool) = false := by
    intro c hc
    rw [decide_eq_false_iff_not]
    rintro rfl
    rcases Ipv4.mem_toList hc with dot | digit
    · cases dot
    · cases digit
  have parts : Text.parts (· = ':') (['f', 'f', 'f', 'f'] ++ ':' :: v4.toList) =
      [['f', 'f', 'f', 'f'], v4.toList] := by
    rw [Text.parts_append rfl _ (by simp), Text.parts_of_none clean]
  show groupsOf? true (Text.parts (· = ':') (['f', 'f', 'f', 'f'] ++ ':' :: v4.toList)) = _
  have first : group? ['f', 'f', 'f', 'f'] = some 65535 := by decide +kernel
  rw [parts, groupsOf?, first, Option.bind_some, groupsOf?, group?_quad, Ipv4.ofList?_toList]
  · rfl
  · exact nofun

/-! ### Addresses -/

/-- Two sides of two colons, with zeros for the groups that are missing. -/
theorem ofList?_of_cut {cs before after : List Char} {head tail : List UInt16}
    (cut : cut? cs = some (before, after)) (left : side? false before = some head)
    (right : side? true after = some tail) (short : head.length + tail.length ≤ 7) :
    ofList? cs =
      ofGroups? (head ++ List.replicate (8 - (head.length + tail.length)) 0 ++ tail) := by
  rw [ofList?, cut]
  show (side? false before).bind _ = _
  rw [left, Option.bind_some, right, Option.bind_some, if_pos short]

theorem ofList?_of_no_cut {cs : List Char} {gs : List UInt16} (cut : cut? cs = none)
    (whole : side? true cs = some gs) : ofList? cs = ofGroups? gs := by
  rw [ofList?, cut]
  show (side? true cs).bind _ = _
  rw [whole, Option.bind_some]

/-- **A written IPv6 address is read as the address that it writes.** -/
theorem ofList?_toList (x : Ipv6) : ofList? x.toList = some x := by
  unfold toList
  split
  next v4 embedded =>
    -- nothing stands before the double colon, so that five groups are missing
    have read : ofList? ([':', ':', 'f', 'f', 'f', 'f', ':'] ++ v4.toList) =
        ofGroups? ([] ++ List.replicate 5 0 ++ 65535 :: quadGroups v4) :=
      ofList?_of_cut rfl rfl (side?_quad v4) (by decide : 0 + 3 ≤ 7)
    rw [read, ← ofGroups?_groups x, groups_of_embedded embedded, List.nil_append]
  next =>
    obtain ⟨head, tail, run, length⟩ := longestZeroRun_eq x.groups
    rcases found : longestZeroRun x.groups with ⟨start, zeros⟩
    rw [found] at run length
    subst length
    show ofList? (if 1 < zeros then _ else _) = some x
    split
    next several =>
      -- the double colon stands for the run, and the groups around it tell how long that is
      have total : head.length + zeros + tail.length = 8 := by
        simpa [groups, Nat.add_assoc] using (congrArg List.length run).symm
      have before : x.groups.take head.length = head := by
        rw [run, List.append_assoc, List.take_left]
      have after : x.groups.drop (head.length + zeros) = tail := by
        rw [run]
        exact List.drop_left' (by simp)
      rw [before, after, List.append_assoc]
      have cut : cut? (groupsText head ++ ([':', ':'] ++ groupsText tail)) =
          some (groupsText head, groupsText tail) := by
        rw [cut?_groupsText_append]
        show some (groupsText head ++ [], groupsText tail) = _
        rw [List.append_nil]
      have missing : 8 - (head.length + tail.length) = zeros := by omega
      rw [ofList?_of_cut cut (side?_groupsText false head) (side?_groupsText true tail) (by omega),
        missing, ← run, ofGroups?_groups]
    next =>
      rw [ofList?_of_no_cut (cut?_groupsText x.groups) (side?_groupsText true x.groups),
        ofGroups?_groups]

theorem ofString?_toString (x : Ipv6) : ofString? x.toString = some x := by
  rw [ofString?, toString, String.toList_ofList, ofList?_toList]

end Ipv6

end PacketPriority
