import PacketPriority.Proofs.CommandLine.Reading
import PacketPriority.Proofs.CommandLine.Validation
import PacketPriority.Proofs.RuleFile.Decision
import PacketPriority.Proofs.Settings.Loading

/-!
Which priorities the program tells of mesh packets.

A priority has three bits. What is told of a mesh packet comes from one of four sources: the output
of an entry, the link priority of the packet, its DSCP value, or the default of the settings. The
first has three bits where it is the priority itself, the third has them as the command line takes
DSCP values of six bits only (`dscp_lt_of_accepted`), and the fourth as the settings are checked.
The second is told as it was given (`mesh_priority_is_passed_on`), and the command line takes every
byte for it: the program can tell a priority of eight bits (`link_priority_is_no_priority`).
-/

namespace PacketPriority.RuleFile

/-! ### The four sources -/

/-- The entry that decides about a mesh packet. -/
def meshChosen (es : List Entry) (p : Packet) : Option Entry :=
  chosen es fun e => e.kind = .mesh ∧ e.rule.matchesMesh p

/-- The entry that decides about a mesh packet asks for its link priority. -/
def PassesLinkPriority (es : List Entry) (p : Packet) : Prop :=
  ∃ e, meshChosen es p = some e ∧ e.output = 8

variable {es : List Entry} {defaultPcp : UInt8} {p : Packet}

theorem decideMesh_of_passes (passes : PassesLinkPriority es p) :
    decideMesh defaultPcp es p = p.priority := by
  obtain ⟨e, found, output⟩ := passes
  unfold meshChosen at found
  simp only [decideMesh, found, output]
  rfl

/-- The upper bits of a DSCP value of six bits are three. -/
theorem shift_le_of_lt {d : UInt8} (h : d < 64) : d >>> 3 ≤ 7 := by
  have six : d.toNat < 64 := UInt8.lt_iff_toNat_lt.1 h
  rw [UInt8.le_iff_toNat_le, UInt8.toNat_shiftRight]
  show d.toNat >>> 3 ≤ 7
  rw [Nat.shiftRight_eq_div_pow]
  omega

/-- All other sources give three bits. -/
theorem decideMesh_le (default_le : defaultPcp ≤ 7) (six : p.dscp < 64)
    (other : ¬ PassesLinkPriority es p) : decideMesh defaultPcp es p ≤ 7 := by
  have byDscp : (if p.network.isIp then p.dscp >>> 3 else defaultPcp) ≤ 7 := by
    split
    · exact shift_le_of_lt six
    · exact default_le
  rcases found : meshChosen es p with - | e <;> unfold meshChosen at found
  · -- no entry: whether the file adds any rule decides between the other two
    simp only [decideMesh, found]
    split
    · exact byDscp
    · exact default_le
  · simp only [decideMesh, found]
    by_cases fixed : e.output ≤ 7
    · rwa [if_pos fixed]
    · have notLink : e.output ≠ 8 := fun output => other ⟨e, found, output⟩
      rwa [if_neg fixed, if_neg notLink]

end PacketPriority.RuleFile

namespace PacketPriority.CommandLine

open RuleFile

/-! ### What is told of a packet -/

variable {host : Host} {s : Settings} {es : List Entry} {path : String}

/-- Settings that make sense have a default priority of three bits. -/
theorem defaultPcp_le_of_checked (valid : s.checked = .ok s) : s.limits.defaultPcp ≤ 7 := by
  have sound : s.verdict = .ok s := by rw [← Settings.mapError_checked, valid]; rfl
  exact UInt8.le_iff_toNat_le.2 ((Settings.verdict_eq_ok_iff.1 sound).1 .defaultPcp)

/-- The table of a file that loads decides as its entries say. -/
theorem decision_ofRequests (loads : Loads s.limits.ruleMax.toNat (host.document path) es)
    (p : Packet) (flavor : Flavor) :
    CommandLine.decision (LoadedTable.ofRequests s ((firsts es).map Entry.request)).table p flavor =
      RuleFile.decision s.limits.defaultPcp es p flavor := by
  obtain ⟨hlimits, -, nodes, hkeeps, -⟩ :=
    ((Table.Mirrors.new s.limits).load ((firsts es).map Entry.request)).1
  rw [LoadedTable.ofRequests_table]
  exact decision_of_dump hlimits hkeeps (tableOf_firsts loads).1.dump_eq p flavor

/-- What is told of a packet whose addresses are of one family. -/
theorem classify_of_loads (loads : Loads s.limits.ruleMax.toNat (host.document path) es)
    {ends : Option (Ip × Ip)} {network : Network} (hends : networkOf ends = .ok network)
    (packet : Packet) (flavor : Flavor) :
    let p := { packet with network := network }
    ∃ live, classify host s path flavor ends packet =
      .ok (.classification flavor live p (RuleFile.decision s.limits.defaultPcp es p flavor)) := by
  intro p
  refine ⟨(LoadedTable.ofRequests s ((firsts es).map Entry.request)).table.count, ?_⟩
  rw [classify, hends, loadTable_firsts loads, ← decision_ofRequests loads]
  rfl

/-! ### The main result -/

/-- **The priority told of a mesh packet has three bits, unless it is a link priority with more**:
for all settings that make sense, rule files that load and command lines that are accepted. Nothing
is told if the two addresses given are of different families. -/
theorem mesh_priority_is_passed_on {args : List String} {i : Invocation} {path : Option String}
    {ends : Option (Ip × Ip)} {packet : Packet}
    (accepted : Invocation.ofArguments args = .ok i)
    (asked : i.action = .classify path .mesh ends packet)
    (valid : s.checked = .ok s)
    (loads : Loads s.limits.ruleMax.toNat (host.document (path.getD s.rulesPath)) es) :
    let result := classify host s (path.getD s.rulesPath) .mesh ends packet
    (settingsAt host i.configPath = .ok s → run host i = .ofResult result) ∧
    (∀ e, networkOf ends = .error e → result = .error e) ∧
    ∀ network, networkOf ends = .ok network →
      let p := { packet with network := network }
      ∃ live pcp, result = .ok (.classification .mesh live p (.pcp pcp)) ∧
        (7 < pcp ↔ 7 < packet.priority ∧ PassesLinkPriority es p) ∧
        (7 < pcp → pcp = packet.priority) := by
  intro result
  refine ⟨?_, ?_, ?_⟩
  · intro configured
    rw [run, asked]
    exact onRules_of_settingsAt configured path _
  · intro e hends
    show classify host s _ .mesh ends packet = _
    rw [classify, hends]
    rfl
  · intro network hends p
    obtain ⟨live, told⟩ := classify_of_loads loads hends packet .mesh
    refine ⟨live, decideMesh s.limits.defaultPcp es p, told, ?_⟩
    have six : p.dscp < 64 := (dscp_lt_of_accepted accepted asked : packet.dscp < 64)
    by_cases passes : PassesLinkPriority es p
    · rw [decideMesh_of_passes passes]
      exact ⟨(and_iff_left passes).symm, fun _ => rfl⟩
    · have small : decideMesh s.limits.defaultPcp es p ≤ 7 :=
        decideMesh_le (defaultPcp_le_of_checked valid) six passes
      exact ⟨⟨fun large => absurd large (UInt8.not_lt.2 small), fun h => absurd h.2 passes⟩,
        fun large => absurd large (UInt8.not_lt.2 small)⟩

/-- The first entry is for the packets of one DSCP value and asks for their link priority, which is
9 here. -/
theorem mesh_priority_is_passed_on_of_nine :
    let args := ["classify", "rules.toml", "--src-ip=10.0.0.1", "--dst-ip=10.0.0.2", "--dscp=46",
      "--priority", "9"]
    let text := "[[rules]]\nid = 1\ntype = 'mesh'\nprecedence = 1\ndscp = 46\noutput = 8\n" ++
      "[[rules]]\nid = 2\ntype = 'mesh'\noutput = 9\n"
    let host : Host :=
      ⟨fun path => if path = "rules.toml" then .text 108 text else .missing .notFound,
        fun _ => none⟩
    let packet : Packet :=
      { network := .ipv4 ⟨10, 0, 0, 1⟩ ⟨10, 0, 0, 2⟩, dscp := 46, priority := 9 }
    ∃ i live, Invocation.ofArguments args = .ok i ∧ settingsAt host i.configPath = .ok {} ∧
      (run host i).report = some (.classification .mesh live packet (.pcp 9)) := by
  intro args text host packet
  let ends : Option (Ip × Ip) := some (.v4 ⟨10, 0, 0, 1⟩, .v4 ⟨10, 0, 0, 2⟩)
  let es : List Entry :=
    [{ id := 1, kind := .mesh, precedence := 1, dscp := some 46, output := 8 },
      { id := 2, kind := .mesh, output := 9 }]
  let i : Invocation :=
    ⟨"spm.toml", .text, .classify (some "rules.toml") .mesh ends { dscp := 46, priority := 9 }⟩
  have accepted : Invocation.ofArguments args = .ok i := by decide +kernel
  have configured : settingsAt host i.configPath = .ok {} := by decide +kernel
  have document : host.document "rules.toml" = .text 108 text := by decide +kernel
  have loads : Loads ({} : Settings).limits.ruleMax.toNat (host.document "rules.toml") es := by
    rw [document]
    exact .of_text (by decide) (by decide +kernel) (by decide) (by decide +kernel)
  obtain ⟨ran, -, told⟩ := mesh_priority_is_passed_on accepted rfl (by decide +kernel) loads
  obtain ⟨live, pcp, told, large, passed⟩ := told (.ipv4 ⟨10, 0, 0, 1⟩ ⟨10, 0, 0, 2⟩) rfl
  have first : meshChosen es packet = es.head? := by decide +kernel
  have passes : PassesLinkPriority es packet := ⟨_, first, rfl⟩
  obtain rfl : pcp = 9 := passed (large.2 ⟨by decide, passes⟩)
  refine ⟨i, live, accepted, configured, ?_⟩
  rw [ran configured, told]
  rfl

/-- **A priority of eight bits is told**: the only entry of the file asks for the link priority,
which is given as 200. -/
theorem link_priority_is_no_priority :
    let args := ["classify", "rules.toml", "--flavor", "mesh", "--priority", "200"]
    let text := "[[rules]]\nid = 1\ntype = \"mesh\"\noutput = 8\n"
    let host : Host :=
      ⟨fun path => if path = "rules.toml" then .text 42 text else .missing .notFound, fun _ => none⟩
    let s : Settings := {}
    let packet : Packet := { priority := 200 }
    let i : Invocation := ⟨"spm.toml", .text, .classify (some "rules.toml") .mesh none packet⟩
    let es : List Entry := [{ id := 1, kind := .mesh, output := 8 }]
    Invocation.ofArguments args = .ok i ∧ s.checked = .ok s ∧ settingsAt host i.configPath = .ok s ∧
      Loads s.limits.ruleMax.toNat (host.document "rules.toml") es ∧
      ∃ live, (run host i).report = some (.classification .mesh live packet (.pcp 200)) ∧
        ¬ (200 : UInt8) ≤ 7 := by
  intro args text host s packet i es
  have configured : settingsAt host i.configPath = .ok s := by decide +kernel
  have document : host.document "rules.toml" = .text 42 text := by decide +kernel
  have loads : Loads s.limits.ruleMax.toNat (host.document "rules.toml") es := by
    rw [document]
    exact .of_text (by decide) (by decide +kernel) (by decide) (by decide +kernel)
  have pcp : RuleFile.decision s.limits.defaultPcp es packet .mesh = .pcp 200 := by decide +kernel
  have noAddresses : networkOf none = .ok packet.network := rfl
  obtain ⟨live, told⟩ := classify_of_loads loads noAddresses packet .mesh
  have ran : run host i = .ofResult (classify host s "rules.toml" .mesh none packet) :=
    onRules_of_settingsAt configured (some "rules.toml") fun s path =>
      .ofResult (classify host s path .mesh none packet)
  refine ⟨by decide +kernel, by decide +kernel, configured, loads, live, ?_, by decide⟩
  rw [ran, told]
  exact congrArg (fun d => some (Report.classification .mesh live packet d)) pcp

end PacketPriority.CommandLine
