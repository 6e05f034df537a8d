import Mathlib.Data.List.Find
import PacketPriority.Proofs.Classify.FirstMatch
import PacketPriority.Proofs.Ledger.View
import PacketPriority.Proofs.RuleFile.WellFormed

/-!
The latency look-up on tables that are filled from rule files.

The look-up tries rules of every kind, all by their mesh flags. A flow rule of a file has none
(`Rule.FlowFormed.meshFlags_eq`), and a rule without mesh flags takes every packet. So the first
flow rule of the dump decides for every packet that no mesh rule in front of it takes, whatever it
compares, and also if it says nothing of latency (`Fed.latency_eq`, `latencyRule_of_flow`). Nor
does what flow entries compare matter to where their rules go: seen without it (`Rule.outlined`),
the dump is that of the files seen without it (`Reachable.dump_outlined`).

The main result is `Reachable.latency_of_files`.
-/

namespace PacketPriority

/-! ### Loading files -/

namespace RuleFile

/-- A rule file to load: the most entries that it may have, its path, and what stands there. -/
structure Source where
  max : Nat
  path : String
  document : Document

/-- What a file asks for, nothing if it does not load. -/
def Source.requests (f : Source) : List Request :=
  (RuleFile.load f.max f.path f.document).toOption.getD []

theorem Source.requests_of_loads {f : Source} {es : List Entry} (h : Loads f.max f.document es) :
    f.requests = (firsts es).map Entry.request := by
  have loaded : RuleFile.load f.max f.path f.document = .ok _ := load_eq_ok_iff.2 ⟨es, h, rfl⟩
  rw [requests, loaded]
  rfl

theorem Source.requests_of_refused {f : Source} (h : ∀ es, ¬ Loads f.max f.document es) :
    f.requests = [] := by
  rw [requests]
  rcases loaded : RuleFile.load f.max f.path f.document with e | qs
  · rfl
  · obtain ⟨es, loads, -⟩ := load_eq_ok_iff.1 loaded
    exact absurd loads (h es)

/-- What a file asks for is what some text is parsed as. -/
theorem Source.gives {f : Source} : ∀ q ∈ f.requests, Gives q := by
  intro q hq
  by_cases loads : ∃ es, Loads f.max f.document es
  · obtain ⟨es, loads⟩ := loads
    obtain ⟨size, text, -, -, decoded⟩ := loads.readable
    rw [requests_of_loads loads] at hq
    have parsed : parse f.max text f.path = .ok ((firsts es).map Entry.request) :=
      parse_eq_ok_iff.2 ⟨es, decoded, loads.few, loads.accepted, rfl⟩
    exact ⟨f.max, text, f.path, _, parsed, hq⟩
  · rw [requests_of_refused (not_exists.1 loads)] at hq
    cases hq

end RuleFile

namespace Table

/-- Loads a rule file. Of a file that does not load nothing is applied. -/
def loadFile (t : Table) (f : RuleFile.Source) : Table :=
  match RuleFile.load f.max f.path f.document with
  | .ok qs => (t.load qs).1
  | .error _ => t

/-- Loads rule files one after another. -/
def loadFiles (t : Table) (fs : List RuleFile.Source) : Table := fs.foldl loadFile t

theorem loadFile_eq (t : Table) (f : RuleFile.Source) : t.loadFile f = (t.load f.requests).1 := by
  rw [loadFile, RuleFile.Source.requests]
  cases RuleFile.load f.max f.path f.document <;> rfl

theorem load_append (t : Table) (qs qs' : List Request) :
    (t.load (qs ++ qs')).1 = ((t.load qs).1.load qs').1 := by
  induction qs generalizing t with
  | nil => rfl
  | cons q rest ih => exact ih (t.apply q).1

/-- To load files is to load all that they ask for. -/
theorem loadFiles_eq (t : Table) (fs : List RuleFile.Source) :
    t.loadFiles fs = (t.load (fs.flatMap RuleFile.Source.requests)).1 := by
  induction fs generalizing t with
  | nil => rfl
  | cons f rest ih =>
    rw [List.flatMap_cons, load_append, ← loadFile_eq, ← ih]
    rfl

end Table

/-! ### The rule that decides -/

/-- The first rule that is no mesh rule or is one that takes the packet. -/
def latencyRule (rules : List Rule) (p : Packet) : Option Rule :=
  rules.find? fun r => r.kind ≠ .mesh ∨ r.isMeshMatch p

/-- The latency fields of a rule, zeros if there is none. -/
def Latency.ofRule? : Option Rule → Latency
  | some r => .ofRule r
  | none => ⟨0, 0, 0, 0⟩

/-- A rule of a flow kind has no mesh flags. -/
def Rule.Separate (r : Rule) : Prop := r.kind ≠ .mesh → r.meshFlags = 0

theorem Rule.Separate.matchesMesh_eq {r : Rule} (h : r.Separate) (p : Packet) :
    r.matchesMesh p = decide (r.kind ≠ .mesh ∨ r.isMeshMatch p) := by
  by_cases mesh : r.kind = .mesh
  · simp [Rule.isMeshMatch, mesh]
  · simp [mesh, Rule.matchesMesh_of_meshFlags_eq_zero (h mesh)]

/-- **On a table that is fed with rule files** every flow rule takes every packet, at all times. -/
theorem Fed.latency_eq {limits : Limits} {t : Table} (h : Fed limits RuleFile.Gives t)
    (p : Packet) : (t.latency p).2 = .ofRule? (latencyRule t.dump p) := by
  have separate : ∀ r ∈ t.dump, r.Separate := by
    refine h.forall_dump fun q gives add flow => ?_
    exact ((gives.wellFormed add).lowered.flow flow).meshFlags_eq
  have found : t.dump.find? (·.matchesMesh p) = latencyRule t.dump p :=
    List.find?_congr fun r hr => (separate r hr).matchesMesh_eq p
  have first : (t.latency p).2 = FirstMatch.latency t.dump p := t.store.latency_eq p
  rw [first, FirstMatch.latency, found]
  cases latencyRule t.dump p <;> rfl

/-- A flow rule decides for all packets that the mesh rules in front of it do not take. -/
theorem latencyRule_of_flow {before after : List Rule} {r : Rule} {p : Packet}
    (flow : r.kind ≠ .mesh) (mesh : ∀ s ∈ before, s.kind = .mesh)
    (passed : ∀ s ∈ before, s.isMeshMatch p = false) :
    latencyRule (before ++ r :: after) p = some r := by
  have none : before.find? (fun s => s.kind ≠ .mesh ∨ s.isMeshMatch p) = none :=
    List.find?_eq_none.2 fun s hs => by simp [mesh s hs, passed s hs]
  rw [latencyRule, List.find?_append, none, List.find?_cons_of_pos (by simp [flow])]
  rfl

/-! ### What is left out -/

/-- The rule without what it compares, if it is a flow rule. -/
def Rule.outline (r : Rule) : Rule :=
  if r.kind = .mesh then r else { r with flowFlags := 0, criteria := {} }

theorem Rule.outline_of_mesh {r : Rule} (h : r.kind = .mesh) : r.outline = r := if_pos h

theorem Rule.sameHead_outline (r : Rule) : r.SameHead r.outline := by
  unfold outline
  split <;> exact ⟨rfl, rfl, rfl, rfl⟩

/-- Rules, seen without what flow rules compare. -/
def Rule.outlined : Ledger.View where
  of := Rule.outline
  key r := by
    obtain ⟨id, kind, -, -⟩ := r.sameHead_outline
    rw [Rule.key, id, kind]
    rfl
  precedence r := r.sameHead_outline.precedence
  output r := by rw [r.sameHead_outline.treatment]
  lowered r := by
    unfold Rule.outline Ledger.lowered
    by_cases mesh : r.kind = .mesh <;> by_cases top : r.precedence = 255 <;> simp [mesh, top]

/-- Latency is decided by what is left. -/
theorem latency_outlined (rules : List Rule) (p : Packet) :
    Latency.ofRule? (latencyRule (rules.map Rule.outline) p) =
      .ofRule? (latencyRule rules p) := by
  have same (r : Rule) : decide (r.outline.kind ≠ .mesh ∨ r.outline.isMeshMatch p = true) =
      decide (r.kind ≠ .mesh ∨ r.isMeshMatch p = true) := by
    by_cases mesh : r.kind = .mesh
    · rw [Rule.outline_of_mesh mesh]
    · simp [r.sameHead_outline.kind, mesh]
  rw [latencyRule, List.find?_map, latencyRule]
  simp only [Function.comp_def, same]
  rcases rules.find? _ with - | r
  · rfl
  · show Latency.ofRule r.outline = Latency.ofRule r
    rw [Latency.ofRule, r.sameHead_outline.treatment]
    rfl

namespace RuleFile

/-- The entry without what it compares, if it is of a flow kind. -/
def Entry.outline (e : Entry) : Entry :=
  if e.kind = .mesh then e
  else
    { id := e.id, kind := e.kind, command := e.command, precedence := e.precedence
      output := e.output, dscpRemark := e.dscpRemark, vlanPcpRemark := e.vlanPcpRemark
      serviceClassId := e.serviceClassId, mscsTidBitmap := e.mscsTidBitmap
      priorityLimit := e.priorityLimit, latency := e.latency }

namespace Entry

theorem outline_of_flow {e : Entry} (flow : e.kind ≠ .mesh) :
    e.outline.key = e.key ∧ e.outline.kind = e.kind ∧ e.outline.command = e.command ∧
      e.outline.precedence = e.precedence ∧ e.outline.treatment = e.treatment := by
  rw [outline, if_neg flow]
  exact ⟨rfl, rfl, rfl, rfl, rfl⟩

theorem key_outline (e : Entry) : e.outline.key = e.key := by
  by_cases mesh : e.kind = .mesh
  · rw [outline, if_pos mesh]
  · exact (outline_of_flow mesh).1

/-- What is left of the rule of a flow entry. -/
theorem outline_rule {e : Entry} (flow : e.kind ≠ .mesh) :
    e.rule.outline = { id := e.id, kind := e.kind, precedence := e.precedence
                       treatment := e.treatment } := by
  obtain ⟨id, kind, precedence, treatment⟩ := e.rule_head
  rw [Rule.outline, if_neg (kind ▸ flow), meshFlags_flowRule flow, id, kind, precedence, treatment]

/-- What is left of the request of an entry is that of what is left of the entry. -/
theorem request_outline (e : Entry) :
    Rule.outlined.request e.request = Rule.outlined.request e.outline.request := by
  by_cases mesh : e.kind = .mesh
  · rw [outline, if_pos mesh]
  · obtain ⟨key, kind, command, precedence, treatment⟩ := outline_of_flow mesh
    have left : e.rule.outline = e.outline.rule.outline := by
      rw [outline_rule mesh, outline_rule (kind ▸ mesh), kind, precedence, treatment,
        show e.outline.id = e.id from congrArg RuleKey.id key]
    rw [request, request, command, key]
    cases e.command with
    | add => exact congrArg Request.add left
    | delete => rfl

end Entry

variable {f g : Source} {es : List Entry}

/-- What is left of the entries that count is what counts of what is left. -/
theorem map_outline_firsts (es : List Entry) :
    (firsts es).map Entry.outline = firsts (es.map Entry.outline) := by
  induction es with
  | nil => rfl
  | cons e rest ih =>
    rw [List.map_cons, firsts, firsts, List.map_cons, ← ih, List.filter_map, e.key_outline]
    refine congrArg _ (congrArg _ (List.filter_congr fun f _ => ?_))
    rw [Function.comp_apply, f.key_outline]

/-- Two files that differ at most in what their flow entries compare, or of which neither loads. -/
inductive Source.Alike (f g : Source) : Prop
  | loaded {es es' : List Entry} : Loads f.max f.document es → Loads g.max g.document es' →
      es.map Entry.outline = es'.map Entry.outline → Alike f g
  | refused : (∀ es, ¬ Loads f.max f.document es) → (∀ es, ¬ Loads g.max g.document es) →
      Alike f g

/-- What is left of the requests of a file. -/
theorem Source.outlined_requests (h : Loads f.max f.document es) :
    f.requests.map Rule.outlined.request =
      (firsts (es.map Entry.outline)).map fun e => Rule.outlined.request e.request := by
  rw [requests_of_loads h, ← map_outline_firsts, List.map_map, List.map_map]
  exact List.map_congr_left fun e _ => e.request_outline

theorem Source.Alike.requests (h : Alike f g) :
    f.requests.map Rule.outlined.request = g.requests.map Rule.outlined.request := by
  cases h with
  | loaded loads loads' same =>
    rw [outlined_requests loads, outlined_requests loads', same]
  | refused none none' => rw [requests_of_refused none, requests_of_refused none']

theorem Source.requests_of_alike {fs gs : List Source} (h : List.Forall₂ Alike fs gs) :
    (fs.flatMap requests).map Rule.outlined.request =
      (gs.flatMap requests).map Rule.outlined.request := by
  induction h with
  | nil => rfl
  | cons first _ ih =>
    rw [List.flatMap_cons, List.flatMap_cons, List.map_append, List.map_append, first.requests, ih]

end RuleFile

/-! ### The main result -/

namespace Reachable

variable {limits : Limits} {t : Table}

/-- What an empty table shows after a load; a writer at work leaves it empty. -/
theorem dump_load (reachable : Reachable limits t) (empty : t.dump = []) (qs : List Request) :
    (t.load qs).1.dump =
      if t.store.writing then [] else Rule.ranked (Ledger.load limits [] qs).1 := by
  obtain ⟨hlimits, nodes, hkeeps⟩ := reachable.keeps
  rcases hw : t.store.writing with - | -
  · have nothing : nodes.map (·.rule) = [] := by
      have perm := Rule.ranked_perm (nodes.map (·.rule))
      rw [← (Table.Shows.of_keeps hkeeps).dump_eq, empty] at perm
      exact List.nil_perm.1 perm
    have mirrors : t.Mirrors limits [] := ⟨hlimits, hw, nodes, hkeeps, nothing⟩
    exact (mirrors.load qs).1.shows.dump_eq
  · have same := t.load_sameRules hw qs
    show (t.load qs).1.store.dump = []
    rw [same.store]
    exact empty

/-- Without what flow rules compare, a table shows what it would show if the requests compared
something else. -/
theorem dump_outlined (reachable : Reachable limits t) (empty : t.dump = []) {qs qs' : List Request}
    (same : qs.map Rule.outlined.request = qs'.map Rule.outlined.request) :
    (t.load qs).1.dump.map Rule.outline = (t.load qs').1.dump.map Rule.outline := by
  have seen (qs : List Request) : (Rule.ranked (Ledger.load limits [] qs).1).map Rule.outline =
      Rule.ranked (Ledger.load limits [] (qs.map Rule.outlined.request)).1 := by
    calc (Rule.ranked (Ledger.load limits [] qs).1).map Rule.outline
        = Rule.ranked ((Ledger.load limits [] qs).1.map Rule.outline) :=
          (Rule.outlined.ranked _).symm
      _ = Rule.ranked (Ledger.load limits [] (qs.map Rule.outlined.request)).1 :=
          congrArg Rule.ranked (Rule.outlined.load [] qs).symm
  rw [reachable.dump_load empty, reachable.dump_load empty]
  split
  · rfl
  · rw [seen, seen, same]

/-- **The latency look-up on tables that are filled from rule files.** For all reachable tables that
are empty, all lists of files loaded into them and all packets, the answer has the latency fields of
the first rule of the dump that is no mesh rule or is one that takes the packet. So the first flow
rule decides, also without latency, for all packets that no mesh rule in front of it takes; and what
flow entries compare has no part in it. -/
theorem latency_of_files (reachable : Reachable limits t) (empty : t.dump = [])
    (files : List RuleFile.Source) :
    let filled := t.loadFiles files
    (∀ p, (filled.latency p).2 = .ofRule? (latencyRule filled.dump p)) ∧
    (∀ before r after, filled.dump = before ++ r :: after → r.kind ≠ .mesh →
      (∀ s ∈ before, s.kind = .mesh) →
      ∀ p, (∀ s ∈ before, s.isMeshMatch p = false) → (filled.latency p).2 = .ofRule r) ∧
    ∀ files', List.Forall₂ RuleFile.Source.Alike files files' →
      ∀ p, ((t.loadFiles files').latency p).2 = (filled.latency p).2 := by
  intro filled
  have answer (fs : List RuleFile.Source) (p : Packet) :
      ((t.loadFiles fs).latency p).2 = .ofRule? (latencyRule (t.loadFiles fs).dump p) := by
    have gives : ∀ q ∈ fs.flatMap RuleFile.Source.requests, RuleFile.Gives q := by
      intro q hq
      obtain ⟨f, -, hq⟩ := List.mem_flatMap.1 hq
      exact RuleFile.Source.gives q hq
    rw [Table.loadFiles_eq]
    exact ((Fed.empty reachable empty).operate (.load _) gives).latency_eq p
  refine ⟨answer files, ?_, ?_⟩
  · intro before r after shows flow mesh p passed
    rw [answer files p, shows, latencyRule_of_flow flow mesh passed]
    rfl
  · -- the dumps may differ, but not once what flow rules compare is left out
    intro files' alike p
    have left := reachable.dump_outlined empty (RuleFile.Source.requests_of_alike alike)
    rw [← Table.loadFiles_eq, ← Table.loadFiles_eq] at left
    rw [answer files', answer files, ← latency_outlined, ← left, latency_outlined]

/-- A mesh rule, a flow rule without latency, and behind it one with latency that never decides. The
second file comes in two forms, which differ in what its flow rules compare. -/
theorem latency_of_files_of_shadow :
    let mesh := "[[rules]]\nid = 1\ntype = 'mesh'\nprecedence = 5\ndscp = 46\n" ++
      "latency = \x7b service_interval_dl = 1, burst_size_dl = 2, service_interval_ul = 3, " ++
      "burst_size_ul = 4 \x7d\n"
    let latency := "latency = \x7b service_interval_dl = 5, burst_size_dl = 6, " ++
      "service_interval_ul = 7, burst_size_ul = 8 \x7d\n"
    let flow := "[[rules]]\nid = 2\nprecedence = 3\nsrc_port = 80\n[[rules]]\nid = 3\n" ++ latency
    let flow' := "[[rules]]\nid = 2\nprecedence = 3\n[[rules]]\nid = 3\nvlan_id = 7\n" ++ latency
    let files : List RuleFile.Source :=
      [⟨8, "mesh.toml", .text 157 mesh⟩, ⟨8, "flow.toml", .text 164 flow⟩]
    let files' : List RuleFile.Source :=
      [⟨8, "mesh.toml", .text 157 mesh⟩, ⟨8, "flow.toml", .text 162 flow'⟩]
    let p : Packet := { network := .ipv4 {} {}, dscp := 46 }
    let filled := (Table.new {}).loadFiles files
    filled.dump.map (·.id) = [1, 2, 3] ∧ (filled.latency p).2 = ⟨1, 2, 3, 4⟩ ∧
      (filled.latency {}).2 = ⟨0, 0, 0, 0⟩ ∧
      ∀ p, (((Table.new {}).loadFiles files').latency p).2 = (filled.latency p).2 := by
  intro mesh latency flow flow' files files' p filled
  let m : RuleFile.Entry :=
    { id := 1, kind := .mesh, precedence := 5, dscp := some 46, latency := some (1, 2, 3, 4) }
  let f : RuleFile.Entry := { id := 3, latency := some (5, 6, 7, 8) }
  let es : List RuleFile.Entry := [{ id := 2, precedence := 3, srcPort := some 80 }, f]
  let es' : List RuleFile.Entry := [{ id := 2, precedence := 3 }, { f with vlanId := some 7 }]
  have loads : RuleFile.Loads 8 (.text 157 mesh) [m] :=
    .of_text (by decide) (by decide +kernel) (by decide) (by decide +kernel)
  have loads₁ : RuleFile.Loads 8 (.text 164 flow) es :=
    .of_text (by decide) (by decide +kernel) (by decide) (by decide +kernel)
  have loads₂ : RuleFile.Loads 8 (.text 162 flow') es' :=
    .of_text (by decide) (by decide +kernel) (by decide) (by decide +kernel)
  have alike : List.Forall₂ RuleFile.Source.Alike files files' :=
    .cons (.loaded loads loads rfl) (.cons (.loaded loads₁ loads₂ rfl) .nil)
  have reachable : Reachable {} (Table.new {}) := .new
  have empty : (Table.new {}).dump = [] := by decide +kernel
  obtain ⟨answer, first, others⟩ := reachable.latency_of_files empty files
  have shows : filled.dump = [m.rule] ++ es[0].rule :: [f.rule] := by
    show ((Table.new {}).loadFiles files).dump = _
    rw [Table.loadFiles_eq, List.flatMap_cons, List.flatMap_singleton,
      RuleFile.Source.requests_of_loads loads, RuleFile.Source.requests_of_loads loads₁]
    decide +kernel
  have passed : ∀ s ∈ [m.rule], s.kind = .mesh ∧ s.isMeshMatch {} = false := by decide +kernel
  have shadow : (filled.latency {}).2 = .ofRule es[0].rule :=
    first _ _ _ shows (by decide +kernel) (fun s hs => (passed s hs).1) {}
      fun s hs => (passed s hs).2
  refine ⟨?_, ?_, ?_, others files' alike⟩
  · rw [shows]
    decide +kernel
  · rw [answer p, shows]
    decide +kernel
  · rw [shadow]
    decide +kernel

end Reachable

end PacketPriority
