import PacketPriority.Proofs.Text.Numerals
import PacketPriority.Settings

/-!
The layers of settings.

`Stated` is what a file gives: each setting, or nothing for it. `Layered vars g s` says that each
setting of `s` is the one that counts among three: that of a variable if there is one, else that of
the file, else the default. A variable gives a text if it is set and not empty, and a number if it
holds a numeral, blanks around it apart, for a number that the setting can have.

The program reads a file over the defaults, one setting after another, and then lays the variables
over what it has read. Both come to the same (`decode_eq_stated`, `layered_iff`).
-/

namespace PacketPriority

/-! ### Fields that need not be given -/

namespace Toml.Fields

variable {α β : Type} (fields : Fields) (name : String)

/-- No fields at all. -/
def empty : Fields := fun _ => none

/-- A field with a default is a field that need not be given, and then the default. -/
theorem getD_eq_get? (d : Decoder α) (default : α) :
    fields.getD name d default = (·.getD default) <$> fields.get? name d := by
  unfold getD get?
  cases fields name with
  | none => rfl
  | some v =>
    show d v = (·.getD default) <$> (d v).map some
    cases d v <;> rfl

/-- What is read further of a field may be read of its default. -/
theorem getD_bind {d : Decoder β} {b : β} {further : β → Except Error α} {a : α}
    (h : further b = .ok a) :
    fields.getD name (fun v => d v >>= further) a = fields.getD name d b >>= further := by
  unfold getD
  cases fields name with
  | none => exact h.symm
  | some v => rfl

end Toml.Fields

namespace Settings

/-! ### What a file gives -/

/-- The settings that a file gives. -/
structure Stated where
  logLevel : Option String := none
  logFormat : Option String := none
  ruleMax : Option UInt32 := none
  defaultPcp : Option UInt8 := none
  rulesPath : Option String := none
deriving DecidableEq, Repr

namespace Stated

/-- The settings that a document gives. A section that is missing gives none. -/
def ofDocument (document : List (String × Toml.Value)) : Except Toml.Error Stated := do
  let sections ← shape.fields (.table document)
  let general ← sections.getD "general" generalShape.fields .empty
  let logLevel ← general.get? "log_level" Toml.Value.asString
  let logFormat ← general.get? "log_format" Toml.Value.asString
  let mapdb ← sections.getD "mapdb" mapdbShape.fields .empty
  let ruleMax ← mapdb.get? "rule_max" Toml.Value.asWord
  let defaultPcp ← mapdb.get? "default_pcp" Toml.Value.asWord
  let rulesPath ← mapdb.get? "rules_path" Toml.Value.asString
  return ⟨logLevel, logFormat, ruleMax, defaultPcp, rulesPath⟩

/-- The settings that a text gives. -/
def ofText (text : String) : Except Toml.Error Stated := Toml.parse text >>= ofDocument

/-- The settings of a file, with the defaults for those that it does not give. -/
def settings (g : Stated) : Settings where
  logLevel := g.logLevel.getD "info"
  logFormat := g.logFormat.getD "json"
  limits := ⟨g.ruleMax.getD 1024, g.defaultPcp.getD 0⟩
  rulesPath := g.rulesPath.getD "/etc/spm/rules.toml"

end Stated

/-- Settings with those of a section `general` are settings with each that it gives. -/
theorem getD_withGeneral (sections : Toml.Fields) (s : Settings) :
    sections.getD "general" s.withGeneral s = (do
      let general ← sections.getD "general" generalShape.fields .empty
      let logLevel ← general.get? "log_level" Toml.Value.asString
      let logFormat ← general.get? "log_format" Toml.Value.asString
      return { s with logLevel := logLevel.getD s.logLevel
                      logFormat := logFormat.getD s.logFormat }) := by
  unfold withGeneral
  rw [Toml.Fields.getD_bind (b := Toml.Fields.empty)]
  · simp only [Toml.Fields.getD_eq_get?, bind_map_left]
  · rfl

theorem getD_withMapdb (sections : Toml.Fields) (s : Settings) :
    sections.getD "mapdb" s.withMapdb s = (do
      let mapdb ← sections.getD "mapdb" mapdbShape.fields .empty
      let ruleMax ← mapdb.get? "rule_max" Toml.Value.asWord
      let defaultPcp ← mapdb.get? "default_pcp" Toml.Value.asWord
      let rulesPath ← mapdb.get? "rules_path" Toml.Value.asString
      return { s with limits := ⟨ruleMax.getD s.limits.ruleMax, defaultPcp.getD s.limits.defaultPcp⟩
                      rulesPath := rulesPath.getD s.rulesPath }) := by
  unfold withMapdb
  rw [Toml.Fields.getD_bind (b := Toml.Fields.empty)]
  · simp only [Toml.Fields.getD_eq_get?, bind_map_left]
  · rfl

/-- Reading a file over the defaults finds the settings that the file gives. -/
theorem decode_eq_stated (document : List (String × Toml.Value)) :
    decode document = Stated.settings <$> Stated.ofDocument document := by
  simp only [decode, Stated.ofDocument, getD_withGeneral, getD_withMapdb, map_bind, map_pure,
    bind_assoc, pure_bind]
  rfl

/-- **What a text gives is read over the defaults**, unless the text gives nothing that can be read.
-/
theorem parse_eq_stated (text : String) :
    parse text =
      match Stated.ofText text with
      | .ok g => .ok g.settings
      | .error e => .error (.parseFailed e.message) := by
  have read : Toml.parse text >>= decode = Stated.settings <$> Stated.ofText text := by
    rw [Stated.ofText, map_bind]
    exact bind_congr decode_eq_stated
  rw [parse, read]
  cases Stated.ofText text <;> rfl

/-! ### The layers -/

/-- The value that counts for a setting: one that a variable gives, else that of the file, else the
default. -/
inductive InEffect {α : Type} (given : α → Prop) (file : Option α) (default : α) : α → Prop
  | given {a : α} : given a → InEffect given file default a
  | file {a : α} : (∀ b, ¬ given b) → file = some a → InEffect given file default a
  | default : (∀ b, ¬ given b) → file = none → InEffect given file default default

theorem inEffect_iff {α : Type} {given : α → Prop} {file o : Option α} {default a : α}
    (gives : ∀ b, given b ↔ o = some b) :
    InEffect given file default a ↔ a = o.getD (file.getD default) := by
  have absent : (∀ b, ¬ given b) ↔ o = none := by
    simp only [gives, Option.eq_none_iff_forall_ne_some, ne_eq]
  constructor
  · rintro (given | ⟨unset, rfl⟩ | ⟨unset, rfl⟩)
    · rw [(gives a).1 given]
      rfl
    · rw [absent.1 unset]
      rfl
    · rw [absent.1 unset]
      rfl
  · rintro rfl
    cases o with
    | some b => exact .given ((gives b).2 rfl)
    | none =>
      cases file with
      | some b => exact .file (absent.2 rfl) rfl
      | none => exact .default (absent.2 rfl) rfl

/-- The text that a variable gives. An empty one counts as none. -/
def GivesText (vars : Variables) (name text : String) : Prop := vars name = some text ∧ text ≠ ""

/-- The number that a variable gives, if it holds a numeral for it. -/
def GivesNumber {α : Type} [Word α] (vars : Variables) (name : String) (w : α) : Prop :=
  ∃ text, vars name = some text ∧ Text.Denotes text.toList w

/-- Settings that are each the one that counts among the variables, a file and the defaults. -/
structure Layered (vars : Variables) (g : Stated) (s : Settings) : Prop where
  logLevel : InEffect (GivesText vars "SPM_GENERAL_LOG_LEVEL") g.logLevel "info" s.logLevel
  logFormat : InEffect (GivesText vars "SPM_GENERAL_LOG_FORMAT") g.logFormat "json" s.logFormat
  ruleMax : InEffect (GivesNumber vars "SPM_MAPDB_RULE_MAX") g.ruleMax 1024 s.limits.ruleMax
  defaultPcp :
    InEffect (GivesNumber vars "SPM_MAPDB_DEFAULT_PCP") g.defaultPcp 0 s.limits.defaultPcp
  rulesPath :
    InEffect (GivesText vars "SPM_MAPDB_RULES_PATH") g.rulesPath "/etc/spm/rules.toml" s.rulesPath

theorem inEffect_overText_iff {vars : Variables} {name : String} {file : Option String}
    {default s : String} :
    InEffect (GivesText vars name) file default s ↔ s = overText vars name (file.getD default) := by
  have gives : ∀ text, GivesText vars name text ↔ (vars name).filter (· ≠ "") = some text := by
    intro text
    rw [Option.filter_eq_some_iff, GivesText, decide_eq_true_iff]
  rw [inEffect_iff gives, overText]
  cases vars name with
  | none => rfl
  | some v => by_cases h : v = "" <;> simp [h, Option.filter]

theorem inEffect_overWord_iff {α : Type} [Word α] {vars : Variables} {name : String}
    {file : Option α} {default w : α} :
    InEffect (GivesNumber vars name) file default w ↔
      w = overWord vars name (file.getD default) := by
  refine inEffect_iff fun w => ?_
  simp only [Option.bind_eq_some_iff, Text.word?_trim_eq_some_iff]
  rfl

/-- **Laying the variables over a file** gives the settings that count, and no others. -/
theorem layered_iff {vars : Variables} {g : Stated} {s : Settings} :
    Layered vars g s ↔ s = g.settings.overlay vars := by
  constructor
  · rintro ⟨logLevel, logFormat, ruleMax, defaultPcp, rulesPath⟩
    obtain ⟨level, format, ⟨most, pcp⟩, path⟩ := s
    obtain rfl : level = _ := inEffect_overText_iff.1 logLevel
    obtain rfl : format = _ := inEffect_overText_iff.1 logFormat
    obtain rfl : most = _ := inEffect_overWord_iff.1 ruleMax
    obtain rfl : pcp = _ := inEffect_overWord_iff.1 defaultPcp
    obtain rfl : path = _ := inEffect_overText_iff.1 rulesPath
    rfl
  · rintro rfl
    exact
      { logLevel := inEffect_overText_iff.2 rfl
        logFormat := inEffect_overText_iff.2 rfl
        ruleMax := inEffect_overWord_iff.2 rfl
        defaultPcp := inEffect_overWord_iff.2 rfl
        rulesPath := inEffect_overText_iff.2 rfl }

end Settings

end PacketPriority
