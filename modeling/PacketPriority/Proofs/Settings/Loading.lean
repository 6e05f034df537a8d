import PacketPriority.Proofs.Settings.Layers

/-!
Which settings are in effect.

Settings are checked one after another (`Check.all`), and the first check that fails is told
(`fault?_eq`). When a file is loaded, the settings that it gives are checked before the variables
are laid over them, and the result is checked again (`load_text`). Hence a file that passes its own
checks loads exactly if the settings in effect pass them too (`layers_take_effect`), while a file
that fails one does not load even where a variable would have put it right
(`loads_iff_sound_twice`, `sound_overlay_is_refused`).
-/

namespace PacketPriority.Settings

/-! ### Checks -/

/-- The checks of settings. -/
inductive Check where
  | logLevel | logFormat | ruleMax | defaultPcp | rulesPath
deriving DecidableEq, Repr

namespace Check

/-- All checks, in the order in which they are made. -/
def all : List Check := [logLevel, logFormat, ruleMax, defaultPcp, rulesPath]

theorem mem_all (c : Check) : c ∈ all := by cases c <;> decide

/-- The setting that is checked. -/
def field : Check → String
  | logLevel => "general.log_level"
  | logFormat => "general.log_format"
  | ruleMax => "mapdb.rule_max"
  | defaultPcp => "mapdb.default_pcp"
  | rulesPath => "mapdb.rules_path"

/-- Whether settings pass the check. -/
def Passes (s : Settings) : Check → Prop
  | logLevel => s.logLevel ∈ ["trace", "debug", "info", "warn", "error"]
  | logFormat => s.logFormat ∈ ["json", "pretty"]
  | ruleMax => 1 ≤ s.limits.ruleMax.toNat ∧ s.limits.ruleMax.toNat ≤ 65535
  | defaultPcp => s.limits.defaultPcp.toNat ≤ 7
  | rulesPath => ∃ c ∈ s.rulesPath.toList, Text.isBlank c = false

instance (s : Settings) : (c : Check) → Decidable (c.Passes s)
  | logLevel => inferInstanceAs (Decidable (s.logLevel ∈ _))
  | logFormat => inferInstanceAs (Decidable (s.logFormat ∈ _))
  | ruleMax => inferInstanceAs (Decidable (_ ∧ _))
  | defaultPcp => inferInstanceAs (Decidable (_ ≤ _))
  | rulesPath => List.decidableBEx (fun c => Text.isBlank c = false) s.rulesPath.toList

/-- What is told of settings that fail the check. -/
def complaint (s : Settings) : Check → String
  | logLevel => "'" ++ s.logLevel ++ "' is not one of " ++ "trace|debug|info|warn|error"
  | logFormat => "'" ++ s.logFormat ++ "' is not one of " ++ "json|pretty"
  | ruleMax => "must be between 1 and 65535"
  | defaultPcp => "must be between 0 and 7"
  | rulesPath => "rules path must not be empty"

def error (s : Settings) (c : Check) : ConfigError := .invalidValue c.field (c.complaint s)

/-- What is wrong with settings as far as the check tells. -/
def fault? (s : Settings) (c : Check) : Option ConfigError :=
  if c.Passes s then none else some (c.error s)

end Check

/-- Settings that pass all checks. -/
def Sound (s : Settings) : Prop := ∀ c : Check, c.Passes s

/-- The first check that settings fail. -/
def firstFailing (s : Settings) : Option Check := Check.all.find? fun c => ¬ c.Passes s

variable {s : Settings}

theorem firstFailing_eq_none_iff : s.firstFailing = none ↔ s.Sound := by
  simp [firstFailing, Sound, Check.mem_all]

instance : Decidable s.Sound := decidable_of_iff _ firstFailing_eq_none_iff

theorem not_sound_iff : ¬ s.Sound ↔ ∃ c, s.firstFailing = some c := by
  rw [← firstFailing_eq_none_iff, ← ne_eq, Option.ne_none_iff_exists']

/-- A word is checked against the words that are told if it is none of them. -/
theorem wordFault?_eq {words : List String} {told : String}
    (written : String.intercalate "|" words = told) (field value : String) :
    wordFault? field value words =
      if value ∈ words then none
      else some (.invalidValue field ("'" ++ value ++ "' is not one of " ++ told)) := by
  subst written
  exact if_congr List.contains_iff_mem rfl rfl

theorem ruleMaxFault?_eq (s : Settings) :
    ruleMaxFault? s.limits.ruleMax = Check.ruleMax.fault? s := by
  refine if_congr ?_ rfl rfl
  rw [UInt32.le_iff_toNat_le, UInt32.le_iff_toNat_le]
  rfl

theorem defaultPcpFault?_eq (s : Settings) :
    defaultPcpFault? s.limits.defaultPcp = Check.defaultPcp.fault? s := by
  have small : 7 < s.limits.defaultPcp ↔ ¬ Check.defaultPcp.Passes s :=
    UInt8.lt_iff_toNat_lt.trans Nat.not_le.symm
  rw [defaultPcpFault?, if_congr small rfl rfl, ite_not]
  rfl

theorem rulesPathFault?_eq (s : Settings) :
    rulesPathFault? s.rulesPath = Check.rulesPath.fault? s := by
  have blank : (Text.trim s.rulesPath.toList).isEmpty = true ↔ ¬ Check.rulesPath.Passes s := by
    rw [List.isEmpty_iff, Text.trim_eq_nil_iff, Check.Passes]
    simp only [not_exists, not_and, Bool.not_eq_false]
  rw [rulesPathFault?, if_congr blank rfl rfl, ite_not]
  rfl

/-- **What is wrong with settings is what the first check that fails tells.** -/
theorem fault?_eq (s : Settings) : s.fault? = s.firstFailing.map (·.error s) := by
  have level : wordFault? "general.log_level" s.logLevel logLevels = Check.logLevel.fault? s :=
    (wordFault?_eq (by decide) _ _).trans (if_congr Iff.rfl rfl rfl)
  have format : wordFault? "general.log_format" s.logFormat logFormats =
      Check.logFormat.fault? s :=
    (wordFault?_eq (by decide) _ _).trans (if_congr Iff.rfl rfl rfl)
  -- the faults of the checks from the first on, as far as there is none
  have first : ∀ cs : List Check,
      ((cs.find? fun c => ¬ c.Passes s).map (·.error s)) =
        cs.foldr (fun c rest => (c.fault? s).or rest) none := by
    intro cs
    induction cs with
    | nil => rfl
    | cons c cs ih =>
      rw [List.foldr_cons, ← ih, Check.fault?]
      by_cases passes : c.Passes s <;> simp [passes]
  rw [firstFailing, first, Settings.fault?, level, format, ruleMaxFault?_eq, defaultPcpFault?_eq,
    rulesPathFault?_eq]
  simp only [Check.all, List.foldr_cons, List.foldr_nil, Option.or_none, Option.or_assoc]

/-! ### Loading -/

/-- Settings that are checked are the settings, unless a check fails. -/
def verdict (s : Settings) : Except Failure Settings :=
  match s.firstFailing with
  | none => .ok s
  | some c => .error (.config (c.error s))

theorem verdict_eq_ok_iff {r : Settings} : s.verdict = .ok r ↔ s.Sound ∧ r = s := by
  rw [verdict, ← firstFailing_eq_none_iff]
  cases s.firstFailing <;> simp [eq_comm]

theorem verdict_eq_error {c : Check} (h : s.firstFailing = some c) :
    s.verdict = .error (.config (c.error s)) := by
  rw [verdict, h]

theorem mapError_checked (s : Settings) : s.checked.mapError .config = s.verdict := by
  rw [checked, verdict, fault?_eq]
  cases s.firstFailing <;> rfl

/-- **What a text gives is checked, and then what is in effect is checked.** -/
theorem load_text (vars : Variables) (path : String) (size : Nat) (text : String) :
    load vars path (.text size text) =
      match Stated.ofText text with
      | .error e => .error (.config (.parseFailed e.message))
      | .ok g => g.settings.verdict >>= fun file => (file.overlay vars).verdict := by
  have opened : load vars path (.text size text) =
      (parse text >>= checked).mapError Failure.config >>= settled vars := rfl
  rw [opened, parse_eq_stated]
  rcases Stated.ofText text with e | g
  · rfl
  · show (g.settings.checked).mapError Failure.config >>= settled vars = _
    rw [mapError_checked]
    exact bind_congr fun file => mapError_checked _

/-- Settings that a file gives are in effect with the variables, if the file passes the checks. -/
theorem load_of_sound {vars : Variables} {path text : String} {size : Nat} {g : Stated}
    (decoded : Stated.ofText text = .ok g) (sound : g.settings.Sound) :
    load vars path (.text size text) = (g.settings.overlay vars).verdict := by
  rw [load_text, decoded]
  show g.settings.verdict >>= _ = _
  rw [verdict_eq_ok_iff.2 ⟨sound, rfl⟩]
  rfl

/-- A file that fails a check does not load, whatever the variables. -/
theorem load_of_failing {vars : Variables} {path text : String} {size : Nat} {g : Stated}
    (decoded : Stated.ofText text = .ok g) {c : Check}
    (failing : g.settings.firstFailing = some c) :
    load vars path (.text size text) = .error (.config (c.error g.settings)) := by
  rw [load_text, decoded]
  show g.settings.verdict >>= _ = _
  rw [verdict_eq_error failing]
  rfl

theorem load_text_eq_ok_iff {vars : Variables} {path text : String} {size : Nat} {s : Settings} :
    load vars path (.text size text) = .ok s ↔
      ∃ g, Stated.ofText text = .ok g ∧ g.settings.Sound ∧ s.Sound ∧ Layered vars g s := by
  constructor
  · intro h
    rcases decoded : Stated.ofText text with e | g
    · rw [load_text, decoded] at h
      cases h
    · by_cases sound : g.settings.Sound
      · rw [load_of_sound decoded sound, verdict_eq_ok_iff] at h
        obtain ⟨passes, rfl⟩ := h
        exact ⟨g, rfl, sound, passes, layered_iff.2 rfl⟩
      · obtain ⟨c, failing⟩ := not_sound_iff.1 sound
        rw [load_of_failing decoded failing] at h
        cases h
  · rintro ⟨g, decoded, sound, passes, layered⟩
    obtain rfl := layered_iff.1 layered
    rw [load_of_sound decoded sound, verdict_eq_ok_iff]
    exact ⟨passes, rfl⟩

/-- Without a file the defaults take its place, as they do with an empty one. -/
theorem loadOrDefault_missing (vars : Variables) (path : String) (size : Nat) :
    loadOrDefault vars path (.missing .notFound) = loadOrDefault vars path (.text size "") := by
  have decoded : Stated.ofText "" = .ok {} := by decide +kernel
  have sound : ({} : Stated).settings.Sound := by decide +kernel
  have missing : loadOrDefault vars path (.missing .notFound) = settled vars {} := rfl
  have empty : load vars path (.text size "") = settled vars {} := by
    rw [load_of_sound decoded sound]
    exact (mapError_checked _).symm
  rw [missing, loadOrDefault, empty, settled, mapError_checked, verdict]
  -- what is told of a check is never that a file is missing
  cases (overlay vars {}).firstFailing <;> rfl

/-! ### The settings in effect -/

/-- **Which settings are in effect.** Settings that load pass all checks, and each of them is the
one that counts among the variables, the file and the defaults. For a file that passes its own
checks, loading fails exactly if those settings fail a check, and the first one that they fail is
told. No file at all is as good as an empty one. -/
theorem layers_take_effect (vars : Variables) (path : String) (size : Nat) (text : String) :
    let result := load vars path (.text size text)
    (∀ s, result = .ok s → s.Sound ∧ ∃ g, Stated.ofText text = .ok g ∧ Layered vars g s) ∧
    (∀ g, Stated.ofText text = .ok g → g.settings.Sound → ∃ s, Layered vars g s ∧
      (s.Sound → result = .ok s) ∧ ((∃ e, result = .error e) ↔ ¬ s.Sound) ∧
      ∀ c, s.firstFailing = some c → result = .error (.config (c.error s))) ∧
    loadOrDefault vars path (.missing .notFound) = loadOrDefault vars path (.text size "") := by
  intro result
  refine ⟨?_, ?_, loadOrDefault_missing vars path size⟩
  · intro s loaded
    obtain ⟨g, decoded, -, sound, layered⟩ := load_text_eq_ok_iff.1 loaded
    exact ⟨sound, g, decoded, layered⟩
  · intro g decoded sound
    let s := g.settings.overlay vars
    have verdict : result = s.verdict := load_of_sound decoded sound
    have accepted (passes : s.Sound) : result = .ok s :=
      verdict.trans (verdict_eq_ok_iff.2 ⟨passes, rfl⟩)
    refine ⟨s, layered_iff.2 rfl, accepted, ⟨?_, ?_⟩, ?_⟩
    · rintro ⟨e, refused⟩ passes
      rw [accepted passes] at refused
      cases refused
    · intro fails
      obtain ⟨c, failing⟩ := not_sound_iff.1 fails
      exact ⟨_, verdict.trans (verdict_eq_error failing)⟩
    · intro c failing
      exact verdict.trans (verdict_eq_error failing)

/-- A number between blanks is laid over the file, a word that is no number is not, and neither is
an empty text. Words that pass no check are told in the order of the checks. -/
theorem layers_take_effect_of_padding :
    let text := "[general]\nlog_level = 'debug'\n[mapdb]\nrule_max = 8\ndefault_pcp = 2\n"
    let vars : Variables := fun name => [("SPM_GENERAL_LOG_FORMAT", ""),
      ("SPM_MAPDB_RULE_MAX", "many"), ("SPM_MAPDB_DEFAULT_PCP", " +7 ")].lookup name
    let wrong : Variables := fun name => [("SPM_MAPDB_RULE_MAX", "0"),
      ("SPM_GENERAL_LOG_FORMAT", "xml")].lookup name
    let g : Stated := { logLevel := some "debug", ruleMax := some 8, defaultPcp := some 2 }
    let s : Settings := { logLevel := "debug", limits := ⟨8, 7⟩ }
    let file : Document := .text 67 text
    Stated.ofText text = .ok g ∧ load vars "spm.toml" file = .ok s ∧ s.Sound ∧ Layered vars g s ∧
      ∃ r, Layered wrong g r ∧ ¬ r.Sound ∧
        load wrong "spm.toml" file = .error (.config (.invalidValue "general.log_format"
          "'xml' is not one of json|pretty")) := by
  intro text vars wrong g s file
  have decoded : Stated.ofText text = .ok g := by decide +kernel
  have loaded : load vars "spm.toml" file = .ok s := by decide +kernel
  obtain ⟨sound, g', decoded', layered⟩ := (layers_take_effect vars "spm.toml" 67 text).1 s loaded
  obtain rfl : g = g' := Except.ok.inj (decoded.symm.trans decoded')
  have passes : g.settings.Sound := by decide +kernel
  obtain ⟨r, other, -, fails_iff, told⟩ :=
    (layers_take_effect wrong "spm.toml" 67 text).2.1 g decoded passes
  obtain rfl := layered_iff.1 other
  have failing : (g.settings.overlay wrong).firstFailing = some .logFormat := by decide +kernel
  exact ⟨decoded, loaded, sound, layered, _, other, not_sound_iff.2 ⟨_, failing⟩,
    told _ failing⟩

/-! ### Files that fail a check -/

/-- **A file is checked on its own before the variables are laid over it.** A text that gives
settings loads exactly if they pass all checks and those in effect do too. If its own settings fail
a check, the first one is told, whatever the variables; otherwise the first one that the settings in
effect fail. -/
theorem loads_iff_sound_twice (vars : Variables) (path : String) (size : Nat) {text : String}
    {g : Stated} (decoded : Stated.ofText text = .ok g) :
    let result := load vars path (.text size text)
    ∃ s, Layered vars g s ∧ ((∃ r, result = .ok r) ↔ g.settings.Sound ∧ s.Sound) ∧
      (∀ r, result = .ok r → r = s) ∧
      (∀ c, g.settings.firstFailing = some c →
        result = .error (.config (c.error g.settings))) ∧
      (g.settings.Sound → ∀ c, s.firstFailing = some c →
        result = .error (.config (c.error s))) := by
  intro result
  let s := g.settings.overlay vars
  have loaded {r : Settings} (h : result = .ok r) : g.settings.Sound ∧ r.Sound ∧ r = s := by
    obtain ⟨g', decoded', sound, passes, layered⟩ := load_text_eq_ok_iff.1 h
    obtain rfl : g = g' := Except.ok.inj (decoded.symm.trans decoded')
    exact ⟨sound, passes, layered_iff.1 layered⟩
  refine ⟨s, layered_iff.2 rfl, ⟨?_, ?_⟩, fun r h => (loaded h).2.2, ?_, ?_⟩
  · rintro ⟨r, h⟩
    obtain ⟨sound, passes, rfl⟩ := loaded h
    exact ⟨sound, passes⟩
  · rintro ⟨sound, passes⟩
    exact ⟨s, load_text_eq_ok_iff.2 ⟨g, decoded, sound, passes, layered_iff.2 rfl⟩⟩
  · exact fun c failing => load_of_failing decoded failing
  · exact fun sound c failing => (load_of_sound decoded sound).trans (verdict_eq_error failing)

/-- A file with a default priority of 9 does not load, though a variable sets it to 3. -/
theorem loads_iff_sound_twice_of_repair :
    let text := "[mapdb]\ndefault_pcp = 9\n"
    let vars : Variables := fun name => [("SPM_MAPDB_DEFAULT_PCP", "3")].lookup name
    let g : Stated := { defaultPcp := some 9 }
    Stated.ofText text = .ok g ∧ ¬ g.settings.Sound ∧
      ¬ ∃ r, load vars "spm.toml" (.text 24 text) = .ok r := by
  intro text vars g
  have decoded : Stated.ofText text = .ok g := by decide +kernel
  have failing : g.settings.firstFailing = some .defaultPcp := by decide +kernel
  obtain ⟨s, -, loads_iff, -⟩ := loads_iff_sound_twice vars "spm.toml" 24 decoded
  have fails : ¬ g.settings.Sound := not_sound_iff.2 ⟨_, failing⟩
  exact ⟨decoded, fails, fun loads => fails (loads_iff.1 loads).1⟩

/-- With that file and that variable the settings in effect pass all checks, but loading fails. -/
theorem sound_overlay_is_refused :
    let text := "[mapdb]\ndefault_pcp = 9\n"
    let vars : Variables := fun name => [("SPM_MAPDB_DEFAULT_PCP", "3")].lookup name
    ∃ g s, Stated.ofText text = .ok g ∧ Layered vars g s ∧ s.Sound ∧
      load vars "spm.toml" (.text 24 text) = .error (.config (.invalidValue "mapdb.default_pcp"
        "must be between 0 and 7")) := by
  intro text vars
  let g : Stated := { defaultPcp := some 9 }
  exact ⟨g, g.settings.overlay vars, by decide +kernel, layered_iff.2 rfl, by decide +kernel,
    by decide +kernel⟩

end PacketPriority.Settings
