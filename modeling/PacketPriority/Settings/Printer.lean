import PacketPriority.Rule.Json
import PacketPriority.Settings
import PacketPriority.Toml.Quoted

/-!
Writing settings.

Settings are written section by section, sections and settings in the order of their names.
-/

namespace PacketPriority

/-- The value of one setting. -/
inductive Setting where
  | text (s : String)
  | number (n : Nat)
deriving DecidableEq, Repr

namespace Setting

def toToml : Setting → String
  | text s => Toml.quoted s
  | number n => toString n

def toJson : Setting → Json
  | text s => .string s
  | number n => .nat n

end Setting

/-- Settings under their names. -/
abbrev Section := List (String × Setting)

namespace Section

/-- One line for each setting. -/
def toToml (s : Section) : String :=
  String.join (s.map fun e => e.1 ++ " = " ++ e.2.toToml ++ "\n")

def toJson (s : Section) : Json := .object (s.map fun e => (e.1, e.2.toJson))

end Section

namespace Settings

/-- All settings by section. -/
def sections (s : Settings) : List (String × Section) :=
  [("general", [("log_format", .text s.logFormat), ("log_level", .text s.logLevel)]),
    ("mapdb", [("default_pcp", .number s.limits.defaultPcp.toNat),
      ("rule_max", .number s.limits.ruleMax.toNat), ("rules_path", .text s.rulesPath)])]

/-- The names of the sections. -/
def sectionNames : List String := ["general", "mapdb"]

/-- A file that gives the settings, with an empty line between its sections. -/
def toToml (s : Settings) : String :=
  String.intercalate "\n" (s.sections.map fun e => "[" ++ e.1 ++ "]\n" ++ e.2.toToml)

def toJson (s : Settings) : Json := .object (s.sections.map fun e => (e.1, e.2.toJson))

end Settings

end PacketPriority
