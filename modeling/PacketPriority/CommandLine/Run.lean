import PacketPriority.CommandLine.Report
import PacketPriority.RuleFile.Load

/-!
Doing what a command line asks for.

`run` is a function from what the machine holds, files and variables, to what is written and which
failure ends the program. A rule file is loaded into an empty table with the limits of the
settings; requests that the table refuses are collected and do not end the loading.
-/

namespace PacketPriority.CommandLine

/-- What the program sees of the machine. -/
structure Host where
  document : String → Document
  env : Settings.Variables

/-! ### Failures -/

/-- Why the program ends without success. -/
inductive CommandError where
  /-- The settings have been looked at and make no sense. -/
  | config (problem : String)
  | command (reason : String)
  | rule (reason : String)
  | service (f : Failure)
deriving DecidableEq, Repr

namespace CommandError

def message : CommandError → String
  | config problem => "configuration error: " ++ problem
  | command reason => reason
  | rule reason => "rule error: " ++ reason
  | service f => f.message

/-- The exit code: 2 for settings, 3 for rule files, 10 for reading, 1 for all else. -/
def exitCode : CommandError → UInt8
  | config _ | service (.config _) => 2
  | rule _ | service (.rule _) => 3
  | service (.io _) => 10
  | command _ | service (.update _) => 1

end CommandError

/-- What a run writes, and the failure that ends it. -/
structure Answer where
  report : Option Report := none
  failure : Option CommandError := none

namespace Answer

def ofReport (r : Report) : Answer := { report := some r }

def ofFailure (e : CommandError) : Answer := { failure := some e }

/-- The answer of a computation that writes nothing if it fails. -/
def ofResult : Except CommandError Report → Answer
  | .ok r => ofReport r
  | .error e => ofFailure e

/-- What is written, in a format. -/
def output (a : Answer) (f : Format) : String :=
  match a.report with
  | some r => r.write f
  | none => ""

def exitCode (a : Answer) : UInt8 :=
  match a.failure with
  | some e => e.exitCode
  | none => 0

end Answer

/-! ### Rule files -/

/-- An empty table with the limits of settings, after a list of requests. -/
def tableOf (s : Settings) (requests : List Request) :
    Table × List (RuleKey × UpdateResult) :=
  (Table.new s.limits).load requests

/-- The requests that were refused. -/
def rejections (results : List (RuleKey × UpdateResult)) : List Rejection :=
  results.filterMap fun r =>
    match r.2 with
    | .ok _ => none
    | .error e => some ⟨r.1, e⟩

/-- The requests of the rule file under a path, as many as the settings allow. -/
def requestsAt (host : Host) (s : Settings) (path : String) : Except TableError (List Request) :=
  RuleFile.load s.limits.ruleMax.toNat path (host.document path)

/-- A table filled from a rule file. -/
structure LoadedTable where
  table : Table
  applied : Nat := 0
  rejected : List Rejection := []

namespace LoadedTable

/-- Counts the result of one more request. -/
def note (loaded : LoadedTable) (r : RuleKey × UpdateResult) : LoadedTable :=
  match r.2 with
  | .ok _ => { loaded with applied := loaded.applied + 1 }
  | .error e => { loaded with rejected := loaded.rejected ++ [⟨r.1, e⟩] }

def ofRequests (s : Settings) (requests : List Request) : LoadedTable :=
  let (table, results) := tableOf s requests
  results.foldl note { table := table }

/-- Results are counted one by one, and the table is left as it is. -/
theorem foldl_note (loaded : LoadedTable) (results : List (RuleKey × UpdateResult)) :
    results.foldl note loaded =
      { loaded with
        applied := loaded.applied + results.countP fun r => r.2.isOk
        rejected := loaded.rejected ++ rejections results } := by
  induction results generalizing loaded with
  | nil => simp [rejections]
  | cons r rest ih =>
    obtain ⟨key, result⟩ := r
    rw [List.foldl_cons, ih]
    cases result with
    | ok outcome =>
      rw [List.countP_cons_of_pos rfl, ← Nat.add_assoc, Nat.add_right_comm]
      rfl
    | error e =>
      rw [List.countP_cons_of_neg Bool.false_ne_true]
      show LoadedTable.mk _ _ (loaded.rejected ++ [⟨key, e⟩] ++ rejections rest) = _
      rw [List.append_assoc]
      rfl

theorem ofRequests_eq (s : Settings) (requests : List Request) :
    ofRequests s requests =
      { table := (tableOf s requests).1
        applied := (tableOf s requests).2.countP fun r => r.2.isOk
        rejected := rejections (tableOf s requests).2 } := by
  show (tableOf s requests).2.foldl note { table := (tableOf s requests).1 } = _
  rw [foldl_note, Nat.zero_add, List.nil_append]

theorem ofRequests_table (s : Settings) (requests : List Request) :
    (ofRequests s requests).table = (tableOf s requests).1 := by rw [ofRequests_eq]

end LoadedTable

/-- The table filled from the rule file under a path. -/
def loadTable (host : Host) (s : Settings) (path : String) : Except CommandError LoadedTable :=
  match requestsAt host s path with
  | .ok requests => .ok (.ofRequests s requests)
  | .error e => .error (.rule e.message)

/-! ### Actions on rule files -/

/-- What is wrong with the rule file under a path. -/
def validation (host : Host) (s : Settings) (path : String) : Validation :=
  match requestsAt host s path with
  | .ok requests =>
    let (table, results) := tableOf s requests
    ⟨path, requests.length, table.count, rejections results, []⟩
  | .error e => ⟨path, 0, 0, [], [e.message]⟩

def validateRules (host : Host) (s : Settings) (path : String) : Answer :=
  let v := validation host s path
  { report := some (.validation v)
    failure := if v.isValid then none else some (.rule (path ++ " is invalid")) }

def dumpRules (host : Host) (s : Settings) (path : String) (kind : Option RuleKind) :
    Except CommandError Report := do
  let loaded ← loadTable host s path
  return .rules path (loaded.table.dump.filter fun r => kind.all (r.kind == ·))

def showRule (host : Host) (s : Settings) (path : String) (key : RuleKey) :
    Except CommandError Report := do
  let loaded ← loadTable host s path
  match loaded.table.query key with
  | some r => return .rule r
  | none => .error (.command ("rule " ++ key.toString ++ " not found"))

def ruleStats (host : Host) (s : Settings) (path : String) : Except CommandError Report := do
  let loaded ← loadTable host s path
  return .stats path s.limits.ruleMax loaded.applied loaded.rejected.length loaded.table.stats

/-! ### Classifying -/

/-- The network layer between the addresses given, if any are. -/
def networkOf : Option (Ip × Ip) → Except CommandError Network
  | none => .ok .nonIp
  | some (src, dst) =>
    match Network.between? src dst with
    | some network => .ok network
    | none =>
      .error (.command "--src-ip and --dst-ip must both be given and share an address family")

/-- The decision of a table on a packet. -/
def decision (t : Table) (p : Packet) : Flavor → Decision
  | .mesh => .pcp (t.classifyMesh p).2
  | .sawf => .sawf (t.classifySawf p).2
  | .scs => .priority (t.classifyScs p).2
  | .mscs => .priority (t.classifyMscs p).2
  | .latency => .latency (t.latency p).2

def classify (host : Host) (s : Settings) (path : String) (flavor : Flavor)
    (ends : Option (Ip × Ip)) (packet : Packet) : Except CommandError Report := do
  let packet := { packet with network := ← networkOf ends }
  let loaded ← loadTable host s path
  return .classification flavor loaded.table.count packet (decision loaded.table packet flavor)

/-! ### Settings -/

/-- The settings in effect, for every action but those on the settings themselves. -/
def settingsAt (host : Host) (path : String) : Except CommandError Settings :=
  (Settings.loadOrDefault host.env path (host.document path)).mapError .service

/-- Whether the settings file gives settings that make sense. Here the file must be there. -/
def validateSettings (host : Host) (path : String) : Answer :=
  match Settings.load host.env path (host.document path) with
  | .ok _ => .ofReport (.verdict path none)
  | .error e =>
    { report := some (.verdict path (some e.message)), failure := some (.config e.message) }

def showSettings (host : Host) (path : String) : Option String → Except CommandError Report
  | none => do return .settings path (← settingsAt host path)
  | some name =>
    if Settings.sectionNames.contains name then do
      let s ← settingsAt host path
      return .settingsSection path name ((s.sections.lookup name).getD [])
    else
      .error (.command
        ("unknown section '" ++ name ++ "' (expected one of: "
          ++ String.intercalate ", " Settings.sectionNames ++ ")"))

/-! ### All actions -/

/-- The rule file that an invocation reads, if it gets so far. -/
def rulesPath? (host : Host) (i : Invocation) : Option String :=
  match i.action with
  | .validateRules path | .dumpRules path _ | .showRule path _ | .ruleStats path
  | .classify path .. =>
    (settingsAt host i.configPath).toOption.map fun s => path.getD s.rulesPath
  | .validateSettings | .showSettings _ => none

/-- An action on the rule file under a path, or under the path of the settings. -/
def onRules (host : Host) (configPath : String) (path : Option String)
    (act : Settings → String → Answer) : Answer :=
  match settingsAt host configPath with
  | .error e => .ofFailure e
  | .ok s => act s (path.getD s.rulesPath)

/-- What a run writes, and the failure that ends it. -/
def run (host : Host) (i : Invocation) : Answer :=
  match i.action with
  | .validateRules path => onRules host i.configPath path (validateRules host)
  | .dumpRules path kind =>
    onRules host i.configPath path fun s path => .ofResult (dumpRules host s path kind)
  | .showRule path key =>
    onRules host i.configPath path fun s path => .ofResult (showRule host s path key)
  | .ruleStats path =>
    onRules host i.configPath path fun s path => .ofResult (ruleStats host s path)
  | .classify path flavor ends packet =>
    onRules host i.configPath path fun s path =>
      .ofResult (classify host s path flavor ends packet)
  | .validateSettings => validateSettings host i.configPath
  | .showSettings part => .ofResult (showSettings host i.configPath part)

end PacketPriority.CommandLine
