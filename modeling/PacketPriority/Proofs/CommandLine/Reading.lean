import PacketPriority.CommandLine.Invocation

/-!
What all accepted command lines have in common.

A command keeps a property of the values given so far if each of its parameters does, in all
commands below it (`Command.Keeps`). Reading then keeps it argument by argument, whatever the order
of options, operands and commands, and what the reading ends in is made of values with the property
(`Command.Keeps.read`). So much for any grammar; for the program it shows that a DSCP value given on
the command line has six bits (`dscp_lt_of_accepted`).
-/

namespace PacketPriority.CommandLine

variable {σ ρ : Type} {P : σ → Prop} {Q : ρ → Prop}

/-- A computation that has come to its end has come through its first step. -/
theorem exists_of_bind_eq_ok {ε α β : Type} {x : Except ε α} {f : α → Except ε β} {b : β}
    (h : x >>= f = .ok b) : ∃ a, x = .ok a ∧ f a = .ok b := by
  cases x with
  | error e => cases h
  | ok a => exact ⟨a, rfl, h⟩

/-! ### Commands -/

/-- Storing a value of the parameter keeps a property of the values. -/
def Parameter.Keeps (p : Parameter σ) (P : σ → Prop) : Prop :=
  ∀ (value : String) (s s' : σ), P s → p.store value s = .ok s' → P s'

/-- All parameters of a command keep `P`, and what is made of values with `P` has `Q`; likewise for
the commands below. -/
inductive Command.Keeps (P : σ → Prop) (Q : ρ → Prop) : Command σ ρ → Prop
  | leaf {name : String} {options : List (Parameter σ)} {operand : Option (Parameter σ)}
      {finish : σ → Except Misuse ρ} :
      (∀ p ∈ options, p.Keeps P) → (∀ p ∈ operand, p.Keeps P) →
      (∀ s r, P s → finish s = .ok r → Q r) → Keeps P Q (.leaf name options operand finish)
  | group {name : String} {versioned : Bool} {options : List (Parameter σ)}
      {commands : List (Command σ ρ)} :
      (∀ p ∈ options, p.Keeps P) → (∀ c ∈ commands, Keeps P Q c) →
      Keeps P Q (.group name versioned options commands)

namespace Command.Keeps

variable {c : Command σ ρ}

theorem options (h : c.Keeps P Q) : ∀ p ∈ c.options, p.Keeps P := by
  cases h with
  | leaf options _ _ => exact options
  | group options _ => exact options

theorem operand (h : c.Keeps P Q) : ∀ p ∈ c.operand, p.Keeps P := by
  cases h with
  | leaf _ operand _ => exact operand
  | group _ _ => exact fun _ hp => by cases hp

theorem commands (h : c.Keeps P Q) : ∀ inner ∈ c.commands, inner.Keeps P Q := by
  cases h with
  | leaf _ _ _ => exact fun _ hc => by cases hc
  | group _ commands => exact commands

end Command.Keeps

/-! ### One command's share -/

/-- The parameter whose value is still to be stored, if there is one. -/
def Slot.parameter? : Slot σ → Option (Parameter σ)
  | .empty => none
  | .awaiting p => some p
  | .holding p _ => some p

/-- The values have the property, and the value that is still to be stored will keep it. -/
structure Level.Keeps (l : Level σ) (P : σ → Prop) : Prop where
  values : P l.values
  slot : ∀ p ∈ l.slot.parameter?, p.Keeps P

namespace Level.Keeps

variable {l l' : Level σ} {p : Parameter σ}

theorem store (h : l.Keeps P) (hp : p.Keeps P) {value : String} (hl : l.store p value = .ok l') :
    l'.Keeps P := by
  unfold Level.store at hl
  split at hl
  · cases hl
  · obtain ⟨values, stored, hl⟩ := exists_of_bind_eq_ok hl
    cases hl
    exact ⟨hp value l.values values h.values stored, fun _ hp => by cases hp⟩

theorem settle (h : l.Keeps P) (hl : l.settle = .ok l') : l'.Keeps P := by
  unfold Level.settle at hl
  split at hl
  · cases hl
    exact h
  · cases hl
  · rename_i p value held
    exact h.store (h.slot p (by rw [held]; rfl)) hl

/-- A parameter takes the place of the one before, whose value has been stored. -/
theorem hold (h : l.Keeps P) (hp : p.Keeps P) {slot : Slot σ} (hs : slot.parameter? = some p)
    (given : List String) (hasOperand literal : Bool) :
    Level.Keeps ⟨l.values, given, slot, hasOperand, literal⟩ P where
  values := h.values
  slot q hq := by
    obtain rfl : p = q := Option.some_inj.1 (hs.symm.trans hq)
    exact hp

theorem begin (h : l.Keeps P) (hp : p.Keeps P) {value : Option String}
    (hl : l.begin p value = .ok l') : l'.Keeps P := by
  cases value with
  | none =>
    obtain ⟨m, settled, hl⟩ := exists_of_bind_eq_ok hl
    cases hl
    exact (h.settle settled).hold hp rfl _ _ _
  | some text =>
    obtain ⟨m, settled, hl⟩ := exists_of_bind_eq_ok hl
    exact (h.settle settled).store hp hl

end Level.Keeps

theorem Level.stop_ne_ok (l l' : Level σ) (m : Misuse) : l.stop m ≠ .ok l' := by
  intro h
  obtain ⟨_, -, h⟩ := exists_of_bind_eq_ok h
  cases h

/-! ### Reading -/

namespace Command.Keeps

variable {c : Command σ ρ} {l l' : Level σ}

theorem plain (h : c.Keeps P Q) (hl : l.Keeps P) {arg : String} (hr : c.plain l arg = .ok l') :
    l'.Keeps P := by
  unfold Command.plain at hr
  split at hr
  · -- the value of an option
    rename_i p _ awaited
    cases hr
    exact hl.hold (hl.slot p (by rw [awaited]; rfl)) rfl _ _ _
  · split at hr
    · rename_i p operand
      split at hr
      · cases hr
      · obtain ⟨m, settled, hr⟩ := exists_of_bind_eq_ok hr
        cases hr
        exact (hl.settle settled).hold (h.operand p operand) rfl _ _ _
    · split at hr <;> cases hr

theorem long (h : c.Keeps P Q) (hl : l.Keeps P) {cs : List Char} (hr : c.long l cs = .ok l') :
    l'.Keeps P := by
  unfold Command.long at hr
  simp only at hr
  split at hr
  · rename_i p found
    exact hl.begin (h.options p (List.mem_of_find?_eq_some found)) hr
  · -- what is no option never lets the reading go on
    split at hr
    · split at hr
      · cases hr
      · exact absurd hr (l.stop_ne_ok l' _)
    · cases hr

theorem short (h : c.Keeps P Q) (hl : l.Keeps P) {letter : Char} {cs : List Char}
    (hr : c.short l letter cs = .ok l') : l'.Keeps P := by
  unfold Command.short at hr
  split at hr
  · rename_i p found
    exact hl.begin (h.options p (List.mem_of_find?_eq_some found)) hr
  · split at hr
    · exact absurd hr (l.stop_ne_ok l' _)
    · split at hr
      · exact absurd hr (l.stop_ne_ok l' _)
      · cases hr

/-- An argument that names no command keeps the property. -/
theorem argument (h : c.Keeps P Q) (hl : l.Keeps P) {arg : String}
    (hr : c.argument l arg = .ok l') : l'.Keeps P := by
  unfold Command.argument at hr
  split at hr
  · exact h.plain hl hr
  · split at hr
    · cases hr
      exact ⟨hl.values, hl.slot⟩
    · exact h.long hl hr
    · exact h.short hl hr
    · exact h.plain hl hr

theorem close (h : c.Keeps P Q) (hl : l.Keeps P) {r : ρ} (hr : c.close l = .ok r) : Q r := by
  obtain ⟨m, settled, hr⟩ := exists_of_bind_eq_ok hr
  cases h with
  | leaf _ _ finish => exact finish m.values r (hl.settle settled).values hr
  | group _ _ => cases hr

/-- **Reading keeps the property**, through options, operands and commands. -/
theorem read (h : c.Keeps P Q) (hl : l.Keeps P) {args : List String} {r : ρ}
    (hr : c.read l args = .ok r) : Q r := by
  -- on the arguments, for the command and the level at which they are met
  induction args generalizing c l with
  | nil => exact h.close hl hr
  | cons arg rest ih =>
    have further (hr : c.argument l arg >>= (fun l => c.read l rest) = .ok r) : Q r := by
      obtain ⟨m, read, hr⟩ := exists_of_bind_eq_ok hr
      exact ih h (h.argument hl read) hr
    rw [Command.read] at hr
    split at hr
    · exact further hr
    · split at hr
      · -- a command below, which begins with the values given before it
        rename_i inner found
        have below := h.commands inner (List.mem_of_find?_eq_some found)
        obtain ⟨asked, read, hr⟩ := exists_of_bind_eq_ok hr
        obtain ⟨_, -, hr⟩ := exists_of_bind_eq_ok hr
        cases hr
        refine ih below ⟨?_, fun _ hp => by cases hp⟩ read
        cases settled : l.settle with
        | ok m => exact (hl.settle settled).values
        | error _ => exact hl.values
      · split at hr
        · cases hr
        · exact further hr

end Command.Keeps

/-! ### The command lines of the program -/

theorem reading_keeps {α : Type} {P : Given → Prop} {name : String} {read? : String → Option α}
    {set : α → Given → Given}
    (h : ∀ text a given, read? text = some a → P given → P (set a given)) :
    (reading name read? set).Keeps P := by
  intro text given given' before stored
  show P given'
  simp only [reading] at stored
  split at stored
  · rename_i a found
    cases stored
    exact h text a given found before
  · cases stored

theorem choosing_keeps {α : Type} {P : Given → Prop} {name : String} {all : List α}
    {toString : α → String} {set : α → Given → Given} (h : ∀ a given, P given → P (set a given)) :
    (choosing name all toString set).Keeps P := by
  intro text given given' before stored
  simp only [choosing] at stored
  split at stored
  · cases stored
    exact h _ given before
  · cases stored

theorem locating_keeps {P : Given → Prop} {name : String} {letter : Option Char}
    {set : String → Given → Given} (h : ∀ path given, P given → P (set path given)) :
    (locating name letter set).Keeps P := by
  intro text given given' before stored
  simp only [locating] at stored
  split at stored
  · cases stored
  · cases stored
    exact h text given before

/-- The DSCP value given has six bits. -/
def Given.HasDscp (given : Given) : Prop := given.packet.dscp < 64

/-- A packet that is to be classified has a DSCP value of six bits. -/
def Invocation.HasDscp (i : Invocation) : Prop :=
  ∀ path flavor ends packet, i.action = .classify path flavor ends packet → packet.dscp < 64

section

variable {α : Type} {name : String} {read? : String → Option α}

/-- An option that has nothing to do with the DSCP value. -/
theorem reading_keeps_dscp {set : α → Given → Given}
    (h : ∀ a given, (set a given).packet.dscp = given.packet.dscp) :
    (reading name read? set).Keeps Given.HasDscp := by
  refine reading_keeps fun _ a given _ before => ?_
  rwa [Given.HasDscp, h]

theorem packetField_keeps_dscp {set : α → Packet → Packet}
    (h : ∀ a p, (set a p).dscp = p.dscp) :
    (packetField name read? set).Keeps Given.HasDscp :=
  reading_keeps_dscp fun a given => h a given.packet

end

theorem everywhere_keeps : ∀ p ∈ everywhere, p.Keeps Given.HasDscp := by
  simp only [everywhere, List.forall_mem_cons]
  exact ⟨choosing_keeps fun _ _ before => before, reading_keeps_dscp fun _ _ => rfl,
    List.forall_mem_nil _⟩

theorem packetOptions_keeps : ∀ p ∈ packetOptions, p.Keeps Given.HasDscp := by
  have dscp : (packetField "dscp" dscp? fun value p => { p with dscp := value }).Keeps
      Given.HasDscp := by
    refine reading_keeps fun text value given read _ => ?_
    have six : value < 64 := of_decide_eq_true (Option.filter_eq_some_iff.1 read).2
    exact six
  simp only [packetOptions, List.forall_mem_cons]
  refine ⟨choosing_keeps fun _ _ before => before, ?_⟩
  repeat' apply And.intro
  all_goals first
    | exact dscp
    | exact packetField_keeps_dscp fun _ _ => rfl
    | exact reading_keeps_dscp fun _ _ => rfl
    | exact List.forall_mem_nil _

theorem leaf_keeps {name : String} {options : List (Parameter Given)}
    {operand : Option (Parameter Given)} {finish : Given → Except Misuse Invocation}
    (own : ∀ p ∈ options, p.Keeps Given.HasDscp) (rest : ∀ p ∈ operand, p.Keeps Given.HasDscp)
    (ends : ∀ given i, given.HasDscp → finish given = .ok i → i.HasDscp) :
    (leaf name options operand finish).Keeps Given.HasDscp Invocation.HasDscp :=
  .leaf (List.forall_mem_append.2 ⟨own, everywhere_keeps⟩) rest ends

theorem pathOperand_keeps : ∀ p ∈ some pathOperand, p.Keeps Given.HasDscp := by
  rintro p ⟨⟩
  exact locating_keeps fun _ _ before => before

theorem classifyCommand_keeps : classifyCommand.Keeps Given.HasDscp Invocation.HasDscp := by
  refine leaf_keeps packetOptions_keeps pathOperand_keeps fun given i before asked => ?_
  unfold Given.classify at asked
  split at asked <;> cases asked
  all_goals
    rintro path flavor ends packet ⟨⟩
    exact before

/-- A command that asks for something else than classifying. -/
theorem plainLeaf_keeps {name : String} {options : List (Parameter Given)}
    {operand : Option (Parameter Given)} {action : Given → Action}
    (own : ∀ p ∈ options, p.Keeps Given.HasDscp) (rest : ∀ p ∈ operand, p.Keeps Given.HasDscp)
    (other : ∀ given path flavor ends packet, action given ≠ .classify path flavor ends packet) :
    (plainLeaf name options operand action).Keeps Given.HasDscp Invocation.HasDscp := by
  refine leaf_keeps own rest fun given i _ asked => ?_
  cases asked
  exact fun path flavor ends packet same => absurd same (other given path flavor ends packet)

theorem kindOption_keeps : kindOption.Keeps Given.HasDscp := reading_keeps_dscp fun _ _ => rfl

theorem idOption_keeps : idOption.Keeps Given.HasDscp := reading_keeps_dscp fun _ _ => rfl

theorem sectionOption_keeps : sectionOption.Keeps Given.HasDscp := reading_keeps_dscp fun _ _ => rfl

theorem rulesCommand_keeps : rulesCommand.Keeps Given.HasDscp Invocation.HasDscp := by
  have nothing : ∀ p ∈ ([] : List (Parameter Given)), p.Keeps Given.HasDscp := List.forall_mem_nil _
  have kind : ∀ p ∈ [kindOption], p.Keeps Given.HasDscp :=
    List.forall_mem_singleton.2 kindOption_keeps
  have idAndKind : ∀ p ∈ [idOption, kindOption], p.Keeps Given.HasDscp :=
    List.forall_mem_cons.2 ⟨idOption_keeps, kind⟩
  refine .group everywhere_keeps ?_
  simp only [List.forall_mem_cons]
  refine ⟨plainLeaf_keeps nothing pathOperand_keeps ?_, plainLeaf_keeps kind pathOperand_keeps ?_,
    leaf_keeps idAndKind pathOperand_keeps ?_, plainLeaf_keeps nothing pathOperand_keeps ?_,
    List.forall_mem_nil _⟩
  · rintro _ _ _ _ _ ⟨⟩
  · rintro _ _ _ _ _ ⟨⟩
  · intro given i _ asked
    unfold Given.showRule at asked
    split at asked <;> cases asked
    rintro _ _ _ _ ⟨⟩
  · rintro _ _ _ _ _ ⟨⟩

theorem configCommand_keeps : configCommand.Keeps Given.HasDscp Invocation.HasDscp := by
  have nothing : ∀ p ∈ ([] : List (Parameter Given)), p.Keeps Given.HasDscp := List.forall_mem_nil _
  have part : ∀ p ∈ [sectionOption], p.Keeps Given.HasDscp :=
    List.forall_mem_singleton.2 sectionOption_keeps
  have noOperand : ∀ p ∈ (none : Option (Parameter Given)), p.Keeps Given.HasDscp := by
    rintro _ ⟨⟩
  refine .group everywhere_keeps ?_
  simp only [List.forall_mem_cons]
  refine ⟨plainLeaf_keeps nothing noOperand ?_, plainLeaf_keeps part noOperand ?_,
    List.forall_mem_nil _⟩
  · rintro _ _ _ _ _ ⟨⟩
  · rintro _ _ _ _ _ ⟨⟩

theorem program_keeps : program.Keeps Given.HasDscp Invocation.HasDscp := by
  have path : configOption.Keeps Given.HasDscp := locating_keeps fun _ _ before => before
  refine .group (List.forall_mem_cons.2 ⟨path, everywhere_keeps⟩) ?_
  simp only [List.forall_mem_cons]
  exact ⟨rulesCommand_keeps, classifyCommand_keeps, configCommand_keeps, List.forall_mem_nil _⟩

/-- The DSCP value of every packet that a command line gives has six bits. -/
theorem dscp_lt_of_accepted {args : List String} {i : Invocation}
    (accepted : Invocation.ofArguments args = .ok i) {path : Option String} {flavor : Flavor}
    {ends : Option (Ip × Ip)} {packet : Packet}
    (asked : i.action = .classify path flavor ends packet) : packet.dscp < 64 := by
  have start : Level.Keeps { values := ({} : Given) } Given.HasDscp :=
    ⟨show (0 : UInt8) < 64 by decide, fun _ hp => by cases hp⟩
  exact program_keeps.read start accepted path flavor ends packet asked

end PacketPriority.CommandLine
