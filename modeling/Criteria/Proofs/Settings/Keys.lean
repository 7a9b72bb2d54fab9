import Criteria.Proofs.Settings.Merging
import Criteria.Settings.Variables

/-!
# Single settings

Each single setting stands in a section, or outside of all sections, under a name of its own. An
assignment leads to one place, from which it is known what it gives each setting.

## Main definitions

* `Criteria.Key` — the single settings, with `Criteria.Key.Value`, `Criteria.Key.read?` and
  `Criteria.Settings.get`, what each of them is, is read as, and is in the end.
* `Criteria.Key.given?`, `Criteria.Layer.given?` — what an assignment and a layer give a setting.
* `Criteria.Key.suits`, `Criteria.Layer.Suitable` — assignments that give no setting what it cannot
  be.

## Main results

* `Criteria.Key.Suits.of_suits` — the ways in which an assignment can suit a setting.
* `Criteria.Key.ofName_eq_address_iff` — only its own name leads to a setting.
* `Criteria.Layer.given?_ofVariables` — variables give a setting the value of the last one with a
  name that leads to it.
-/

set_option autoImplicit false
set_option relaxedAutoImplicit false

namespace Criteria

/-- The single settings. -/
inductive Key where
  /-- The name of the service. -/
  | serviceName
  /-- The environment it runs in. -/
  | environment
  /-- The host name on which it listens. -/
  | host
  /-- The port on which it listens. -/
  | port
  /-- Which messages are logged. -/
  | logLevel
  /-- How they are written. -/
  | logFormat
  /-- Whether counters are published. -/
  | metricsEnabled
  /-- The port on which they are. -/
  | metricsPort
  /-- How many characters the text of a rule may have. -/
  | maxRuleLength
  /-- How many rules may be combined at once. -/
  | maxRulesPerCombine
  /-- Whether evaluations are traced. -/
  | traceEvaluations
  deriving DecidableEq

namespace Key

/-! ## Where settings stand -/

/-- The section that a setting stands in, none for those that stand outside of all sections. -/
def section? : Key → Option String
  | serviceName | environment => none
  | host | port => some "server"
  | logLevel | logFormat | metricsEnabled | metricsPort => some "observability"
  | maxRuleLength | maxRulesPerCombine | traceEvaluations => some "engine"

/-- The name of a setting where it stands. -/
def name : Key → String
  | serviceName => "service_name"
  | environment => "environment"
  | host => "host"
  | port => "port"
  | logLevel => "log_level"
  | logFormat => "log_format"
  | metricsEnabled => "metrics_enabled"
  | metricsPort => "metrics_port"
  | maxRuleLength => "max_rule_length"
  | maxRulesPerCombine => "max_rules_per_combine"
  | traceEvaluations => "trace_evaluations"

/-- The address of a setting. -/
def address (key : Key) : Address :=
  match key.section? with
  | none => ⟨key.name, []⟩
  | some section_ => ⟨section_, [.key key.name]⟩

/-- The name that leads to a setting. -/
def path (key : Key) : String :=
  match key.section? with
  | none => key.name
  | some section_ => section_ ++ "." ++ key.name

/-! ## What settings are -/

/-- What a setting is: a text, a number or a truth value. -/
def Value : Key → Type
  | serviceName | environment | host | logLevel | logFormat => String
  | port | metricsPort | maxRuleLength | maxRulesPerCombine => Nat
  | metricsEnabled | traceEvaluations => Bool

/-- What a value is as a setting, if it can be that setting. -/
def read? : (key : Key) → Setting → Option key.Value
  | serviceName | environment | host | logLevel | logFormat => Setting.toText?
  | port | metricsPort => Setting.toPort?
  | maxRuleLength | maxRulesPerCombine => Setting.toNat?
  | metricsEnabled | traceEvaluations => Setting.toBool?

end Key

/-- What a setting is among all settings. -/
def Settings.get (settings : Settings) : (key : Key) → key.Value
  | .serviceName => settings.serviceName
  | .environment => settings.environment
  | .host => settings.server.host
  | .port => settings.server.port
  | .logLevel => settings.observability.logLevel
  | .logFormat => settings.observability.logFormat
  | .metricsEnabled => settings.observability.metricsEnabled
  | .metricsPort => settings.observability.metricsPort
  | .maxRuleLength => settings.engine.maxRuleLength
  | .maxRulesPerCombine => settings.engine.maxRulesPerCombine
  | .traceEvaluations => settings.engine.traceEvaluations

/-- What a setting is if it is given nothing. -/
def Key.builtIn (key : Key) : key.Value :=
  Settings.get { serviceName := "rule-admin-service", environment := "development" } key

/-! ## What assignments give -/

namespace Key

/-- What an assignment gives a setting: its value if it leads to the setting, and if it leads to the
section of the setting, what stands there last under the name of the setting. -/
def given? (key : Key) (assignment : String × Setting) : Option Setting :=
  let address := Address.ofName assignment.1
  if address = key.address then some assignment.2
  else if key.section? = some address.root ∧ address.steps = [] then
    assignment.2.entries.reverse.lookup key.name
  else none

/-- Whether an assignment gives a setting nothing that it cannot be: it leads elsewhere, to the
setting with a value that can be read as one, or to its section with a section in which nothing else
stands under its name. -/
def suits (key : Key) (assignment : String × Setting) : Bool :=
  let address := Address.ofName assignment.1
  if address.root = key.address.root then
    match key.section?, address.steps, assignment.2 with
    | none, [], value => (key.read? value).isSome
    | some _, [], .table entries =>
      entries.all fun entry => entry.1 != key.name || (key.read? entry.2).isSome
    | some _, .key name :: steps, value =>
      name != key.name || (steps.isEmpty && (key.read? value).isSome)
    | _, _, _ => false
  else true

end Key

namespace Layer

/-- What a layer gives a setting, by the last of its assignments that gives it something. -/
def given? (layer : Layer) (key : Key) : Option Setting := layer.reverse.findSome? key.given?

/-- A layer gives no setting what it cannot be. -/
def Suitable (layer : Layer) : Prop :=
  ∀ assignment ∈ layer, ∀ key : Key, key.suits assignment = true

end Layer

/-- What the last of several layers that gives a setting something gives it. -/
def Key.lastGiven? (key : Key) (layers : List Layer) : Option Setting :=
  layers.reverse.findSome? (·.given? key)

namespace Key

variable {key : Key} {assignment : String × Setting} {value : Setting}

/-- No setting is a section. -/
theorem isTable_of_read? (h : (key.read? value).isSome = true) : value.isTable = false := by
  cases value with
  | table entries => cases key <;> cases h
  | nothing | bool | int | float | text | list => rfl

/-- The ways in which an assignment can suit a setting, with what it gives it. -/
inductive Suits (key : Key) (address : Address) (value : Setting) : Option Setting → Prop where
  /-- It leads elsewhere. -/
  | elsewhere (hroot : address.root ≠ key.address.root) : Suits key address value none
  /-- It leads to the setting, outside of all sections. -/
  | alone (hsection : key.section? = none) (haddress : address = ⟨key.name, []⟩)
      (hread : (key.read? value).isSome = true) : Suits key address value (some value)
  /-- It leads to the section of the setting. -/
  | around {section_ : String} {entries : List (String × Setting)}
      (hsection : key.section? = some section_) (haddress : address = ⟨section_, []⟩)
      (hvalue : value = .table entries)
      (hread : ∀ value, (key.name, value) ∈ entries → (key.read? value).isSome = true) :
      Suits key address value (entries.reverse.lookup key.name)
  /-- It leads to another place in the section of the setting. -/
  | beside {section_ name : String} {steps : List Step} (hsection : key.section? = some section_)
      (haddress : address = ⟨section_, .key name :: steps⟩) (hname : name ≠ key.name) :
      Suits key address value none
  /-- It leads to the setting, in its section. -/
  | within {section_ : String} (hsection : key.section? = some section_)
      (haddress : address = ⟨section_, [.key key.name]⟩)
      (hread : (key.read? value).isSome = true) : Suits key address value (some value)

/-- An assignment that suits a setting does so in one of these ways.

**Proof sketch.** Cases as in `suits`: whether the address has the root of the setting, whether the
setting stands in a section, and what the first step of the address is. -/
theorem Suits.of_suits (h : key.suits assignment = true) :
    key.Suits (.ofName assignment.1) assignment.2 (key.given? assignment) := by
  obtain ⟨name, value⟩ := assignment
  unfold suits at h
  unfold given?
  dsimp only at h ⊢
  generalize Address.ofName name = address at h
  obtain ⟨root, steps⟩ := address
  by_cases hroot : root = key.address.root
  · rw [if_pos hroot] at h
    cases hsection : key.section? with
    | none =>
      have haddress : key.address = ⟨key.name, []⟩ := by rw [Key.address, hsection]
      rw [haddress] at hroot ⊢
      subst hroot
      cases steps with
      | nil =>
        rw [if_pos rfl]
        exact .alone hsection rfl (by simpa [hsection] using h)
      | cons step steps => simp [hsection] at h
    | some section_ =>
      have haddress : key.address = ⟨section_, [.key key.name]⟩ := by rw [Key.address, hsection]
      rw [haddress] at hroot ⊢
      subst hroot
      cases steps with
      | nil =>
        rw [if_neg (by simp), if_pos ⟨rfl, rfl⟩]
        cases value with
        | table entries =>
          refine .around hsection rfl rfl fun value hmem => ?_
          have hall : entries.all (fun entry =>
              entry.1 != key.name || (key.read? entry.2).isSome) = true := by
            simpa [hsection] using h
          simpa using List.all_eq_true.1 hall _ hmem
        | nothing | bool | int | float | text | list => simp [hsection] at h
      | cons step steps =>
        cases step with
        | index i => simp [hsection] at h
        | key other =>
          by_cases hother : other = key.name
          · subst hother
            obtain ⟨rfl, hread⟩ : steps = [] ∧ (key.read? value).isSome = true := by
              simpa [hsection] using h
            rw [if_pos rfl]
            exact .within hsection rfl hread
          · rw [if_neg (by simp [hother]), if_neg (by simp)]
            exact .beside hsection rfl hother
  · have hsection : ¬(key.section? = some root ∧ steps = []) := fun hsection =>
      hroot (by rw [address, hsection.1])
    rw [if_neg fun heq => hroot (congrArg Address.root heq), if_neg hsection]
    exact .elsewhere hroot

/-- What a suitable assignment gives a setting can be read as that setting. -/
theorem isSome_read?_of_given? (h : key.suits assignment = true)
    (hgiven : key.given? assignment = some value) : (key.read? value).isSome = true := by
  have hsuits := Suits.of_suits h
  rw [hgiven] at hsuits
  generalize hresult : some value = result at hsuits
  cases hsuits with
  | elsewhere | beside => cases hresult
  | alone _ _ hread | within _ _ hread =>
    cases hresult
    exact hread
  | around _ _ _ hread =>
    obtain ⟨before, after, heq, -⟩ := List.lookup_eq_some_iff.1 hresult.symm
    refine hread value (List.mem_reverse.1 ?_)
    rw [heq]
    exact List.mem_append_right _ (List.mem_cons_self ..)

end Key

/-! ## Names of variables -/

namespace Address

variable {text rest : List Char} {name root : String}

/-- A key is read from what it is written as. -/
theorem readKey?_eq {key : String} (h : readKey? text = some (key, rest)) :
    text = key.toList ++ rest := by
  unfold readKey? at h
  dsimp only at h
  split at h
  · cases h
  · cases h
    rw [String.toList_ofList, List.takeWhile_append_dropWhile]

/-- Where no steps are read, nothing is written. -/
theorem eq_nil_of_readSteps? {fuel : Nat} (h : readSteps? fuel text = some []) : text = [] := by
  unfold readSteps? at h
  split at h
  · rfl
  · split at h
    · cases h
    · simp at h
  · split at h
    · cases h
    · simp at h
  · cases h

/-- Where one step to a key is read, the key stands behind a point. -/
theorem eq_cons_of_readSteps? {fuel : Nat} {key : String}
    (h : readSteps? fuel text = some [.key key]) : text = '.' :: key.toList := by
  unfold readSteps? at h
  split at h
  · cases h
  · split at h
    · cases h
    · rename_i hkey
      obtain ⟨steps, hsteps, heq⟩ := Option.map_eq_some_iff.1 h
      cases heq
      rw [readKey?_eq hkey, eq_nil_of_readSteps? hsteps, List.append_nil]
  · split at h
    · cases h
    · simp at h
  · cases h

/-- The address that a name is has been read from all of it, or is the name as a key. -/
theorem ofName_eq {address : Address} (h : ofName name = address) :
    address = ⟨name, []⟩ ∨
      ∃ rest, name.toList = address.root.toList ++ rest ∧
        readSteps? rest.length rest = some address.steps := by
  unfold ofName read? at h
  cases hkey : readKey? name.toList with
  | none =>
    rw [hkey] at h
    exact .inl h.symm
  | some key =>
    obtain ⟨root, rest⟩ := key
    rw [hkey] at h
    dsimp only at h
    cases hsteps : readSteps? rest.length rest with
    | none =>
      rw [hsteps] at h
      exact .inl h.symm
    | some steps =>
      rw [hsteps] at h
      cases h
      exact .inr ⟨rest, readKey?_eq hkey, hsteps⟩

/-- Only a key leads to the place outside of all sections that it names. -/
theorem eq_of_ofName_key (h : ofName name = ⟨root, []⟩) : name = root := by
  obtain heq | ⟨rest, hname, hsteps⟩ := ofName_eq h
  · cases heq
    rfl
  · rw [eq_nil_of_readSteps? hsteps, List.append_nil] at hname
    exact String.ext hname

/-- Only two keys with a point between them lead to the place that they name. -/
theorem eq_of_ofName_keys {key : String} (h : ofName name = ⟨root, [.key key]⟩) :
    name = root ++ "." ++ key := by
  obtain heq | ⟨rest, hname, hsteps⟩ := ofName_eq h
  · cases heq
  · rw [eq_cons_of_readSteps? hsteps] at hname
    refine String.ext ?_
    rw [hname, String.toList_append, String.toList_append, List.append_assoc]
    rfl

end Address

namespace Key

variable {key : Key} {name : String}

/-- The name of a setting leads to it. -/
theorem ofName_path (key : Key) : Address.ofName key.path = key.address := by
  cases key <;> rfl

/-- **Only its own name leads to a setting.** -/
theorem ofName_eq_address_iff : Address.ofName name = key.address ↔ name = key.path := by
  constructor
  · intro h
    unfold address at h
    unfold path
    cases hsection : key.section? with
    | none =>
      rw [hsection] at h
      exact Address.eq_of_ofName_key h
    | some section_ =>
      rw [hsection] at h
      exact Address.eq_of_ofName_keys h
  · rintro rfl
    exact key.ofName_path

/-- The values of variables are no sections. -/
theorem entries_ofVariable (value : String) : (Setting.ofVariable value).entries = [] := by
  unfold Setting.ofVariable
  dsimp only
  split
  · rfl
  · split
    · rfl
    · split
      · rfl
      · split <;> rfl

/-- A variable gives a setting its value if its name leads to the setting, and else nothing. -/
theorem given?_ofVariable (key : Key) (name value : String) :
    key.given? (name, .ofVariable value) =
      if name = key.path then some (.ofVariable value) else none := by
  unfold given?
  dsimp only
  rw [entries_ofVariable]
  simp only [ofName_eq_address_iff]
  split
  · rfl
  · split <;> rfl

end Key

/-- **Variables give a setting the value of the last one** with a name that leads to it. -/
theorem Layer.given?_ofVariables (vars : List (String × String)) (key : Key) :
    (Layer.ofVariables vars).given? key =
      vars.reverse.findSome? fun variable_ =>
        if Layer.nameOfVariable? variable_.1 = some key.path then some (.ofVariable variable_.2)
        else none := by
  unfold Layer.given? Layer.ofVariables
  rw [← List.filterMap_reverse, ← List.head?_filterMap, List.filterMap_filterMap,
    ← List.head?_filterMap]
  congr 2
  funext ⟨name, value⟩
  cases hname : Layer.nameOfVariable? name with
  | none => simp [hname]
  | some name => simp [hname, Key.given?_ofVariable]

/-- Two underscores lead into a section, and one is a part of a name. -/
example : Layer.nameOfVariable? "RULE_ENGINE__MAX_RULE_LENGTH" = some Key.maxRuleLength.path := rfl

end Criteria
