import Criteria.Proofs.Settings.Keys
import Criteria.Settings.Load

/-!
# Layers override key by key

Every single setting is decided on its own: it has the value that the last layer gives it, and what
is built in if no layer does. A layer that gives one setting of a section leaves the others alone.

## Main definitions

* `Criteria.Setting.at?`, `Criteria.Setting.value` — what stands at the place of a setting, and what
  the setting is by it.
* `Criteria.Setting.Orderly` — values that settings can be read from.
* `Criteria.Setting.Overlays` — values over earlier ones, setting by setting.

## Main results

* `Criteria.Setting.Orderly.assign` — what one assignment changes.
* `Criteria.Setting.Overlays.foldl` — what many assignments, or layers, change.
* `Criteria.Setting.Orderly.ofSetting?` — settings are read one by one.
* `Criteria.Settings.resolves_key_by_key` — every setting has the value that the last layer gives
  it.
-/

set_option autoImplicit false
set_option relaxedAutoImplicit false

namespace Criteria

namespace Setting

/-! ## What stands where -/

/-- What stands at the place of a setting. -/
def at? (all : Setting) (key : Key) : Option Setting :=
  let value? := all.entries.lookup key.address.root
  match key.section? with
  | none => value?
  | some _ => value?.bind (·.entries.lookup key.name)

/-- Values that settings can be read from: a section, in which what stands under the name of a
section is one, and what stands at the place of a setting can be read as that setting. -/
structure Orderly (all : Setting) : Prop where
  /-- There is a section around all. -/
  isTable : all.isTable = true
  /-- Under the name of a section stands a section. -/
  isTable_section : ∀ (key : Key) (section_ : String) (value : Setting),
    key.section? = some section_ → all.entries.lookup section_ = some value → value.isTable = true
  /-- At the place of a setting stands what can be read. -/
  readable : ∀ (key : Key) (value : Setting),
    all.at? key = some value → (key.read? value).isSome = true

/-- Values over earlier ones: each setting has what it is given, and if it is given nothing, what it
had before. -/
structure Overlays (given? : Key → Option Setting) (all later : Setting) : Prop where
  /-- Settings can be read from them. -/
  orderly : later.Orderly
  /-- Each setting is decided on its own. -/
  at?_eq : ∀ key, later.at? key = (given? key).or (all.at? key)

/-! ## One assignment -/

section Assignment

variable {all : Setting} {key : Key} {assignment : String × Setting}

/-- What stands under a name after an assignment. -/
theorem lookup_assign (name : String) :
    (Layer.assign all assignment).entries.lookup name =
      if name = (Address.ofName assignment.1).root then
        some (update (·.merge assignment.2) (Address.ofName assignment.1).steps
          ((all.entries.lookup name).getD .nothing))
      else all.entries.lookup name := by
  unfold Layer.assign
  rw [entries_updateAt]
  refine (lookup_updateKey _).trans ?_
  split
  · rename_i hname
    rw [hname]
  · rfl

/-- What stands at the place of a setting outside of all sections. -/
theorem at?_alone (hsection : key.section? = none) :
    all.at? key = all.entries.lookup key.name := by
  unfold at? Key.address
  rw [hsection]

/-- What stands at the place of a setting in a section, which may be missing. -/
theorem at?_section {section_ : String} (hsection : key.section? = some section_) :
    all.at? key = ((all.entries.lookup section_).getD .nothing).entries.lookup key.name := by
  unfold at? Key.address
  rw [hsection]
  dsimp only
  cases all.entries.lookup section_ with
  | none => rfl
  | some value => rfl

/-- What stands at the place of a setting after an assignment into its section. -/
theorem at?_assign_section {section_ : String} {steps : List Step}
    (hsection : key.section? = some section_)
    (haddress : Address.ofName assignment.1 = ⟨section_, steps⟩) :
    (Layer.assign all assignment).at? key =
      (update (·.merge assignment.2) steps
        ((all.entries.lookup section_).getD .nothing)).entries.lookup key.name := by
  rw [at?_section hsection, lookup_assign, haddress, if_pos rfl, Option.getD_some]

/-- **What an assignment gives a setting stands at its place,** and if that is nothing, what stood
there before. -/
theorem at?_assign (h : key.suits assignment = true) :
    (Layer.assign all assignment).at? key = (key.given? assignment).or (all.at? key) := by
  have hsuits := Key.Suits.of_suits h
  -- What is given is an index of `Suits`, so it has to be a variable before the cases.
  generalize key.given? assignment = given at hsuits
  cases hsuits with
  | elsewhere hroot =>
    rw [Option.none_or]
    unfold at?
    rw [lookup_assign, if_neg (Ne.symm hroot)]
  | alone hsection haddress hread =>
    rw [Option.some_or, at?_alone hsection, lookup_assign, haddress, if_pos rfl, update,
      merge_of_not_isTable _ (Key.isTable_of_read? hread)]
  | around hsection haddress hvalue hread =>
    rw [at?_assign_section hsection haddress, at?_section hsection, update, hvalue, merge_table]
    exact lookup_mergeEntries fun value hmem => Key.isTable_of_read? (hread value hmem)
  | beside hsection haddress hname =>
    rw [Option.none_or, at?_assign_section hsection haddress, at?_section hsection, update]
    refine (lookup_updateKey _).trans ?_
    rw [if_neg (Ne.symm hname)]
  | within hsection haddress hread =>
    rw [Option.some_or, at?_assign_section hsection haddress, update]
    refine (lookup_updateKey _).trans ?_
    rw [if_pos rfl, update, merge_of_not_isTable _ (Key.isTable_of_read? hread)]

/-- An assignment that suits a setting in a section leaves a section there. -/
theorem isTable_assign {section_ : String} {value : Setting} (h : key.suits assignment = true)
    (hsection : key.section? = some section_)
    (hbefore : ∀ value, all.entries.lookup section_ = some value → value.isTable = true)
    (hlookup : (Layer.assign all assignment).entries.lookup section_ = some value) :
    value.isTable = true := by
  rw [lookup_assign] at hlookup
  have hroot : key.address.root = section_ := by rw [Key.address, hsection]
  have hsuits := Key.Suits.of_suits h
  generalize key.given? assignment = given at hsuits
  cases hsuits with
  | elsewhere hne =>
    rw [if_neg (hroot ▸ Ne.symm hne)] at hlookup
    exact hbefore value hlookup
  | alone hnone => cases hnone.symm.trans hsection
  | around hsome haddress hvalue =>
    cases hsome.symm.trans hsection
    rw [haddress, if_pos rfl, hvalue] at hlookup
    cases hlookup
    rfl
  | beside hsome haddress | within hsome haddress =>
    cases hsome.symm.trans hsection
    rw [haddress, if_pos rfl] at hlookup
    cases hlookup
    rfl

/-- **An assignment that suits all settings** lies over what was there. -/
theorem Orderly.assign (h : all.Orderly) (hsuits : ∀ key : Key, key.suits assignment = true) :
    Overlays (·.given? assignment) all (Layer.assign all assignment) where
  orderly :=
    { isTable := rfl
      isTable_section := fun key section_ value hsection =>
        isTable_assign (hsuits key) hsection (h.isTable_section key section_ · hsection)
      readable := by
        intro key value hat
        rw [at?_assign (hsuits key)] at hat
        obtain hgiven | ⟨-, hbefore⟩ := Option.or_eq_some_iff.1 hat
        · exact Key.isSome_read?_of_given? (hsuits key) hgiven
        · exact h.readable key value hbefore }
  at?_eq key := at?_assign (hsuits key)

end Assignment

/-! ## Many assignments, many layers -/

/-- **What lies over what was there, step after step,** lies over it as a whole: the last of what a
setting is given counts. -/
theorem Overlays.foldl {α : Type} {step : Setting → α → Setting}
    {given? : α → Key → Option Setting} {items : List α} {all : Setting}
    (hstep : ∀ item ∈ items, ∀ all : Setting, all.Orderly →
      Overlays (given? item) all (step all item))
    (h : all.Orderly) :
    Overlays (fun key => items.reverse.findSome? (given? · key)) all (items.foldl step all) := by
  induction items generalizing all with
  | nil => exact ⟨h, fun _ => rfl⟩
  | cons item items ih =>
    have hfirst := hstep item (List.mem_cons_self ..) all h
    have hrest := ih (fun item hmem => hstep item (List.mem_cons_of_mem _ hmem)) hfirst.orderly
    refine ⟨hrest.orderly, fun key => ?_⟩
    have hlast : [item].findSome? (given? · key) = given? item key := by simp
    rw [List.foldl_cons, hrest.at?_eq, hfirst.at?_eq, List.reverse_cons, List.findSome?_append,
      hlast, Option.or_assoc]

/-- A suitable layer lies over what was there. -/
theorem Orderly.apply {all : Setting} {layer : Layer} (h : all.Orderly) (hsuits : layer.Suitable) :
    Overlays layer.given? all (layer.apply all) :=
  .foldl (fun assignment hmem _ h => h.assign (hsuits assignment hmem)) h

/-- Suitable layers lie over what was there. -/
theorem Orderly.layers {all : Setting} {layers : List Layer} (h : all.Orderly)
    (hsuits : ∀ layer ∈ layers, layer.Suitable) :
    Overlays (·.lastGiven? layers) all (layers.foldl Layer.apply all) :=
  .foldl (fun layer hmem _ h => h.apply (hsuits layer hmem)) h

/-! ## Settings read one by one -/

section Reading

variable {all : Setting} {key : Key} {section_ : String} {entries : List (String × Setting)}

/-- What a setting is by what stands at its place, and what is built in if nothing does. -/
def value (all : Setting) (key : Key) : key.Value :=
  ((all.at? key).bind key.read?).getD key.builtIn

/-- A part of a section is read, or its default is taken. -/
theorem readField?_table {α : Type} {index : Nat} {name : String} {read? : Setting → Option α}
    {default : α} (h : ∀ value, entries.lookup name = some value → (read? value).isSome = true) :
    (table entries).readField? index name read? default =
      some (((entries.lookup name).bind read?).getD default) := by
  unfold readField? field?
  dsimp only
  cases hlookup : entries.lookup name with
  | none => rfl
  | some value =>
    obtain ⟨result, hresult⟩ := Option.isSome_iff_exists.1 (h value hlookup)
    dsimp only
    rw [Option.bind_some, hresult, Option.getD_some]

/-- A setting is read from the entries in which it stands. -/
theorem Orderly.readField?_key (h : all.Orderly) (hat : all.at? key = entries.lookup key.name)
    (index : Nat) :
    (table entries).readField? index key.name key.read? key.builtIn = some (all.value key) := by
  rw [readField?_table fun value hvalue => h.readable key value (hat.trans hvalue)]
  unfold value
  rw [hat]

/-- A section is read from the entries in which its settings stand; if it is missing, then as one
without entries. -/
theorem Orderly.readField?_section {α : Type} {read? : Setting → Option α} {default : α}
    (h : all.Orderly) (hsection : key.section? = some section_) (index : Nat)
    (hempty : read? (.table []) = some default) :
    ∃ entries, all.readField? index section_ read? default = read? (.table entries) ∧
      ∀ key : Key, key.section? = some section_ → all.at? key = entries.lookup key.name := by
  obtain ⟨parts, rfl⟩ := exists_of_isTable h.isTable
  cases hlookup : parts.lookup section_ with
  | none =>
    refine ⟨[], ?_, fun key hkey => ?_⟩
    · simp [readField?, field?, hlookup, hempty]
    · simp [at?_section hkey, entries, hlookup]
  | some value =>
    obtain ⟨entries, rfl⟩ :=
      exists_of_isTable (h.isTable_section key section_ value hsection hlookup)
    refine ⟨entries, ?_, fun key hkey => ?_⟩
    · simp [readField?, field?, hlookup]
    · simp [at?_section hkey, Setting.entries, hlookup]

/-- The section of the server is read setting by setting. -/
theorem Orderly.readField?_server (h : all.Orderly) :
    all.readField? 2 "server" ServerSettings.ofSetting? {} =
      some { host := all.value .host, port := all.value .port } := by
  have hsection : Key.host.section? = some "server" := rfl
  have hempty : ServerSettings.ofSetting? (.table []) = some {} := rfl
  obtain ⟨entries, hread, hat⟩ := h.readField?_section hsection 2 hempty
  exact hread.trans <| Option.bind_eq_some_iff.2 ⟨_, h.readField?_key (hat .host rfl) 0,
    Option.bind_eq_some_iff.2 ⟨_, h.readField?_key (hat .port rfl) 1, rfl⟩⟩

/-- The section of what is logged and counted is read setting by setting. -/
theorem Orderly.readField?_observability (h : all.Orderly) :
    all.readField? 3 "observability" ObservabilitySettings.ofSetting? {} =
      some
        { logLevel := all.value .logLevel
          logFormat := all.value .logFormat
          metricsEnabled := all.value .metricsEnabled
          metricsPort := all.value .metricsPort } := by
  have hsection : Key.logLevel.section? = some "observability" := rfl
  have hempty : ObservabilitySettings.ofSetting? (.table []) = some {} := rfl
  obtain ⟨entries, hread, hat⟩ := h.readField?_section hsection 3 hempty
  exact hread.trans <| Option.bind_eq_some_iff.2 ⟨_, h.readField?_key (hat .logLevel rfl) 0,
    Option.bind_eq_some_iff.2 ⟨_, h.readField?_key (hat .logFormat rfl) 1,
    Option.bind_eq_some_iff.2 ⟨_, h.readField?_key (hat .metricsEnabled rfl) 2,
    Option.bind_eq_some_iff.2 ⟨_, h.readField?_key (hat .metricsPort rfl) 3, rfl⟩⟩⟩⟩

/-- The section of limits and habits is read setting by setting. -/
theorem Orderly.readField?_engine (h : all.Orderly) :
    all.readField? 4 "engine" EngineSettings.ofSetting? {} =
      some
        { maxRuleLength := all.value .maxRuleLength
          maxRulesPerCombine := all.value .maxRulesPerCombine
          traceEvaluations := all.value .traceEvaluations } := by
  have hsection : Key.maxRuleLength.section? = some "engine" := rfl
  have hempty : EngineSettings.ofSetting? (.table []) = some {} := rfl
  obtain ⟨entries, hread, hat⟩ := h.readField?_section hsection 4 hempty
  exact hread.trans <| Option.bind_eq_some_iff.2 ⟨_, h.readField?_key (hat .maxRuleLength rfl) 0,
    Option.bind_eq_some_iff.2 ⟨_, h.readField?_key (hat .maxRulesPerCombine rfl) 1,
    Option.bind_eq_some_iff.2 ⟨_, h.readField?_key (hat .traceEvaluations rfl) 2, rfl⟩⟩⟩

/-- A setting outside of all sections is read. -/
theorem Orderly.readField?_alone (h : all.Orderly) (hsection : key.section? = none) (index : Nat) :
    all.readField? index key.name key.read? key.builtIn = some (all.value key) := by
  obtain ⟨parts, rfl⟩ := exists_of_isTable h.isTable
  exact h.readField?_key (at?_alone hsection) index

/-- **Settings are read one by one.** -/
theorem Orderly.ofSetting? (h : all.Orderly) :
    ∃ settings, Settings.ofSetting? all = some settings ∧
      ∀ key, settings.get key = all.value key := by
  have hname : Key.serviceName.section? = none := rfl
  have henvironment : Key.environment.section? = none := rfl
  refine ⟨_, Option.bind_eq_some_iff.2 ⟨_, h.readField?_alone hname 0,
    Option.bind_eq_some_iff.2 ⟨_, h.readField?_alone henvironment 1,
    Option.bind_eq_some_iff.2 ⟨_, h.readField?_server,
    Option.bind_eq_some_iff.2 ⟨_, h.readField?_observability,
    Option.bind_eq_some_iff.2 ⟨_, h.readField?_engine, rfl⟩⟩⟩⟩⟩, fun key => ?_⟩
  cases key <;> rfl

end Reading

/-- A setting that is given something is that. -/
theorem Overlays.read?_eq {given? : Key → Option Setting} {all later given : Setting} {key : Key}
    (h : Overlays given? all later) (hgiven : given? key = some given) :
    key.read? given = some (later.value key) := by
  have hat : later.at? key = some given := by rw [h.at?_eq, hgiven, Option.some_or]
  obtain ⟨result, hresult⟩ := Option.isSome_iff_exists.1 (h.orderly.readable key given hat)
  unfold value
  rw [hat, Option.bind_some, hresult, Option.getD_some]

/-- A setting that is given nothing is what it was. -/
theorem Overlays.value_eq {given? : Key → Option Setting} {all later : Setting} {key : Key}
    (h : Overlays given? all later) (hgiven : given? key = none) :
    later.value key = all.value key := by
  unfold value
  rw [h.at?_eq, hgiven, Option.none_or]

end Setting

/-! ## Settings from layers -/

namespace Settings

variable {serviceName environment : String} {layers : List Layer}

/-- Settings can be read from what is known before any layer. -/
theorem orderly_start (serviceName environment : String) :
    (start serviceName environment).Orderly where
  isTable := rfl
  isTable_section key section_ value hsection hlookup := by
    cases key <;> cases hsection <;> cases hlookup
  readable key value hat := by
    cases key <;> cases hat <;> rfl

/-- Before any layer, settings are what is built in, but for the name and the environment. -/
theorem value_start (serviceName environment : String) (key : Key) :
    (start serviceName environment).value key = get { serviceName, environment } key := by
  cases key <;> rfl

/-- Suitable layers amount to settings. -/
theorem exists_ofLayers? (serviceName environment : String)
    (hsuits : ∀ layer ∈ layers, layer.Suitable) :
    ∃ settings, ofLayers? serviceName environment layers = some settings ∧
      (∀ key value, key.lastGiven? layers = some value →
        key.read? value = some (settings.get key)) ∧
      ∀ key, key.lastGiven? layers = none →
        settings.get key = get { serviceName, environment } key := by
  have hover := (orderly_start serviceName environment).layers hsuits
  obtain ⟨settings, hsettings, hget⟩ := hover.orderly.ofSetting?
  refine ⟨settings, hsettings, fun key value hgiven => ?_, fun key hgiven => ?_⟩
  · rw [hget, hover.read?_eq hgiven]
  · rw [hget, hover.value_eq hgiven, value_start]

/-- A layer that gives a setting nothing does not count for it. -/
theorem lastGiven?_of_given?_eq_none {key : Key} {layer : Layer} (before after : List Layer)
    (h : layer.given? key = none) :
    key.lastGiven? (before ++ layer :: after) = key.lastGiven? (before ++ after) := by
  simp [Key.lastGiven?, List.findSome?_append, h]

/-- **Layers override key by key.** If files and variables give no setting what it cannot be, then
there are settings, and each of them is what the last layer gives it. The layers are the file for
all, the one of the environment, the one of the service, and the variables.

1. A setting that a layer gives something is what the last such layer gives it.
2. Any other setting is what is built in, and the name and the environment are what was asked for.
3. A layer that gives a setting nothing can be left out without a change to that setting, whatever
it gives to others of the same section.
4. Variables give a setting the value of the last one with a name that leads to it. -/
theorem resolves_key_by_key {files : String → Option String} {vars : List (String × String)}
    {forAll forEnvironment forService : Layer}
    (hall : fileLayer? files "default.toml" = some forAll)
    (henvironment : fileLayer? files (environment ++ ".toml") = some forEnvironment)
    (hservice : fileLayer? files (serviceName ++ ".toml") = some forService)
    (hlayers : layers = [forAll, forEnvironment, forService, .ofVariables vars])
    (hsuits : ∀ layer ∈ layers, layer.Suitable) :
    ∃ settings, load? files vars serviceName environment = some settings ∧
      (∀ key value, key.lastGiven? layers = some value →
        key.read? value = some (settings.get key)) ∧
      (∀ key, key.lastGiven? layers = none →
        settings.get key = get { serviceName, environment } key) ∧
      (∀ before layer after, layers = before ++ layer :: after →
        ∃ others, ofLayers? serviceName environment (before ++ after) = some others ∧
          ∀ key, layer.given? key = none → settings.get key = others.get key) ∧
      ∀ key : Key, (Layer.ofVariables vars).given? key =
        vars.reverse.findSome? fun variable_ =>
          if Layer.nameOfVariable? variable_.1 = some key.path then some (.ofVariable variable_.2)
          else none := by
  obtain ⟨settings, hsettings, hgiven, hmissing⟩ :=
    exists_ofLayers? serviceName environment hsuits
  have hload : load? files vars serviceName environment = some settings := by
    simp [load?, fileNames, hall, henvironment, hservice, ← hlayers, hsettings]
  refine ⟨settings, hload, hgiven, hmissing, fun before layer after heq => ?_,
    Layer.given?_ofVariables vars⟩
  have hothers : ∀ layer ∈ before ++ after, layer.Suitable := by
    intro other hother
    refine hsuits other ?_
    rw [heq]
    obtain hbefore | hafter := List.mem_append.1 hother
    · exact List.mem_append_left _ hbefore
    · exact List.mem_append_right _ (List.mem_cons_of_mem _ hafter)
  obtain ⟨others, hothers, hgiven', hmissing'⟩ :=
    exists_ofLayers? serviceName environment hothers
  refine ⟨others, hothers, fun key hnone => ?_⟩
  have hlast : key.lastGiven? layers = key.lastGiven? (before ++ after) := by
    rw [heq, lastGiven?_of_given?_eq_none before after hnone]
  cases hvalue : key.lastGiven? layers with
  | none => rw [hmissing key hvalue, hmissing' key (hlast ▸ hvalue)]
  | some value =>
    have hread := (hgiven key value hvalue).symm.trans (hgiven' key value (hlast ▸ hvalue))
    exact Option.some_inj.1 hread

/-- Files of which each gives a port, and one a limit of the engine too. -/
def stagingFiles (name : String) : Option String :=
  if name = "default.toml" then some "[server]\nport = 9000\n\n[engine]\nmax_rule_length = 256\n"
  else if name = "staging.toml" then some "[server]\nport = 9100\n"
  else none

/-- The layers of these files, and of a variable for another setting of the engine. -/
def stagingLayers : List Layer :=
  [[("server", .table [("port", .int 9000)]), ("engine", .table [("max_rule_length", .int 256)])],
    [("server", .table [("port", .int 9100)])], [], [("engine.trace_evaluations", .bool true)]]

/-- The port is the one of the later file, and the settings of the engine stand side by side. -/
theorem resolves_key_by_key_staging :
    ∃ settings,
      load? stagingFiles [("RULE_ENGINE__TRACE_EVALUATIONS", "true")] "rule-admin-service"
        "staging" = some settings ∧
      settings.server.port = 9100 ∧ settings.server.host = "0.0.0.0" ∧
      settings.engine.maxRuleLength = 256 ∧ settings.engine.traceEvaluations = true := by
  have hall : fileLayer? stagingFiles "default.toml" = some
      [("server", .table [("port", .int 9000)]),
        ("engine", .table [("max_rule_length", .int 256)])] := by decide +kernel
  have henvironment : fileLayer? stagingFiles ("staging" ++ ".toml") =
      some [("server", .table [("port", .int 9100)])] := by decide +kernel
  have hservice : fileLayer? stagingFiles ("rule-admin-service" ++ ".toml") = some [] := by
    decide +kernel
  have hvars : Layer.ofVariables [("RULE_ENGINE__TRACE_EVALUATIONS", "true")] =
      [("engine.trace_evaluations", .bool true)] := by decide +kernel
  have hsuits : ∀ layer ∈ stagingLayers, layer.Suitable := by
    intro layer hlayer assignment hassignment key
    have hall : stagingLayers.flatten.all key.suits = true := by cases key <;> decide +kernel
    exact List.all_eq_true.1 hall assignment (List.mem_flatten.2 ⟨layer, hlayer, hassignment⟩)
  obtain ⟨settings, hload, hgiven, hmissing, -, -⟩ :=
    resolves_key_by_key hall henvironment hservice (by rw [hvars, stagingLayers]) hsuits
  have hport := hgiven .port (.int 9100) rfl
  have hlength := hgiven .maxRuleLength (.int 256) rfl
  have htrace := hgiven .traceEvaluations (.bool true) rfl
  exact ⟨settings, hload, Option.some.inj hport.symm, hmissing .host rfl,
    Option.some.inj hlength.symm, Option.some.inj htrace.symm⟩

/-- A file whose name is only an ending is passed over, a file stands in for one that is absent, and
the text of a variable counts as the number that it spells. -/
theorem passes_over_ending :
    Layer.ofToml? "[server]\nport = 1\n" = some [("server", .table [("port", .int 1)])] ∧
    (load? (fun name => if name = "" ++ ".toml" then some "[server]\nport = 1\n" else none) []
      "rule-admin-service" "").map (·.server.port) = some 8080 ∧
    (load? (fun name => if name = "default.toml.toml" then some "[server]\nport = 1\n" else none) []
      "rule-admin-service" "test").map (·.server.port) = some 1 ∧
    (load? (fun _ => none) [("RULE_SERVICE_NAME", "007")]
      "rule-admin-service" "test").map (·.serviceName) = some "7" :=
  ⟨by decide +kernel, by decide +kernel, by decide +kernel, by decide +kernel⟩

end Settings

end Criteria
