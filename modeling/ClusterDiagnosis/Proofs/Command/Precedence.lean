import ClusterDiagnosis.Proofs.Command.Arguments
import ClusterDiagnosis.Proofs.Settings.Integrations

/-!
# Which settings are in effect

The namespace, the selector, the time limit and the file of settings may be given on the command
line and held by the environment. What is given comes first (`foremost`), with three exceptions
(`inEffect`): a time limit of zero and a file without a name are passed over in an analysis, and a
listing does not look at the file that the environment holds. Apart from these the command does what
the foremost settings say (`options_prevail`).
-/

set_option autoImplicit false
set_option relaxedAutoImplicit false

namespace ClusterDiagnosis

namespace Command

open Options

variable {σ τ : Type}

/-- The settings that may be given on the command line and held by the environment. -/
structure Choice where
  scope : String
  selector : String
  timeout : Double
  settingsFile : Option String
  deriving DecidableEq

/-- The deadline of a run that starts now. -/
def Choice.deadline (c : Choice) (now : Double) : Deadline where
  finish := now.add c.timeout
  stated := (Value.float c.timeout).text

/-- An analysis by settings that are chosen. All else is as the options and the environment say. -/
def analyzeBy (api : Api σ) (chats : ChatWorld τ) (env : Environment) (o : Options) (c : Choice)
    (as : List Analyzer) (w : Workspace σ τ) : Except Fault Unit × Workspace σ τ :=
  let chosen : Plan :=
    { plan o (RunSettings.ofEnvironment env) with selection := ⟨c.scope, c.selector⟩ }
  let service := if chosen.explain then
      (Chat.ofEnvironment env).map fun chat ↦ chat.service chats env
    else none
  let (r, w) :=
    analyze chosen (Api.source api) service (some (c.deadline w.world.moment.now)) as w
  (r.map fun _ ↦ (), w)

/-- What the command does by settings that are chosen: a listing, or an analysis. -/
def actBy (api : Api σ) (chats : ChatWorld τ) (env : Environment) (o : Options) (c : Choice)
    (w : Workspace σ τ) : Except Fault Unit × Workspace σ τ :=
  match registry c.settingsFile w.output.files with
  | .error f => (.error f, w)
  | .ok r =>
    if o.listFilters then (.ok (), { w with output := r.listing.foldl Output.print w.output })
    else match r.resolve o.filters o.withAdditional with
      | .error f => (.error f, w)
      | .ok as => analyzeBy api chats env o c as w

/-- The command by settings that are chosen. -/
def runBy (api : Api σ) (chats : ChatWorld τ) (env : Environment) (o : Options) (c : Choice)
    (w : Workspace σ τ) : Ending × Workspace σ τ :=
  let (r, w) := actBy api chats env o c w
  (ending r, w)

/-- The time limit that the command line gives. -/
def limit? (args : List String) : Option Double :=
  (given? "--timeout" args).bind Decimal.toDouble?

/-- What the command line gives, whatever it is, and else what the environment holds. -/
def foremost (env : Environment) (args : List String) : Choice where
  scope := (given? "--namespace" args).getD (RunSettings.ofEnvironment env).scope
  selector := (given? "--selector" args).getD (RunSettings.ofEnvironment env).selector
  timeout := (limit? args).getD (RunSettings.ofEnvironment env).timeout
  settingsFile := (given? "--config" args).or (RunSettings.ofEnvironment env).integrationFile

/-- The settings in effect: a time limit of zero and a file without a name are as good as none
given, and a listing knows no other file than the one given. -/
def inEffect (env : Environment) (args : List String) (listing : Bool) : Choice :=
  { foremost env args with
    timeout := ((limit? args).filter (!·.isZero)).getD (RunSettings.ofEnvironment env).timeout
    settingsFile := if listing then given? "--config" args
      else ((given? "--config" args).filter (!·.isEmpty)).or
        (RunSettings.ofEnvironment env).integrationFile }

/-- The file of settings is not passed over: a listing must be given it where the environment holds
one, and an analysis must not be given one without a name. -/
def FileHeeded (env : Environment) (args : List String) (listing : Bool) : Prop :=
  (RunSettings.ofEnvironment env).integrationFile = none ∨
    given? "--config" args ≠ if listing then none else some ""

/-- Nothing that is given or held is passed over. -/
structure Heeded (env : Environment) (args : List String) (listing : Bool) : Prop where
  limit : listing = false → ∀ d, limit? args = some d → d.isZero = false
  file : FileHeeded env args listing

variable {env : Environment} {args : List String} {listing : Bool} {o : Options}

/-! ### The registry -/

/-- An empty name of a settings file is the same as none. -/
theorem registry_filter (file : Option String) (t : FileTree) :
    registry (file.filter (!·.isEmpty)) t = registry file t := by
  rw [registry, registry, IntegrationSettings.load, IntegrationSettings.load, Option.filter_filter]
  simp only [Bool.and_self]

/-- The registry is that of the foremost file if the file is not passed over. -/
theorem FileHeeded.registry_inEffect (h : FileHeeded env args listing) (t : FileTree) :
    registry (inEffect env args listing).settingsFile t =
      registry (foremost env args).settingsFile t := by
  unfold inEffect foremost
  dsimp only
  obtain h | h := h
  · rw [h, Option.or_none, Option.or_none]
    split
    · rfl
    · exact registry_filter _ t
  · cases hconfig : given? "--config" args with
    | none =>
      rw [hconfig] at h
      cases listing with
      | true => exact absurd rfl h
      | false => rfl
    | some file =>
      rw [hconfig] at h
      cases listing with
      | true => rfl
      | false =>
        have hname : file ≠ "" := fun hempty ↦ h (congrArg some hempty)
        rw [if_neg Bool.false_ne_true, IntegrationSettings.filter_eq_some hname]

/-! ### The run -/

/-- For a listing only the registry matters. -/
theorem actBy_congr_of_listing (h : o.listFilters = true) (api : Api σ) (chats : ChatWorld τ)
    (env : Environment) {c c' : Choice} {w : Workspace σ τ}
    (hregistry : registry c.settingsFile w.output.files =
      registry c'.settingsFile w.output.files) :
    actBy api chats env o c w = actBy api chats env o c' w := by
  rw [actBy, actBy, hregistry]
  cases registry c'.settingsFile w.output.files with
  | error f => rfl
  | ok r => simp only [h, if_true]

/-- Files of the same registry give the same run. -/
theorem actBy_congr (api : Api σ) (chats : ChatWorld τ) (env : Environment) (o : Options)
    {c c' : Choice} {w : Workspace σ τ} (hchoice : { c with settingsFile := c'.settingsFile } = c')
    (hregistry : registry c.settingsFile w.output.files =
      registry c'.settingsFile w.output.files) :
    actBy api chats env o c w = actBy api chats env o c' w := by
  rw [actBy, actBy, hregistry, ← hchoice]
  rfl

/-- The settings that options and the environment come to. -/
def ofOptions (env : Environment) (o : Options) : Choice where
  scope := (plan o (RunSettings.ofEnvironment env)).selection.scope
  selector := (plan o (RunSettings.ofEnvironment env)).selection.selector
  timeout := timeLimit o (RunSettings.ofEnvironment env)
  settingsFile := settingsFile env o

/-- The time limit in effect is the given one unless that is zero, and else the environment's. -/
theorem timeLimit_eq (o : Options) (s : RunSettings) :
    timeLimit o s = (o.timeout.filter (!·.isZero)).getD s.timeout := by
  unfold timeLimit
  cases o.timeout with
  | none => rfl
  | some d => cases hzero : d.isZero <;> simp [Option.filter, hzero]

/-- The settings in effect are those of the options that are read. -/
theorem inEffect_eq (env : Environment) (hargs : Options.ofArguments args = .ok o) :
    inEffect env args o.listFilters = ofOptions env o := by
  have hscope : o.scope = given? "--namespace" args := by
    simpa using (becomes_ofArguments sets_scope hargs).eq_bind
  have hselector : o.selector = given? "--selector" args := by
    simpa using (becomes_ofArguments sets_selector hargs).eq_bind
  have htimeout : o.timeout = limit? args :=
    (becomes_ofArguments sets_timeout hargs).eq_bind
  have hfile : o.settingsFile = given? "--config" args := by
    simpa using (becomes_ofArguments sets_settingsFile hargs).eq_bind
  rw [inEffect, foremost, ofOptions, timeLimit_eq, htimeout, plan, hscope, hselector, settingsFile,
    hfile]

/-- Listing the filters acts by the settings that the options and the environment give. -/
theorem listFilters_eq_actBy (h : o.listFilters = true) (api : Api σ) (chats : ChatWorld τ)
    (env : Environment) (w : Workspace σ τ) :
    listFilters o w = actBy api chats env o (ofOptions env o) w := by
  rw [listFilters, actBy, ofOptions, settingsFile, if_pos h]
  dsimp only
  cases registry o.settingsFile w.output.files with
  | error f => rfl
  | ok r => simp only [h, if_true]

/-- A run whose checks cannot be chosen ends with that fault and changes nothing. -/
theorem runAnalysis_of_error {f : Fault} {w : Workspace σ τ} (api : Api σ) (chats : ChatWorld τ)
    (h : analyzers o (RunSettings.ofEnvironment env) w.output.files = .error f) :
    runAnalysis api chats env o w = (.error f, w) := by
  rw [runAnalysis, h]

/-- The time limit is a number, so there is a deadline. -/
theorem runAnalysis_of_ok {as : List Analyzer} {w : Workspace σ τ} (api : Api σ)
    (chats : ChatWorld τ)
    (h : analyzers o (RunSettings.ofEnvironment env) w.output.files = .ok as) :
    runAnalysis api chats env o w = analyzeBy api chats env o (ofOptions env o) as w := by
  have hdeadline : Deadline.start w.world.moment.now
      (.float (timeLimit o (RunSettings.ofEnvironment env))) =
      .ok (some ((ofOptions env o).deadline w.world.moment.now)) := rfl
  rw [runAnalysis, h, hdeadline, analyzeBy]
  dsimp only [ofOptions]
  split
  · next hrun => rw [hrun]; rfl
  · next hrun => rw [hrun]; rfl

/-- A run of the analysis acts by the settings that the options and the environment give. -/
theorem runAnalysis_eq_actBy (h : o.listFilters = false) (api : Api σ) (chats : ChatWorld τ)
    (env : Environment) (w : Workspace σ τ) :
    runAnalysis api chats env o w = actBy api chats env o (ofOptions env o) w := by
  have hanalyzers : analyzers o (RunSettings.ofEnvironment env) w.output.files =
      (registry (ofOptions env o).settingsFile w.output.files).bind
        (·.resolve o.filters o.withAdditional) := by
    rw [ofOptions, settingsFile, h, if_neg Bool.false_ne_true]
    rfl
  rw [actBy]
  cases hregistry : registry (ofOptions env o).settingsFile w.output.files with
  | error f =>
    rw [hregistry] at hanalyzers
    exact runAnalysis_of_error api chats hanalyzers
  | ok r =>
    rw [hregistry] at hanalyzers
    dsimp only
    rw [h, if_neg Bool.false_ne_true]
    cases hresolve : r.resolve o.filters o.withAdditional with
    | error f => exact runAnalysis_of_error api chats (hanalyzers.trans hresolve)
    | ok as => exact runAnalysis_of_ok api chats (hanalyzers.trans hresolve)

/-- The command goes by the settings in effect. -/
theorem run_eq_runBy (api : Api σ) (chats : ChatWorld τ) (env : Environment)
    (w : Workspace σ τ) (hargs : Options.ofArguments args = .ok o) :
    run api chats env args w = runBy api chats env o (inEffect env args o.listFilters) w := by
  rw [run, hargs, runBy, inEffect_eq env hargs]
  dsimp only
  cases h : o.listFilters with
  | true => rw [if_pos rfl, listFilters_eq_actBy h api chats env]
  | false => rw [if_neg Bool.false_ne_true, runAnalysis_eq_actBy h]

/-- Where nothing is passed over, the settings in effect are the foremost ones. -/
theorem Heeded.actBy_eq (h : Heeded env args o.listFilters) (api : Api σ) (chats : ChatWorld τ)
    (w : Workspace σ τ) :
    actBy api chats env o (inEffect env args o.listFilters) w =
      actBy api chats env o (foremost env args) w := by
  have hregistry := h.file.registry_inEffect w.output.files
  cases hlist : o.listFilters with
  | true =>
    rw [hlist] at hregistry
    exact actBy_congr_of_listing hlist api chats env hregistry
  | false =>
    rw [hlist] at hregistry
    have hlimit : (limit? args).filter (!·.isZero) = limit? args := by
      cases hd : limit? args with
      | none => rfl
      | some d => simp [Option.filter, h.limit hlist d hd]
    refine actBy_congr api chats env o ?_ hregistry
    rw [inEffect, hlimit]
    rfl

/-- A time limit on an accepted command line is a number. -/
theorem exists_limit? (hargs : Options.ofArguments args = .ok o) {text : String}
    (h : given? "--timeout" args = some text) :
    ∃ d, Decimal.toDouble? text = some d ∧ limit? args = some d := by
  have hbecomes := becomes_ofArguments sets_timeout hargs
  rw [h, becomes_some_iff] at hbecomes
  obtain ⟨d, hd, -⟩ := hbecomes
  refine ⟨d, hd, ?_⟩
  rw [limit?, h, Option.bind_some, hd]

/-- For every environment and every accepted command line, the command goes by the settings in
effect. They are what the command line gives, whatever it is, and else what the environment holds,
unless something is passed over: a time limit of zero, a file without a name, or in a listing the
file that the environment holds. Command lines that give the same file and do not pass it over have
the same registry, be it for a listing or for an analysis. -/
theorem options_prevail (api : Api σ) (chats : ChatWorld τ) (env : Environment)
    (args : List String) (o : Options) (w : Workspace σ τ)
    (hargs : Options.ofArguments args = .ok o) :
    (∀ text, given? "--timeout" args = some text →
      ∃ d, Decimal.toDouble? text = some d ∧ limit? args = some d) ∧
    run api chats env args w = runBy api chats env o (inEffect env args o.listFilters) w ∧
    (Heeded env args o.listFilters →
      run api chats env args w = runBy api chats env o (foremost env args) w) ∧
    ∀ args' listing, given? "--config" args' = given? "--config" args →
      FileHeeded env args' listing → ∀ t, registry (inEffect env args' listing).settingsFile t =
        registry (foremost env args).settingsFile t := by
  have hrun := run_eq_runBy api chats env w hargs
  refine ⟨fun text ↦ exists_limit? hargs, hrun, fun hheeded ↦ ?_, fun args' _ hconfig hfile t ↦ ?_⟩
  · rw [hrun, runBy, runBy, hheeded.actBy_eq api chats w]
  · rw [hfile.registry_inEffect, foremost, foremost, hconfig]

/-! ### A cluster without pods -/

namespace Vacant

/-- A file whose section of integrations is a list. -/
def workspace : Workspace Unit Unit :=
  .ofFiles { nodes := [(["c.yaml"], .file "integrations: [x]\n".toUTF8.data.toList)] }

def environment : Environment :=
  [("TRIAGE_NAMESPACE", "a"), ("TRIAGE_TIMEOUT_SECONDS", "50"), ("TRIAGE_CONFIG", "c.yaml")]

/-- The options of arguments that are accepted. -/
def optionsOf (args : List String) : Options :=
  match Options.ofArguments args with
  | .ok o => o
  | .error _ => {}

/-- The options of an accepted command line are what was given last for each of them. -/
theorem ofArguments_eq (h : (Options.ofArguments args).isOk = true) :
    Options.ofArguments args = .ok (optionsOf args) := by
  rw [optionsOf]
  cases hargs : Options.ofArguments args with
  | ok o => rfl
  | error e =>
    rw [hargs] at h
    cases h

def arguments : List String :=
  ["-f", "Pod", "-n", "", "--sel=tier=web", "--timeout", "-1", "--config", "d.yaml"]

theorem foremost_arguments : foremost environment arguments =
    ⟨"", "tier=web", .ofFraction true 1 1, some "d.yaml"⟩ := by
  decide +kernel

/-- The empty namespace and the negative time limit come before those of the environment. -/
theorem options_prevail_arguments : ∃ o, Options.ofArguments arguments = .ok o ∧
    o.listFilters = false ∧
    run Api.vacant .ready environment arguments workspace =
      runBy Api.vacant .ready environment o
        ⟨"", "tier=web", .ofFraction true 1 1, some "d.yaml"⟩ workspace ∧
    ∀ t, registry (inEffect environment ("--list-filters" :: arguments) true).settingsFile t =
      registry (some "d.yaml") t := by
  have hargs : Options.ofArguments arguments = .ok (optionsOf arguments) :=
    ofArguments_eq (by decide +kernel)
  have hanalysis : (optionsOf arguments).listFilters = false := by
    decide +kernel
  have hlimit : limit? arguments = some (.ofFraction true 1 1) := by
    decide +kernel
  have hheeded : Heeded environment arguments (optionsOf arguments).listFilters := by
    refine ⟨fun _ d hd ↦ ?_, .inr (by decide +kernel)⟩
    rw [hlimit] at hd
    cases hd
    decide +kernel
  obtain ⟨-, -, hrun, hregistry⟩ :=
    options_prevail Api.vacant .ready environment arguments _ workspace hargs
  refine ⟨_, hargs, hanalysis, ?_, fun t ↦ ?_⟩
  · rw [hrun hheeded, foremost_arguments]
  · rw [hregistry _ true (by decide +kernel) (.inr (by decide +kernel)), foremost_arguments]

/-- An accepted command line by which the command does not go. -/
def Departs (env : Environment) (args : List String) : Prop :=
  ∃ o, Options.ofArguments args = .ok o ∧
    run Api.vacant .ready env args workspace ≠
      runBy Api.vacant .ready env o (foremost env args) workspace

theorem departs_of_exit_ne (hargs : (Options.ofArguments args).isOk = true)
    (h : (run Api.vacant .ready env args workspace).1.exit.toOption ≠
      (runBy Api.vacant .ready env (optionsOf args) (foremost env args)
        workspace).1.exit.toOption) :
    Departs env args :=
  ⟨optionsOf args, ofArguments_eq hargs, fun heq ↦ h (by rw [heq])⟩

/-- A listing in spite of an unusable file, an analysis that has more time than none, and one that
goes by a file though it is given none. -/
theorem departs_passedOver :
    Departs [("TRIAGE_CONFIG", "c.yaml")] ["--list-filters"] ∧
    Departs [("TRIAGE_TIMEOUT_SECONDS", "50")] ["-f", "Pod", "--timeout", "0"] ∧
    Departs [("TRIAGE_CONFIG", "c.yaml")] ["-f", "Pod", "--config", ""] :=
  ⟨departs_of_exit_ne (by decide +kernel) (by decide +kernel),
    departs_of_exit_ne (by decide +kernel) (by decide +kernel),
    departs_of_exit_ne (by decide +kernel) (by decide +kernel)⟩

end Vacant

end Command

end ClusterDiagnosis
