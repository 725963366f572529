import ClusterDiagnosis.Command.Run
import ClusterDiagnosis.Proofs.Analyzer.Integrations
import ClusterDiagnosis.Proofs.Value.Entries

/-!
# What a request for analyzers is resolved to

The layers of a registry are put one over the other. Under each name stands the analyzer of the last
layer that has it (`Registry.find?`), and the names are in the order in which they first come up
(`keys_merged`). What a request is resolved to follows from these two (`resolve_layers`). Where
integrations list what they add, and nothing else, the names that can be requested are those that
the listing shows (`Listed.load`, `mem_listing_iff`).
-/

set_option autoImplicit false
set_option relaxedAutoImplicit false

namespace ClusterDiagnosis

namespace Registry

variable {α : Type} {r : Registry} {name : String} {table : List (String × Analyzer)}
  {request : List String} {p : IntegrationProvider}

/-! ### Tables put one over the other -/

/-- Laying two tables over a third one after the other is laying their concatenation over it. -/
theorem overlay_append (table es others : List (String × α)) :
    overlay table (es ++ others) = overlay (overlay table es) others :=
  List.foldl_append

/-- A table that is put together has its keys in the order in which they first come up. -/
theorem keys_overlay_nil (es : List (String × α)) :
    (overlay [] es).map Prod.fst = (es.map Prod.fst).eraseDups := by
  induction es using List.reverseRecOn with
  | nil => rfl
  | append_singleton es e ih =>
    have hput : overlay [] (es ++ [e]) = putEntry e.1 e.2 (overlay [] es) :=
      overlay_append [] es [e]
    rw [hput, keys_putEntry, ih, List.map_append, List.map_singleton, eraseDups_concat]
    simp only [List.mem_eraseDups]

/-- The names of an overlaid table are those of both tables. -/
theorem mem_keys_overlay (name : String) (table others : List (String × α)) :
    name ∈ (overlay table others).map Prod.fst ↔
      name ∈ table.map Prod.fst ∨ name ∈ others.map Prod.fst := by
  rw [← not_iff_not, not_or, ← entryAt?_eq_none_iff, entryAt?_overlay, Option.or_eq_none_iff,
    entryAt?_eq_none_iff, entryAt?_eq_none_iff, List.map_reverse, List.mem_reverse, and_comm]

/-- Overlaying repeats no name. -/
theorem nodup_keys_overlay {table : List (String × α)} (h : (table.map Prod.fst).Nodup)
    (others : List (String × α)) : ((overlay table others).map Prod.fst).Nodup := by
  induction others generalizing table with
  | nil => exact h
  | cons e others ih =>
    refine ih ?_
    rw [keys_putEntry]
    split
    · exact h
    · next hnew =>
      rw [List.nodup_append_comm, List.singleton_append, List.nodup_cons]
      exact ⟨hnew, h⟩

/-! ### Layers -/

/-- A registry each of whose layers has a name at most once. -/
structure Distinct (r : Registry) : Prop where
  core : (r.core.map Prod.fst).Nodup
  additional : (r.additional.map Prod.fst).Nodup
  integration : (r.integration.map Prod.fst).Nodup

/-- The names of all layers, layer by layer. -/
def names (r : Registry) : List String :=
  r.core.map Prod.fst ++ r.additional.map Prod.fst ++ r.integration.map Prod.fst

/-- The analyzer of the last layer that has a name. -/
def find? (r : Registry) (name : String) : Option Analyzer :=
  (entryAt? name r.integration).or ((entryAt? name r.additional).or (entryAt? name r.core))

/-- The merged table is one overlay of the core, additional and integration tables, in this
order. -/
theorem merged_eq (r : Registry) :
    r.merged = overlay [] (r.core ++ r.additional ++ r.integration) := by
  rw [merged, overlay_append, overlay_append]

/-- All layers together have each of their names once. -/
theorem keys_merged (r : Registry) : r.merged.map Prod.fst = r.names.eraseDups := by
  rw [merged_eq, keys_overlay_nil, List.map_append, List.map_append, names]

/-- The names of the merged table are the names the registry accepts. -/
theorem mem_keys_merged : name ∈ r.merged.map Prod.fst ↔ name ∈ r.names := by
  rw [keys_merged, List.mem_eraseDups]

/-- Of several layers with a name the last one counts. -/
theorem entryAt?_merged (h : r.Distinct) (name : String) :
    entryAt? name r.merged = r.find? name := by
  rw [merged_eq, entryAt?_overlay, List.reverse_append, List.reverse_append, entryAt?_append,
    entryAt?_append, entryAt?_reverse h.core, entryAt?_reverse h.additional,
    entryAt?_reverse h.integration]
  exact Option.or_none

/-- The built-in registry gives no name twice in one table. -/
theorem distinct_builtin : builtin.Distinct where
  core := by decide
  additional := by decide
  integration := .nil

/-! ### Requests -/

/-- A request is looked up name by name, up to the first name that the table does not have. -/
theorem lookUp_cases (table : List (String × Analyzer)) (request : List String) :
    (∃ as, lookUp table request = .ok as ∧ (∀ name ∈ request, name ∈ table.map Prod.fst) ∧
      List.Forall₂ (fun name a ↦ entryAt? name table = some a) request as) ∨
    ∃ name, lookUp table request = .error (.unknownAnalyzer name) ∧
      request.find? (fun name ↦ name ∉ table.map Prod.fst) = some name := by
  induction request with
  | nil => exact .inl ⟨[], rfl, List.forall_mem_nil _, .nil⟩
  | cons name request ih =>
    rcases hentry : entryAt? name table with _ | a
    · refine .inr ⟨name, ?_, List.find?_cons_of_pos ?_⟩
      · rw [lookUp, hentry]
      · exact decide_eq_true (entryAt?_eq_none_iff.mp hentry)
    · have hknown : name ∈ table.map Prod.fst :=
        List.mem_map_of_mem (mem_of_entryAt? hentry)
      have hlookUp : lookUp table (name :: request) = (lookUp table request).map (a :: ·) := by
        rw [lookUp, hentry]
      rw [hlookUp]
      obtain ⟨as, hrest, hall, has⟩ | ⟨unknown, hrest, hfind⟩ := ih
      · exact .inl ⟨a :: as, by rw [hrest]; rfl, List.forall_mem_cons.mpr ⟨hknown, hall⟩,
          .cons hentry has⟩
      · refine .inr ⟨unknown, by rw [hrest]; rfl, ?_⟩
        rw [List.find?_cons_of_neg (by simpa using hknown), hfind]

/-- A request for names that no layer lacks is resolved to what stands under them, and any other one
to the first name that no layer has. -/
theorem resolve_cases (h : r.Distinct) (hrequest : request ≠ []) (withAdditional : Bool) :
    (∃ as, r.resolve request withAdditional = .ok as ∧ (∀ name ∈ request, name ∈ r.names) ∧
      List.Forall₂ (fun name a ↦ r.find? name = some a) request as) ∨
    ∃ name, r.resolve request withAdditional = .error (.unknownAnalyzer name) ∧
      request.find? (fun name ↦ name ∉ r.names) = some name := by
  have hresolve : r.resolve request withAdditional = lookUp r.merged request :=
    if_neg (by simpa using hrequest)
  rw [hresolve]
  simpa only [entryAt?_merged h, mem_keys_merged] using lookUp_cases r.merged request

/-- The first name of a request that is not accepted stands in the request and is not accepted. -/
theorem notMem_of_find? {names : List String}
    (h : request.find? (fun name ↦ name ∉ names) = some name) :
    name ∈ request ∧ name ∉ names :=
  ⟨List.mem_of_find?_eq_some h, by simpa using List.find?_some h⟩

/-- A request is resolved exactly when the registry accepts all of its names. -/
theorem exists_resolve_iff (h : r.Distinct) (hrequest : request ≠ []) (withAdditional : Bool) :
    (∃ as, r.resolve request withAdditional = .ok as) ↔ ∀ name ∈ request, name ∈ r.names := by
  obtain ⟨as, hresolve, hall, -⟩ | ⟨name, hresolve, hfind⟩ :=
    resolve_cases h hrequest withAdditional
  · exact iff_of_true ⟨as, hresolve⟩ hall
  · refine iff_of_false (fun ⟨as, has⟩ ↦ ?_) fun hall ↦ ?_
    · rw [hresolve] at has
      cases has
    · exact (notMem_of_find? hfind).2 (hall name (notMem_of_find? hfind).1)

/-- A refused request is refused with its first unknown name. -/
theorem resolve_of_find? (h : r.Distinct) (withAdditional : Bool)
    (hfind : request.find? (fun name ↦ name ∉ r.names) = some name) :
    r.resolve request withAdditional = .error (.unknownAnalyzer name) := by
  have hrequest : request ≠ [] := by
    rintro rfl
    cases hfind
  obtain ⟨as, -, hall, -⟩ | ⟨unknown, hresolve, hunknown⟩ :=
    resolve_cases h hrequest withAdditional
  · exact absurd (hall name (notMem_of_find? hfind).1) (notMem_of_find? hfind).2
  · obtain rfl : unknown = name := Option.some.inj (hunknown.symm.trans hfind)
    exact hresolve

/-- Without a request, each name of the layers is taken once. -/
theorem forall₂_resolve_nil (h : r.Distinct) :
    List.Forall₂ (fun name a ↦ r.find? name = some a) r.names.eraseDups
      (r.merged.map Prod.snd) := by
  have hnodup : (r.merged.map Prod.fst).Nodup := by
    rw [keys_merged]
    exact nodup_eraseDups _
  rw [← keys_merged, List.forall₂_map_left_iff, List.forall₂_map_right_iff, List.forall₂_same]
  intro e he
  rw [← entryAt?_merged h]
  exact (entryAt?_eq_some_iff hnodup).mpr he

/-- What fails to be resolved ends the command before it does anything. -/
theorem runAnalysis_of_unresolved {σ τ : Type} {env : Environment} {o : Options}
    {w : Command.Workspace σ τ} {f : Fault}
    (hregistry : Command.registry ((o.settingsFile.filter (!·.isEmpty)).or
      (RunSettings.ofEnvironment env).integrationFile) w.output.files = .ok r)
    (hresolve : r.resolve o.filters o.withAdditional = .error f) (api : Api σ)
    (chats : ChatWorld τ) : Command.runAnalysis api chats env o w = (.error f, w) := by
  have hanalyzers : Command.analyzers o (.ofEnvironment env) w.output.files = .error f := by
    rw [Command.analyzers, hregistry]
    exact hresolve
  rw [Command.runAnalysis, hanalyzers]

/-! ### The listing -/

/-- A line that lists a name is never a section's title. -/
theorem entry_ne {title : String} (h : title.toList.head? ≠ some '>') (name : String) :
    "> " ++ name ≠ title := by
  rintro rfl
  exact h (by rw [String.toList_append]; rfl)

/-- Sorting the names neither adds nor drops one. -/
theorem mem_map_alphabetical {names : List String} :
    "> " ++ name ∈ (alphabetical names).map ("> " ++ ·) ↔ name ∈ names := by
  simp only [List.mem_map, alphabetical, List.mem_mergeSort, String.append_right_inj,
    exists_eq_right]

/-- The listing shows the names of the layers of the program itself and those that integrations
list. -/
theorem mem_listing_iff (r : Registry) (name : String) :
    "> " ++ name ∈ r.listing ↔
      name ∈ r.core.map Prod.fst ∨ name ∈ r.additional.map Prod.fst ∨ name ∈ r.listed := by
  have hlisted : "> " ++ name ∈ (if r.listed.isEmpty then []
      else "Integrations:" :: (alphabetical r.listed).map ("> " ++ ·)) ↔ name ∈ r.listed := by
    split
    · next h => rw [List.isEmpty_iff.mp h]; exact iff_of_false List.not_mem_nil List.not_mem_nil
    · rw [List.mem_cons, or_iff_right (entry_ne (by decide) name), mem_map_alphabetical]
  rw [listing]
  simp only [List.mem_append, List.mem_cons, mem_map_alphabetical, hlisted]
  rw [or_iff_right (entry_ne (by decide) name), or_iff_right (entry_ne (by decide) name), or_assoc]

/-- A registry that lists the names in its layer of integrations, and no others. -/
def Listed (r : Registry) : Prop :=
  ∀ name, name ∈ r.listed ↔ name ∈ r.integration.map Prod.fst

end Registry

/-- A provider each of whose active integrations lists the names under which it adds analyzers, and
no others. -/
def IntegrationProvider.ListsAdditions (p : IntegrationProvider) : Prop :=
  ∀ name ∈ p.known, ∀ i names, p.isActive name = .ok true → p.get name = .ok i →
    i.names = .ok names → ∀ listed, listed ∈ names ↔ listed ∈ i.additions.map Prod.fst

namespace Registry

variable {r : Registry} {p : IntegrationProvider}

/-- A part that lists what it adds keeps the registry listing all its integration checks. -/
theorem Listed.extend {parts : List IntegrationPart} (h : r.Listed)
    (hparts : ∀ part ∈ parts, ∀ name, name ∈ part.2 ↔ name ∈ part.1.map Prod.fst) :
    (r.extend parts).Listed := by
  intro name
  have hlisted : name ∈ parts.flatMap Prod.snd ↔ name ∈ (parts.flatMap Prod.fst).map Prod.fst := by
    rw [List.map_flatMap, List.mem_flatMap, List.mem_flatMap]
    exact exists_congr fun part ↦ and_congr_right fun hpart ↦ hparts part hpart name
  rw [Registry.extend, foldl_overlay, mem_keys_overlay, List.mem_append, h name, hlisted]

/-- Whether a loading succeeds or not, it takes in what some of the integrations bring. -/
theorem exists_load_eq (r : Registry) (p : IntegrationProvider) :
    ∃ parts, (r.load (some p)).2 = r.extend parts ∧
      ∀ part ∈ parts, ∃ name ∈ p.known, p.Contributes name part := by
  obtain ⟨parts, h⟩ | ⟨before, failing, later, parts, f, hknown, h, hf⟩ :=
    p.exists_parts_or_first_failure p.known
  · exact ⟨parts, by rw [load_of_contributes h], fun part hpart ↦ exists_of_mem_right h hpart⟩
  · refine ⟨parts, by rw [load_of_fails hknown h hf], fun part hpart ↦ ?_⟩
    obtain ⟨name, hname, hpart⟩ := exists_of_mem_right h hpart
    exact ⟨name, hknown ▸ List.mem_append_left _ hname, hpart⟩

/-- Loading keeps the listing complete, whether it succeeds or fails. -/
theorem Listed.load (h : r.Listed) (hp : p.ListsAdditions) : (r.load (some p)).2.Listed := by
  obtain ⟨parts, hload, hparts⟩ := exists_load_eq r p
  rw [hload]
  refine h.extend fun part hpart ↦ ?_
  obtain ⟨name, hname, hpart⟩ := hparts part hpart
  cases hpart with
  | inactive => exact fun name ↦ iff_of_false List.not_mem_nil List.not_mem_nil
  | active hactive hget hfilling hnames => exact hp name hname _ _ hactive hget hnames

/-- Loading keeps the names of each table distinct. -/
theorem Distinct.load (h : r.Distinct) (p : IntegrationProvider) :
    (r.load (some p)).2.Distinct := by
  obtain ⟨parts, hload, -⟩ := exists_load_eq r p
  rw [hload]
  refine ⟨h.core, h.additional, ?_⟩
  rw [extend, foldl_overlay]
  exact nodup_keys_overlay h.integration _

theorem listed_builtin : builtin.Listed :=
  fun _ ↦ Iff.rfl

/-- A request is resolved name by name to the analyzers of the last layers that have the names. One
with a name that no layer has is resolved to the fault that tells the first such name, and ends the
command before it does anything. Without a request the analyzers that are always run are taken in
their order, or each name of the three layers once, where it first comes up, with the analyzer that
counts. Where integrations list what they add, the names that can be requested are those that the
listing shows. -/
theorem resolve_layers (hr : r.Distinct) :
    (∀ request withAdditional, request ≠ [] →
      ((∃ as, r.resolve request withAdditional = .ok as) ↔ ∀ name ∈ request, name ∈ r.names) ∧
      (∀ as, r.resolve request withAdditional = .ok as →
        List.Forall₂ (fun name a ↦ r.find? name = some a) request as) ∧
      ∀ name, request.find? (fun name ↦ name ∉ r.names) = some name →
        r.resolve request withAdditional = .error (.unknownAnalyzer name)) ∧
    (∀ (σ τ : Type) (api : Api σ) (chats : ChatWorld τ) env (o : Options) w name,
      Command.registry ((o.settingsFile.filter (!·.isEmpty)).or
        (RunSettings.ofEnvironment env).integrationFile) w.output.files = .ok r →
      o.filters.find? (fun name ↦ name ∉ r.names) = some name →
        Command.runAnalysis api chats env o w = (.error (.unknownAnalyzer name), w)) ∧
    r.resolve [] false = .ok (r.core.map Prod.snd) ∧
    (∃ as, r.resolve [] true = .ok as ∧
      List.Forall₂ (fun name a ↦ r.find? name = some a) r.names.eraseDups as) ∧
    ∀ p : IntegrationProvider, r.Listed → p.ListsAdditions → ∀ name withAdditional,
      let loaded := (r.load (some p)).2
      (∃ as, loaded.resolve [name] withAdditional = .ok as) ↔ "> " ++ name ∈ loaded.listing := by
  refine ⟨fun request withAdditional hrequest ↦ ⟨?_, ?_, ?_⟩, ?_, rfl,
    ⟨_, rfl, forall₂_resolve_nil hr⟩, ?_⟩
  · exact exists_resolve_iff hr hrequest withAdditional
  · intro as has
    obtain ⟨as', hresolve, -, hfind⟩ | ⟨name, hresolve, -⟩ :=
      resolve_cases hr hrequest withAdditional
    · rw [hresolve] at has
      cases has
      exact hfind
    · rw [hresolve] at has
      cases has
  · exact fun name ↦ resolve_of_find? hr withAdditional
  · intro σ τ api chats env o w name hregistry hfind
    exact runAnalysis_of_unresolved hregistry (resolve_of_find? hr _ hfind) api chats
  · intro p hlisted hp name withAdditional loaded
    have hloaded : loaded.Listed := hlisted.load hp
    rw [exists_resolve_iff (hr.load p) (List.cons_ne_nil _ _), List.forall_mem_singleton,
      mem_listing_iff, hloaded name, names, List.mem_append, List.mem_append, or_assoc]

namespace OverridingLinter

/-- An integration that adds an analyzer and puts another one in the place of a built-in one. -/
def linter : Integration where
  additions := [("Lint", Check.bare.analyzer), ("Pod", Check.bare.analyzer)]
  names := .ok ["Pod", "Lint"]

def provider : IntegrationProvider where
  known := ["Linter"]
  isActive _ := .ok true
  get _ := .ok linter

theorem listsAdditions_provider : provider.ListsAdditions := by
  rintro _ - i names - ⟨rfl⟩ ⟨rfl⟩ listed
  simp [linter, or_comm]

/-- The registry of the built-in analyzers and of the linter. -/
def loaded : Registry :=
  (builtin.load (some provider)).2

theorem names_loaded : loaded.names.eraseDups =
    ["Pod", "Deployment", "ReplicaSet", "PersistentVolumeClaim", "Service", "Ingress",
      "StatefulSet", "CronJob", "Node", "HorizontalPodAutoScaler", "PodDisruptionBudget",
      "NetworkPolicy", "Log", "Lint"] := by
  decide +kernel

/-- Nothing is done for a request with an unknown name, and with the linter its names are known, and
its analyzer of pods stands where the built-in one stood. -/
theorem resolve_layers_linter :
    builtin.resolve ["Pod", "Lint", "Scan"] false = .error (.unknownAnalyzer "Lint") ∧
    (∀ (api : Api Unit) (chats : ChatWorld Unit) w,
      Command.runAnalysis api chats [] { filters := ["Pod", "Lint"] } w =
        (.error (.unknownAnalyzer "Lint"), w)) ∧
    (∃ as, loaded.resolve ["Lint"] false = .ok as) ∧
    ∃ as, loaded.resolve [] true = .ok (Check.bare.analyzer :: as) := by
  obtain ⟨hrequest, hrun, -, -, hlisting⟩ := resolve_layers distinct_builtin
  obtain ⟨-, -, -, ⟨as, hresolve, has⟩, -⟩ := resolve_layers (distinct_builtin.load provider)
  refine ⟨?_, fun api chats w ↦ ?_, ?_, ?_⟩
  · exact (hrequest _ false (List.cons_ne_nil _ _)).2.2 "Lint" (by decide +kernel)
  · exact hrun Unit Unit api chats [] _ w "Lint" rfl (by decide +kernel)
  · refine (hlisting provider listed_builtin listsAdditions_provider "Lint" false).mpr ?_
    exact (mem_listing_iff _ _).mpr (.inr (.inr (by decide +kernel)))
  · change List.Forall₂ (fun name a ↦ loaded.find? name = some a) loaded.names.eraseDups as at has
    rw [names_loaded] at has
    cases has with
    | cons hpod =>
      obtain rfl := Option.some.inj hpod
      exact ⟨_, hresolve⟩

end OverridingLinter

end Registry

end ClusterDiagnosis
