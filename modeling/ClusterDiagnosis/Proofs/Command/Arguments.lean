import ClusterDiagnosis.Command.Arguments
import Mathlib.Tactic.Common

/-!
# The texts that options are given

A command line uses options one after the other, each with the text attached to it or with the
operand that follows (`uses`). What an accepted command line sets a field to is the text of the last
use of the field's option, and nothing if the option is not used (`becomes_ofArguments`): every
option sets one field (`Sets`), so that no other one comes between.
-/

set_option autoImplicit false
set_option relaxedAutoImplicit false

namespace ClusterDiagnosis

variable {α : Type} {s : String} {r : OptionRule} {a : Argument} {o o' : Options}
  {args : List String} {items : List (String × Argument)}

/-! ### Options that exist -/

namespace Options

/-- An option that is looked up by name is one of the program's. -/
theorem mem_rules_of_ruleOf? {name : String} (h : ruleOf? name = some r) : r ∈ rules :=
  List.mem_of_find?_eq_some h

/-- So is one whose name starts as given. -/
theorem mem_rules_of_mem_rulesFrom {start : String} (h : r ∈ rulesFrom start) : r ∈ rules := by
  obtain ⟨r', hr', h⟩ := List.mem_flatMap.mp h
  obtain ⟨name, -, rfl⟩ := List.mem_map.mp h
  exact hr'

end Options

namespace Argument

/-- What is an option by its form is one of all options. -/
def IsKnown : Argument → Prop
  | option r _ _ => r ∈ Options.rules
  | _ => True

/-- An argument that names an option in full names a known one. -/
theorem isKnown_of_byName? (h : byName? s = some a) : a.IsKnown := by
  unfold byName? at h
  split at h
  · next r hr =>
    cases h
    exact Options.mem_rules_of_ruleOf? hr
  · obtain ⟨⟨name, attached⟩, -, h⟩ := Option.bind_eq_some_iff.mp h
    obtain ⟨r, hr, rfl⟩ := Option.map_eq_some_iff.mp h
    exact Options.mem_rules_of_ruleOf? hr

/-- Every reading of an abbreviated argument names a known option. -/
theorem isKnown_of_mem_candidates (h : a ∈ candidates s) : a.IsKnown := by
  unfold candidates at h
  split at h
  · split at h <;>
    · obtain ⟨r, hr, rfl⟩ := List.mem_map.mp h
      exact Options.mem_rules_of_mem_rulesFrom hr
  · obtain ⟨r, hr, rfl⟩ := Option.map_eq_some_iff.mp (Option.mem_toList.mp h)
    exact Options.mem_rules_of_ruleOf? hr
  · cases h

/-- An argument that is read as an option is read as a known one. -/
theorem isKnown_ofText (h : ofText s = .ok a) : a.IsKnown := by
  unfold ofText at h
  split at h
  · cases h
    trivial
  split at h
  · cases h
    trivial
  split at h
  · next hname =>
    cases h
    exact isKnown_of_byName? hname
  split at h
  · next hcandidates =>
    cases h
    exact isKnown_of_mem_candidates (by rw [hcandidates]; exact List.mem_singleton_self _)
  · cases h
  · split at h <;>
    · cases h
      trivial

/-- All options of a command line that is read are known. -/
theorem isKnown_of_mem_ofTexts (h : ofTexts args = .ok items) : ∀ i ∈ items, i.2.IsKnown := by
  induction args generalizing items with
  | nil =>
    cases h
    exact List.forall_mem_nil _
  | cons s args ih =>
    unfold ofTexts at h
    cases ha : ofText s with
    | error e =>
      rw [ha] at h
      cases h
    | ok a =>
      rw [ha] at h
      have htail (h : (do return (s, a) :: (← ofTexts args)) = Except.ok items) :
          ∀ i ∈ items, i.2.IsKnown := by
        cases hitems : ofTexts args with
        | error e =>
          rw [hitems] at h
          cases h
        | ok rest =>
          rw [hitems] at h
          cases h
          exact List.forall_mem_cons.mpr ⟨isKnown_ofText ha, ih hitems⟩
      cases a with
      | mark =>
        cases h
        refine List.forall_mem_cons.mpr ⟨trivial, fun i hi ↦ ?_⟩
        obtain ⟨t, -, rfl⟩ := List.mem_map.mp hi
        trivial
      | operand => exact htail h
      | unknown => exact htail h
      | option r short attached => exact htail h

end Argument

namespace Options

/-! ### The uses of options -/

/-- The uses of options, each with its text: the one attached, or else the operand that follows. -/
def uses : List (String × Argument) → List (OptionRule × String)
  | (_, .option r _ attached) :: rest =>
    match valueOf attached rest with
    | .ok (s, _) => (r, s) :: uses rest
    | .error _ => uses rest
  | _ :: rest => uses rest
  | [] => []

/-- The text of the last use of the option of a name. -/
def lastOf (name : String) (us : List (OptionRule × String)) : Option String :=
  ((us.filter fun u ↦ u.1.names.contains name).map Prod.snd).getLast?

/-- The text that a command line gives an option, if it does. -/
def given? (name : String) (args : List String) : Option String :=
  match Argument.ofTexts args with
  | .ok items => lastOf name (uses items)
  | .error _ => none

/-- The text given last for an option is looked for among the later ones first. -/
theorem lastOf_cons (name : String) (r : OptionRule) (s : String)
    (us : List (OptionRule × String)) :
    lastOf name ((r, s) :: us) =
      (lastOf name us).or (if r.names.contains name then some s else none) := by
  rw [lastOf, List.filter_cons]
  split
  · rw [List.map_cons, List.getLast?_cons, ← lastOf]
    cases lastOf name us <;> rfl
  · rw [← lastOf, Option.or_none]

/-- An option of another name does not count, whatever follows it. -/
theorem lastOf_uses_of_not_named {name : String} (h : r.names.contains name = false)
    (s : String) (short : Bool) (attached : Option String) (rest : List (String × Argument)) :
    lastOf name (uses ((s, .option r short attached) :: rest)) = lastOf name (uses rest) := by
  rw [uses]
  split
  · rw [lastOf_cons, if_neg (by rw [h]; exact Bool.false_ne_true), Option.or_none]
  · rfl

/-! ### What an option sets -/

/-- What a field becomes by the text that its option is given, if it is given one. -/
inductive Becomes (parse : String → Option α) (before : Option α) :
    Option String → Option α → Prop where
  | text {s : String} {v : α} (h : parse s = some v) : Becomes parse before (some s) (some v)
  | nothing : Becomes parse before none before

variable {name : String} {parse : String → Option α} {field : Options → Option α}

/-- An option that is not given leaves the value as it was. -/
@[simp] theorem becomes_none_iff {before after : Option α} :
    Becomes parse before none after ↔ after = before :=
  ⟨fun h ↦ by cases h; rfl, fun h ↦ h ▸ .nothing⟩

/-- An option that is given leaves its parsed text as the value, so it has to parse. -/
@[simp] theorem becomes_some_iff {before after : Option α} :
    Becomes parse before (some s) after ↔ ∃ v, parse s = some v ∧ after = some v :=
  ⟨fun h ↦ by cases h with | text h => exact ⟨_, h, rfl⟩, fun ⟨_, h, hafter⟩ ↦ hafter ▸ .text h⟩

/-- The later text counts. -/
theorem Becomes.trans {before between after : Option α} {first last : Option String}
    (hfirst : Becomes parse before first between) (hlast : Becomes parse between last after) :
    Becomes parse before (last.or first) after := by
  cases hlast with
  | text h => exact .text h
  | nothing => exact hfirst

/-- A field that starts out empty is what its text is read as. -/
theorem Becomes.eq_bind {text : Option String} {after : Option α}
    (h : Becomes parse none text after) : after = text.bind parse := by
  cases h with
  | text h => exact h.symm
  | nothing => rfl

/-- What an option does to a field: with the field's name it sets it by its text, and else it leaves
it as it is. -/
structure Sets (name : String) (parse : String → Option α) (field : Options → Option α)
    (r : OptionRule) : Prop where
  switch : ∀ set, r.action = .switch set →
    r.names.contains name = false ∧ ∀ o, field (set o) = field o
  argument : ∀ set, r.action = .argument set → ∀ s o o', set s o = some o' →
    Becomes parse (field o) (if r.names.contains name then some s else none) (field o')

/-- The help option sets no value. -/
theorem sets_help (names : List String) : Sets name parse field ⟨names, .help⟩ where
  switch _ h := by cases h
  argument _ h := by cases h

/-- A switch agrees with a field if it has another name and leaves the field alone. -/
theorem sets_switch_iff {names : List String} {set : Options → Options} :
    Sets name parse field ⟨names, .switch set⟩ ↔
      names.contains name = false ∧ ∀ o, field (set o) = field o := by
  refine ⟨fun h ↦ h.switch set rfl, fun h ↦ ⟨fun set' hset ↦ ?_, fun set' hset ↦ ?_⟩⟩
  · cases hset
    exact h
  · cases hset

/-- An option with an argument agrees with a field if it sets it exactly under the field's name. -/
theorem sets_argument_iff {names : List String} {set : String → Options → Option Options} :
    Sets name parse field ⟨names, .argument set⟩ ↔ ∀ s o o', set s o = some o' →
      Becomes parse (field o) (if names.contains name then some s else none) (field o') := by
  refine ⟨fun h ↦ h.argument set rfl, fun h ↦ ⟨fun set' hset ↦ ?_, fun set' hset ↦ ?_⟩⟩
  · cases hset
  · cases hset
    exact h

/-- The namespace is set by its own option only. -/
theorem sets_scope : ∀ r ∈ rules, Sets "--namespace" some scope r := by
  simp [rules, sets_help, sets_switch_iff, sets_argument_iff, -Bool.exists_bool, -Bool.forall_bool]

/-- The selector is set by its own option only. -/
theorem sets_selector : ∀ r ∈ rules, Sets "--selector" some selector r := by
  simp [rules, sets_help, sets_switch_iff, sets_argument_iff, -Bool.exists_bool, -Bool.forall_bool]

/-- The time limit is set by its own option only. -/
theorem sets_timeout : ∀ r ∈ rules, Sets "--timeout" Decimal.toDouble? timeout r := by
  simp [rules, sets_help, sets_switch_iff, sets_argument_iff, -Bool.exists_bool, -Bool.forall_bool]

/-- The settings file is set by its own option only. -/
theorem sets_settingsFile : ∀ r ∈ rules, Sets "--config" some settingsFile r := by
  simp [rules, sets_help, sets_switch_iff, sets_argument_iff, -Bool.exists_bool, -Bool.forall_bool]

/-- An option with its text comes before all later uses. -/
theorem Sets.becomes_cons {set : String → Options → Option Options} {between : Options}
    {us : List (OptionRule × String)} (hsets : Sets name parse field r)
    (haction : r.action = .argument set) (hset : set s o = some between)
    (h : Becomes parse (field between) (lastOf name us) (field o')) :
    Becomes parse (field o) (lastOf name ((r, s) :: us)) (field o') := by
  rw [lastOf_cons]
  exact (hsets.argument set haction s o between hset).trans h

/-- Over the reading of arguments, a field becomes what the last use of its option makes of it. By
the recursion of the reading: it goes on behind a switch, an argument attached or following, and
what is no option. -/
theorem becomes_read (hsets : ∀ r ∈ rules, Sets name parse field r) {surplus : Bool}
    (hknown : ∀ i ∈ items, i.2.IsKnown) (h : read o surplus items = .ok o') :
    Becomes parse (field o) (lastOf name (uses items)) (field o') := by
  fun_induction read o surplus items
  case case2 =>
    cases h
    exact .nothing
  case case5 o surplus s r short rest set haction ih =>
    obtain ⟨hr, hrest⟩ := List.forall_mem_cons.mp hknown
    obtain ⟨hname, hset⟩ := (hsets r hr).switch set haction
    rw [lastOf_uses_of_not_named hname, ← hset]
    exact ih hrest h
  case case7 o surplus text r short rest set s haction between hset ih =>
    obtain ⟨hr, hrest⟩ := List.forall_mem_cons.mp hknown
    exact (hsets r hr).becomes_cons haction hset (ih hrest h)
  case case9 o surplus text r short set haction s rest between hset ih =>
    obtain ⟨hr, hrest⟩ := List.forall_mem_cons.mp hknown
    exact (hsets r hr).becomes_cons haction hset (ih (List.forall_mem_cons.mp hrest).2 h)
  case case12 o surplus i rest hi ih =>
    rw [uses]
    · exact ih (List.forall_mem_cons.mp hknown).2 h
    · exact hi
  all_goals cases h

/-- What an accepted command line sets a field to is the text of the last use of its option. -/
theorem becomes_ofArguments (hsets : ∀ r ∈ rules, Sets name parse field r)
    (h : ofArguments args = .ok o) : Becomes parse (field {}) (given? name args) (field o) := by
  unfold ofArguments at h
  rw [given?]
  cases hitems : Argument.ofTexts args with
  | error e =>
    rw [hitems] at h
    cases h
  | ok items =>
    rw [hitems] at h
    exact becomes_read hsets (Argument.isKnown_of_mem_ofTexts hitems) h

end Options

end ClusterDiagnosis
