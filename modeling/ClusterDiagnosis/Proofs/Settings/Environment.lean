import ClusterDiagnosis.Completion.Chat
import ClusterDiagnosis.Proofs.Number.Rational

/-!
# Numbers in environment variables

Whatever text a variable holds, the setting that is read from it lies within its limits
(`HoldsNumber`, `HoldsWhole`): a text that is no number gives the usual value, a number within the
limits is kept as it is, and any other one becomes the limit that is next to it. A `nan` is not next
to either; it becomes the lower one, since it is not above it.
-/

set_option autoImplicit false
set_option relaxedAutoImplicit false

namespace ClusterDiagnosis

open Double

namespace Environment

variable {env : Environment} {name : String}

/-- There is no value that could be read as a number: the variable is not set, there is nothing in
it, or a text that is no number. -/
def Lacks {α : Type} (env : Environment) (name : String) (read? : String → Option α) : Prop :=
  entryAt? name env = none ∨ env.text name = "" ∨ read? (env.text name) = none

/-- What a setting of a floating point number is within the given limits, by what its variable
holds. -/
structure HoldsNumber (env : Environment) (name : String) (usual : Double) (least most : ℚ)
    (result : Double) : Prop where
  within : ∃ q, result.rational? = some q ∧ least ≤ q ∧ q ≤ most
  usual : env.Lacks name Decimal.toDouble? → result = usual
  kept : ∀ d q, Decimal.toDouble? (env.text name) = some d → d.rational? = some q →
    least ≤ q → q ≤ most → result.rational? = some q ∧ (least < q → result = d)
  limited : ∀ d x, Decimal.toDouble? (env.text name) = some d → d.extended? = some x →
    result.extended? =
      some (max ((least : WithTop ℚ) : WithBot (WithTop ℚ)) (min x (most : WithTop ℚ)))
  nan : Decimal.toDouble? (env.text name) = some .nan → result.rational? = some least

/-- What a setting of a whole number is within the given limits, by what its variable holds. -/
structure HoldsWhole (env : Environment) (name : String) (usual least most : Int) (result : Int) :
    Prop where
  within : least ≤ result ∧ result ≤ most
  usual : env.Lacks name Decimal.toInt? → result = usual
  kept : ∀ n, Decimal.toInt? (env.text name) = some n → least ≤ n → n ≤ most → result = n
  limited : ∀ n, Decimal.toInt? (env.text name) = some n → result = max least (min n most)

theorem text_of_unset (h : entryAt? name env = none) : env.text name = "" := by
  rw [text, h]
  rfl

/-- Where there is nothing to be read, it reads as nothing. -/
theorem Lacks.read?_eq_none {α : Type} {read? : String → Option α} (hempty : read? "" = none)
    (h : env.Lacks name read?) : read? (env.text name) = none := by
  obtain h | h | h := h
  · rw [text_of_unset h, hempty]
  · rw [h, hempty]
  · exact h

/-- A number from the environment is the one that is read or the usual one, within its bounds. -/
theorem double_eq (env : Environment) (name : String) (usual least most : Double) :
    env.double name usual least most =
      between least most ((Decimal.toDouble? (env.text name)).getD usual) := by
  have hempty : Decimal.toDouble? "" = none := by decide
  rw [double]
  by_cases h : env.text name = ""
  · rw [h, hempty]
    rfl
  · rw [if_neg (by simpa using h)]
    rfl

/-- So is a whole number. -/
theorem int_eq (env : Environment) (name : String) (usual least most : Int) :
    env.int name usual least most =
      max least (min ((Decimal.toInt? (env.text name)).getD usual) most) := by
  have hempty : Decimal.toInt? "" = none := by decide
  rw [int]
  by_cases h : env.text name = ""
  · rw [h, hempty]
    rfl
  · rw [if_neg (by simpa using h)]

/-- A floating point number with limits, and with a usual value that they leave as it is. -/
theorem holdsNumber_double {usual low high : Double} {least most : ℚ}
    (hlow : low.rational? = some least) (hhigh : high.rational? = some most)
    (hlimits : least ≤ most) (husual : between low high usual = usual) (env : Environment)
    (name : String) :
    env.HoldsNumber name usual least most (env.double name usual low high) := by
  rw [double_eq]
  refine ⟨exists_rational?_between hlow hhigh hlimits _, fun h ↦ ?_, fun d q h ↦ ?_,
    fun d x h ↦ ?_, fun h ↦ ?_⟩
  · rw [h.read?_eq_none (by decide)]
    exact husual
  · rw [h]
    exact rational?_between hlow hhigh
  · rw [h]
    exact extended?_between hlow hhigh
  · rw [h]
    exact (between_nan low high).symm ▸ hlow

/-- A whole number with limits, and with a usual value between them. -/
theorem holdsWhole_int {usual least most : Int} (hleast : least ≤ usual) (hmost : usual ≤ most)
    (env : Environment) (name : String) :
    env.HoldsWhole name usual least most (env.int name usual least most) := by
  rw [int_eq]
  refine ⟨by omega, fun h ↦ ?_, fun n h hleast hmost ↦ ?_, fun n h ↦ ?_⟩
  · rw [h.read?_eq_none (by decide), Option.getD_none, min_eq_left hmost, max_eq_right hleast]
  · rw [h, Option.getD_some, min_eq_left hmost, max_eq_right hleast]
  · rw [h, Option.getD_some]

end Environment

/-- Whatever the variables hold, the settings of a run and those of the chat models lie within their
limits. A variable without a number gives the usual value, and a number within the limits is taken
as it is. -/
theorem settings_within (env : Environment) :
    env.HoldsNumber "TRIAGE_TIMEOUT_SECONDS" (.ofNat 300) 5 3600
      (RunSettings.ofEnvironment env).timeout ∧
    env.HoldsNumber "LLM_TEMPERATURE" (.ofFraction false 1 5) 0 1
      (ChatSettings.ofEnvironment env).temperature ∧
    env.HoldsWhole "LLM_MAX_OUTPUT_TOKENS" 4096 64 8192
      (ChatSettings.ofEnvironment env).maxTokens ∧
    env.HoldsWhole "LLM_TIMEOUT_SECONDS" 120 5 300 (ChatSettings.ofEnvironment env).timeout := by
  have hfive : (ofNat 5).rational? = some 5 := by
    rw [rational?_ofNat (by decide), Nat.cast_ofNat]
  have hhour : (ofNat 3600).rational? = some 3600 := by
    rw [rational?_ofNat (by decide), Nat.cast_ofNat]
  have hzero : zero.rational? = some 0 := by
    rw [zero, rational?, rational, if_neg (by decide), Nat.cast_zero, zero_mul]
  have hone : (ofNat 1).rational? = some 1 := by
    rw [rational?_ofNat (by decide), Nat.cast_one]
  have htimeout : (RunSettings.ofEnvironment env).timeout =
      env.double "TRIAGE_TIMEOUT_SECONDS" (.ofNat 300) (.ofNat 5) (.ofNat 3600) := by
    rw [RunSettings.ofEnvironment]
  have htemperature : (ChatSettings.ofEnvironment env).temperature =
      env.double "LLM_TEMPERATURE" (.ofFraction false 1 5) .zero (.ofNat 1) := by
    rw [ChatSettings.ofEnvironment]
  refine ⟨?_, ?_, ?_, ?_⟩
  · rw [htimeout]
    exact Environment.holdsNumber_double hfive hhour (by norm_num) (by decide +kernel) env _
  · rw [htemperature]
    exact Environment.holdsNumber_double hzero hone (by norm_num) (by decide +kernel) env _
  · exact Environment.holdsWhole_int (by decide) (by decide) env _
  · exact Environment.holdsWhole_int (by decide) (by decide) env _

namespace PaddedNumbers

/-- Numbers with blanks around them, one with an exponent and one with its digits in groups. -/
def env : Environment :=
  [("TRIAGE_TIMEOUT_SECONDS", " 1.5e2"), ("LLM_MAX_OUTPUT_TOKENS", "\t1_024 ")]

/-- Both numbers are within their limits, and are taken as they are. -/
theorem settings_within_padded :
    Decimal.toDouble? (env.text "TRIAGE_TIMEOUT_SECONDS") = some (.ofNat 150) ∧
      (RunSettings.ofEnvironment env).timeout = .ofNat 150 ∧
      (RunSettings.ofEnvironment env).timeout.rational? = some 150 ∧
      Decimal.toInt? (env.text "LLM_MAX_OUTPUT_TOKENS") = some 1024 ∧
      (ChatSettings.ofEnvironment env).maxTokens = 1024 := by
  have hnumber : (ofNat 150).rational? = some (150 : ℚ) := by
    rw [rational?_ofNat (by decide), Nat.cast_ofNat]
  have htimeout : Decimal.toDouble? (env.text "TRIAGE_TIMEOUT_SECONDS") = some (.ofNat 150) := by
    decide +kernel
  have htokens : Decimal.toInt? (env.text "LLM_MAX_OUTPUT_TOKENS") = some 1024 := by
    decide +kernel
  obtain ⟨hheld, -, hwhole, -⟩ := settings_within env
  obtain ⟨hrational, hsame⟩ := hheld.kept _ _ htimeout hnumber (by norm_num) (by norm_num)
  exact ⟨htimeout, hsame (by norm_num), hrational, htokens,
    hwhole.kept 1024 htokens (by decide) (by decide)⟩

end PaddedNumbers

/-- What is not a number is no time limit. -/
example :
    (RunSettings.ofEnvironment [("TRIAGE_TIMEOUT_SECONDS", " -NaN ")]).timeout = .ofNat 5 := by
  decide +kernel

end ClusterDiagnosis
