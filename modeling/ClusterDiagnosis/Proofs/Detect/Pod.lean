import ClusterDiagnosis.Detect.Pod
import ClusterDiagnosis.Proofs.Cluster.Contract
import ClusterDiagnosis.Proofs.Value.Declared

/-!
# What is found about a pod

On a pod of the declared shape the detection depends on the statuses of the containers and on the
events that it looks up, and which statuses need an event does not depend on events (`Asks`). So it
comes to this, however the lookup works and whatever state it keeps (`run_failures`): the latest
event about the pod is looked up once for each container status that asks for it, and the failures
are the reasons why a pending pod is not scheduled and then, init containers first, what each status
tells (`told`), at most one failure each.
-/

set_option autoImplicit false
set_option relaxedAutoImplicit false

namespace ClusterDiagnosis.Detect.Pod

open Scan Shape

/-! ### What a container status tells -/

/-- The state of a container that waits, without entries for one that does not. -/
def waiting (status : Value) : Value :=
  (status.partAt "state").partAt "waiting"

/-- How a container ended when it last did, without entries if it never did. -/
def ended (status : Value) : Value :=
  (status.partAt "last_state").partAt "terminated"

/-- The container of a pending pod waits for its creation. -/
def IsCreated (phase : String) (status : Value) : Prop :=
  waiting status ≠ .map [] ∧ (waiting status).textAt "reason" = "ContainerCreating" ∧
    phase = "Pending"

/-- The container waits to be started again after a crash. -/
def IsCrashing (status : Value) : Prop :=
  waiting status ≠ .map [] ∧ (waiting status).textAt "reason" = "CrashLoopBackOff" ∧
    ended status ≠ .map []

/-- The container waits for a reason that is an error. -/
def IsStuck (status : Value) : Prop :=
  waiting status ≠ .map [] ∧ (waiting status).textAt "reason" ∈ errorReasons

/-- The container of a running pod does not wait and is not ready. -/
def IsUnready (phase : String) (status : Value) : Prop :=
  waiting status = .map [] ∧ status.countsAt "ready" = false ∧ phase = "Running"

/-- The status of the container needs the latest event. -/
def Asks (phase : String) (status : Value) : Prop :=
  IsCreated phase status ∨ IsUnready phase status

instance (phase : String) (status : Value) : Decidable (IsCreated phase status) :=
  inferInstanceAs (Decidable (_ ∧ _ ∧ _))

instance (status : Value) : Decidable (IsCrashing status) :=
  inferInstanceAs (Decidable (_ ∧ _ ∧ _))

instance (status : Value) : Decidable (IsStuck status) :=
  inferInstanceAs (Decidable (_ ∧ _))

instance (phase : String) (status : Value) : Decidable (IsUnready phase status) :=
  inferInstanceAs (Decidable (_ ∧ _ ∧ _))

instance (phase : String) (status : Value) : Decidable (Asks phase status) :=
  inferInstanceAs (Decidable (_ ∨ _))

/-- The message of a condition, an event or a waiting state, unless it is empty. -/
def reported (source : Value) : Option Failure :=
  if source.textAt "message" = "" then none else some ⟨source.textAt "message", []⟩

/-- The message of an event, if there is one and it has one of the reasons. -/
def evidence (reasons : List String) (event : Option Value) : Option Failure :=
  event.bind fun e ↦ if e.textAt "reason" ∈ reasons then reported e else none

/-- The failure that a container status tells of, with the latest event for a status that asks. -/
def told (pod phase : String) (status : Value) (event : Option Value) : Option Failure :=
  if IsCreated phase status then evidence errorEventReasons event
  else if IsCrashing status then
    some ⟨"the last termination reason is " ++ (ended status).textAt "reason" ++ " container=" ++
      status.textAt "name" ++ " pod=" ++ pod, []⟩
  else if IsStuck status then reported (waiting status)
  else if IsUnready phase status then evidence ["Unhealthy"] event
  else none

/-- What statuses tell one after the other, with an event for each that asks. -/
def toldAll (pod phase : String) : List Value → List (Option Value) → List Failure
  | [], _ => []
  | status :: statuses, events =>
    if Asks phase status then
      (told pod phase status events.head?.join).toList ++ toldAll pod phase statuses events.tail
    else (told pod phase status none).toList ++ toldAll pod phase statuses events

/-- What keeps a pending pod from being scheduled. -/
def unscheduled (phase : String) (conditions : List Value) : List Failure :=
  if phase = "Pending" then
    (conditions.filter fun c ↦
      c.textAt "type" = "PodScheduled" ∧ c.textAt "reason" = "Unschedulable").filterMap reported
  else []

/-- The answers to lookups of the latest event about a pod, one lookup after the other. -/
def lookUps (latest : EventLookup) (scope pod : Value) : Nat → Scan (List (Option Value))
  | 0 => pure []
  | n + 1 => do
    let event ← latest scope pod
    let events ← lookUps latest scope pod n
    return event :: events

/-! ### Steps on values of the declared shapes -/

variable {fields : List (String × Shape)} {source status : Value} {reasons : List String}

/-- The failure made of a message is the message itself, and there is none without one. -/
theorem messageFailure_eq (h : (record fields).fits source = true)
    (hmessage : entryAt? "message" fields = some text) :
    messageFailure source = .ok (reported source) := by
  have htext := says_at? h hmessage
  rw [messageFailure, field_eq h]
  change (if ((source.at? "message").getD .null).counts = true then _ else _) = _
  rw [htext.counts_eq, reported]
  by_cases hempty : source.textAt "message" = ""
  · simp [hempty]
    rfl
  · rw [if_neg hempty, if_pos (by simpa using hempty)]
    rcases htext with hstr | ⟨-, hnil⟩
    · rw [hstr]
      rfl
    · exact absurd hnil hempty

/-- Whether a reason is among the listed ones is decided by its text. -/
theorem isReasonOf_eq {reason : Value} {s : String} (h : reason.Says s) :
    isReasonOf reasons reason = .ok (decide (s ∈ reasons)) := by
  rw [isReasonOf, h.orElse_eq, Value.isAmong_texts]

/-- A condition reports a pod that cannot be scheduled by its type and reason. -/
theorem unschedulable_eq {condition : Value} (h : Shape.condition.fits condition = true) :
    unschedulable condition = .ok (if condition.textAt "type" = "PodScheduled" ∧
      condition.textAt "reason" = "Unschedulable" then reported condition else none) := by
  have htype : ((condition.at? "type").getD .null).isText "PodScheduled" =
      decide (condition.textAt "type" = "PodScheduled") := (says_at? h rfl).isText_eq (by decide)
  have hreason : ((condition.at? "reason").getD .null).isText "Unschedulable" =
      decide (condition.textAt "reason" = "Unschedulable") := (says_at? h rfl).isText_eq (by decide)
  have hmessage : messageFailure condition = .ok (reported condition) := messageFailure_eq h rfl
  have hfields (key : String) : condition.field key = .ok ((condition.at? key).getD .null) :=
    field_eq h
  simp only [unschedulable, hfields, hmessage, ok_bind, htype, hreason, decide_eq_true_eq]
  by_cases h1 : condition.textAt "type" = "PodScheduled"
  · by_cases h2 : condition.textAt "reason" = "Unschedulable"
    · simp [h1, h2]
    · simp [h1, h2]
      rfl
  · simp [h1]
    rfl

/-- Of the conditions those that report an unschedulable pod are taken, in their order. -/
theorem collectPure_unschedulable {conditions : List Value}
    (h : ∀ c ∈ conditions, Shape.condition.fits c = true) :
    collectPure unschedulable conditions = .ok ((conditions.filter fun c ↦
      c.textAt "type" = "PodScheduled" ∧ c.textAt "reason" = "Unschedulable").filterMap
        reported) := by
  induction conditions with
  | nil => rfl
  | cons c conditions ih =>
    obtain ⟨hc, hrest⟩ := List.forall_mem_cons.mp h
    simp only [collectPure, unschedulable_eq hc, ih hrest, ok_bind]
    by_cases hp : c.textAt "type" = "PodScheduled" ∧ c.textAt "reason" = "Unschedulable"
    · rw [if_pos hp, List.filter_cons_of_pos (by simpa using hp), List.filterMap_cons]
      cases reported c <;> rfl
    · rw [if_neg hp, List.filter_cons_of_neg (by simpa using hp)]
      rfl

/-- What a container that waits for something else than its creation tells. -/
theorem waitingFailure_eq (pod : String) (h : containerStatus.fits status = true)
    (hwaits : waiting status ≠ .map []) :
    waitingFailure (.str pod) status (waiting status) (.str ((waiting status).textAt "reason")) =
      .ok (if IsCrashing status then
        some ⟨"the last termination reason is " ++ (ended status).textAt "reason" ++
          " container=" ++ status.textAt "name" ++ " pod=" ++ pod, []⟩
      else if IsStuck status then reported (waiting status) else none) := by
  have hstate : containerState.fits (status.partAt "state") = true := fits_partAt h rfl
  have hlast : containerState.fits (status.partAt "last_state") = true := fits_partAt h rfl
  have hwaiting : (record [("reason", text), ("message", text)]).fits (waiting status) = true :=
    fits_partAt hstate rfl
  have hsection : status.section? "last_state" = .ok (status.partAt "last_state") :=
    section_eq h rfl
  have hreason : isErrorReason (.str ((waiting status).textAt "reason")) = _ :=
    isReasonOf_eq (.inl rfl)
  have hmessage : messageFailure (waiting status) = .ok (reported (waiting status)) :=
    messageFailure_eq hwaiting rfl
  have hcounts : (((status.partAt "last_state").at? "terminated").getD .null).counts = true ↔
      ended status ≠ .map [] := counts_at?_iff hlast rfl
  have hcrashing : IsCrashing status ↔ ((Value.str ((waiting status).textAt "reason")).isText
      "CrashLoopBackOff" && (((status.partAt "last_state").at? "terminated").getD .null).counts) =
        true := by
    simp [IsCrashing, hwaits, Value.isText, hcounts]
  simp only [waitingFailure, hsection, field_eq hlast, hreason, hmessage, ok_bind, ← hcrashing]
  by_cases hcrash : IsCrashing status
  · have hended : (record [("reason", text)]).fits (ended status) = true := fits_partAt hlast rfl
    have hwhy : (ended status).label "reason" = .ok (.str ((ended status).textAt "reason")) :=
      label_eq hended rfl
    have hname : status.label "name" = .ok (.str (status.textAt "name")) := label_eq h rfl
    have hat : ((status.partAt "last_state").at? "terminated").getD .null = ended status :=
      at?_eq_partAt hlast rfl hcrash.2.2
    rw [if_pos hcrash, if_pos hcrash, hat, hwhy, ok_bind, hname, ok_bind]
    rfl
  · rw [if_neg hcrash, if_neg hcrash]
    by_cases hstuck : (waiting status).textAt "reason" ∈ errorReasons
    · have hstuck' : IsStuck status := ⟨hwaits, hstuck⟩
      rw [if_pos (decide_eq_true hstuck), if_pos hstuck']
    · have hstuck' : ¬IsStuck status := fun h ↦ hstuck h.2
      rw [if_neg (by simpa using hstuck), if_neg hstuck']
      rfl

/-! ### One status after the other -/

variable {σ : Type} {src : Source σ} {deadline : Option Deadline} {latest : EventLookup}
  {scope pod phase : String}

/-- A lookup that gives events of the declared shape if it gives any. -/
def GivesEvents (src : Source σ) (deadline : Option Deadline) (lookUp : Scan (Option Value)) :
    Prop :=
  ∀ w e w', lookUp.run src deadline w = (.ok (some e), w') → Shape.event.fits e = true

/-- A lookup whose event is evidence for a failure if it has one of the reasons. -/
theorem run_evidence {lookUp : Scan (Option Value)} (h : GivesEvents src deadline lookUp)
    {judge : Option Value → Scan (Option Failure)} (hnone : judge none = pure none)
    (hsome : ∀ e, Shape.event.fits e = true → judge (some e) = pure (evidence reasons (some e)))
    (w : World σ) :
    (lookUp >>= judge).run src deadline w =
      (lookUp >>= fun event ↦ pure (evidence reasons event)).run src deadline w := by
  rw [run_bind, run_bind]
  rcases hrun : lookUp.run src deadline w with ⟨f | _ | e, w'⟩
  · rfl
  · simp only [hnone]
    rfl
  · simp only [hsome e (h w e w' hrun)]

/-- A container that is being created fails by the evidence of the latest event. -/
theorem run_creating (h : GivesEvents src deadline (latest (.str scope) (.str pod)))
    (w : World σ) :
    (creating latest (.str scope) (.str pod)).run src deadline w =
      (latest (.str scope) (.str pod) >>= fun event ↦
        pure (evidence errorEventReasons event)).run src deadline w := by
  refine run_evidence h rfl (fun e he ↦ ?_) w
  have hmessage : messageFailure e = .ok (reported e) := messageFailure_eq he rfl
  have hreason : isErrorEventReason ((e.at? "reason").getD .null) =
      .ok (decide (e.textAt "reason" ∈ errorEventReasons)) := isReasonOf_eq (says_at? he rfl)
  simp only [field_eq he, liftM_ok_bind, hreason, hmessage, evidence, Option.bind_some]
  by_cases hmem : e.textAt "reason" ∈ errorEventReasons
  · rw [if_pos (decide_eq_true hmem), if_pos hmem]
    rfl
  · rw [if_neg (by simpa using hmem), if_neg hmem]

/-- A container that is not ready fails by the evidence of the latest event. -/
theorem run_unready (h : GivesEvents src deadline (latest (.str scope) (.str pod)))
    (w : World σ) :
    (unready latest (.str scope) (.str pod)).run src deadline w =
      (latest (.str scope) (.str pod) >>= fun event ↦
        pure (evidence ["Unhealthy"] event)).run src deadline w := by
  refine run_evidence h rfl (fun e he ↦ ?_) w
  have hmessage : messageFailure e = .ok (reported e) := messageFailure_eq he rfl
  have hreason : ((e.at? "reason").getD .null).isText "Unhealthy" =
      decide (e.textAt "reason" = "Unhealthy") := (says_at? he rfl).isText_eq (by decide)
  simp only [field_eq he, liftM_ok_bind, hreason, hmessage, evidence, Option.bind_some,
    List.mem_singleton]
  by_cases heq : e.textAt "reason" = "Unhealthy"
  · rw [if_pos (decide_eq_true heq), if_pos heq]
    rfl
  · rw [if_neg (by simpa using heq), if_neg heq]

/-- A status that does not ask tells the same whatever events there are, without a lookup; one that
asks tells what the event that is looked up says. -/
theorem run_containerFailure (h : GivesEvents src deadline (latest (.str scope) (.str pod)))
    (hstatus : containerStatus.fits status = true) (w : World σ) :
    (containerFailure latest (.str pod) (.str scope) (.str phase) status).run src deadline w =
      if Asks phase status then
        (latest (.str scope) (.str pod) >>= fun event ↦
          pure (told pod phase status event)).run src deadline w
      else (.ok (told pod phase status none), w) := by
  have hstate : containerState.fits (status.partAt "state") = true := fits_partAt hstatus rfl
  have hsection : status.section? "state" = .ok (status.partAt "state") := section_eq hstatus rfl
  have hwaiting : (record [("reason", text), ("message", text)]).fits (waiting status) = true :=
    fits_partAt hstate rfl
  have hcounts : (((status.partAt "state").at? "waiting").getD .null).counts = true ↔
      waiting status ≠ .map [] := counts_at?_iff hstate rfl
  simp only [containerFailure, hsection, field_eq hstate, field_eq hstatus, liftM_ok_bind]
  by_cases hwaits : waiting status = .map []
  · rw [if_neg (fun h ↦ hcounts.mp h hwaits), counts_at?]
    have hcreated : ¬IsCreated phase status := fun h ↦ h.1 hwaits
    have hcrashing : ¬IsCrashing status := fun h ↦ h.1 hwaits
    have hstuck : ¬IsStuck status := fun h ↦ h.1 hwaits
    have htold (event : Option Value) : told pod phase status event =
        if IsUnready phase status then evidence ["Unhealthy"] event else none := by
      rw [told, if_neg hcreated, if_neg hcrashing, if_neg hstuck]
    have hready : (!status.countsAt "ready" && (Value.str phase).isText "Running") = true ↔
        IsUnready phase status := by
      simp [IsUnready, hwaits, Value.isText]
    by_cases hunready : IsUnready phase status
    · have hasks : Asks phase status := .inr hunready
      simp only [if_pos (hready.mpr hunready), if_pos hasks, htold, if_pos hunready]
      exact run_unready h w
    · have hasks : ¬Asks phase status := fun h ↦ h.elim hcreated hunready
      rw [if_neg (fun h ↦ hunready (hready.mp h)), if_neg hasks, htold, if_neg hunready]
      rfl
  · have hat : ((status.partAt "state").at? "waiting").getD .null = waiting status :=
      at?_eq_partAt hstate rfl hwaits
    have hreason :
        (waiting status).label "reason" = .ok (.str ((waiting status).textAt "reason")) :=
      label_eq hwaiting rfl
    have hunready : ¬IsUnready phase status := fun h ↦ hwaits h.1
    have hcreating : ((Value.str ((waiting status).textAt "reason")).isText "ContainerCreating" &&
        (Value.str phase).isText "Pending") = true ↔ IsCreated phase status := by
      simp [IsCreated, hwaits, Value.isText]
    rw [if_pos (hcounts.mpr hwaits), hat, hreason, liftM_ok_bind]
    by_cases hcreated : IsCreated phase status
    · have hasks : Asks phase status := .inl hcreated
      simp only [if_pos (hcreating.mpr hcreated), if_pos hasks, told, if_pos hcreated]
      exact run_creating h w
    · have hasks : ¬Asks phase status := fun h ↦ h.elim hcreated hunready
      rw [if_neg (fun h ↦ hcreated (hcreating.mp h)), if_neg hasks, told, if_neg hcreated,
        if_neg hunready, waitingFailure_eq pod hstatus hwaits]
      rfl

/-- A pass over container statuses makes one lookup for each that asks. -/
theorem run_collect (h : GivesEvents src deadline (latest (.str scope) (.str pod)))
    {statuses : List Value} (hstatuses : ∀ s ∈ statuses, containerStatus.fits s = true)
    (w : World σ) :
    (collect (containerFailure latest (.str pod) (.str scope) (.str phase)) statuses).run src
        deadline w =
      (lookUps latest (.str scope) (.str pod) (statuses.countP (Asks phase ·)) >>= fun events ↦
        pure (toldAll pod phase statuses events)).run src deadline w := by
  induction statuses generalizing w with
  | nil => rfl
  | cons status statuses ih =>
    obtain ⟨hstatus, hrest⟩ := List.forall_mem_cons.mp hstatuses
    rw [collect, run_bind, run_containerFailure h hstatus]
    by_cases hasks : Asks phase status
    · rw [if_pos hasks, List.countP_cons_of_pos (by simpa using hasks), lookUps]
      simp only [run_bind, ih hrest, toldAll, if_pos hasks]
      rcases (latest (.str scope) (.str pod)).run src deadline w with ⟨f | event, w₁⟩
      · rfl
      · simp only [run_pure]
        rcases (lookUps latest (.str scope) (.str pod) _).run src deadline w₁ with ⟨f | events, w₂⟩
        · rfl
        · rfl
    · rw [if_neg hasks, List.countP_cons_of_neg (by simpa using hasks)]
      simp only [run_bind, ih hrest, toldAll, if_neg hasks]
      rcases (lookUps latest (.str scope) (.str pod) _).run src deadline w with ⟨f | events, w₁⟩
      · rfl
      · rfl

/-- Two passes one after the other are one pass over all items. -/
theorem run_collect_append {α : Type} (step : α → Scan (Option Failure)) (xs ys : List α)
    (w : World σ) :
    (collect step (xs ++ ys)).run src deadline w =
      (do
        let first ← collect step xs
        let second ← collect step ys
        return first ++ second : Scan (List Failure)).run src deadline w := by
  induction xs generalizing w with
  | nil =>
    rw [List.nil_append]
    change _ = ((collect step ys >>= fun second ↦ pure second)).run src deadline w
    rw [run_bind]
    rcases (collect step ys).run src deadline w with ⟨f | found, w₁⟩
    · rfl
    · rfl
  | cons x xs ih =>
    simp only [List.cons_append, collect, run_bind, ih]
    rcases (step x).run src deadline w with ⟨f | found, w₁⟩
    · rfl
    · simp only [run_pure]
      rcases (collect step xs).run src deadline w₁ with ⟨f | first, w₂⟩
      · rfl
      · dsimp only
        rcases (collect step ys).run src deadline w₂ with ⟨f | second, w₃⟩
        · rfl
        · simp

/-- Two passes one after the other, behind what is known already. -/
theorem run_collect_behind {α : Type} (step : α → Scan (Option Failure)) (xs ys : List α)
    (known : List Failure) (w : World σ) :
    (do
      let first ← collect step xs
      let second ← collect step ys
      return known ++ first ++ second : Scan (List Failure)).run src deadline w =
      Prod.map (Except.map (known ++ ·)) id ((collect step (xs ++ ys)).run src deadline w) := by
  rw [run_collect_append]
  simp only [run_bind]
  rcases (collect step xs).run src deadline w with ⟨f | first, w₁⟩
  · rfl
  · dsimp only
    rcases (collect step ys).run src deadline w₁ with ⟨f | second, w₂⟩
    · rfl
    · simp [Except.map]

/-- A pass over some statuses and then one over others, behind what is known already. -/
theorem run_passes (h : GivesEvents src deadline (latest (.str scope) (.str pod)))
    {initial regular : List Value}
    (hstatuses : ∀ s ∈ initial ++ regular, containerStatus.fits s = true)
    (known : List Failure) (w : World σ) :
    (do
      let started ← collect (containerFailure latest (.str pod) (.str scope) (.str phase)) initial
      let running ← collect (containerFailure latest (.str pod) (.str scope) (.str phase)) regular
      return known ++ started ++ running : Scan (List Failure)).run src deadline w =
      match (lookUps latest (.str scope) (.str pod)
        ((initial ++ regular).countP (Asks phase ·))).run src deadline w with
      | (.ok events, w') => (.ok (known ++ toldAll pod phase (initial ++ regular) events), w')
      | (.error f, w') => (.error f, w') := by
  rw [run_collect_behind, run_collect h hstatuses, run_bind]
  rcases (lookUps latest (.str scope) (.str pod) _).run src deadline w with ⟨f | events, w₁⟩
  · rfl
  · rfl

/-! ### All failures of a pod -/

variable {object : Value}

def nameOf (object : Value) : String :=
  (object.partAt "metadata").textAt "name"

def scopeOf (object : Value) : String :=
  (object.partAt "metadata").textAt "namespace"

def phaseOf (object : Value) : String :=
  (object.partAt "status").textAt "phase"

def conditionsOf (object : Value) : List Value :=
  (object.partAt "status").itemsAt "conditions"

/-- The statuses of the init containers, and behind them those of the containers. -/
def statusesOf (object : Value) : List Value :=
  (object.partAt "status").itemsAt "init_container_statuses" ++
    (object.partAt "status").itemsAt "container_statuses"

/-- The failures of a pod are found by looking up the latest event about it once for each container
status that asks for one, in the order of the statuses, whatever the lookup does and changes. They
are what keeps a pending pod from being scheduled, and then what each status tells. A lookup that
ends in a fault ends the search. -/
theorem run_failures (hobject : (Shape.object "Pod").fits object = true)
    (h : GivesEvents src deadline (latest (.str (scopeOf object)) (.str (nameOf object))))
    (w : World σ) :
    (failures latest object).run src deadline w =
      match (lookUps latest (.str (scopeOf object)) (.str (nameOf object))
        ((statusesOf object).countP (Asks (phaseOf object) ·))).run src deadline w with
      | (.ok events, w') =>
        (.ok (unscheduled (phaseOf object) (conditionsOf object) ++
          toldAll (nameOf object) (phaseOf object) (statusesOf object) events), w')
      | (.error f, w') => (.error f, w') := by
  have hmetadata : Shape.metadata.fits (object.partAt "metadata") = true :=
    fits_partAt hobject rfl
  have hstatus : (Shape.record _).fits (object.partAt "status") = true := fits_partAt hobject rfl
  have hmd : object.metadata = .ok (object.partAt "metadata") := section_eq hobject rfl
  have hst : object.status = .ok (object.partAt "status") := section_eq hobject rfl
  have hname : (object.partAt "metadata").label "name" = .ok (.str (nameOf object)) :=
    label_eq hmetadata rfl
  have hscope : (object.partAt "metadata").label "namespace" = .ok (.str (scopeOf object)) :=
    label_eq hmetadata rfl
  have hphase : (object.partAt "status").label "phase" = .ok (.str (phaseOf object)) :=
    label_eq hstatus rfl
  have hconditions : (object.partAt "status").each "conditions" = .ok (conditionsOf object) :=
    each_eq hstatus rfl
  have hinitial : (object.partAt "status").each "init_container_statuses" =
      .ok ((object.partAt "status").itemsAt "init_container_statuses") := each_eq hstatus rfl
  have hregular : (object.partAt "status").each "container_statuses" =
      .ok ((object.partAt "status").itemsAt "container_statuses") := each_eq hstatus rfl
  simp only [failures, hmd, hst, hname, hscope, hphase, hconditions, hinitial, hregular,
    liftM_ok_bind]
  have hfits : ∀ c ∈ conditionsOf object, Shape.condition.fits c = true := fits_itemsAt hstatus rfl
  have hstatuses : ∀ s ∈ statusesOf object, containerStatus.fits s = true := by
    intro s hs
    rcases List.mem_append.mp hs with hs | hs
    · exact fits_itemsAt hstatus rfl s hs
    · exact fits_itemsAt hstatus rfl s hs
  have hisText : (Value.str (phaseOf object)).isText "Pending" =
      decide (phaseOf object = "Pending") := beq_eq_decide _ _
  rw [hisText, unscheduled]
  by_cases hpending : phaseOf object = "Pending"
  · rw [if_pos (decide_eq_true hpending), if_pos hpending, collectPure_unschedulable hfits]
    exact run_passes h hstatuses _ w
  · rw [if_neg (by simpa using hpending), if_neg hpending]
    exact run_passes h hstatuses _ w

/-! ### A pod that is asked about twice -/

namespace BlockedPod

/-- A container that waits for a reason. -/
def waitingFor (name reason message : String) : Value :=
  .map [("name", .str name), ("state", .map [("waiting",
    .map [("reason", .str reason), ("message", .str message)])])]

/-- A pending pod that is not scheduled. Two of its containers are being created; of the others one
crashes and one cannot get its image. -/
def blocked : Value :=
  .map [
    ("metadata", .map [("name", .str "p"), ("namespace", .str "n")]),
    ("status", .map [
      ("phase", .str "Pending"),
      ("conditions", .list [.map [("type", .str "PodScheduled"), ("reason", .str "Unschedulable"),
        ("message", .str "no node")]]),
      ("init_container_statuses", .list [waitingFor "i" "ContainerCreating" ""]),
      ("container_statuses", .list [
        .map [("name", .str "c"),
          ("state", .map [("waiting", .map [("reason", .str "CrashLoopBackOff")])]),
          ("last_state", .map [("terminated", .map [("reason", .str "Error")])])],
        waitingFor "a" "ErrImagePull" "no image", waitingFor "b" "ContainerCreating" ""])])]

/-- A source that tells of a failing mount once, and of no event from then on. -/
def tellsOnce : Source Bool where
  answer
    | .events _ _ _, _, m, false =>
      (.ok [.map [("reason", .str "FailedMount"), ("message", .str "no volume")]], m, true)
    | .events _ _ _, _, m, true => (.ok [], m, true)
    | .list _ _ _, _, m, s => (.ok [], m, s)
    | .get _ _ _, _, m, s => (.ok none, m, s)
    | .log _ _ _ _, _, m, s => (.ok none, m, s)

/-- A world without a gauge in which no access was made. -/
def start : World Bool where
  moment := ⟨.zero, false⟩
  cluster := false

/-- The pod of the example below has the declared shape. -/
theorem fits_blocked : (Shape.object "Pod").fits blocked = true := by
  decide +kernel

/-- The cluster of the example below answers each question for events. -/
theorem givesEvents_tellsOnce (scope pod : Value) :
    GivesEvents tellsOnce none (latestEvent scope pod) := by
  intro w e w' h
  rw [latestEvent, run_bind, run_time] at h
  cases hover : runOver? none w.moment with
  | some f => simp [hover] at h
  | none =>
    rw [hover] at h
    change (firstOf (tellsOnce.answer (.events scope pod 1) _ w.moment w.cluster).1).run tellsOnce
      none _ = _ at h
    cases hasked : w.cluster with
    | false =>
      rw [hasked] at h
      cases h
      rfl
    | true =>
      rw [hasked] at h
      cases h

/-- The first lookup tells why the init container is not created, the second of nothing. -/
theorem run_failures_blocked :
    (Shape.object "Pod").fits blocked = true ∧
      GivesEvents tellsOnce none (latestEvent (.str "n") (.str "p")) ∧
      ((failures latestEvent blocked).run tellsOnce none start).1 =
        .ok [⟨"no node", []⟩, ⟨"no volume", []⟩,
          ⟨"the last termination reason is Error container=c pod=p", []⟩, ⟨"no image", []⟩] := by
  refine ⟨fits_blocked, givesEvents_tellsOnce _ _, ?_⟩
  rw [run_failures fits_blocked (givesEvents_tellsOnce _ _)]
  rfl

end BlockedPod

end ClusterDiagnosis.Detect.Pod
