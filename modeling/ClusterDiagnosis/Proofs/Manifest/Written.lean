import ClusterDiagnosis.Proofs.Enrichment.Course
import ClusterDiagnosis.Proofs.Manifest.Cleanup
import ClusterDiagnosis.Proofs.Masking.Trimmed
import ClusterDiagnosis.Proofs.Report.Artifact

/-!
# From a reply to a file

A corrected manifest is what is left of a reply, with masks undone, from the start of a manifest on.
It is cleaned up once more when it is written. In whatever words a manifest is wrapped, the file
starts as a manifest starts and ends with a line break (`manifest_startsWell`).
-/

set_option autoImplicit false
set_option relaxedAutoImplicit false

namespace ClusterDiagnosis

open Text Manifest Enrichment Report

variable {dir : String} {d : Diagnosis} {t : FileTree} {p : Path}

/-- The two ends of the search for the start of a manifest. -/
theorem Manifest.fromOpening_cases (s : String) :
    LongestEnd opening.toList (trim s).toList (fromOpening s).toList ∨
      (∀ r, r <:+ (trim s).toList → ¬opening.toList <+: r) ∧ fromOpening s = trim s := by
  by_cases h : Opens s
  · exact .inl (longestEnd_fromOpening h)
  · refine .inr ⟨fun r hr hstarts ↦ ?_, fromOpening_of_not_opens h⟩
    exact h (opens_trim_iff.mp (hstarts.isInfix.trans hr.isInfix))

/-- A manifest that starts well is not empty. -/
theorem Manifest.StartsWell.ne_empty {s : String} (h : StartsWell s) : s ≠ "" := by
  rintro rfl
  exact absurd (List.prefix_nil.mp h) (by decide)

/-- The text of the file starts as the manifest does. -/
theorem Report.startsWell_fileText (h : StartsWell (withoutRemarks d.manifest)) :
    StartsWell (fileText d) := by
  rw [StartsWell, fileText, String.toList_append]
  exact h.trans (List.prefix_append _ _)

/-- The text of the file ends with a new line. -/
theorem Report.getLast?_fileText (d : Diagnosis) : (fileText d).toList.getLast? = some '\n' := by
  rw [fileText, String.toList_append]
  exact List.getLast?_concat

/-- A manifest starts in a reply with its masks undone. As masks have no blanks, it does not matter
whether the reply is trimmed before they are undone. -/
def Enrichment.ReplyOpens (anonymize : Bool) (d : Diagnosis) (reply : String) : Prop :=
  Opens (restored anonymize d (trim reply)) ∨
    (∀ f ∈ d.failures, f.Coherent) ∧ Opens (restored anonymize d reply)

/-- A reply opens a manifest once its masked values are restored. -/
theorem Enrichment.opens_restored_of_replyOpens {anonymize : Bool} {reply : String}
    (h : ReplyOpens anonymize d reply) : Opens (restored anonymize d (trim reply)) := by
  rcases h with h | ⟨hcoherent, h⟩
  · exact h
  · rwa [← opens_trim_iff, trim_restored_trim anonymize hcoherent, opens_trim_iff]

/-- What is kept of a text is the longest end of the trimmed text that starts as a manifest starts,
or all of the trimmed text if there is no such end; keeping this twice is keeping it once, and a
trimmed text that starts well is kept as it is. The cleanup in front of the writing leaves the start
where it is. So for every reply in which, with masks undone, a manifest starts, the diagnosis has a
manifest, the text of its file starts as a manifest starts and ends with a line break, and this text
is found under the path that is given back. -/
theorem manifest_startsWell :
    (∀ s : String,
      (LongestEnd opening.toList (trim s).toList (fromOpening s).toList ∨
        (∀ r, r <:+ (trim s).toList → ¬opening.toList <+: r) ∧ fromOpening s = trim s) ∧
      fromOpening (fromOpening s) = fromOpening s ∧
      (StartsWell s → trim s = s → fromOpening s = s) ∧
      (Opens s → StartsWell (withoutRemarks (fromOpening s)))) ∧
    ∀ {τ : Type} (plan : Plan) (service : CompletionService τ) (deadline : Option Deadline)
      (d : Diagnosis) (m m₁ : Moment) (u u₁ : τ) (reply : String),
      wantsManifest plan d = true →
      service.correct deadline (manifestPrompt plan.anonymize d) m u = (.ok reply, m₁, u₁) →
      ∃ d', addManifest plan (some service) deadline d m u = (.ok d', m₁, u₁) ∧
        d' = { d with manifest := fromOpening (restored plan.anonymize d (trim reply)) } ∧
        (ReplyOpens plan.anonymize d reply →
          d'.manifest ≠ "" ∧ StartsWell (fileText d') ∧
          (fileText d').toList.getLast? = some '\n' ∧
          ∀ (dir : String) (t : FileTree) (p : Path),
            (writeManifest dir d' t).1 = .ok (some p) →
            p = filePath dir d' ∧
              (writeManifest dir d' t).2.find p =
                .ok (.file (fileText d').toUTF8.toList)) := by
  refine ⟨fun s ↦ ⟨fromOpening_cases s, fromOpening_fromOpening s, fromOpening_of_startsWell,
    startsWell_cleaned⟩, ?_⟩
  intro τ plan service deadline d m m₁ u u₁ reply hwants hcall
  refine ⟨_, addManifest_of_wanted hwants hcall, rfl, fun hreply ↦ ?_⟩
  have hopens := opens_restored_of_replyOpens hreply
  exact ⟨(startsWell_fromOpening hopens).ne_empty, startsWell_fileText (startsWell_cleaned hopens),
    getLast?_fileText _, fun dir t p ↦ find_of_writeManifest⟩

/-! ### A reply with words in front -/

namespace WordyReply

def service : CompletionService Unit where
  explain _ m u := (.ok (.str ""), m, u)
  correct _ _ m u := (.ok " Sure!\napiVersion: v1\nkind: Pod    # Fixed image name\n", m, u)

def plan : Plan := { explain := true, fix := true }

def pod : Diagnosis := { kind := "Pod", name := "n/p" }

def corrected : Diagnosis :=
  { pod with manifest := "apiVersion: v1\nkind: Pod    # Fixed image name" }

def start : Moment := ⟨.zero, false⟩

/-- The words in front and the remark do not get into the file. -/
theorem manifest_startsWell_pod :
    wantsManifest plan pod = true ∧
      addManifest plan (some service) none pod start () = (.ok corrected, start, ()) ∧
      (writeManifest "out" corrected {}).1 = .ok (some ⟨"", ["out", "fixed-Pod-n", "p.yaml"]⟩) ∧
      StartsWell (fileText corrected) ∧
      (writeManifest "out" corrected {}).2.find ⟨"", ["out", "fixed-Pod-n", "p.yaml"]⟩ =
        .ok (.file "apiVersion: v1\nkind: Pod\n".toUTF8.toList) := by
  have hopens : ReplyOpens plan.anonymize pod
      " Sure!\napiVersion: v1\nkind: Pod    # Fixed image name\n" := by
    refine .inr ⟨List.forall_mem_nil _, contains_iff.mp ?_⟩
    decide +kernel
  have hpath : (writeManifest "out" corrected {}).1 =
      .ok (some ⟨"", ["out", "fixed-Pod-n", "p.yaml"]⟩) := by
    have hgiven : (writeManifest "out" corrected {}).1.toOption =
        some (some ⟨"", ["out", "fixed-Pod-n", "p.yaml"]⟩) := by
      decide +kernel
    cases hwrite : (writeManifest "out" corrected {}).1 with
    | error f =>
      rw [hwrite] at hgiven
      cases hgiven
    | ok given =>
      rw [hwrite] at hgiven
      exact congrArg Except.ok (Option.some.inj hgiven)
  obtain ⟨d', hd', rfl, hfile⟩ :=
    manifest_startsWell.2 plan service none pod start start () () _ (by decide) rfl
  have hcorrected : { pod with manifest := fromOpening (restored plan.anonymize pod
      (trim " Sure!\napiVersion: v1\nkind: Pod    # Fixed image name\n")) } = corrected := by
    decide +kernel
  rw [hcorrected] at hd' hfile
  obtain ⟨-, hstarts, -, hfind⟩ := hfile hopens
  have htext : fileText corrected = "apiVersion: v1\nkind: Pod\n" := by
    decide +kernel
  rw [htext] at hfind
  exact ⟨by decide, hd', hpath, hstarts, (hfind "out" {} _ hpath).2⟩

end WordyReply

end ClusterDiagnosis
