import Hazard.Proofs.Detect.Accesses
import Hazard.Proofs.Detect.Room

/-!
# Every finding can be recorded

A record with a line zero, or with a confidence above one or below zero, is refused, and its refusal would
end the detector.  No check makes such a finding: lines come from rows, which are counted from zero, plus
one, and confidences are hundredths.  So what a built-in detector returns follows from what its check finds.
-/

namespace Hazard

/-- Hundredths up to a hundred lie between zero and one. -/
theorem Draft.percent_bounds (n : Fin 101) :
    (Draft.percent n).leInt 1 = true ∧ (Draft.percent n).geInt 0 = true := by
  revert n
  decide +kernel

/-- All that the check finds can be recorded. -/
def Recordable (check : Vocabulary → Source → Except Failure (List Draft)) : Prop :=
  ∀ vocabulary source drafts, check vocabulary source = .ok drafts →
    ∀ draft ∈ drafts, draft.isRecordable = true

theorem Draft.isRecordable_of {draft : Draft} (n : Fin 101) (start : 1 ≤ draft.startLine)
    (stop : 1 ≤ draft.endLine) (confidence : draft.confidence = Draft.percent n) :
    draft.isRecordable = true := by
  obtain ⟨atMost, atLeast⟩ := Draft.percent_bounds n
  rw [Draft.isRecordable, confidence, atMost, atLeast, decide_eq_true start, decide_eq_true stop]
  rfl

namespace Source

variable (source : Source)

theorem one_le_startLine (site : Site) : 1 ≤ source.startLine site := Nat.le_add_left 1 _

theorem one_le_endLine (site : Site) : 1 ≤ source.endLine site := Nat.le_add_left 1 _

end Source

/-- A finding from the first line of one node to the last line of another. -/
theorem Draft.isRecordable_of_sites {source : Source} {draft : Draft} (n : Fin 101)
    (first last : Site) (start : draft.startLine = source.startLine first)
    (stop : draft.endLine = source.endLine last) (confidence : draft.confidence = Draft.percent n) :
    draft.isRecordable = true :=
  isRecordable_of n (start ▸ source.one_le_startLine first) (stop ▸ source.one_le_endLine last)
    confidence

/-! ## Errors -/

namespace ErrorHandling

variable {source : Source} {site : Site} {draft : Draft}

theorem isRecordable_of_emptyCatch? (found : emptyCatch? source site = some draft) :
    draft.isRecordable = true := by
  rw [emptyCatch?] at found
  split at found
  · split at found
    · obtain rfl := Option.some.inj found
      exact Draft.isRecordable_of_sites 95 site site rfl rfl rfl
    · contradiction
  · contradiction

theorem isRecordable_of_swallowed? (found : swallowed? source site = some draft) :
    draft.isRecordable = true := by
  rw [swallowed?] at found
  split at found
  · split at found
    · contradiction
    · obtain rfl := Option.some.inj found
      exact Draft.isRecordable_of_sites 85 site site rfl rfl rfl
  · contradiction

theorem isRecordable_of_uncaught? (found : uncaught? source site = some draft) :
    draft.isRecordable = true := by
  rw [uncaught?] at found
  split at found
  · contradiction
  · split at found
    · contradiction
    · split at found
      · obtain rfl := Option.some.inj found
        exact Draft.isRecordable_of_sites 100 _ site rfl rfl rfl
      · split at found
        · obtain rfl := Option.some.inj found
          exact Draft.isRecordable_of_sites 60 site site rfl rfl rfl
        · contradiction

theorem isRecordable_of_boundary? (found : boundary? source site = some draft) :
    draft.isRecordable = true := by
  rw [boundary?] at found
  split at found
  · split at found
    · contradiction
    · dsimp only at found
      split at found
      · contradiction
      · obtain rfl := Option.some.inj found
        refine Draft.isRecordable_of 75 (source.one_le_startLine site) ?_ rfl
        exact le_min (source.one_le_endLine site)
          (Nat.le_add_right_of_le (source.one_le_startLine site))
  · contradiction

theorem isRecordable_of_mem_findings {vocabulary : Vocabulary}
    (mem : draft ∈ findings vocabulary source) : draft.isRecordable = true := by
  simp only [findings, messages, List.mem_append, List.mem_filterMap] at mem
  rcases mem with (((⟨site, -, found⟩ | ⟨site, -, found⟩) | ⟨site, -, found⟩) |
    ⟨site, -, found⟩) | mem
  · exact isRecordable_of_emptyCatch? found
  · exact isRecordable_of_swallowed? found
  · exact isRecordable_of_uncaught? found
  · exact isRecordable_of_boundary? found
  · obtain ⟨literal, -, rfl⟩ := List.mem_map.mp mem
    exact Draft.isRecordable_of_sites 70 literal literal rfl rfl rfl

theorem eq_findings_of_check {vocabulary : Vocabulary} {drafts : List Draft}
    (checked : check vocabulary source = .ok drafts) : drafts = findings vocabulary source :=
  Except.ok.inj (checked.symm.trans (check_eq_ok source vocabulary))

theorem recordable_check : Recordable check := by
  intro vocabulary source drafts checked draft mem
  obtain rfl := eq_findings_of_check checked
  exact isRecordable_of_mem_findings mem

end ErrorHandling

/-! ## Credentials and text that runs -/

namespace Secret

variable {source : Source} {draft : Draft}

theorem isRecordable_of_mem_inLines {patterns : List Regex}
    (mem : draft ∈ inLines source patterns) : draft.isRecordable = true := by
  rw [inLines, List.mapIdx_eq_zipIdx_map, List.filterMap_map] at mem
  obtain ⟨line, -, found⟩ := List.mem_filterMap.mp mem
  obtain ⟨fit, -, rfl⟩ := Option.map_eq_some_iff.mp found
  exact Draft.isRecordable_of 90 (Nat.le_add_left 1 _) (Nat.le_add_left 1 _) rfl

theorem isRecordable_of_mem_inLiteral {literal : Site} (mem : draft ∈ inLiteral source literal) :
    draft.isRecordable = true := by
  rcases List.mem_append.mp mem with mem | mem
  · split at mem
    · obtain rfl := List.mem_singleton.mp mem
      exact Draft.isRecordable_of_sites 95 literal literal rfl rfl rfl
    · exact absurd mem List.not_mem_nil
  · split at mem
    · obtain rfl := List.mem_singleton.mp mem
      exact Draft.isRecordable_of_sites 98 literal literal rfl rfl rfl
    · exact absurd mem List.not_mem_nil

theorem isRecordable_of_mem_check {vocabulary : Vocabulary} (mem : draft ∈ check vocabulary source) :
    draft.isRecordable = true := by
  rw [check] at mem
  split at mem
  · exact absurd mem List.not_mem_nil
  · rcases List.mem_append.mp mem with mem | mem
    · exact isRecordable_of_mem_inLines mem
    · obtain ⟨literal, -, mem⟩ := List.mem_flatMap.mp mem
      exact isRecordable_of_mem_inLiteral mem

end Secret

namespace Injection

variable {source : Source} {call : Site} {draft : Draft}

theorem isRecordable_of_evaluation? (found : evaluation? source call = some draft) :
    draft.isRecordable = true := by
  rw [evaluation?] at found
  split at found
  · split at found
    · obtain rfl := Option.some.inj found
      exact Draft.isRecordable_of_sites 90 call call rfl rfl rfl
    · contradiction
  · split at found
    · obtain rfl := Option.some.inj found
      exact Draft.isRecordable_of_sites 95 call call rfl rfl rfl
    · split at found
      · obtain rfl := Option.some.inj found
        exact Draft.isRecordable_of_sites 90 call call rfl rfl rfl
      · split at found
        · obtain rfl := Option.some.inj found
          exact Draft.isRecordable_of_sites 90 call call rfl rfl rfl
        · contradiction

theorem isRecordable_of_random? (found : random? source call = some draft) :
    draft.isRecordable = true := by
  rw [random?] at found
  split at found
  · obtain rfl := Option.some.inj found
    exact Draft.isRecordable_of_sites 75 call call rfl rfl rfl
  · contradiction

theorem isRecordable_of_mem_check (mem : draft ∈ check source) : draft.isRecordable = true := by
  simp only [check, List.mem_append] at mem
  rcases mem with ((mem | mem) | mem) | mem
  · obtain ⟨template, -, rfl⟩ := List.mem_map.mp mem
    exact Draft.isRecordable_of_sites 85 template template rfl rfl rfl
  · obtain ⟨sum, -, rfl⟩ := List.mem_map.mp mem
    exact Draft.isRecordable_of_sites 80 sum sum rfl rfl rfl
  · obtain ⟨call, -, found⟩ := List.mem_filterMap.mp mem
    exact isRecordable_of_evaluation? found
  · obtain ⟨call, -, found⟩ := List.mem_filterMap.mp mem
    exact isRecordable_of_random? found

end Injection

/-! ## Numbers, remarks and bodies -/

/-- What a traversal that succeeds gives comes from one of the items. -/
theorem exists_of_mapM_ok {α β ε : Type} {f : α → Except ε β} {items : List α} {results : List β}
    (mapped : items.mapM f = .ok results) {result : β} (mem : result ∈ results) :
    ∃ item ∈ items, f item = .ok result := by
  induction items generalizing results with
  | nil =>
      obtain rfl := Except.ok.inj mapped
      exact absurd mem List.not_mem_nil
  | cons item items ih =>
      rw [List.mapM_cons] at mapped
      cases first : f item with
      | error failure =>
          rw [first] at mapped
          contradiction
      | ok head =>
          cases rest : items.mapM f with
          | error failure =>
              rw [first, rest] at mapped
              contradiction
          | ok tail =>
              rw [first, rest] at mapped
              obtain rfl := Except.ok.inj mapped
              rcases List.mem_cons.mp mem with rfl | mem
              · exact ⟨item, List.mem_cons_self, first⟩
              · obtain ⟨origin, listed, origin_eq⟩ := ih rest mem
                exact ⟨origin, List.mem_cons_of_mem item listed, origin_eq⟩

namespace MagicNumber

variable {source : Source}

theorem check_eq_mapM :
    check source = (do
      let found ← (source.ofKinds ["number"]).mapM (examine source)
      pure (found.filterMap id)) := by
  rw [check, (funext (lookAt_eq_examine source) : lookAt source = examine source)]

/-- A finding about a number comes from the examination of a literal. -/
theorem exists_literal_of_check {drafts : List Draft} (checked : check source = .ok drafts)
    {draft : Draft} (mem : draft ∈ drafts) :
    ∃ literal ∈ source.ofKinds ["number"], examine source literal = .ok (some draft) := by
  rw [check_eq_mapM] at checked
  cases found_eq : (source.ofKinds ["number"]).mapM (examine source) with
  | error failure =>
      rw [found_eq] at checked
      contradiction
  | ok found =>
      rw [found_eq] at checked
      obtain rfl := Except.ok.inj checked
      obtain ⟨_, mem, rfl⟩ := List.mem_filterMap.mp mem
      exact exists_of_mapM_ok found_eq mem

theorem isRecordable_of_mem_check {drafts : List Draft} (checked : check source = .ok drafts)
    {draft : Draft} (mem : draft ∈ drafts) : draft.isRecordable = true := by
  obtain ⟨literal, -, examined⟩ := exists_literal_of_check checked mem
  rw [examine] at examined
  split at examined
  · exact absurd (Except.ok.inj examined).symm (Option.some_ne_none draft)
  · split at examined
    · obtain rfl := Option.some.inj (Except.ok.inj examined)
      exact Draft.isRecordable_of_sites 60 literal literal rfl rfl rfl
    · contradiction

end MagicNumber

namespace Remark

variable {source : Source} {draft : Draft}

theorem isRecordable_of_mem_reminders (mem : draft ∈ reminders source) :
    draft.isRecordable = true := by
  rw [reminders, List.mapIdx_eq_zipIdx_map, List.filterMap_map] at mem
  obtain ⟨line, -, found⟩ := List.mem_filterMap.mp mem
  change reminder? (line.2 + 1) line.1 = some draft at found
  unfold reminder? at found
  split at found
  · contradiction
  · split at found
    · contradiction
    · obtain rfl := Option.some.inj found
      exact Draft.isRecordable_of 70 (Nat.le_add_left 1 _) (Nat.le_add_left 1 _) rfl

theorem isRecordable_of_mem_commentedCode (mem : draft ∈ commentedCode source) :
    draft.isRecordable = true := by
  obtain ⟨run, chosen, rfl⟩ := List.mem_map.mp mem
  obtain ⟨listed, long⟩ := List.mem_filter.mp chosen
  have start := (bounds_of_mem_runsFrom listed).1
  have size : 3 ≤ run.lines.length := of_decide_eq_true long
  have stop : 1 ≤ run.stop := by
    rw [Run.stop]
    omega
  exact Draft.isRecordable_of 65 start stop rfl

theorem isRecordable_of_mem_check (mem : draft ∈ check source) : draft.isRecordable = true := by
  rcases List.mem_append.mp mem with mem | mem
  · exact isRecordable_of_mem_reminders mem
  · exact isRecordable_of_mem_commentedCode mem

end Remark

namespace Body

variable {source : Source} {function : Site} {draft : Draft}

theorem isRecordable_of_mem_placeholders (mem : draft ∈ placeholders source function) :
    draft.isRecordable = true := by
  rw [placeholders] at mem
  split at mem
  · exact absurd mem List.not_mem_nil
  · dsimp only at mem
    split at mem
    · obtain rfl := List.mem_singleton.mp mem
      exact Draft.isRecordable_of_sites 95 function function rfl rfl rfl
    · rcases List.mem_append.mp mem with mem | mem
      · split at mem
        · obtain rfl := List.mem_singleton.mp mem
          exact Draft.isRecordable_of_sites 75 function function rfl rfl rfl
        · exact absurd mem List.not_mem_nil
      · split at mem
        · obtain rfl := List.mem_singleton.mp mem
          exact Draft.isRecordable_of_sites 80 function function rfl rfl rfl
        · exact absurd mem List.not_mem_nil

theorem isRecordable_of_mem_check (mem : draft ∈ check source) : draft.isRecordable = true := by
  rcases List.mem_append.mp mem with mem | mem
  · obtain ⟨function, -, rfl⟩ := List.mem_map.mp mem
    exact Draft.isRecordable_of_sites 85 function function rfl rfl rfl
  · obtain ⟨function, -, mem⟩ := List.mem_flatMap.mp mem
    exact isRecordable_of_mem_placeholders mem

end Body

/-! ## Names -/

namespace Naming

variable {source : Source} {draft : Draft}

theorem isRecordable_of_mem_findings {vocabulary : Vocabulary} {bindings : List Binding}
    (mem : draft ∈ findings vocabulary source bindings) : draft.isRecordable = true := by
  rcases List.mem_append.mp mem with mem | mem
  · obtain ⟨binding, -, rfl⟩ := List.mem_map.mp mem
    split
    · exact Draft.isRecordable_of_sites 80 binding.declaration binding.declaration rfl rfl rfl
    · exact Draft.isRecordable_of_sites 85 binding.site _ rfl rfl rfl
  · rw [inconsistencies] at mem
    dsimp only at mem
    split at mem
    · exact absurd mem List.not_mem_nil
    · split at mem
      · exact absurd mem List.not_mem_nil
      · obtain ⟨named, -, rfl⟩ := List.mem_map.mp mem
        exact Draft.isRecordable_of 70 (source.one_le_startLine named.1.site)
          (source.one_le_startLine named.1.site) rfl

/-- What is found about names is found in all bindings of the file. -/
theorem eq_findings_of_check {room : Nat} {vocabulary : Vocabulary} {drafts : List Draft}
    (checked : check room vocabulary source = .ok drafts) :
    drafts = findings vocabulary source (Binding.collect source) := by
  rw [check_eq, Binding.collectWithin_eq, Binding.map_within] at checked
  exact (Binding.within_eq_ok_iff.mp checked).2.symm

theorem recordable_check (room : Nat) : Recordable (check room) := by
  intro vocabulary source drafts checked draft mem
  obtain rfl := eq_findings_of_check checked
  exact isRecordable_of_mem_findings mem

end Naming

/-! ## Detectors -/

namespace Detector

theorem eq_append_of_securityCheck {vocabulary : Vocabulary} {source : Source} {drafts : List Draft}
    (checked : securityCheck vocabulary source = .ok drafts) :
    drafts = Secret.check vocabulary source ++ Injection.check source :=
  Except.ok.inj (checked.symm.trans (securityCheck_eq_ok vocabulary source))

theorem recordable_securityCheck : Recordable securityCheck := by
  intro vocabulary source drafts checked draft mem
  obtain rfl := eq_append_of_securityCheck checked
  rcases List.mem_append.mp mem with mem | mem
  · exact Secret.isRecordable_of_mem_check mem
  · exact Injection.isRecordable_of_mem_check mem

/-- What is found about numbers stands before what is found about remarks and bodies. -/
theorem exists_numbers_of_qualityCheck {source : Source} {drafts : List Draft}
    (checked : qualityCheck source = .ok drafts) :
    ∃ numbers, MagicNumber.check source = .ok numbers ∧
      drafts = numbers ++ Remark.check source ++ Body.check source := by
  rw [qualityCheck_eq] at checked
  cases found : MagicNumber.check source with
  | error failure =>
      rw [found] at checked
      contradiction
  | ok numbers =>
      rw [found] at checked
      exact ⟨numbers, rfl, (Except.ok.inj checked).symm⟩

theorem recordable_qualityCheck : Recordable fun _ => qualityCheck := by
  intro vocabulary source drafts checked draft mem
  obtain ⟨numbers, found, rfl⟩ := exists_numbers_of_qualityCheck checked
  rcases List.mem_append.mp mem with mem | mem
  · rcases List.mem_append.mp mem with mem | mem
    · exact MagicNumber.isRecordable_of_mem_check found mem
    · exact Remark.isRecordable_of_mem_check mem
  · exact Body.isRecordable_of_mem_check mem

variable {id : String} {kinds : List Kind} {check : Vocabulary → Source → Except Failure (List Draft)}

/-- A detector whose findings can be recorded returns them, or fails as its check does. -/
theorem examine_ofCheck (recordable : Recordable check) (stamps : Nat → Stamp)
    (vocabulary : Vocabulary) (source : Source) :
    (ofCheck id kinds stamps check).examine vocabulary (.ok source) =
      (check vocabulary source).map (stampAll id source.path stamps) := by
  cases found : check vocabulary source with
  | error failure => simp [ofCheck, found, bind, Except.bind, Except.map]
  | ok drafts =>
      have recorded : recordAll id source.path stamps drafts =
          .ok (stampAll id source.path stamps drafts) :=
        if_pos (List.all_eq_true.mpr (recordable vocabulary source drafts found))
      simp [ofCheck, found, recorded, Except.map]

section

variable (stamps : Nat → Stamp) (vocabulary : Vocabulary) (source : Source)

/-- Names are found if there is room for the deepest pattern of the file. -/
theorem naming_examine (room : Nat) :
    (naming stamps room).examine vocabulary (.ok source) =
      Binding.within room (Binding.callsFor source)
        (stampAll "naming" source.path stamps
          (Naming.findings vocabulary source (Binding.collect source))) := by
  rw [naming, examine_ofCheck (Naming.recordable_check room), Naming.check_eq,
    Binding.collectWithin_eq, Binding.map_within, Binding.map_within]

theorem errorHandling_examine :
    (errorHandling stamps).examine vocabulary (.ok source) =
      .ok (stampAll "error_handling" source.path stamps
        (ErrorHandling.findings vocabulary source)) := by
  rw [errorHandling, examine_ofCheck ErrorHandling.recordable_check, ErrorHandling.check_eq_ok]
  rfl

theorem security_examine :
    (security stamps).examine vocabulary (.ok source) =
      .ok (stampAll "security" source.path stamps
        (Secret.check vocabulary source ++ Injection.check source)) := by
  rw [security, examine_ofCheck recordable_securityCheck, securityCheck_eq_ok]
  rfl

theorem codeQuality_examine :
    (codeQuality stamps).examine vocabulary (.ok source) =
      (MagicNumber.check source).map fun numbers =>
        stampAll "code_quality" source.path stamps
          (numbers ++ Remark.check source ++ Body.check source) := by
  rw [codeQuality, examine_ofCheck recordable_qualityCheck, qualityCheck_eq]
  cases MagicNumber.check source <;> rfl

end

/-- The records of a detector are its findings, each with a mark. -/
theorem exists_draft_of_examine {stamps : Nat → Stamp} {vocabulary : Vocabulary} {source : Source}
    {records : List Record}
    (examined : (ofCheck id kinds stamps check).examine vocabulary (.ok source) = .ok records) :
    ∃ drafts, check vocabulary source = .ok drafts ∧
      records = stampAll id source.path stamps drafts := by
  cases checked : check vocabulary source with
  | error failure => simp [ofCheck, checked, bind, Except.bind] at examined
  | ok drafts =>
      refine ⟨drafts, rfl, ?_⟩
      simp only [ofCheck, checked, Access.ok_bind, recordAll] at examined
      split at examined
      · exact (Except.ok.inj examined).symm
      · contradiction

end Detector

end Hazard
