import Lockdown.Metrics
import Lockdown.Proofs.NameMap
import Lockdown.Proofs.Sequence

/-! What is published after any number of scans. A check shows the verdict of its last report, in
whichever scan that was: a report replaces what was said of the same check, and says nothing of
the checks that its scan leaves out. -/
namespace Lockdown

namespace Verdict

theorem mem_all (v : Verdict) : v ∈ all := by
  cases v <;> decide

/-- In the order of their texts. -/
def byText : List Verdict := [error, failed, notApplicable, passed, skipped, warning]

theorem mem_byText (v : Verdict) : v ∈ byText := by
  cases v <;> decide

theorem pairwise_byText : byText.Pairwise (·.name < ·.name) := by
  decide

theorem name_injective : Function.Injective name := by
  intro v w h
  cases v <;> cases w <;> first | rfl | exact absurd h (by decide)

end Verdict

namespace Metrics

/-- What is shown of a check and the text of a verdict. -/
def gauge? (m : Metrics) (name verdict : String) : Option Nat :=
  (m.results.get? name).bind (·.get? verdict)

/-- The verdict of the last report of a check. -/
def lastVerdict? (reports : List ModuleReport) (name : String) : Option Verdict :=
  reports.reverse.findSome? fun r => if r.name = name then some r.verdict else none

variable {m : Metrics} {reports : List ModuleReport} {name verdict : String} {v : Verdict} {n : Nat}

theorem lastVerdict?_eq_none_iff :
    lastVerdict? reports name = none ↔ name ∉ reports.map (·.name) := by
  simp [lastVerdict?]

theorem exists_lastVerdict? (h : name ∈ reports.map (·.name)) :
    ∃ last, lastVerdict? reports name = some last := by
  rw [← Option.isSome_iff_exists, Option.isSome_iff_ne_none, Ne, lastVerdict?_eq_none_iff, not_not]
  exact h

theorem gauge?_setGauge (m : Metrics) (name verdict : String) (n : Nat) (name' verdict' : String) :
    (m.setGauge name verdict n).gauge? name' verdict' =
      if name' = name ∧ verdict' = verdict then some n else m.gauge? name' verdict' := by
  unfold gauge? setGauge
  rw [NameMap.get?_alter]
  by_cases hname : name' = name
  · subst hname
    rw [if_pos rfl, Option.bind_some, NameMap.get?_insert]
    by_cases hverdict : verdict' = verdict
    · rw [if_pos hverdict, if_pos ⟨rfl, hverdict⟩]
    · rw [if_neg hverdict, if_neg fun h => hverdict h.2]
      cases m.results.get? name' <;> rfl
  · rw [if_neg hname, if_neg fun h => hname h.1]

theorem gauge?_foldl_setGauge (verdicts : List Verdict) (f : Verdict → Nat) (m : Metrics)
    (name : String) (v : Verdict) :
    (verdicts.foldl (fun m v => m.setGauge name v.name (f v)) m).gauge? name v.name =
      if v ∈ verdicts then some (f v) else m.gauge? name v.name := by
  induction verdicts generalizing m with
  | nil => rfl
  | cons w rest ih =>
    rw [List.foldl_cons, ih, gauge?_setGauge]
    by_cases hrest : v ∈ rest
    · rw [if_pos hrest, if_pos (List.mem_cons_of_mem w hrest)]
    · by_cases hw : v = w
      · subst hw
        rw [if_neg hrest, if_pos ⟨rfl, rfl⟩, if_pos List.mem_cons_self]
      · have hname : ¬(name = name ∧ v.name = w.name) := fun h => hw (Verdict.name_injective h.2)
        have hcons : v ∉ w :: rest := List.not_mem_cons_of_ne_of_not_mem hw hrest
        rw [if_neg hrest, if_neg hname, if_neg hcons]

theorem gauge?_recordModule_self (m : Metrics) (r : ModuleReport) (v : Verdict) :
    (m.recordModule r).gauge? r.name v.name = some (if v = r.verdict then 1 else 0) := by
  have hset := gauge?_foldl_setGauge Verdict.all (fun v => if v = r.verdict then 1 else 0) m
    r.name v
  rwa [if_pos v.mem_all] at hset

theorem setGauges_keeps {α : Type} (view : Metrics → α) (m : Metrics) (r : ModuleReport)
    (h : ∀ (shown : Metrics) (v : Verdict) (n : Nat),
      view (shown.setGauge r.name v.name n) = view shown) :
    view (m.setGauges r) = view m :=
  List.foldlRecOn (motive := fun shown => view shown = view m) Verdict.all _ rfl
    fun shown hshown v _ => (h shown v _).trans hshown

theorem gauge?_recordModule_of_not_name (m : Metrics) (r : ModuleReport) (name : String)
    (h : ∀ v : Verdict, verdict ≠ v.name) :
    (m.recordModule r).gauge? name verdict = m.gauge? name verdict := by
  refine setGauges_keeps (·.gauge? name verdict) m r fun shown v n => ?_
  rw [gauge?_setGauge, if_neg fun hv => h v hv.2]

theorem results_recordModule_of_ne (m : Metrics) {r : ModuleReport} (h : name ≠ r.name) :
    (m.recordModule r).results.get? name = m.results.get? name := by
  refine setGauges_keeps (·.results.get? name) m r fun shown v n => ?_
  rw [setGauge, NameMap.get?_alter, if_neg h]

theorem totals_recordModule (m : Metrics) (r : ModuleReport) :
    (m.recordModule r).totals = m.totals.alter r.verdict.name fun n => n.getD 0 + 1 := rfl

theorem gauge?_foldl (reports : List ModuleReport) (m : Metrics) (name : String) (v : Verdict) :
    (reports.foldl recordModule m).gauge? name v.name =
      ((lastVerdict? reports name).map fun last => some (if v = last then 1 else 0)).getD
        (m.gauge? name v.name) := by
  have hstep : ∀ (m : Metrics) (r : ModuleReport), (m.recordModule r).gauge? name v.name =
      ((if r.name = name then some r.verdict else none).map fun last =>
        some (if v = last then 1 else 0)).getD (m.gauge? name v.name) := by
    intro m r
    by_cases h : r.name = name
    · subst h
      rw [gauge?_recordModule_self, if_pos rfl]
      rfl
    · rw [if_neg h, gauge?, results_recordModule_of_ne m (Ne.symm h)]
      rfl
  rw [foldl_latest (fun m : Metrics => m.gauge? name v.name) hstep reports m, lastVerdict?,
    ← Function.comp_def, ← List.map_findSome?]

theorem gauge?_foldl_of_not_name (reports : List ModuleReport) (m : Metrics) (name : String)
    (h : ∀ v : Verdict, verdict ≠ v.name) :
    (reports.foldl recordModule m).gauge? name verdict = m.gauge? name verdict := by
  induction reports generalizing m with
  | nil => rfl
  | cons r rest ih => rw [List.foldl_cons, ih, gauge?_recordModule_of_not_name m r name h]

theorem results_foldl_of_not_mem (h : name ∉ reports.map (·.name)) (m : Metrics) :
    (reports.foldl recordModule m).results.get? name = m.results.get? name := by
  induction reports generalizing m with
  | nil => rfl
  | cons r rest ih =>
    rw [List.map_cons, List.mem_cons, not_or] at h
    rw [List.foldl_cons, ih h.2, results_recordModule_of_ne m h.1]

theorem totals_foldl (reports : List ModuleReport) (m : Metrics) (verdict : String) :
    (reports.foldl recordModule m).totals.get? verdict =
      if reports.countP (·.verdict.name = verdict) = 0 then m.totals.get? verdict
      else some ((m.totals.get? verdict).getD 0 + reports.countP (·.verdict.name = verdict)) := by
  induction reports generalizing m with
  | nil => rfl
  | cons r rest ih =>
    rw [List.foldl_cons, ih, totals_recordModule, NameMap.get?_alter, List.countP_cons]
    by_cases h : r.verdict.name = verdict
    · subst h
      simp only [decide_true, if_true, Option.getD_some]
      rw [if_neg (Nat.succ_ne_zero _)]
      split
      · rename_i hnone
        rw [hnone]
      · rw [Nat.add_assoc, Nat.add_comm 1]
    · simp [h, Ne.symm h]

theorem sum_totals_foldl (reports : List ModuleReport) (m : Metrics) :
    (reports.foldl recordModule m).totals.values.sum = m.totals.values.sum + reports.length := by
  induction reports generalizing m with
  | nil => rfl
  | cons r rest ih =>
    have hone := m.totals.sum_values_insert r.verdict.name
      ((m.totals.get? r.verdict.name).getD 0 + 1)
    rw [List.foldl_cons, ih, totals_recordModule, NameMap.alter, List.length_cons]
    omega

theorem foldl_recordModule_duration (reports : List ModuleReport) (m : Metrics) (duration : Nat) :
    reports.foldl recordModule { m with duration } =
      { reports.foldl recordModule m with duration } := by
  induction reports generalizing m with
  | nil => rfl
  | cons r rest ih => exact ih (m.recordModule r)

/-- Only the time tells one scan from another. -/
theorem foldl_record (scans : List ScanReport) (m : Metrics) :
    scans.foldl record m =
      { (scans.flatMap (·.modules)).foldl recordModule m with
        duration := ((scans.map (·.nanoseconds)).getLast?).getD m.duration } := by
  induction scans generalizing m with
  | nil => rfl
  | cons scan rest ih =>
    rw [List.foldl_cons, ih, record, foldl_recordModule_duration, List.flatMap_cons,
      List.foldl_append, List.map_cons, List.getLast?_cons, Option.getD_some]

section

variable {scans : List ScanReport} {last : Verdict}

theorem gauge?_of_reported (h : lastVerdict? (scans.flatMap (·.modules)) name = some last)
    (v : Verdict) :
    (scans.foldl record m).gauge? name v.name = some (if v = last then 1 else 0) := by
  have hrun := gauge?_foldl (scans.flatMap (·.modules)) m name v
  rw [h] at hrun
  rw [foldl_record]
  exact hrun

theorem results_of_unreported (h : name ∉ (scans.flatMap (·.modules)).map (·.name)) :
    (scans.foldl record m).results.get? name = m.results.get? name := by
  rw [foldl_record]
  exact results_foldl_of_not_mem h m

theorem mem_results_iff : name ∈ (scans.foldl record empty).results.names ↔
    name ∈ (scans.flatMap (·.modules)).map (·.name) := by
  rw [NameMap.mem_names_iff]
  constructor
  · rintro ⟨shown, hshown⟩
    by_contra hunseen
    cases hshown.symm.trans (results_of_unreported hunseen)
  · intro hseen
    obtain ⟨last, hlast⟩ := exists_lastVerdict? hseen
    obtain ⟨shown, hshown, -⟩ := Option.bind_eq_some_iff.1 (gauge?_of_reported hlast last)
    exact ⟨shown, hshown⟩

theorem gauge?_of_unreported (h : name ∉ (scans.flatMap (·.modules)).map (·.name)) :
    (scans.foldl record m).gauge? name verdict = m.gauge? name verdict := by
  rw [gauge?, results_of_unreported h, gauge?]

theorem gauge?_eq_one_iff (h : lastVerdict? (scans.flatMap (·.modules)) name = some last)
    (v : Verdict) : (scans.foldl record m).gauge? name v.name = some 1 ↔ last = v := by
  rw [gauge?_of_reported h]
  by_cases hv : v = last
  · simp [hv]
  · simp [hv, Ne.symm hv]

theorem name_of_gauge? (h : (scans.foldl record empty).gauge? name verdict = some n) :
    ∃ v : Verdict, verdict = v.name := by
  by_contra hname
  push Not at hname
  rw [foldl_record] at h
  have hnone := gauge?_foldl_of_not_name (scans.flatMap (·.modules)) empty name hname
  cases h.symm.trans hnone

theorem get?_totals (scans : List ScanReport) (verdict : String) :
    (scans.foldl record empty).totals.get? verdict =
      let count := (scans.flatMap (·.modules)).countP (·.verdict.name = verdict)
      if count = 0 then none else some count := by
  have hfresh : empty.totals.get? verdict = none := rfl
  rw [foldl_record, totals_foldl, hfresh, Option.getD_none, Nat.zero_add]

theorem count_of_verdict (scans : List ScanReport) (v : Verdict) :
    let count := (scans.flatMap (·.modules)).countP (·.verdict = v)
    (scans.foldl record empty).totals.get? v.name = if count = 0 then none else some count := by
  have hcount := get?_totals scans v.name
  simpa only [Verdict.name_injective.eq_iff] using hcount

theorem name_of_get?_totals (h : (scans.foldl record empty).totals.get? verdict = some n) :
    ∃ v : Verdict, verdict = v.name := by
  rw [get?_totals] at h
  dsimp only at h
  split at h
  · cases h
  · rename_i hcount
    obtain ⟨r, -, hr⟩ := List.countP_pos_iff.1 (Nat.pos_of_ne_zero hcount)
    exact ⟨r.verdict, (of_decide_eq_true hr).symm⟩

end

section

variable {scan : ScanReport}

theorem record_eq_foldl (m : Metrics) (scan : ScanReport) : m.record scan = [scan].foldl record m :=
  rfl

theorem gauge?_record_of_named (h : name ∈ scan.modules.map (·.name)) (v : Verdict) :
    (m.record scan).gauge? name v.name = some 1 ↔ lastVerdict? scan.modules name = some v := by
  obtain ⟨last, hlast⟩ := exists_lastVerdict? h
  rw [record_eq_foldl, hlast, Option.some_inj]
  exact gauge?_eq_one_iff (by rwa [List.flatMap_singleton]) v

theorem gauge?_record_of_not_named (h : name ∉ scan.modules.map (·.name)) (verdict : String) :
    (m.record scan).gauge? name verdict = m.gauge? name verdict := by
  rw [record_eq_foldl]
  exact gauge?_of_unreported (by rwa [List.flatMap_singleton])

end

/-- A map from the texts of verdicts lists them in that order. -/
theorem toList_of_verdicts {shown : NameMap Nat} {f : Verdict → Option Nat}
    (hget : ∀ v : Verdict, shown.get? v.name = f v)
    (hname : ∀ verdict n, shown.get? verdict = some n → ∃ v : Verdict, verdict = v.name) :
    shown.toList = Verdict.byText.filterMap fun v => (f v).map fun n => (v.name, n) := by
  have hascending : (Verdict.byText.filterMap fun v => (f v).map fun n => (v.name, n)).Pairwise
      (·.1 < ·.1) := by
    rw [List.pairwise_filterMap]
    refine Verdict.pairwise_byText.imp ?_
    intro v w hlt a ha b hb
    obtain ⟨-, -, rfl⟩ := Option.map_eq_some_iff.1 ha
    obtain ⟨-, -, rfl⟩ := Option.map_eq_some_iff.1 hb
    exact hlt
  refine Entries.eq_of_mem_iff shown.ascending hascending ?_
  rintro ⟨verdict, n⟩
  rw [NameMap.mem_toList_iff, List.mem_filterMap]
  constructor
  · intro h
    obtain ⟨v, rfl⟩ := hname verdict n h
    rw [hget] at h
    exact ⟨v, v.mem_byText, by rw [h]; rfl⟩
  · rintro ⟨v, -, h⟩
    obtain ⟨k, hk, hpair⟩ := Option.map_eq_some_iff.1 h
    cases hpair
    rw [hget, hk]

theorem resultSamples_eq (scans : List ScanReport) :
    let m := scans.foldl record empty
    m.resultSamples = m.results.names.flatMap fun name => Verdict.byText.map fun v =>
      let n : Nat := if lastVerdict? (scans.flatMap (·.modules)) name = some v then 1 else 0
      labels [("module", name), ("result", v.name)] ++ s!" {n}" := by
  intro m
  rw [resultSamples, NameMap.names, List.flatMap_map]
  refine List.flatMap_congr ?_
  rintro ⟨name, shown⟩ hmem
  have hshown : m.results.get? name = some shown := NameMap.mem_toList_iff.1 hmem
  have hgauge : ∀ verdict, m.gauge? name verdict = shown.get? verdict := by
    intro verdict
    rw [gauge?, hshown, Option.bind_some]
  obtain ⟨last, hlast⟩ := exists_lastVerdict? (mem_results_iff.1 (NameMap.mem_names_of_get? hshown))
  have hlist : shown.toList = Verdict.byText.map fun v => (v.name, if v = last then 1 else 0) := by
    rw [toList_of_verdicts (fun v => (hgauge v.name).symm.trans (gauge?_of_reported hlast v))
      fun verdict n h => name_of_gauge? ((hgauge verdict).trans h)]
    exact congrFun List.filterMap_eq_map Verdict.byText
  simp only [hlist, List.map_map, Function.comp_def, hlast, Option.some_inj, eq_comm]

theorem totalSamples_eq (scans : List ScanReport) :
    (scans.foldl record empty).totalSamples = Verdict.byText.filterMap fun v =>
      let count := (scans.flatMap (·.modules)).countP (·.verdict = v)
      if count = 0 then none else some (labels [("result", v.name)] ++ s!" {count}") := by
  rw [totalSamples, toList_of_verdicts (fun v => count_of_verdict scans v)
    fun verdict n => name_of_get?_totals, List.map_filterMap]
  refine List.filterMap_congr fun v _ => ?_
  dsimp only
  split <;> rfl

/-- A check that was ever reported has one sample for each verdict, and of these the verdict of its
last report is one and the others zero. A verdict is counted as often as it was reported, so that
the counts add up to all reports. -/
theorem recordAll_exact (scans : List ScanReport) :
    let m := scans.foldl record empty
    let seen := scans.flatMap (·.modules)
    (∀ name ∈ seen.map (·.name), ∃ last, lastVerdict? seen name = some last ∧
      ∀ v : Verdict, m.gauge? name v.name = some (if v = last then 1 else 0)) ∧
    (∀ name ∉ seen.map (·.name), ∀ verdict, m.gauge? name verdict = none) ∧
    (∀ name verdict n, m.gauge? name verdict = some n → ∃ v : Verdict, verdict = v.name) ∧
    (∃ names : List String, names.Pairwise (· < ·) ∧
      (∀ name, name ∈ names ↔ name ∈ seen.map (·.name)) ∧
      m.resultSamples = names.flatMap fun name => Verdict.byText.map fun v =>
        let n : Nat := if lastVerdict? seen name = some v then 1 else 0
        labels [("module", name), ("result", v.name)] ++ s!" {n}") ∧
    (∀ v : Verdict, m.totals.get? v.name =
      if seen.countP (·.verdict = v) = 0 then none else some (seen.countP (·.verdict = v))) ∧
    (∀ verdict n, m.totals.get? verdict = some n → ∃ v : Verdict, verdict = v.name) ∧
    (m.totalSamples = Verdict.byText.filterMap fun v =>
      let count := seen.countP (·.verdict = v)
      if count = 0 then none else some (labels [("result", v.name)] ++ s!" {count}")) ∧
    m.totals.values.sum = seen.length ∧
    m.duration = ((scans.map (·.nanoseconds)).getLast?).getD 0 := by
  intro m seen
  refine ⟨?_, ?_, fun _ _ _ => name_of_gauge?,
    ⟨m.results.names, m.results.names_ascending, fun _ => mem_results_iff, resultSamples_eq scans⟩,
    count_of_verdict scans, fun _ _ => name_of_get?_totals, totalSamples_eq scans, ?_, ?_⟩
  · intro name hname
    obtain ⟨last, hlast⟩ := exists_lastVerdict? hname
    exact ⟨last, hlast, gauge?_of_reported hlast⟩
  · intro name hname verdict
    exact gauge?_of_unreported hname
  · change (scans.foldl record empty).totals.values.sum = seen.length
    rw [foldl_record, sum_totals_foldl]
    exact Nat.zero_add _
  · exact congrArg duration (foldl_record scans empty)

/-- What a scan says of its checks is what is shown of them; of all others the samples stay as
they were. So all that is shown is of the last scan exactly when no earlier one had a check that
is not in it. -/
theorem record_last_exact (earlier : List ScanReport) (last : ScanReport) :
    let before := earlier.foldl record empty
    let m := (earlier ++ [last]).foldl record empty
    let named := last.modules.map (·.name)
    (∀ name ∈ named, ∀ v : Verdict,
      m.gauge? name v.name = some 1 ↔ lastVerdict? last.modules name = some v) ∧
    (∀ name ∉ named, ∀ verdict, m.gauge? name verdict = before.gauge? name verdict) ∧
    ((∀ name (v : Verdict),
        m.gauge? name v.name = some 1 ↔ lastVerdict? last.modules name = some v) ↔
      ∀ name ∈ (earlier.flatMap (·.modules)).map (·.name), name ∈ named) := by
  intro before m named
  have hm : m = before.record last := List.foldl_append
  have hnamed : ∀ name ∈ named, ∀ v : Verdict,
      m.gauge? name v.name = some 1 ↔ lastVerdict? last.modules name = some v := by
    rw [hm]
    exact fun name hname v => gauge?_record_of_named hname v
  have hothers : ∀ name ∉ named, ∀ verdict, m.gauge? name verdict = before.gauge? name verdict := by
    rw [hm]
    exact fun name hname verdict => gauge?_record_of_not_named hname verdict
  refine ⟨hnamed, hothers, ?_, ?_⟩
  · intro hall name hseen
    by_contra hname
    obtain ⟨w, hw⟩ := exists_lastVerdict? hseen
    have hstays : m.gauge? name w.name = some 1 := by
      rw [hothers name hname]
      exact (gauge?_eq_one_iff hw w).2 rfl
    have hlast := (hall name w).1 hstays
    rw [lastVerdict?_eq_none_iff.2 hname] at hlast
    cases hlast
  · intro hall name v
    by_cases hname : name ∈ named
    · exact hnamed name hname v
    · have hunseen := fun hseen => hname (hall name hseen)
      have hnone : empty.gauge? name v.name = none := rfl
      rw [hothers name hname, gauge?_of_unreported hunseen, hnone,
        lastVerdict?_eq_none_iff.2 hname]
      simp

/-- A check that the last scan left out is still shown as passed. -/
theorem record_keeps_earlier :
    let earlier : List ScanReport := [⟨"cfl", [⟨"cf9_lock", "", .passed, none⟩], 1000000⟩]
    let last : ScanReport := ⟨"cfl", [⟨"bios_wp", "", .failed, none⟩], 1000000⟩
    let m := (earlier ++ [last]).foldl record empty
    m.gauge? "cf9_lock" Verdict.passed.name = some 1 ∧
      lastVerdict? last.modules "cf9_lock" = none := by
  decide

end Metrics

end Lockdown
