import Lockdown.CommandLine
import Lockdown.Proofs.Access
import Lockdown.Proofs.Scan.Overall

/-! The course of a scan, for checks of any kind: which of them are run, on what each of them
begins, what is reported of each, and what all of the reports come to. -/
namespace Lockdown

variable {σ : Type}

namespace Scan

/-- The checks that are asked for, in their own order; without a request these are all. -/
def requested (names : List String) (checks : List (Check σ)) : List (Check σ) :=
  checks.filter fun c => names = [] ∨ c.name ∈ names

def Known (checks : List (Check σ)) (name : String) : Prop := ∃ c ∈ checks, c.name = name

variable {names : List String} {checks : List (Check σ)}

/-- Neither the order of a request nor its repetitions count. -/
theorem requested_congr {names' : List String} (h : ∀ name, name ∈ names ↔ name ∈ names')
    (checks : List (Check σ)) : requested names checks = requested names' checks := by
  have hempty : names = [] ↔ names' = [] := by
    simp only [List.eq_nil_iff_forall_not_mem, h]
  simp only [requested, h, hempty]

theorem any_name_iff (checks : List (Check σ)) (name : String) :
    checks.any (·.name = name) = true ↔ Known checks name := by
  simp [Known]

theorem select_of_known (h : ∀ name ∈ names, Known checks name) :
    select names checks = .ok (requested names checks) := by
  have hfind : (names.find? fun name => !checks.any (·.name = name)) = none := by
    rw [List.find?_eq_none]
    intro name hname
    simp only [(any_name_iff checks name).2 (h name hname), Bool.not_true, Bool.false_eq_true,
      not_false_eq_true]
  unfold select
  rw [hfind]
  cases names <;> simp [requested]

theorem select_of_unknown {before after : List String} {name : String}
    (hbefore : ∀ n ∈ before, Known checks n) (hname : ¬ Known checks name) :
    select (before ++ name :: after) checks = .error (.unknownModule name) := by
  have hfind : ((before ++ name :: after).find? fun name => !checks.any (·.name = name)) =
      some name := by
    rw [List.find?_eq_some_iff_append]
    refine ⟨?_, before, after, rfl, ?_⟩
    · rw [← any_name_iff] at hname
      simp only [hname, Bool.not_false]
    · intro n hn
      simp only [(any_name_iff checks n).2 (hbefore n hn), Bool.not_true, Bool.not_false]
  unfold select
  rw [hfind]

theorem known_or_unknown (names : List String) (checks : List (Check σ)) :
    (∀ name ∈ names, Known checks name) ∨ ∃ before name after, names = before ++ name :: after ∧
      (∀ n ∈ before, Known checks n) ∧ ¬ Known checks name := by
  induction names with
  | nil => exact .inl (by simp)
  | cons first rest ih =>
    by_cases hfirst : Known checks first
    · rcases ih with hrest | ⟨before, name, after, rfl, hbefore, hname⟩
      · exact .inl (List.forall_mem_cons.2 ⟨hfirst, hrest⟩)
      · exact .inr ⟨first :: before, name, after, rfl,
          List.forall_mem_cons.2 ⟨hfirst, hbefore⟩, hname⟩
    · exact .inr ⟨[], first, rest, rfl, by simp, hfirst⟩

theorem select_eq_error_iff {err : AccessError} :
    select names checks = .error err ↔ ∃ before name after, names = before ++ name :: after ∧
      (∀ n ∈ before, Known checks n) ∧ ¬ Known checks name ∧ err = .unknownModule name := by
  constructor
  · intro herr
    rcases known_or_unknown names checks with hknown | ⟨before, name, after, rfl, hbefore, hname⟩
    · rw [select_of_known hknown] at herr
      cases herr
    · rw [select_of_unknown hbefore hname] at herr
      exact ⟨before, name, after, rfl, hbefore, hname, (Except.error.inj herr).symm⟩
  · rintro ⟨before, name, after, rfl, hbefore, hname, rfl⟩
    exact select_of_unknown hbefore hname

theorem select_eq_ok_iff {chosen : List (Check σ)} :
    select names checks = .ok chosen ↔
      (∀ name ∈ names, Known checks name) ∧ chosen = requested names checks := by
  constructor
  · intro hok
    rcases known_or_unknown names checks with hknown | ⟨before, name, after, rfl, hbefore, hname⟩
    · rw [select_of_known hknown] at hok
      exact ⟨hknown, (Except.ok.inj hok).symm⟩
    · rw [select_of_unknown hbefore hname] at hok
      cases hok
  · rintro ⟨hknown, rfl⟩
    exact select_of_known hknown

def said (level : Level) (text : String) (st : Session σ) : Session σ :=
  { st with journal := st.journal.push ⟨level, .scanner, text⟩ }

def announced (c : Check σ) : Session σ → Session σ := said .info s!"[+] {c.name}: {c.description}"

def concluded (c : Check σ) (v : Verdict) : Session σ → Session σ :=
  said .info s!"[-] {c.name}: {v.name}"

/-- How a scan deals with one check. It is asked whether it is supported and, if it is, run on what
the asking left. An error ends the check and is told in the report; nothing else is. -/
inductive Visit (e : Engine) (c : Check σ) (st : Session σ) : ModuleReport → Session σ → Prop
  | unsupported {asked : Session σ}
      (support : (c.supported e).run (announced c st) = (false, asked)) :
      Visit e c st ⟨c.name, c.description, .notApplicable, none⟩
        (concluded c .notApplicable
          (said .info s!"Skipping module {c.name} since it is not supported" asked))
  | found {asked ran : Session σ} {v : Verdict}
      (support : (c.supported e).run (announced c st) = (true, asked))
      (outcome : (c.run e).outcome asked = (.ok v, ran)) :
      Visit e c st ⟨c.name, c.description, v, none⟩ (concluded c v ran)
  | lacking {asked ran : Session σ} {what : String}
      (support : (c.supported e).run (announced c st) = (true, asked))
      (outcome : (c.run e).outcome asked = (.error (.unsupported what), ran)) :
      Visit e c st ⟨c.name, c.description, .skipped, some s!"{what} not supported"⟩
        (concluded c .skipped
          (said .warn s!"{c.name}: {what} is not available on this backend" ran))
  | broken {asked ran : Session σ} {err : AccessError}
      (support : (c.supported e).run (announced c st) = (true, asked))
      (outcome : (c.run e).outcome asked = (.error err, ran))
      (other : ∀ what, err ≠ .unsupported what) :
      Visit e c st ⟨c.name, c.description, .error, some err.message⟩
        (concluded c .error (said .error s!"{c.name}: {err.message}" ran))

variable {e : Engine} {c : Check σ} {st asked ran : Session σ}

theorem run_runCheck {v : Verdict} {error : Option String}
    (h : (verdict e c).run (announced c st) = ((v, error), ran)) :
    (runCheck e c).run st = (⟨c.name, c.description, v, error⟩, concluded c v ran) := by
  have hrun : (runCheck e c).run st =
      let judged := (verdict e c).run (announced c st)
      (⟨c.name, c.description, judged.1.1, judged.1.2⟩, concluded c judged.1.1 judged.2) := rfl
  rw [hrun, h]

theorem run_verdict_unsupported (support : (c.supported e).run st = (false, asked)) :
    (verdict e c).run st = ((.notApplicable, none),
      said .info s!"Skipping module {c.name} since it is not supported" asked) := by
  unfold verdict
  rw [Act.run_bind, support]
  rfl

theorem run_verdict_found {v : Verdict} (support : (c.supported e).run st = (true, asked))
    (outcome : (c.run e).outcome asked = (.ok v, ran)) :
    (verdict e c).run st = ((v, none), ran) := by
  unfold verdict
  rw [Act.run_bind, support, if_pos rfl, Act.run_bind, Access.run_attempt, outcome]
  rfl

theorem run_verdict_error {err : AccessError} (support : (c.supported e).run st = (true, asked))
    (outcome : (c.run e).outcome asked = (.error err, ran)) :
    (verdict e c).run st = (((errorReport c.name err).2.1, some (errorReport c.name err).2.2),
      { ran with journal := ran.journal.push (errorReport c.name err).1 }) := by
  unfold verdict
  rw [Act.run_bind, support, if_pos rfl, Act.run_bind, Access.run_attempt, outcome]
  rfl

theorem visit_runCheck (e : Engine) (c : Check σ) (st : Session σ) :
    Visit e c st ((runCheck e c).run st).1 ((runCheck e c).run st).2 := by
  cases support : (c.supported e).run (announced c st) with
  | mk supported asked =>
    cases supported with
    | false =>
      rw [run_runCheck (run_verdict_unsupported support)]
      exact .unsupported support
    | true =>
      cases outcome : (c.run e).outcome asked with
      | mk result ran =>
        cases result with
        | ok v =>
          rw [run_runCheck (run_verdict_found support outcome)]
          exact .found support outcome
        | error err =>
          rw [run_runCheck (run_verdict_error support outcome)]
          cases err with
          | unsupported what => exact .lacking support outcome
          | _ => exact .broken support outcome (by simp)

/-- A scan deals with the checks in turn, each on what the one before it left, whatever that one
came to. -/
inductive Course (e : Engine) : Session σ → List (Check σ) → List ModuleReport → Session σ → Prop
  | done (st : Session σ) : Course e st [] [] st
  | visit {st mid last : Session σ} {c : Check σ} {rest : List (Check σ)} {report : ModuleReport}
      {reports : List ModuleReport} (first : Visit e c st report mid)
      (others : Course e mid rest reports last) :
      Course e st (c :: rest) (report :: reports) last

theorem course_mapM (e : Engine) (checks : List (Check σ)) (st : Session σ) :
    Course e st checks ((checks.mapM (runCheck e)).run st).1
      ((checks.mapM (runCheck e)).run st).2 := by
  induction checks generalizing st with
  | nil => exact .done st
  | cons c rest ih =>
    rw [List.mapM_cons]
    exact .visit (visit_runCheck e c st) (ih _)

theorem Visit.heading {report : ModuleReport} (h : Visit e c st report ran) :
    (report.name, report.description) = (c.name, c.description) := by
  cases h <;> rfl

theorem Course.headings {reports : List ModuleReport} (h : Course e st checks reports ran) :
    reports.map (fun m => (m.name, m.description)) =
      checks.map fun c => (c.name, c.description) := by
  induction h with
  | done st => rfl
  | visit first others ih => rw [List.map_cons, List.map_cons, first.heading, ih]

/-- A request for names that all belong to checks picks those checks, and the first name that does
not is refused. The scan deals with the picked checks in their own order, one report for each, and
neither the verdict on the whole nor the status that a run exits with depends on more than which
verdicts were found. -/
theorem scan_exact (e : Engine) (names : List String) (checks : List (Check σ)) :
    (∀ chosen, select names checks = .ok chosen ↔
      (∀ name ∈ names, Known checks name) ∧ chosen = requested names checks) ∧
    (∀ err, select names checks = .error err ↔
      ∃ before name after, names = before ++ name :: after ∧ (∀ n ∈ before, Known checks n) ∧
        ¬ Known checks name ∧ err = .unknownModule name) ∧
    (∀ names', (∀ name, name ∈ names ↔ name ∈ names') →
      requested names checks = requested names' checks) ∧
    (∀ st, let scanned := (run e (requested names checks)).run st
      Course e
        (said .info s!"Running {(requested names checks).length} module(s) on {e.store.chipset}" st)
        (requested names checks) scanned.1.modules scanned.2 ∧
      scanned.1.modules.map (fun m => (m.name, m.description)) =
        (requested names checks).map fun c => (c.name, c.description)) ∧
    ∀ r : ScanReport, r.overall = Verdict.worst (r.modules.map (·.verdict)) ∧
      (∀ filter journal files,
        (CommandLine.outcome filter journal files (.ok (.scanned r))).exit =
          if .failed ∈ r.modules.map (·.verdict) then 3
          else if .error ∈ r.modules.map (·.verdict) then 2
          else if .warning ∈ r.modules.map (·.verdict) then 1
          else 0) ∧
      ∀ r' : ScanReport, r.modules.Perm r'.modules → r.overall = r'.overall := by
  have hcourse := course_mapM e (requested names checks)
  refine ⟨fun _ => select_eq_ok_iff, fun _ => select_eq_error_iff,
    fun _ h => requested_congr h checks, fun st => ⟨hcourse _, (hcourse _).headings⟩, fun r => ?_⟩
  refine ⟨r.overall_eq_worst, fun filter journal files => ?_, fun r' => ScanReport.overall_perm⟩
  rw [← Verdict.severity_worst, ← r.overall_eq_worst]
  rfl

end Scan

end Lockdown
