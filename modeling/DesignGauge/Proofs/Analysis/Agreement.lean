import DesignGauge.Analysis.Service
import DesignGauge.Proofs.Measure.Finite
import DesignGauge.Proofs.Report.Saving

/-!
# A pass and its report agree

The report that a pass saves is loaded as the report of its analysis, and classifying the values of
that report with the same thresholds gives the verdicts and the highlighted values of the analysis.

Results:
1. `reportable_takeEach`: the values of a pass have distinct names and are finite.
2. `reportOn_eq_ok`, `analyse_cases`, `analyse_eq_ok`: what an analysis is made of.
3. `Service.report_agrees`: every pass agrees with the report that it saved.
-/

namespace DesignGauge

/-! ## Taking the measures -/

/-- Values that a report can hold: of distinct names, and finite. -/
structure Reportable (values : List (String × Number)) : Prop where
  distinct : (values.map Prod.fst).Nodup
  finite : ∀ entry ∈ values, entry.2.isFinite = true

/-- Setting a finite value keeps values reportable. -/
theorem Reportable.setValue {values : List (String × Number)} (reportable : Reportable values)
    (name : String) {value : Number} (finite : value.isFinite = true) :
    Reportable (Report.setValue name value values) where
  distinct := Report.nodup_setValue name value reportable.distinct
  finite entry member := by
    rcases Report.mem_setValue member with rfl | old
    · exact finite
    · exact reportable.finite entry old

/-- The values taken one after another without a syntax node stay reportable. -/
theorem reportable_takeEach {store : Store} {file : String} {language : Language}
    {metrics : List Metric} {values taken : List (String × Number)}
    (reportable : Reportable values)
    (returned : (takeEach store file language .null values metrics).1 = .ok taken) :
    Reportable taken := by
  induction metrics generalizing values with
  | nil =>
    cases returned
    exact reportable
  | cons metric metrics ih =>
    rw [takeEach] at returned
    split at returned
    · exact ih reportable returned
    · next measure found =>
      simp only at returned
      split at returned
      · exact nomatch returned
      · next value took =>
        exact ih (reportable.setValue metric.name (Measure.isFinite_of_take found took)) returned

theorem reportable_metricValues {store : Store} {file : String} {language : Language}
    {metrics : List Metric} {values : List (String × Number)}
    (returned : (metricValues store file language metrics .null).1 = .ok values) :
    Reportable values := by
  have start : Reportable [] :=
    ⟨List.nodup_nil, fun _ member => absurd member List.not_mem_nil⟩
  exact reportable_takeEach start returned

/-! ## What an analysis is made of -/

/-- What saving a report gives, if it was to be saved. -/
theorem saveReport_eq_ok {disk changed : Disk} {report : Report} {folder : Option Path}
    {path : Option Path} {lines : List LogLine}
    (saved : saveReport disk report folder = (changed, .ok path, lines)) :
    path = folder.map (Report.pathIn · report.fullPath) ∧
    ∀ target, path = some target → ∃ place, (report.save disk place).result = .ok target ∧
      changed = (report.save disk place).disk := by
  cases folder with
  | none =>
    cases saved
    exact ⟨rfl, nofun⟩
  | some place =>
    rw [saveReport] at saved
    simp only [Prod.mk.injEq] at saved
    obtain ⟨rfl, result, _⟩ := saved
    cases written : (report.save disk place).result with
    | error fault => rw [written] at result; exact nomatch result
    | ok target =>
      rw [written] at result
      obtain rfl := Except.ok.inj result
      refine ⟨congrArg some (Report.save_eq_ok written).1, fun other same => ?_⟩
      obtain rfl := Option.some.inj same
      exact ⟨place, written, rfl⟩

/-- An analysis has the report of its values and their classification, and its report was saved if
there is a folder for it. -/
theorem reportOn_eq_ok {thresholds : Thresholds} {folder : Option Path} {disk : Disk}
    {file : String} {language : Language} {values : List (String × Number)} {a : FileAnalysis}
    (done : (reportOn thresholds folder disk file language values).result = .ok a) :
    a.report = Report.ofValues file values ∧
    classify thresholds (values.map fun v => (v.1, .ofNumber v.2)) =
      .ok ⟨a.localFlags, a.highlighted⟩ ∧
    a.reportPath = folder.map (Report.pathIn · file) ∧
    ∀ path, a.reportPath = some path → ∃ place,
      (a.report.save disk place).result = .ok path ∧
      (reportOn thresholds folder disk file language values).disk =
        (a.report.save disk place).disk := by
  unfold reportOn at done ⊢
  simp only at done ⊢
  split at done
  · exact nomatch done
  · next changed path lines saved =>
    obtain ⟨named, written⟩ := saveReport_eq_ok saved
    split at done
    · exact nomatch done
    · next c classified =>
      obtain rfl := Except.ok.inj done
      exact ⟨rfl, classified, named, written⟩

/-- An analysis fails before anything is written, or it reports on the values of the metrics that
are chosen. -/
theorem analyse_cases (store : Store) (thresholds : Thresholds) (folder : Option Path) (disk : Disk)
    (order : Order) :
    (∃ fault, (analyse store thresholds folder disk order).result = .error fault ∧
      (analyse store thresholds folder disk order).disk = disk) ∨
    ∃ language metrics values,
      (metricValues store order.file language metrics order.node).1 = .ok values ∧
      (analyse store thresholds folder disk order).result =
        (reportOn thresholds (if order.save then folder else none) disk order.file language
          values).result ∧
      (analyse store thresholds folder disk order).disk =
        (reportOn thresholds (if order.save then folder else none) disk order.file language
          values).disk := by
  unfold analyse
  split
  · next fault _ => exact .inl ⟨fault, rfl, rfl⟩
  · next language _ =>
    split
    · next fault _ => exact .inl ⟨fault, rfl, rfl⟩
    · next metrics _ =>
      simp only
      split
      · next fault lines _ => exact .inl ⟨fault, rfl, rfl⟩
      · next values lines taken =>
        exact .inr ⟨language, metrics, values, congrArg Prod.fst taken, rfl, rfl⟩

/-- An analysis reports on the values of the metrics that are chosen. -/
theorem analyse_eq_ok {store : Store} {thresholds : Thresholds} {folder : Option Path} {disk : Disk}
    {order : Order} {a : FileAnalysis}
    (done : (analyse store thresholds folder disk order).result = .ok a) :
    ∃ language metrics values,
      (metricValues store order.file language metrics order.node).1 = .ok values ∧
      (reportOn thresholds (if order.save then folder else none) disk order.file language
        values).result = .ok a ∧
      (analyse store thresholds folder disk order).disk =
        (reportOn thresholds (if order.save then folder else none) disk order.file language
          values).disk := by
  rcases analyse_cases store thresholds folder disk order with
    ⟨fault, failed, _⟩ | ⟨language, metrics, values, taken, result, disks⟩
  · rw [failed] at done
    exact nomatch done
  · exact ⟨language, metrics, values, taken, result.symm.trans done, disks⟩

namespace Service

/-- A pass is refused before it does anything, or it is an analysis. -/
theorem analyze_cases (s : Service) (disk : Disk) (order : Order) :
    (∃ fault, (s.analyze disk order).result = .error fault ∧
      (s.analyze disk order).disk = disk) ∨
    ((s.analyze disk order).result =
        (analyse s.store s.thresholds s.resultsDir disk order).result ∧
      (s.analyze disk order).disk =
        (analyse s.store s.thresholds s.resultsDir disk order).disk) := by
  unfold analyze hold Slot.acquire
  cases locked : s.slot.locked with
  | true => exact .inl ⟨_, rfl, rfl⟩
  | false => exact .inr ⟨rfl, rfl⟩

/-- A pass that returns is an analysis with the store and the thresholds of the service. -/
theorem analyze_eq_ok {s : Service} {disk : Disk} {order : Order} {a : FileAnalysis}
    (done : (s.analyze disk order).result = .ok a) :
    (analyse s.store s.thresholds s.resultsDir disk order).result = .ok a ∧
    (s.analyze disk order).disk =
      (analyse s.store s.thresholds s.resultsDir disk order).disk := by
  rcases s.analyze_cases disk order with ⟨fault, failed, _⟩ | ⟨result, disks⟩
  · rw [failed] at done
    exact nomatch done
  · exact ⟨result.symm.trans done, disks⟩

/-- A pass without a syntax node has a report path exactly when its report is to be saved and there
is a folder for it. The file there is loaded as the report of the analysis, without a warning, and
the thresholds of the service give the values of that report the verdicts and the highlighted values
of the analysis. -/
theorem report_agrees {s : Service} {disk : Disk} {order : Order} {a : FileAnalysis}
    (bare : order.node = .null) (done : (s.analyze disk order).result = .ok a) :
    a.reportPath = (if order.save then s.resultsDir else none).map (Report.pathIn · order.file) ∧
    ∀ path, a.reportPath = some path →
      Report.load (s.analyze disk order).disk path = (.ok (some a.report), []) ∧
      classify s.thresholds (a.report.values.map fun v => (v.1, .ofNumber v.2)) =
        .ok ⟨a.localFlags, a.highlighted⟩ := by
  obtain ⟨analysed, disks⟩ := analyze_eq_ok done
  obtain ⟨language, metrics, values, taken, reported, disks'⟩ := analyse_eq_ok analysed
  obtain ⟨report, classified, named, written⟩ := reportOn_eq_ok reported
  rw [bare] at taken
  have reportable := reportable_metricValues taken
  refine ⟨named, fun path saved => ?_⟩
  obtain ⟨place, result, disks''⟩ := written path saved
  constructor
  · rw [disks, disks', disks'']
    refine Report.load_of_save (fun e member => ?_) result
    rw [report] at member
    obtain ⟨entry, present, rfl⟩ := List.mem_map.mp member
    exact reportable.finite entry present
  · rw [report, Report.values_ofValues order.file reportable.distinct]
    exact classified

/-- A service with a class of two methods that share a name, and low highlight thresholds. -/
def watchfulService : Service where
  store := Store.empty.put "src/Ledger.java" { groups := [{
    classes := [{ name := "Ledger", start := some ⟨0, 0⟩, stop := some ⟨11, 1⟩ }]
    methods := [
      { name := "post", usedNames := ["total"], bodyTags := ["if_statement", "case"] },
      { name := "check", usedNames := ["total"] },
      { name := "close" }] }] }
  thresholds := { highlight := ⟨.int 4, .int 11, .int 4⟩ }
  resultsDir := some ⟨"", ["out"]⟩

/-- A pass over the class has shares and a mean among its values; its report agrees with it. -/
theorem watchfulService_agrees :
    ∃ a, (watchfulService.analyze {} { file := "LEDGER.java" }).result = .ok a ∧
      a.reportPath = some ⟨"", ["out", "LEDGER.json"]⟩ ∧
      Report.load (watchfulService.analyze {} { file := "LEDGER.java" }).disk
        ⟨"", ["out", "LEDGER.json"]⟩ = (.ok (some a.report), []) ∧
      classify watchfulService.thresholds (a.report.values.map fun v => (v.1, .ofNumber v.2)) =
        .ok ⟨a.localFlags, a.highlighted⟩ := by
  have returns : (watchfulService.analyze {} { file := "LEDGER.java" }).result.isOk = true := by
    decide +kernel
  cases done : (watchfulService.analyze {} { file := "LEDGER.java" }).result with
  | error fault =>
    rw [done] at returns
    exact nomatch returns
  | ok a =>
    obtain ⟨named, agrees⟩ := report_agrees rfl done
    have place : Report.pathIn ⟨"", ["out"]⟩ "LEDGER.java" = ⟨"", ["out", "LEDGER.json"]⟩ := by
      decide +kernel
    have saved : a.reportPath = some ⟨"", ["out", "LEDGER.json"]⟩ := by
      rw [named, ← place]
      rfl
    exact ⟨a, rfl, saved, agrees _ saved⟩

end Service

end DesignGauge
