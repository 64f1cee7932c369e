import DesignGauge.Proofs.Measure.Reach
import DesignGauge.Proofs.Number.Range
import DesignGauge.Proofs.Report.Saving
import DesignGauge.Smell

/-!
# Classifying what was read

Verdicts are about eight metrics. The value of each is read as a double, and what cannot be read as
one counts as missing: a text or octets that spell no number, or a value of another kind. An integer
beyond the range of doubles is the one value that does not count as missing. It ends the
classification.

Results:
1. `double?_of_overflows`, `double?_of_not_overflows`: what becomes of one value.
2. `profile_inv`, `profile_fault_inv`: a profile needs all eight values, and fails as one of them.
3. `classify_of_convertible`, `classify_of_overflows`: classifying any readings.
4. `lookup_values_iff`: the values of a report by name.
5. `classify_report`: classifying any report.
-/

namespace DesignGauge

/-- Two steps one after the other fail exactly when the first one does, or the second one after
it. -/
theorem bind_eq_error_iff {ε α β : Type} {x : Except ε α} {f : α → Except ε β} {e : ε} :
    (x >>= f) = .error e ↔ x = .error e ∨ ∃ a, x = .ok a ∧ f a = .error e := by
  cases x with
  | error e' => simp [bind, Except.bind]
  | ok a => simp [bind, Except.bind]

/-- The double that a value is read as. What cannot be read as one counts as missing. -/
def Datum.asDouble? : Datum → Option Double
  | .float x => some x
  | .int i => Double.ofInt? i
  | .bool b => Double.ofInt? (if b then 1 else 0)
  | .text s => Reading.ofText? s
  | .octets s => Reading.ofOctets? s
  | _ => none

/-- The metrics that verdicts are about. -/
def Profile.metrics : List Metric := [.loc, .wmc, .tcc, .atfd, .woc, .nopa, .noam, .nom]

namespace Readings

/-- The value of a metric as a double, if it is there and can be read as one. -/
def value? (readings : Readings) (metric : Metric) : Option Double :=
  (readings.lookup metric.name).bind Datum.asDouble?

/-- The value of a metric is an integer beyond the range of doubles. -/
def Overflows (readings : Readings) (metric : Metric) : Prop :=
  ∃ i, readings.lookup metric.name = some (.int i) ∧ Double.overflowBound ≤ i.natAbs

/-- The values of all eight metrics, each of them missing if it cannot be read as a double. -/
def seen (readings : Readings) : Profile where
  loc := readings.value? .loc
  wmc := readings.value? .wmc
  tcc := readings.value? .tcc
  atfd := readings.value? .atfd
  woc := readings.value? .woc
  nopa := readings.value? .nopa
  noam := readings.value? .noam
  nom := readings.value? .nom

/-- Verdicts and highlighted values when whatever cannot be read as a double is missing. -/
def verdicts (t : Thresholds) (readings : Readings) : Classification :=
  ⟨readings.seen.flags t.smells, readings.seen.highlighted t.highlight⟩

variable {readings : Readings} {metric : Metric}

/-! ## One value -/

theorem double?_of_overflows (overflows : readings.Overflows metric) :
    readings.double? metric = .error .beyondDouble := by
  obtain ⟨i, found, beyond⟩ := overflows
  have none : Double.ofInt? i = none := by
    rw [← Option.not_isSome_iff_eq_none, Double.ofInt?_isSome_iff]
    omega
  simp only [double?, found, Datum.number?, none]

theorem double?_of_not_overflows (fits : ¬ readings.Overflows metric) :
    readings.double? metric = .ok (readings.value? metric) := by
  unfold double? value?
  cases found : readings.lookup metric.name with
  | none => rfl
  | some value =>
    cases value with
    | int i =>
      have within : i.natAbs < Double.overflowBound := by
        by_contra beyond
        exact fits ⟨i, found, not_lt.mp beyond⟩
      obtain ⟨x, double⟩ := Option.isSome_iff_exists.mp (Double.ofInt?_isSome_iff.mpr within)
      simp only [Datum.number?, double, Datum.asDouble?, Option.bind_some]
    | bool b => cases b <;> rfl
    | _ => rfl

/-- The integers among some values are in the range of doubles. -/
def Convertible (readings : Readings) : Prop :=
  ∀ entry ∈ readings, ∀ i, entry.2 = .int i → i.natAbs < Double.overflowBound

theorem Convertible.not_overflows (fit : readings.Convertible) (metric : Metric) :
    ¬ readings.Overflows metric := by
  rintro ⟨i, found, beyond⟩
  obtain ⟨front, back, split, _⟩ := List.lookup_eq_some_iff.mp found
  have present : (metric.name, Datum.int i) ∈ readings := by
    rw [split]
    exact List.mem_append_right _ List.mem_cons_self
  exact absurd (fit _ present i rfl) (not_lt.mpr beyond)

/-! ## The profile -/

/-- A profile needs all eight values. -/
theorem profile_inv {p : Profile} (done : readings.profile = .ok p)
    (judged : metric ∈ Profile.metrics) : ∃ x, readings.double? metric = .ok x := by
  simp only [profile, bind_eq_ok_iff] at done
  obtain ⟨loc, hasLoc, wmc, hasWmc, tcc, hasTcc, atfd, hasAtfd, woc, hasWoc, nopa, hasNopa, noam,
    hasNoam, nom, hasNom, _⟩ := done
  revert metric
  simp only [Profile.metrics, List.forall_mem_cons]
  exact ⟨⟨loc, hasLoc⟩, ⟨wmc, hasWmc⟩, ⟨tcc, hasTcc⟩, ⟨atfd, hasAtfd⟩, ⟨woc, hasWoc⟩,
    ⟨nopa, hasNopa⟩, ⟨noam, hasNoam⟩, ⟨nom, hasNom⟩, List.forall_mem_nil _⟩

/-- A profile fails as one of the values does. -/
theorem profile_fault_inv {fault : Fault} (failed : readings.profile = .error fault) :
    ∃ metric ∈ Profile.metrics, readings.double? metric = .error fault := by
  simp only [profile, bind_eq_error_iff] at failed
  rcases failed with loc | ⟨_, _, wmc | ⟨_, _, tcc | ⟨_, _, atfd | ⟨_, _, woc | ⟨_, _, nopa |
    ⟨_, _, noam | ⟨_, _, nom | ⟨_, _, impossible⟩⟩⟩⟩⟩⟩⟩⟩
  · exact ⟨.loc, by decide, loc⟩
  · exact ⟨.wmc, by decide, wmc⟩
  · exact ⟨.tcc, by decide, tcc⟩
  · exact ⟨.atfd, by decide, atfd⟩
  · exact ⟨.woc, by decide, woc⟩
  · exact ⟨.nopa, by decide, nopa⟩
  · exact ⟨.noam, by decide, noam⟩
  · exact ⟨.nom, by decide, nom⟩
  · cases impossible

theorem profile_of_convertible (fit : ∀ metric ∈ Profile.metrics, ¬ readings.Overflows metric) :
    readings.profile = .ok readings.seen := by
  have reads := fun metric judged => double?_of_not_overflows (fit metric judged)
  unfold profile
  rw [reads .loc (by decide), reads .wmc (by decide), reads .tcc (by decide),
    reads .atfd (by decide), reads .woc (by decide), reads .nopa (by decide),
    reads .noam (by decide), reads .nom (by decide)]
  rfl

theorem profile_of_overflows (judged : metric ∈ Profile.metrics)
    (overflows : readings.Overflows metric) : readings.profile = .error .beyondDouble := by
  cases ended : readings.profile with
  | ok p =>
    obtain ⟨x, double⟩ := profile_inv ended judged
    rw [double?_of_overflows overflows] at double
    cases double
  | error fault =>
    obtain ⟨other, _, failed⟩ := profile_fault_inv ended
    by_cases beyond : readings.Overflows other
    · rw [double?_of_overflows beyond, Except.error.injEq] at failed
      rw [failed]
    · rw [double?_of_not_overflows beyond] at failed
      cases failed

end Readings

/-! ## Classifying -/

theorem classify_of_convertible (t : Thresholds) {readings : Readings}
    (fit : ∀ metric ∈ Profile.metrics, ¬ readings.Overflows metric) :
    classify t readings = .ok (readings.verdicts t) := by
  unfold classify
  rw [Readings.profile_of_convertible fit]
  rfl

theorem classify_of_overflows (t : Thresholds) {readings : Readings} {metric : Metric}
    (judged : metric ∈ Profile.metrics) (overflows : readings.Overflows metric) :
    classify t readings = .error .beyondDouble := by
  unfold classify
  rw [Readings.profile_of_overflows judged overflows]
  rfl

namespace Report

/-- The values of a report as readings. -/
def readings (r : Report) : Readings := r.values.map fun v => (v.1, .ofNumber v.2)

/-- A name has a value in a report: the last entry of this name gives it. -/
def HasValue (r : Report) (name : String) (value : Number) : Prop :=
  ∃ front back, r.metrics = front ++ ⟨name, value⟩ :: back ∧ ∀ e ∈ back, e.name ≠ name

theorem lookup_setValue (name other : String) (value : Number) (values : List (String × Number)) :
    (setValue name value values).lookup other =
      if other == name then some value else values.lookup other := by
  induction values with
  | nil =>
    rw [setValue, List.lookup_cons, List.lookup_nil]
    cases other == name <;> rfl
  | cons entry values ih =>
    obtain ⟨key, old⟩ := entry
    rw [setValue]
    cases same : key == name with
    | true =>
      rw [if_pos rfl, beq_iff_eq.mp same, List.lookup_cons, List.lookup_cons]
      cases other == name <;> rfl
    | false =>
      rw [if_neg Bool.false_ne_true, List.lookup_cons, List.lookup_cons, ih]
      cases here : other == key with
      | true =>
        rw [beq_iff_eq.mp here, same]
        rfl
      | false => rfl

/-- After values were set one by one, a name has the value that was set last, or the one it had
before. -/
theorem lookup_foldl_setValue (name : String) (entries : List MetricEntry)
    (values : List (String × Number)) :
    (entries.foldl (fun acc e => setValue e.name e.value acc) values).lookup name =
      ((entries.reverse.find? (·.name == name)).map MetricEntry.value).or (values.lookup name) := by
  induction entries generalizing values with
  | nil => rfl
  | cons e entries ih =>
    rw [List.foldl_cons, ih, lookup_setValue, List.reverse_cons, List.find?_append, Bool.beq_comm]
    cases entries.reverse.find? (·.name == name) with
    | some later => rfl
    | none => cases same : e.name == name <;> simp [same]

/-- The values of a report are those of the last entries of their names. -/
theorem lookup_values_iff {r : Report} {name : String} {value : Number} :
    r.values.lookup name = some value ↔ r.HasValue name value := by
  rw [values, lookup_foldl_setValue, List.lookup_nil, Option.or_none, Option.map_eq_some_iff]
  simp only [Measure.find?_reverse_eq_some_iff, beq_iff_eq, beq_eq_false_iff_ne]
  constructor
  · rintro ⟨e, ⟨rfl, front, back, split, others⟩, rfl⟩
    exact ⟨front, back, split, others⟩
  · rintro ⟨front, back, split, others⟩
    exact ⟨_, ⟨rfl, front, back, split, others⟩, rfl⟩

theorem lookup_readings (r : Report) (name : String) :
    r.readings.lookup name = (r.values.lookup name).map .ofNumber := by
  unfold readings
  induction r.values with
  | nil => rfl
  | cons entry values ih =>
    rw [List.map_cons, List.lookup_cons, List.lookup_cons, ih]
    cases name == entry.1 <;> rfl

theorem overflows_readings_iff {r : Report} {metric : Metric} : r.readings.Overflows metric ↔
    ∃ i, r.HasValue metric.name (.int i) ∧ Double.overflowBound ≤ i.natAbs := by
  have whole (i : Int) : r.readings.lookup metric.name = some (.int i) ↔
      r.HasValue metric.name (.int i) := by
    rw [lookup_readings, Option.map_eq_some_iff, ← lookup_values_iff]
    constructor
    · rintro ⟨value, found, same⟩
      cases value with
      | int j => rwa [← Datum.int.inj same]
      | float x => cases same
    · intro found
      exact ⟨_, found, rfl⟩
  simp only [Readings.Overflows, whole]

end Report

/-- A report is classified with every value that has no double counting as missing exactly if it has
no such value: no integer from `2 ^ 1024 - 2 ^ 970` on in magnitude is the value of one of the eight
metrics. Otherwise classifying it fails, whatever the thresholds. -/
theorem classify_report (t : Thresholds) (r : Report) :
    (classify t r.readings = .ok (r.readings.verdicts t) ↔
      ∀ metric ∈ Profile.metrics, ∀ i, r.HasValue metric.name (.int i) →
        i.natAbs < Double.overflowBound) ∧
    ∀ fault, classify t r.readings = .error fault ↔
      fault = .beyondDouble ∧ ∃ metric ∈ Profile.metrics, ∃ i,
        r.HasValue metric.name (.int i) ∧ Double.overflowBound ≤ i.natAbs := by
  by_cases fit : ∀ metric ∈ Profile.metrics, ¬ r.readings.Overflows metric
  · have returns := classify_of_convertible t fit
    simp only [Report.overflows_readings_iff, not_exists, not_and, not_le] at fit
    refine ⟨⟨fun _ => fit, fun _ => returns⟩, fun fault => ⟨fun failed => ?_, ?_⟩⟩
    · rw [returns] at failed
      cases failed
    · rintro ⟨_, metric, judged, i, given, beyond⟩
      exact absurd (fit metric judged i given) (not_lt.mpr beyond)
  · simp only [not_forall, not_not] at fit
    obtain ⟨metric, judged, overflows⟩ := fit
    have fails := classify_of_overflows t judged overflows
    obtain ⟨i, given, beyond⟩ := Report.overflows_readings_iff.mp overflows
    refine ⟨⟨fun returned => ?_, fun fits => ?_⟩, fun fault => ⟨fun failed => ⟨?_, ?_⟩, ?_⟩⟩
    · rw [fails] at returned
      cases returned
    · exact absurd (fits metric judged i given) (not_lt.mpr beyond)
    · rw [fails, Except.error.injEq] at failed
      exact failed.symm
    · exact ⟨metric, judged, i, given, beyond⟩
    · rintro ⟨rfl, _⟩
      exact fails

/-- A class of absurd length. -/
def endlessReport : Report where
  fullPath := "Endless.java"
  folderName := "Endless.java"
  metrics := [⟨"LOC", .int (10 ^ 400)⟩, ⟨"WMC", .int 50⟩]

/-- The report is read from its written form, and cannot be classified, though without its length
the class has no smell. -/
theorem endless_not_classified :
    Report.read endlessReport.write = .fits endlessReport ∧
    classify {} endlessReport.readings = .error .beyondDouble ∧
    (endlessReport.readings.verdicts {}).flags = {} := by
  have given : endlessReport.HasValue Metric.loc.name (.int (10 ^ 400)) :=
    ⟨[], [⟨"WMC", .int 50⟩], rfl, by decide⟩
  have beyond : Double.overflowBound ≤ (10 ^ 400 : Int).natAbs := by decide +kernel
  have overflows : endlessReport.readings.Overflows .loc :=
    Report.overflows_readings_iff.mpr ⟨_, given, beyond⟩
  refine ⟨endlessReport.read_write, classify_of_overflows {} (by decide) overflows, ?_⟩
  decide +kernel

end DesignGauge
