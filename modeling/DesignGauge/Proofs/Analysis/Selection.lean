import DesignGauge.Analysis.Pass
import DesignGauge.Proofs.Measure.Alike
import DesignGauge.Proofs.Measure.Finite
import DesignGauge.Proofs.Report.Saving
import DesignGauge.Proofs.Text.LowerCase

/-!
# The metrics that are asked for

Metrics are asked for by name, in any letter case and as often as one likes. A name that is no
metric's is refused. Of the others those that the language measures are taken once each, in the
order in which they are first asked for, and no value depends on what else is asked for; without a
name all metrics of the language are taken. Two values can be beyond what the taking can handle: a
number of lines that has too many digits to be written down, and a mean weight beyond the doubles.

Results:
1. `Metric.parse?_eq_some_iff`, `namedMetrics_eq_ok_iff`, `namedMetrics_eq_error`: which names are
   metrics.
2. `takeEach_of_each`, `take_of_takeEach`, `exists_of_takeEach_error`: the values taken one after
   another.
3. `take_eq_error_iff`: which values cannot be taken.
4. `requested_taken_once`: what asking for metrics gives.
-/

namespace DesignGauge

/-! ## Names of metrics -/

namespace Metric

/-- A text is the name of a metric up to the case of its letters. -/
def IsSpelledBy (m : Metric) (name : String) : Prop :=
  name.toList.map Char.toLower = m.name.toList.map Char.toLower

theorem mem_all (m : Metric) : m ∈ all := by
  cases m <;> decide

theorem name_injective : Function.Injective name := by
  have distinct : (all.map name).Nodup := by decide
  intro m m' same
  exact List.inj_on_of_nodup_map distinct (mem_all m) (mem_all m') same

theorem lower_name_eq_iff {m : Metric} {text : String} :
    Text.lower m.name = Text.lower text ↔ m.IsSpelledBy text := by
  have plain : ∀ c ∈ m.name.toList.map Char.toLower, Text.isPlain c = true := by
    cases m <;> exact List.all_eq_true.mp rfl
  rw [eq_comm, Text.lower, Text.lower, String.ofList_inj, Text.lowerChars_eq_iff plain]
  rfl

/-- No text is the name of two metrics. -/
theorem eq_of_isSpelledBy {m m' : Metric} {text : String} (spelled : m.IsSpelledBy text)
    (spelled' : m'.IsSpelledBy text) : m = m' := by
  have distinct : (all.map fun m => m.name.toList.map Char.toLower).Nodup := by decide
  exact List.inj_on_of_nodup_map distinct (mem_all m) (mem_all m') (spelled.symm.trans spelled')

theorem isSpelledBy_of_parse? {m : Metric} {text : String} (parsed : parse? text = some m) :
    m.IsSpelledBy text := by
  rw [parse?, List.find?_eq_some_iff_append] at parsed
  exact lower_name_eq_iff.mp (beq_iff_eq.mp parsed.1)

theorem parse?_eq_some_iff {m : Metric} {text : String} :
    parse? text = some m ↔ m.IsSpelledBy text := by
  constructor
  · exact isSpelledBy_of_parse?
  · intro spelled
    have found : (parse? text).isSome = true := by
      rw [parse?, List.find?_isSome]
      exact ⟨m, mem_all m, beq_iff_eq.mpr (lower_name_eq_iff.mpr spelled)⟩
    obtain ⟨m', parsed⟩ := Option.isSome_iff_exists.mp found
    rw [parsed, eq_of_isSpelledBy (isSpelledBy_of_parse? parsed) spelled]

theorem parse?_eq_none_iff {text : String} :
    parse? text = none ↔ ∀ m : Metric, ¬ m.IsSpelledBy text := by
  simp only [Option.eq_none_iff_forall_ne_some, Ne, parse?_eq_some_iff]

end Metric

theorem namedMetrics_eq_ok_iff {names : List String} {metrics : List Metric} :
    namedMetrics names = .ok metrics ↔
      List.Forall₂ (fun name metric => metric.IsSpelledBy name) names metrics := by
  induction names generalizing metrics with
  | nil =>
    rw [namedMetrics, List.forall₂_nil_left_iff, Except.ok.injEq, eq_comm]
  | cons name rest ih =>
    rw [namedMetrics, List.forall₂_cons_left_iff]
    cases parsed : Metric.parse? name with
    | none =>
      have unknown := Metric.parse?_eq_none_iff.mp parsed
      simp [unknown]
    | some metric =>
      have spelled := Metric.parse?_eq_some_iff.mp parsed
      constructor
      · intro accepted
        cases later : namedMetrics rest with
        | error fault =>
          rw [later] at accepted
          cases accepted
        | ok others =>
          rw [later] at accepted
          cases accepted
          exact ⟨metric, others, spelled, ih.mp later, rfl⟩
      · rintro ⟨metric', others, spelled', later, rfl⟩
        rw [ih.mpr later, Metric.eq_of_isSpelledBy spelled spelled']
        rfl

theorem namedMetrics_eq_error {names : List String} {fault : Fault}
    (refused : namedMetrics names = .error fault) :
    ∃ name ∈ names, (∀ m : Metric, ¬ m.IsSpelledBy name) ∧ fault = .unknownMetric name := by
  induction names with
  | nil => cases refused
  | cons name rest ih =>
    rw [namedMetrics] at refused
    cases parsed : Metric.parse? name with
    | none =>
      rw [parsed] at refused
      cases refused
      exact ⟨name, List.mem_cons_self, Metric.parse?_eq_none_iff.mp parsed, rfl⟩
    | some metric =>
      rw [parsed] at refused
      cases later : namedMetrics rest with
      | error other =>
        rw [later] at refused
        cases refused
        obtain ⟨name', member, unknown⟩ := ih later
        exact ⟨name', List.mem_cons_of_mem _ member, unknown⟩
      | ok metrics =>
        rw [later] at refused
        cases refused

/-- Without names the choice is the metrics of the language, and otherwise those of the names. -/
theorem chooseMetrics_eq_ok {language : Language} {names : List String} {metrics : List Metric}
    (chosen : chooseMetrics language names = .ok metrics) :
    (names = [] → metrics = metricsOf language) ∧
    (names ≠ [] → List.Forall₂ (fun name metric => metric.IsSpelledBy name) names metrics) := by
  unfold chooseMetrics at chosen
  cases names with
  | nil =>
    cases chosen
    exact ⟨fun _ => rfl, fun some => absurd rfl some⟩
  | cons name rest =>
    exact ⟨fun none => absurd none (List.cons_ne_nil _ _),
      fun _ => namedMetrics_eq_ok_iff.mp chosen⟩

theorem chooseMetrics_eq_error {language : Language} {names : List String} {fault : Fault}
    (refused : chooseMetrics language names = .error fault) :
    ∃ name ∈ names, (∀ m : Metric, ¬ m.IsSpelledBy name) ∧ fault = .unknownMetric name := by
  unfold chooseMetrics at refused
  cases names with
  | nil => cases refused
  | cons name rest => exact namedMetrics_eq_error refused

/-! ## Values taken one after another -/

/-- The metrics that are taken: those that the language measures, each where it is first asked
for. -/
def requested (language : Language) (metrics : List Metric) : List Metric :=
  (metrics.filter (· ∈ metricsOf language)).eraseDups

theorem mem_metricsOf_iff {language : Language} {metric : Metric} :
    metric ∈ metricsOf language ↔ ∃ measure, Measure.find? metric language = some measure := by
  rw [← Option.isSome_iff_exists, Measure.find?, List.find?_isSome, metricsOf, List.mem_map]
  simp only [beq_iff_eq]

section Taking

variable {store : Store} {file : String} {language : Language} {node : Datum}

/-- A metric's name with its value. -/
def entryOf (value : Metric → Number) (metric : Metric) : String × Number :=
  (metric.name, value metric)

theorem setValue_of_mem {value : Metric → Number} {metric : Metric} {done : List Metric}
    (member : metric ∈ done) :
    Report.setValue metric.name (value metric) (done.map (entryOf value)) =
      done.map (entryOf value) := by
  induction done with
  | nil => exact absurd member List.not_mem_nil
  | cons first done ih =>
    rw [List.map_cons, entryOf, Report.setValue]
    split
    · next same => rw [Metric.name_injective (beq_iff_eq.mp same)]
    · next other =>
      have later := (List.mem_cons.mp member).resolve_left fun same =>
        other (beq_iff_eq.mpr (congrArg Metric.name same.symm))
      rw [ih later]

theorem setValue_of_not_mem {value : Metric → Number} {metric : Metric} {done : List Metric}
    (new : metric ∉ done) :
    Report.setValue metric.name (value metric) (done.map (entryOf value)) =
      (done ++ [metric]).map (entryOf value) := by
  rw [Report.setValue_of_new, List.map_append]
  · rfl
  · rw [List.map_map]
    intro member
    obtain ⟨other, present, same⟩ := List.mem_map.mp member
    exact new (Metric.name_injective same ▸ present)

theorem filter_not_mem_append (done : List Metric) (metric : Metric) (metrics : List Metric) :
    metrics.filter (· ∉ done ++ [metric]) =
      (metrics.filter (· ∉ done)).filter fun other => !other == metric := by
  rw [List.filter_filter]
  refine List.filter_congr fun other _ => ?_
  by_cases same : other = metric <;> simp [same]

/-- If every measure gives a value, each metric that is measured and not done yet has its value
behind those that are, in the order of the first requests. -/
theorem takeEach_of_each {value : Metric → Number} {metrics : List Metric}
    (each : ∀ metric ∈ metrics, ∀ measure, Measure.find? metric language = some measure →
      measure.take node (some store) file = .ok (value metric)) (done : List Metric) :
    (takeEach store file language node (done.map (entryOf value)) metrics).1 =
      .ok ((done ++ ((metrics.filter (· ∈ metricsOf language)).filter (· ∉ done)).eraseDups).map
        (entryOf value)) := by
  induction metrics generalizing done with
  | nil => simp [takeEach]
  | cons metric rest ih =>
    have eachLater := fun m member => each m (List.mem_cons_of_mem metric member)
    rw [takeEach]
    cases found : Measure.find? metric language with
    | none =>
      have unmeasured : metric ∉ metricsOf language := by
        rw [mem_metricsOf_iff, found]
        rintro ⟨_, impossible⟩
        cases impossible
      rw [List.filter_cons_of_neg (by simpa using unmeasured)]
      exact ih eachLater done
    | some measure =>
      have measured : metric ∈ metricsOf language := mem_metricsOf_iff.mpr ⟨measure, found⟩
      rw [List.filter_cons_of_pos (by simpa using measured)]
      simp only [each metric List.mem_cons_self measure found]
      by_cases member : metric ∈ done
      · rw [setValue_of_mem member, List.filter_cons_of_neg (by simpa using member)]
        exact ih eachLater done
      · rw [setValue_of_not_mem member, List.filter_cons_of_pos (by simpa using member),
          List.eraseDups_cons, ih eachLater, List.append_assoc, filter_not_mem_append]
        rfl

/-- Where values are returned, every measure gave one. -/
theorem take_of_takeEach {metrics : List Metric} {values taken : List (String × Number)}
    (returned : (takeEach store file language node values metrics).1 = .ok taken)
    {metric : Metric} (member : metric ∈ metrics) {measure : Measure}
    (found : Measure.find? metric language = some measure) :
    ∃ value, measure.take node (some store) file = .ok value := by
  induction metrics generalizing values with
  | nil => exact absurd member List.not_mem_nil
  | cons first rest ih =>
    rw [takeEach] at returned
    split at returned
    · next unmeasured =>
      rcases List.mem_cons.mp member with rfl | later
      · cases unmeasured.symm.trans found
      · exact ih returned later
    · next measure' found' =>
      simp only at returned
      split at returned
      · cases returned
      · next value taken =>
        rcases List.mem_cons.mp member with rfl | later
        · obtain rfl := Option.some.inj (found'.symm.trans found)
          exact ⟨value, taken⟩
        · exact ih returned later

/-- Where no values are returned, one of the measures failed. -/
theorem exists_of_takeEach_error {metrics : List Metric} {values : List (String × Number)}
    {fault : Fault} (failed : (takeEach store file language node values metrics).1 = .error fault) :
    ∃ metric ∈ metrics, ∃ measure, Measure.find? metric language = some measure ∧
      measure.take node (some store) file = .error fault := by
  induction metrics generalizing values with
  | nil => cases failed
  | cons first rest ih =>
    have later {values : List (String × Number)}
        (failed : (takeEach store file language node values rest).1 = .error fault) :
        ∃ metric ∈ first :: rest, ∃ measure, Measure.find? metric language = some measure ∧
          measure.take node (some store) file = .error fault := by
      obtain ⟨metric, member, failure⟩ := ih failed
      exact ⟨metric, List.mem_cons_of_mem _ member, failure⟩
    rw [takeEach] at failed
    split at failed
    · exact later failed
    · next measure found =>
      simp only at failed
      split at failed
      · next other broken =>
        cases failed
        exact ⟨first, List.mem_cons_self, measure, found, broken⟩
      · exact later failed

end Taking

/-! ## Values that cannot be taken -/

/-- An integer has more digits than can be written down. -/
def HasTooManyDigits (i : Int) : Prop := Nat.pow 10 Reading.digitLimit ≤ i.natAbs

/-- Why a metric of a file has no value: the number of lines has too many digits, or the mean weight
is beyond the doubles. -/
inductive Unmeasurable (v : ClassView) : Metric → Fault → Prop where
  | lines {c : ClassDecl} {start stop : Position} :
      v.primary? = some c → c.start = some start → c.stop = some stop →
      HasTooManyDigits (stop.row - start.row + 1) →
      Unmeasurable v .loc .tooManyDigits
  | mean : Measure.concrete v ≠ [] →
      Double.ofQuotient? (Measure.weightedMethods v) (Measure.concrete v).length = none →
      Unmeasurable v .amw .quotientBeyondDouble

namespace Measure

/-- Without a syntax node a measure fails for these reasons only. -/
def FailsAsStated (m : Measure) : Prop :=
  ∀ e : Evidence, e.node = .null → ∀ fault, m.value e = .error fault ↔
    Unmeasurable e.view m.metric fault

theorem not_unmeasurable {v : ClassView} {metric : Metric} {fault : Fault}
    (plain : metric ≠ .loc ∧ metric ≠ .amw) : ¬ Unmeasurable v metric fault := by
  rintro (_ | _)
  · exact plain.1 rfl
  · exact plain.2 rfl

theorem failsAsStated_counting {metric : Metric} (plain : metric ≠ .loc ∧ metric ≠ .amw)
    (count : ClassView → Nat) (trace : ClassView → List String) :
    (counting metric count trace).FailsAsStated := by
  intro e _ fault
  refine iff_of_false (fun failed => ?_) (not_unmeasurable plain)
  cases failed

theorem failsAsStated_rating {metric : Metric} (plain : metric ≠ .loc ∧ metric ≠ .amw)
    (rate : ClassView → Number) (trace : ClassView → List String) :
    (rating metric rate trace).FailsAsStated := by
  intro e _ fault
  refine iff_of_false (fun failed => ?_) (not_unmeasurable plain)
  cases failed

theorem failsAsStated_depth (trace : Evidence → List String) :
    (Measure.mk .dit (fun e => .ok (.ofNat (depth e))) trace).FailsAsStated := by
  intro e _ fault
  refine iff_of_false (fun failed => ?_) (@not_unmeasurable e.view .dit fault (by decide))
  cases failed

theorem writable_int_eq_error_iff {i : Int} {fault : Fault} :
    writable (.int i) = .error fault ↔ HasTooManyDigits i ∧ fault = .tooManyDigits := by
  rw [writable, HasTooManyDigits]
  split
  · next short =>
    refine iff_of_false (fun failed => ?_) fun long => Nat.not_le.mpr short long.1
    cases failed
  · next long =>
    rw [Except.error.injEq, eq_comm, and_iff_right (Nat.not_lt.mp long)]

theorem lines_of_rows {e : Evidence} (bare : e.node = .null) {c : ClassDecl}
    {start stop : Position} (primary : e.view.primary? = some c) (first : c.start = some start)
    (last : c.stop = some stop) : lines e = writable (.int (stop.row - start.row + 1)) := by
  have span : e.view.primary?.bind classSpan = some (.int start.row, .int stop.row) := by
    rw [primary, Option.bind_some, classSpan, first, last]
  have counted : lineCount (.int start.row) (.int stop.row) =
      .ok (.int (stop.row - start.row + 1)) := rfl
  rw [lines, spanIn_of_bare bare, span]
  simp only [bind, Except.bind, counted]

/-- The lines of a class cannot be written down exactly if its rows are that far apart. -/
theorem failsAsStated_lines (trace : Evidence → List String) :
    (Measure.mk .loc lines trace).FailsAsStated := by
  intro e bare fault
  show lines e = .error fault ↔ Unmeasurable e.view .loc fault
  constructor
  · intro failed
    cases span : e.view.primary?.bind classSpan with
    | none =>
      rw [lines, spanIn_of_bare bare, span] at failed
      cases failed
    | some rows =>
      obtain ⟨c, primary, here⟩ := Option.bind_eq_some_iff.mp span
      unfold classSpan at here
      split at here
      · next start stop first last =>
        rw [lines_of_rows bare primary first last, writable_int_eq_error_iff] at failed
        obtain ⟨long, rfl⟩ := failed
        exact .lines primary first last long
      · cases here
  · rintro ⟨primary, first, last, long⟩
    rw [lines_of_rows bare primary first last]
    exact writable_int_eq_error_iff.mpr ⟨long, rfl⟩

theorem failsAsStated_mean (trace : Evidence → List String) :
    (Measure.mk .amw (fun e => meanWeight e.view) trace).FailsAsStated := by
  intro e _ fault
  show meanWeight e.view = .error fault ↔ Unmeasurable e.view .amw fault
  constructor
  · intro failed
    unfold meanWeight at failed
    split at failed
    · cases failed
    · next some =>
      split at failed
      · cases failed
      · next beyond =>
        cases failed
        exact .mean (fun none => some (List.isEmpty_iff.mpr none)) beyond
  · rintro (_ | ⟨some, beyond⟩)
    rw [meanWeight, if_neg (fun none => some (List.isEmpty_iff.mp none)), beyond]

theorem failsAsStated_of_mem {language : Language} {m : Measure}
    (member : m ∈ ofLanguage language) : m.FailsAsStated := by
  revert m
  cases language with
  | java =>
    simp (disch := decide) only [ofLanguage, java, List.forall_mem_cons, failsAsStated_counting,
      failsAsStated_rating, failsAsStated_depth, failsAsStated_lines, failsAsStated_mean, true_and,
      List.not_mem_nil, false_implies, implies_true]
  | python =>
    simp (disch := decide) only [ofLanguage, python, List.forall_mem_cons, failsAsStated_counting,
      failsAsStated_lines, true_and, List.not_mem_nil, false_implies, implies_true]

/-- The values of a file that cannot be taken. -/
theorem take_eq_error_iff {metric : Metric} {language : Language} {m : Measure}
    (found : find? metric language = some m) {store : Option Store} {file : String}
    {fault : Fault} :
    m.take .null store file = .error fault ↔ Unmeasurable (viewOf store file) metric fault := by
  have same : m.metric = metric :=
    beq_iff_eq.mp (List.find?_some (p := fun m : Measure => m.metric == metric) found)
  rw [← same]
  exact failsAsStated_of_mem (List.mem_of_find?_eq_some found) (evidence .null store file) rfl fault

end Measure

/-! ## What asking for metrics gives -/

section Asking

variable {store : Store} {file : String} {language : Language} {metrics : List Metric}

/-- The value of a metric by itself, 0 if it has none. -/
def valueAlone (store : Store) (file : String) (language : Language) (metric : Metric) : Number :=
  ((Measure.find? metric language).bind fun measure =>
    (measure.take .null (some store) file).toOption).getD (.int 0)

theorem mem_requested_iff {metric : Metric} :
    metric ∈ requested language metrics ↔ metric ∈ metrics ∧ metric ∈ metricsOf language := by
  rw [requested, List.mem_eraseDups, List.mem_filter, decide_eq_true_iff]

theorem requested_all (language : Language) :
    requested language (metricsOf language) = metricsOf language := by
  cases language <;> rfl

theorem metricsOf_ne_nil (language : Language) : metricsOf language ≠ [] := by
  cases language <;> exact List.cons_ne_nil _ _

theorem metricValues_of_ne_nil (asked : metrics ≠ []) :
    (metricValues store file language metrics .null).1 =
      (takeEach store file language .null [] metrics).1 := by
  rw [metricValues, if_neg (by simpa using asked)]
  rfl

theorem metricValues_nil : metricValues store file language [] .null =
    metricValues store file language (metricsOf language) .null := by
  cases language <;> rfl

/-- The values that are returned are those that the metrics have by themselves. -/
theorem eq_map_of_metricValues (asked : metrics ≠ []) {values : List (String × Number)}
    (returned : (metricValues store file language metrics .null).1 = .ok values) :
    values = (requested language metrics).map (entryOf (valueAlone store file language)) := by
  rw [metricValues_of_ne_nil asked] at returned
  have each : ∀ metric ∈ metrics, ∀ measure, Measure.find? metric language = some measure →
      measure.take .null (some store) file = .ok (valueAlone store file language metric) := by
    intro metric member measure found
    obtain ⟨value, taken⟩ := take_of_takeEach returned member found
    rw [valueAlone, found, Option.bind_some, taken]
    rfl
  have all := takeEach_of_each each []
  rw [List.map_nil, returned] at all
  rw [Except.ok.inj all, requested]
  simp

theorem unmeasurable_of_metricValues (asked : metrics ≠ []) {fault : Fault}
    (failed : (metricValues store file language metrics .null).1 = .error fault) :
    ∃ metric ∈ requested language metrics,
      Unmeasurable (viewOf (some store) file) metric fault := by
  rw [metricValues_of_ne_nil asked] at failed
  obtain ⟨metric, member, measure, found, broken⟩ := exists_of_takeEach_error failed
  exact ⟨metric, mem_requested_iff.mpr ⟨member, mem_metricsOf_iff.mpr ⟨measure, found⟩⟩,
    (Measure.take_eq_error_iff found).mp broken⟩

/-- Values are returned exactly if each of the metrics that are taken has one. -/
theorem metricValues_returns_iff (asked : metrics ≠ []) :
    (∃ values, (metricValues store file language metrics .null).1 = .ok values) ↔
      ∀ metric ∈ requested language metrics, ∀ fault,
        ¬ Unmeasurable (viewOf (some store) file) metric fault := by
  constructor
  · rintro ⟨values, returned⟩ metric member fault unmeasurable
    rw [metricValues_of_ne_nil asked] at returned
    obtain ⟨present, measured⟩ := mem_requested_iff.mp member
    obtain ⟨measure, found⟩ := mem_metricsOf_iff.mp measured
    obtain ⟨value, taken⟩ := take_of_takeEach returned present found
    rw [(Measure.take_eq_error_iff found).mpr unmeasurable] at taken
    cases taken
  · intro measurable
    cases result : (metricValues store file language metrics .null).1 with
    | ok values => exact ⟨values, rfl⟩
    | error fault =>
      obtain ⟨metric, member, unmeasurable⟩ := unmeasurable_of_metricValues asked result
      exact absurd unmeasurable (measurable metric member fault)

theorem requested_singleton {metric : Metric} (measured : metric ∈ metricsOf language) :
    requested language [metric] = [metric] := by
  simp [requested, measured, List.eraseDups_cons]

/-- What one of several metrics that return gives by itself. -/
theorem metricValues_singleton (asked : metrics ≠ []) {values : List (String × Number)}
    (returned : (metricValues store file language metrics .null).1 = .ok values)
    {metric : Metric} (member : metric ∈ requested language metrics) :
    (metricValues store file language [metric] .null).1 =
      .ok [entryOf (valueAlone store file language) metric] := by
  have single := requested_singleton (mem_requested_iff.mp member).2
  have measurable := (metricValues_returns_iff asked).mp ⟨values, returned⟩ metric member
  have one : [metric] ≠ [] := List.cons_ne_nil _ _
  obtain ⟨own, returns⟩ :
      ∃ own, (metricValues store file language [metric] .null).1 = .ok own := by
    rw [metricValues_returns_iff one, single]
    intro other present
    rwa [List.mem_singleton.mp present]
  rw [returns, eq_map_of_metricValues one returns, single]
  rfl

theorem mem_entries_iff {value : Metric → Number} {metric : Metric} (member : metric ∈ metrics)
    {number : Number} :
    (metric.name, number) ∈ metrics.map (entryOf value) ↔ value metric = number := by
  constructor
  · intro present
    obtain ⟨other, _, same⟩ := List.mem_map.mp present
    obtain ⟨names, values⟩ := Prod.mk.inj same
    rw [← Metric.name_injective names, values]
  · rintro rfl
    exact List.mem_map_of_mem member

theorem lookup_entries {value : Metric → Number} {metric : Metric} (member : metric ∈ metrics) :
    (metrics.map (entryOf value)).lookup metric.name = some (value metric) := by
  induction metrics with
  | nil => exact absurd member List.not_mem_nil
  | cons first rest ih =>
    rw [List.map_cons, entryOf, List.lookup_cons]
    by_cases same : metric = first
    · simp [same]
    · have other : (metric.name == first.name) = false :=
        beq_eq_false_iff_ne.mpr fun names => same (Metric.name_injective names)
      rw [other]
      exact ih ((List.mem_cons.mp member).resolve_left same)

end Asking

/-- The values of metrics that were asked for: one for each metric that is taken, in order, which is
the value that it has by itself and among all metrics of the language. -/
structure OnceEach (store : Store) (file : String) (language : Language) (metrics : List Metric)
    (values : List (String × Number)) : Prop where
  names : values.map Prod.fst = (requested language metrics).map Metric.name
  report : (Report.ofValues file values).metrics.map (fun e => (e.name, e.value)) = values
  alone : ∀ metric ∈ requested language metrics, ∀ value, (metric.name, value) ∈ values ↔
    (metricValues store file language [metric] .null).1 = .ok [(metric.name, value)]
  common : ∀ all, (metricValues store file language [] .null).1 = .ok all →
    ∀ entry ∈ values, all.lookup entry.1 = some entry.2

theorem onceEach_of_metricValues {store : Store} {file : String} {language : Language}
    {metrics : List Metric} (asked : metrics ≠ []) {values : List (String × Number)}
    (returned : (metricValues store file language metrics .null).1 = .ok values) :
    OnceEach store file language metrics values where
  names := by
    rw [eq_map_of_metricValues asked returned, List.map_map]
    rfl
  report := by
    rw [Report.ofValues, List.map_map]
    exact List.map_id _
  alone metric member value := by
    rw [eq_map_of_metricValues asked returned, mem_entries_iff member,
      metricValues_singleton asked returned member, entryOf, Except.ok.injEq, List.cons.injEq,
      Prod.mk.injEq]
    simp
  common all together entry member := by
    rw [metricValues_nil] at together
    rw [eq_map_of_metricValues (metricsOf_ne_nil language) together, requested_all]
    rw [eq_map_of_metricValues asked returned] at member
    obtain ⟨metric, present, rfl⟩ := List.mem_map.mp member
    exact lookup_entries (mem_requested_iff.mp present).2

/-- What asking for metrics gives, for every store, file, language and list of names. Names are
refused exactly if one of them is no metric's, and by the fault of such a name. Otherwise each
metric that is named and measured is taken once, in the order of the names, with the value that it
has by itself and among all others; without names these are all metrics of the language in its
order. Values are returned exactly if each of the metrics taken has one. -/
theorem requested_taken_once (store : Store) (file : String) (language : Language)
    (names : List String) :
    ((∃ fault, chooseMetrics language names = .error fault) ↔
      ∃ name ∈ names, ∀ metric : Metric, ¬ metric.IsSpelledBy name) ∧
    (∀ fault, chooseMetrics language names = .error fault →
      ∃ name ∈ names, (∀ metric : Metric, ¬ metric.IsSpelledBy name) ∧
        fault = .unknownMetric name) ∧
    ∀ metrics, chooseMetrics language names = .ok metrics →
      (names = [] → requested language metrics = metricsOf language) ∧
      (names ≠ [] →
        List.Forall₂ (fun name metric => metric.IsSpelledBy name) names metrics) ∧
      ((∃ values, (metricValues store file language metrics .null).1 = .ok values) ↔
        ∀ metric ∈ requested language metrics, ∀ fault,
          ¬ Unmeasurable (viewOf (some store) file) metric fault) ∧
      (∀ fault, (metricValues store file language metrics .null).1 = .error fault →
        ∃ metric ∈ requested language metrics,
          Unmeasurable (viewOf (some store) file) metric fault) ∧
      ∀ values, (metricValues store file language metrics .null).1 = .ok values →
        OnceEach store file language metrics values := by
  refine ⟨⟨?_, ?_⟩, ?_, ?_⟩
  · rintro ⟨fault, refused⟩
    obtain ⟨name, member, unknown, _⟩ := chooseMetrics_eq_error refused
    exact ⟨name, member, unknown⟩
  · rintro ⟨name, member, unknown⟩
    cases result : chooseMetrics language names with
    | error fault => exact ⟨fault, rfl⟩
    | ok metrics =>
      have named := (chooseMetrics_eq_ok result).2 (List.ne_nil_of_mem member)
      obtain ⟨index, rfl⟩ := List.mem_iff_get.mp member
      exact absurd (named.get index.2 (named.length_eq ▸ index.2)) (unknown _)
  · exact fun _ refused => chooseMetrics_eq_error refused
  · intro metrics chosen
    obtain ⟨default, named⟩ := chooseMetrics_eq_ok chosen
    have asked : metrics ≠ [] := by
      by_cases none : names = []
      · rw [default none]
        exact metricsOf_ne_nil language
      · rintro rfl
        exact none (List.forall₂_nil_right_iff.mp (named none))
    refine ⟨fun none => ?_, named, metricValues_returns_iff asked,
      fun _ failed => unmeasurable_of_metricValues asked failed,
      fun _ returned => onceEach_of_metricValues asked returned⟩
    rw [default none, requested_all]

/-- A class that ends in a row of 4300 nines. -/
def scrollClass : ClassDecl :=
  { name := "Scroll", start := some {}, stop := some { row := Nat.pow 10 Reading.digitLimit - 1 } }

/-- A store that holds it. -/
def scrollStore : Store :=
  Store.empty.put "Scroll.java" { groups := [{ classes := [scrollClass] }] }

/-- Its lines are asked for under the name of a metric that the language measures, and they are not
returned. -/
theorem scroll_lines_not_returned :
    Metric.loc.IsSpelledBy "loc" ∧ chooseMetrics .java ["loc"] = .ok [.loc] ∧
    requested .java [.loc] = [.loc] ∧
    (metricValues scrollStore "Scroll.java" .java [.loc] .null).1 = .error .tooManyDigits := by
  have primary : (viewOf (some scrollStore) "Scroll.java").primary? = some scrollClass := by
    rfl
  have long : HasTooManyDigits (Nat.pow 10 Reading.digitLimit - 1 - 0 + 1) := by
    rw [HasTooManyDigits, sub_zero, sub_add_cancel, Int.natAbs_natCast]
  refine ⟨by rfl, by rfl, by rfl, ?_⟩
  cases result : (metricValues scrollStore "Scroll.java" .java [.loc] .null).1 with
  | ok values =>
    have measurable := (metricValues_returns_iff (List.cons_ne_nil _ _)).mp ⟨values, result⟩
    exact absurd (.lines primary rfl rfl long) (measurable .loc (by decide) .tooManyDigits)
  | error fault =>
    obtain ⟨metric, member, unmeasurable⟩ :=
      unmeasurable_of_metricValues (List.cons_ne_nil _ _) result
    obtain rfl := List.mem_singleton.mp (mem_requested_iff.mp member).1
    cases unmeasurable
    rfl

end DesignGauge
