import DesignGauge.Measure.Catalogue
import DesignGauge.Proofs.Number.Finite
import Mathlib.Data.Nat.Choose.Basic

/-!
# Measures are finite

Without a syntax node every measure that gives a value gives a finite one. Counts are integers, and
so are the lines of a class; shares are at most one; a mean that is beyond the range of doubles is
refused.

Results:
1. `length_pairs`: the number of pairs that cohesion is a share of.
2. `lines_isFinite`, `meanWeight_isFinite`, `classWeight_isFinite`, `addedShare_isFinite`,
   `tightCohesion_isFinite`: the measures that are no counts.
3. `isFinite_of_take`: all measures of all languages.
-/

namespace DesignGauge.Measure

/-! ## Shares -/

theorem length_pairs {α : Type} (l : List α) : (pairs l).length = pairCount l.length := by
  induction l with
  | nil => simp [pairs, pairCount]
  | cons a rest ih =>
    rw [pairs, List.length_append, List.length_map, ih, List.length_cons, pairCount, pairCount,
      Nat.triangle_succ, Nat.add_comm]

theorem cohesivePairs_le (methods : List MethodDecl) :
    (cohesivePairs methods).length ≤ pairCount methods.length :=
  (List.length_filter_le _ _).trans (length_pairs methods).le

theorem dataFaceSize_le (v : ClassView) : dataFaceSize v ≤ faceSize v :=
  Nat.add_le_add_right List.countP_le_length _

theorem addedServiceCount_le (v : ClassView) : addedServiceCount v ≤ (publicMethods v).length := by
  unfold addedServiceCount addedServices newMethods
  split
  · exact (List.length_filter_le _ _).trans (List.length_filter_le _ _)
  · exact Nat.zero_le _

/-- A share to two places is finite. -/
theorem share_isFinite {part whole : Nat} (le : part ≤ whole) :
    (Double.ofQuotient part whole).roundHundredths.isFinite = true := by
  obtain ⟨x, rounded, _⟩ := Double.exists_finite_of_le le
  rw [rounded]
  exact Double.roundHundredths_isFinite rfl

/-! ## Measures that are no counts -/

/-- Without a syntax node the lines are those of the first class. -/
theorem spanIn_of_bare {e : Evidence} (bare : e.node = .null) :
    spanIn e = .ok (e.view.primary?.bind classSpan) := by
  unfold spanIn
  rw [bare]
  rfl

theorem isFinite_writable {i : Int} {value : Number} (kept : writable (.int i) = .ok value) :
    value.isFinite = true := by
  simp only [writable] at kept
  split at kept
  · cases kept
    rfl
  · exact nomatch kept

theorem lines_isFinite {e : Evidence} (bare : e.node = .null) {value : Number}
    (taken : lines e = .ok value) : value.isFinite = true := by
  unfold lines at taken
  rw [spanIn_of_bare bare] at taken
  cases span : e.view.primary?.bind classSpan with
  | none =>
    rw [span] at taken
    cases taken
    rfl
  | some rows =>
    obtain ⟨c, _, here⟩ := Option.bind_eq_some_iff.mp span
    rw [span] at taken
    -- the rows of a class are integers, so that their difference is one
    obtain ⟨start, stop, rfl⟩ : ∃ start stop, rows = (.int start, .int stop) := by
      unfold classSpan at here
      split at here
      · exact ⟨_, _, (Option.some.inj here).symm⟩
      · exact nomatch here
    have counted : lineCount (.int start) (.int stop) = .ok (.int (stop - start + 1)) := rfl
    simp only [bind, Except.bind, counted] at taken
    exact isFinite_writable taken

theorem meanWeight_isFinite {v : ClassView} {value : Number} (taken : meanWeight v = .ok value) :
    value.isFinite = true := by
  unfold meanWeight Double.ofQuotient? at taken
  split at taken
  · cases taken
    rfl
  · cases mean : Double.ofQuotient (weightedMethods v) (concrete v).length with
    | finite x =>
      rw [mean] at taken
      cases taken
      exact Double.roundHundredths_isFinite rfl
    | infinite negative => rw [mean] at taken; exact nomatch taken
    | nan => rw [mean] at taken; exact nomatch taken

theorem classWeight_isFinite (v : ClassView) : (classWeight v).isFinite = true := by
  unfold classWeight
  split
  · rfl
  · obtain ⟨one, whole, small⟩ := Double.exists_finite_of_le (Nat.le_refl 1)
    obtain ⟨share, part, small'⟩ := Double.exists_finite_of_le (dataFaceSize_le v)
    rw [whole, part]
    exact Double.add_isFinite small small'

theorem addedShare_isFinite (v : ClassView) : (addedShare v).isFinite = true := by
  unfold addedShare
  split
  · rfl
  · exact share_isFinite (addedServiceCount_le v)

theorem tightCohesion_isFinite (v : ClassView) : (tightCohesion v).isFinite = true := by
  unfold tightCohesion
  split
  · rfl
  · exact share_isFinite (cohesivePairs_le (ordinary v))

/-! ## The catalogue -/

/-- Without a syntax node a measure gives finite values only. -/
def IsFinite (m : Measure) : Prop :=
  ∀ e : Evidence, e.node = .null → ∀ value, m.value e = .ok value → value.isFinite = true

theorem isFinite_counting (metric : Metric) (count : ClassView → Nat)
    (trace : ClassView → List String) : (counting metric count trace).IsFinite := by
  rintro e _ value taken
  cases taken
  rfl

theorem isFinite_rating (metric : Metric) {rate : ClassView → Number}
    (finite : ∀ v, (rate v).isFinite = true) (trace : ClassView → List String) :
    (rating metric rate trace).IsFinite := by
  rintro e _ value taken
  cases taken
  exact finite e.view

theorem isFinite_lines (trace : Evidence → List String) : (Measure.mk .loc lines trace).IsFinite :=
  fun _ bare _ taken => lines_isFinite bare taken

theorem isFinite_depth (trace : Evidence → List String) :
    (Measure.mk .dit (fun e => .ok (.ofNat (depth e))) trace).IsFinite := by
  rintro e _ value taken
  cases taken
  rfl

/-- Every measure of every language is finite. -/
theorem isFinite_of_mem {language : Language} {m : Measure} (member : m ∈ ofLanguage language) :
    m.IsFinite := by
  revert m
  cases language with
  | java =>
    simp only [ofLanguage, java, List.forall_mem_cons, isFinite_counting, isFinite_lines,
      isFinite_depth, true_and, List.not_mem_nil, false_implies, implies_true, and_true]
    exact ⟨fun _ _ _ taken => meanWeight_isFinite taken, isFinite_rating _ classWeight_isFinite _,
      isFinite_rating _ addedShare_isFinite _, isFinite_rating _ tightCohesion_isFinite _⟩
  | python =>
    simp only [ofLanguage, python, List.forall_mem_cons, isFinite_counting, isFinite_lines,
      true_and, List.not_mem_nil, false_implies, implies_true]

/-- A measure of a file without a syntax node is finite. -/
theorem isFinite_of_take {metric : Metric} {language : Language} {m : Measure}
    (found : find? metric language = some m) {store : Option Store} {file : String} {value : Number}
    (taken : m.take .null store file = .ok value) : value.isFinite = true :=
  isFinite_of_mem (List.mem_of_find?_eq_some found) _ rfl value taken

end DesignGauge.Measure
