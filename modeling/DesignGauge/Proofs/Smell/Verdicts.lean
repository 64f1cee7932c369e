import DesignGauge.Proofs.Number.Order
import DesignGauge.Proofs.Smell.Readings

/-!
# Verdicts that go together

Each verdict compares a few values with thresholds, and holds only if all these values are there and
are numbers. Two verdicts that put a value on different sides of thresholds exclude each other when
the thresholds are in order, whatever else they look at. The highlighted length and the verdict on a
brain class are the same comparison.

Results:
1. `isBrainClass_iff`, `isGodClass_iff`, `isDataClass_iff`, `isSplitClass_iff`: what a verdict says.
2. `usable_of_has`: a verdict holds only on values that are numbers.
3. `not_data_and_god`, `not_data_and_split`: verdicts that exclude each other.
4. `highlights_loc_iff`: the length is highlighted with long and complex classes only.
5. `classify_consistent`: all this for every classification.
-/

namespace DesignGauge

/-! ## Comparing a double with a threshold -/

namespace Double

theorem ne_nan_of_above {x : Double} {t : Number} (above : x.above t = true) : x ≠ .nan := by
  rintro rfl
  obtain ⟨_, _, _, ofNan, _⟩ := Number.lt_iff.mp above
  cases ofNan

theorem ne_nan_of_atLeast {x : Double} {t : Number} (atLeast : x.atLeast t = true) : x ≠ .nan := by
  rintro rfl
  obtain ⟨_, _, _, ofNan, _⟩ := Number.le_iff.mp atLeast
  cases ofNan

theorem ne_nan_of_below {x : Double} {t : Number} (below : x.below t = true) : x ≠ .nan := by
  rintro rfl
  obtain ⟨_, ofNan, _⟩ := Number.lt_iff.mp below
  cases ofNan

theorem ne_nan_of_add {x y : Double} (sum : x.add y ≠ .nan) : x ≠ .nan ∧ y ≠ .nan := by
  refine ⟨?_, ?_⟩
  · rintro rfl
    exact sum rfl
  · rintro rfl
    cases x <;> exact sum rfl

/-- A double below one threshold is not at another that is no lower, or above it. -/
theorem not_atLeast_of_below {x : Double} {low high : Number} (below : x.below low = true)
    (order : low.le high = true) : x.atLeast high = false := by
  rw [← Bool.not_eq_true]
  intro atLeast
  have less := Number.lt_of_lt_of_le below order
  rw [Number.not_lt_of_le atLeast] at less
  cases less

end Double

/-! ## What a verdict says -/

/-- The metrics that a verdict reads. -/
def Smell.reads : Smell → List Metric
  | .brainClass => [.loc, .wmc]
  | .godClass => [.wmc, .tcc, .atfd]
  | .dataClass => [.woc, .nopa, .noam, .wmc]
  | .splitClass => [.nom, .tcc, .woc]

theorem Smell.reads_subset (smell : Smell) : smell.reads ⊆ Profile.metrics := by
  cases smell <;> simp [reads, Profile.metrics]

namespace Profile

variable {p : Profile} {t : SmellThresholds}

/-- The value of a metric in a profile. -/
def value? (p : Profile) : Metric → Option Double
  | .loc => p.loc
  | .wmc => p.wmc
  | .tcc => p.tcc
  | .atfd => p.atfd
  | .woc => p.woc
  | .nopa => p.nopa
  | .noam => p.noam
  | .nom => p.nom
  | _ => none

theorem isBrainClass_iff : p.isBrainClass t = true ↔
    ∃ loc ∈ p.loc, ∃ wmc ∈ p.wmc, loc.above t.brainLoc = true ∧ wmc.above t.brainWmc = true := by
  unfold isBrainClass
  cases p.loc <;> cases p.wmc <;> simp

theorem isGodClass_iff : p.isGodClass t = true ↔
    ∃ wmc ∈ p.wmc, ∃ tcc ∈ p.tcc, ∃ atfd ∈ p.atfd, wmc.atLeast t.godWmc = true ∧
      tcc.below t.godTcc = true ∧ atfd.above t.godAtfd = true := by
  unfold isGodClass
  cases p.wmc <;> cases p.tcc <;> cases p.atfd <;> simp [and_assoc]

theorem isDataClass_iff : p.isDataClass t = true ↔
    ∃ woc ∈ p.woc, ∃ nopa ∈ p.nopa, ∃ noam ∈ p.noam, ∃ wmc ∈ p.wmc,
      woc.below t.dataWoc = true ∧
      ((nopa.add noam).above t.dataPublicLow = true ∧ wmc.below t.dataWmcLow = true ∨
        (nopa.add noam).above t.dataPublicHigh = true ∧ wmc.below t.dataWmcHigh = true) := by
  unfold isDataClass
  cases p.woc <;> cases p.nopa <;> cases p.noam <;> cases p.wmc <;> simp

theorem isSplitClass_iff : p.isSplitClass t = true ↔
    ∃ nom ∈ p.nom, ∃ tcc ∈ p.tcc, ∃ woc ∈ p.woc, nom.atLeast t.splitNom = true ∧
      tcc.below t.splitTcc = true ∧ woc.atLeast t.splitWoc = true := by
  unfold isSplitClass
  cases p.nom <;> cases p.tcc <;> cases p.woc <;> simp [and_assoc]

/-- A verdict holds only if all the values it reads are there and are numbers. -/
theorem usable_of_has {smell : Smell} (has : (p.flags t).has smell = true) :
    ∀ metric ∈ smell.reads, ∃ x ∈ p.value? metric, x ≠ .nan := by
  cases smell with
  | brainClass =>
    obtain ⟨loc, hasLoc, wmc, hasWmc, long, complex⟩ := isBrainClass_iff.mp has
    simp only [Smell.reads, List.forall_mem_cons]
    exact ⟨⟨loc, hasLoc, Double.ne_nan_of_above long⟩,
      ⟨wmc, hasWmc, Double.ne_nan_of_above complex⟩, List.forall_mem_nil _⟩
  | godClass =>
    obtain ⟨wmc, hasWmc, tcc, hasTcc, atfd, hasAtfd, complex, loose, foreign⟩ :=
      isGodClass_iff.mp has
    simp only [Smell.reads, List.forall_mem_cons]
    exact ⟨⟨wmc, hasWmc, Double.ne_nan_of_atLeast complex⟩,
      ⟨tcc, hasTcc, Double.ne_nan_of_below loose⟩,
      ⟨atfd, hasAtfd, Double.ne_nan_of_above foreign⟩, List.forall_mem_nil _⟩
  | dataClass =>
    obtain ⟨woc, hasWoc, nopa, hasNopa, noam, hasNoam, wmc, hasWmc, light, sides⟩ :=
      isDataClass_iff.mp has
    -- either way the public data and the complexity take part in a comparison
    have compared : nopa.add noam ≠ .nan ∧ wmc ≠ .nan := by
      rcases sides with ⟨many, simple⟩ | ⟨many, simple⟩
      · exact ⟨Double.ne_nan_of_above many, Double.ne_nan_of_below simple⟩
      · exact ⟨Double.ne_nan_of_above many, Double.ne_nan_of_below simple⟩
    obtain ⟨nopaNumber, noamNumber⟩ := Double.ne_nan_of_add compared.1
    simp only [Smell.reads, List.forall_mem_cons]
    exact ⟨⟨woc, hasWoc, Double.ne_nan_of_below light⟩, ⟨nopa, hasNopa, nopaNumber⟩,
      ⟨noam, hasNoam, noamNumber⟩, ⟨wmc, hasWmc, compared.2⟩, List.forall_mem_nil _⟩
  | splitClass =>
    obtain ⟨nom, hasNom, tcc, hasTcc, woc, hasWoc, many, loose, heavy⟩ := isSplitClass_iff.mp has
    simp only [Smell.reads, List.forall_mem_cons]
    exact ⟨⟨nom, hasNom, Double.ne_nan_of_atLeast many⟩,
      ⟨tcc, hasTcc, Double.ne_nan_of_below loose⟩,
      ⟨woc, hasWoc, Double.ne_nan_of_atLeast heavy⟩, List.forall_mem_nil _⟩

/-! ## Verdicts that exclude each other -/

theorem not_data_and_god (low : t.dataWmcLow.le t.godWmc = true)
    (high : t.dataWmcHigh.le t.godWmc = true) :
    ¬ (p.isDataClass t = true ∧ p.isGodClass t = true) := by
  rintro ⟨data, god⟩
  obtain ⟨_, _, _, _, _, _, wmc, hasWmc, _, sides⟩ := isDataClass_iff.mp data
  obtain ⟨wmc', hasWmc', _, _, _, _, complex, _, _⟩ := isGodClass_iff.mp god
  obtain rfl : wmc = wmc' := Option.mem_unique hasWmc hasWmc'
  have simple : wmc.atLeast t.godWmc = false := by
    rcases sides with ⟨_, below⟩ | ⟨_, below⟩
    · exact Double.not_atLeast_of_below below low
    · exact Double.not_atLeast_of_below below high
  rw [simple] at complex
  cases complex

theorem not_data_and_split (order : t.dataWoc.le t.splitWoc = true) :
    ¬ (p.isDataClass t = true ∧ p.isSplitClass t = true) := by
  rintro ⟨data, split⟩
  obtain ⟨woc, hasWoc, _, _, _, _, _, _, light, _⟩ := isDataClass_iff.mp data
  obtain ⟨_, _, _, _, woc', hasWoc', _, _, heavy⟩ := isSplitClass_iff.mp split
  obtain rfl : woc = woc' := Option.mem_unique hasWoc hasWoc'
  rw [Double.not_atLeast_of_below light order] at heavy
  cases heavy

/-! ## Highlighted values -/

variable {h : HighlightThresholds}

/-- With the same thresholds the two comparisons of length and complexity are one. -/
theorem isLongAndHeavy_eq (sameLoc : h.brainLoc.Agrees t.brainLoc)
    (sameWmc : h.brainWmc.Agrees t.brainWmc) : p.isLongAndHeavy h = p.isBrainClass t := by
  unfold isLongAndHeavy isBrainClass Double.above
  simp only [sameLoc.lt_eq, sameWmc.lt_eq]

/-- Both values are there when length and complexity are past their thresholds. -/
theorem exists_of_isLongAndHeavy (long : p.isLongAndHeavy h = true) :
    ∃ loc wmc, p.loc = some loc ∧ p.wmc = some wmc := by
  unfold isLongAndHeavy at long
  split at long
  · next loc wmc hasLoc hasWmc => exact ⟨loc, wmc, hasLoc, hasWmc⟩
  · cases long

theorem highlights_loc_iff :
    (∃ x, (Metric.loc, x) ∈ p.highlighted h) ↔ p.isLongAndHeavy h = true := by
  unfold highlighted
  cases long : p.isLongAndHeavy h with
  | true =>
    obtain ⟨loc, wmc, hasLoc, hasWmc⟩ := exists_of_isLongAndHeavy long
    cases p.isHeavy h <;> simp [highlight, hasLoc, hasWmc]
  | false => cases p.isHeavy h <;> cases p.wmc <;> simp [highlight]

theorem highlights_wmc_of_long (long : p.isLongAndHeavy h = true) :
    ∃ x, (Metric.wmc, x) ∈ p.highlighted h := by
  obtain ⟨loc, wmc, hasLoc, hasWmc⟩ := exists_of_isLongAndHeavy long
  unfold highlighted
  rw [long]
  cases p.isHeavy h <;> simp [highlight, hasLoc, hasWmc]

end Profile

/-! ## Every classification -/

namespace Readings

/-- The value of a metric cannot be compared: it is absent, null, nothing that can be read as a
double, or not a number. -/
inductive Unusable (readings : Readings) (metric : Metric) : Prop
  | absent : readings.lookup metric.name = none → Unusable readings metric
  | null : readings.lookup metric.name = some .null → Unusable readings metric
  | unreadable {value : Datum} : readings.lookup metric.name = some value →
      value.asDouble? = none → Unusable readings metric
  | notANumber {value : Datum} : readings.lookup metric.name = some value →
      value.asDouble? = some .nan → Unusable readings metric

variable {readings : Readings} {metric : Metric}

theorem Unusable.eq_nan {x : Double} (unusable : readings.Unusable metric)
    (given : x ∈ readings.value? metric) : x = .nan := by
  unfold value? at given
  cases unusable with
  | absent missing =>
    rw [missing] at given
    cases given
  | null found =>
    rw [found] at given
    cases given
  | unreadable found unread =>
    rw [found, Option.bind_some, unread] at given
    cases given
  | notANumber found nan =>
    rw [found, Option.bind_some, nan] at given
    exact (Option.some.inj given).symm

theorem value?_seen (judged : metric ∈ Profile.metrics) :
    readings.seen.value? metric = readings.value? metric := by
  revert metric
  simp only [Profile.metrics, List.forall_mem_cons]
  exact ⟨rfl, rfl, rfl, rfl, rfl, rfl, rfl, rfl, List.forall_mem_nil _⟩

end Readings

/-- Any values without integers beyond the range of doubles are classified, by any thresholds. No
verdict holds that reads a value which cannot be compared. With thresholds of complexity in order no
class is a data class and a god class, with thresholds of weight in order none is a data class and a
split class. If the thresholds of length and complexity are those of the highlights, the length is
highlighted exactly with brain classes, and the complexity with it. -/
theorem classify_consistent (t : Thresholds) {readings : Readings} (fit : readings.Convertible) :
    ∃ c, classify t readings = .ok c ∧
      (∀ smell : Smell, ∀ metric ∈ smell.reads, readings.Unusable metric →
        c.flags.has smell = false) ∧
      (t.smells.dataWmcLow.le t.smells.godWmc = true →
        t.smells.dataWmcHigh.le t.smells.godWmc = true →
        ¬ (c.flags.dataClass = true ∧ c.flags.godClass = true)) ∧
      (t.smells.dataWoc.le t.smells.splitWoc = true →
        ¬ (c.flags.dataClass = true ∧ c.flags.splitClass = true)) ∧
      (t.highlight.brainLoc.Agrees t.smells.brainLoc →
        t.highlight.brainWmc.Agrees t.smells.brainWmc →
        ((∃ x, (Metric.loc, x) ∈ c.highlighted) ↔ c.flags.brainClass = true) ∧
        (c.flags.brainClass = true → ∃ x, (Metric.wmc, x) ∈ c.highlighted)) := by
  refine ⟨readings.verdicts t, classify_of_convertible t fun metric _ => fit.not_overflows metric,
    fun smell metric read unusable => ?_, Profile.not_data_and_god, Profile.not_data_and_split,
    fun sameLoc sameWmc => ?_⟩
  · rw [← Bool.not_eq_true]
    intro has
    obtain ⟨x, given, number⟩ := Profile.usable_of_has has metric read
    rw [Readings.value?_seen (smell.reads_subset read)] at given
    exact number (unusable.eq_nan given)
  · have same := Profile.isLongAndHeavy_eq (p := readings.seen) sameLoc sameWmc
    refine ⟨Profile.highlights_loc_iff.trans (Bool.eq_iff_iff.mp same), fun brain => ?_⟩
    exact Profile.highlights_wmc_of_long (same.trans brain)

/-- A class of which little is known: its length is not a number, its public data are two infinities
and its methods a text. -/
def dimReadings : Readings := [
  ("LOC", .text " NaN "), ("WMC", .int 47), ("TCC", .float (Double.ofDecimal false 1 (-1))),
  ("ATFD", .int 6), ("WOC", .float (Double.ofDecimal false 2 (-1))),
  ("NOPA", .float (.infinite false)), ("NOAM", .float (.infinite true)), ("NOM", .text "many")]

/-- At the least complexity of a god class the dim class is one, and nothing else. -/
theorem dim_consistent :
    dimReadings.Convertible ∧ dimReadings.Unusable .loc ∧ dimReadings.Unusable .nom ∧
    ∃ c, classify {} dimReadings = .ok c ∧ c.flags = { godClass := true } ∧
      c.flags.has .brainClass = false ∧ c.flags.has .splitClass = false ∧
      ¬ (c.flags.dataClass = true ∧ c.flags.godClass = true) ∧
      ¬ (c.flags.dataClass = true ∧ c.flags.splitClass = true) ∧
      ((∃ x, (Metric.loc, x) ∈ c.highlighted) ↔ c.flags.brainClass = true) := by
  have fit : dimReadings.Convertible := by
    have bound : 47 < Double.overflowBound ∧ 6 < Double.overflowBound := by decide +kernel
    simpa [Readings.Convertible, dimReadings] using bound
  have loc : dimReadings.Unusable .loc := .notANumber rfl (by decide +kernel)
  have nom : dimReadings.Unusable .nom := .unreadable rfl (by decide +kernel)
  obtain ⟨c, classified, unusable, god, split, highlights⟩ := classify_consistent {} fit
  have flags : c.flags = { godClass := true } := by
    rw [classify_of_convertible {} fun metric _ => fit.not_overflows metric] at classified
    rw [← Except.ok.inj classified]
    decide +kernel
  exact ⟨fit, loc, nom, c, classified, flags, unusable .brainClass .loc (by decide) loc,
    unusable .splitClass .nom (by decide) nom, god (by decide +kernel) (by decide +kernel),
    split (by decide +kernel), (highlights (.inl rfl) (.inl rfl)).1⟩

end DesignGauge
