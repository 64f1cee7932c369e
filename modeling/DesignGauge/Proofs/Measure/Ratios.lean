import DesignGauge.Proofs.Measure.Finite
import DesignGauge.Proofs.Measure.Regrouping
import Mathlib.Algebra.Order.BigOperators.Group.List

/-!
# Measures that divide

Four measures divide one count by another. Each of them looks first whether there is anything to
divide, so that the denominator is never zero. Numerator and denominator are counted apart, by
filters of their own, and still fit together: three of the quotients are shares, and a mean weight
is never below one.

Results:
1. `tightCohesion_eq_elim`, `classWeight_eq_elim`, `addedShare_eq_elim`, `meanWeight_eq_elim`: each
   measure is determined by the division that it performs.
2. `cohesionRatio?_isShare`, `faceRatio?_isShare`, `addedRatio?_isShare`, `meanRatio?_isMean`: the
   counts that are divided.
3. `ratios_wellFormed`: all four measures of every file whose groups were read.
-/

namespace DesignGauge.Measure

open Text

/-- Two counts, one to be divided by the other. -/
structure Ratio where
  part : Nat
  whole : Nat
  deriving DecidableEq

namespace Ratio

/-- The double next to the ratio. -/
def quotient (r : Ratio) : Double := Double.ofQuotient r.part r.whole

/-- A part of something that is not empty. -/
structure IsShare (r : Ratio) : Prop where
  pos : 0 < r.whole
  le : r.part ≤ r.whole

end Ratio

/-! ## The divisions -/

/-- The division that tight cohesion performs. -/
def cohesionRatio? (v : ClassView) : Option Ratio :=
  if (ordinary v).length ≤ 1 then none
  else some ⟨(cohesivePairs (ordinary v)).length, pairCount (ordinary v).length⟩

/-- The division that the weight of a class performs. -/
def faceRatio? (v : ClassView) : Option Ratio :=
  if faceSize v = 0 then none else some ⟨dataFaceSize v, faceSize v⟩

/-- The division that the share of added services performs. -/
def addedRatio? (v : ClassView) : Option Ratio :=
  if addedServiceCount v = 0 then none else some ⟨addedServiceCount v, (publicMethods v).length⟩

/-- The division that the mean weight performs. -/
def meanRatio? (v : ClassView) : Option Ratio :=
  if (concrete v).length = 0 then none else some ⟨weightedMethods v, (concrete v).length⟩

/-- A quotient of weights to two places, if there is a double next to it. -/
def roundedMean (r : Ratio) : Except Fault Number :=
  (Double.ofQuotient? r.part r.whole).elim (.error .quotientBeyondDouble) fun mean =>
    .ok (.float mean.roundHundredths)

theorem tightCohesion_eq_elim (v : ClassView) : tightCohesion v =
    (cohesionRatio? v).elim (.ofNat (ordinary v).length) fun r =>
      .float r.quotient.roundHundredths := by
  unfold tightCohesion cohesionRatio?
  split
  · rfl
  · rfl

theorem classWeight_eq_elim (v : ClassView) : classWeight v =
    (faceRatio? v).elim (.int 0) fun r => .float ((Double.ofQuotient 1 1).sub r.quotient) := by
  unfold classWeight faceRatio?
  simp only [beq_iff_eq]
  split
  · rfl
  · rfl

/-- Where services are added there are public methods. -/
theorem addedShare_eq_elim (v : ClassView) : addedShare v =
    (addedRatio? v).elim (.int 0) fun r => .float r.quotient.roundHundredths := by
  unfold addedShare addedRatio?
  cases added : addedServices v with
  | nil => simp [addedServiceCount, added]
  | cons m rest =>
    have le := addedServiceCount_le v
    have count : addedServiceCount v = rest.length + 1 := congrArg List.length added
    have present : (publicMethods v).isEmpty = false := by
      rw [List.isEmpty_eq_false_iff, ← List.length_pos_iff]
      omega
    rw [present, count]
    rfl

theorem meanWeight_eq_elim (v : ClassView) :
    meanWeight v = (meanRatio? v).elim (.ok (.int 0)) roundedMean := by
  unfold meanWeight meanRatio?
  cases concrete v with
  | nil => rfl
  | cons m rest =>
    simp only [List.isEmpty_cons, List.length_cons, Bool.false_eq_true, if_false,
      Nat.add_eq_zero_iff, Nat.one_ne_zero, and_false, Option.elim_some, roundedMean]
    cases Double.ofQuotient? (weightedMethods v) (rest.length + 1) with
    | none => rfl
    | some mean => rfl

/-! ## The counts that are divided -/

variable {v : ClassView} {r : Ratio}

theorem pairCount_pos {n : Nat} (several : 1 < n) : 0 < pairCount n := by
  unfold pairCount
  have two : 2 * 1 ≤ n * (n - 1) := Nat.mul_le_mul several (by omega)
  omega

theorem cohesionRatio?_isShare (divides : r ∈ cohesionRatio? v) : r.IsShare := by
  obtain ⟨several, same⟩ := Option.ite_none_left_eq_some.mp divides
  cases same
  exact ⟨pairCount_pos (Nat.lt_of_not_le several), cohesivePairs_le (ordinary v)⟩

theorem faceRatio?_isShare (divides : r ∈ faceRatio? v) : r.IsShare := by
  obtain ⟨face, same⟩ := Option.ite_none_left_eq_some.mp divides
  cases same
  exact ⟨Nat.pos_of_ne_zero face, dataFaceSize_le v⟩

theorem addedRatio?_isShare (divides : r ∈ addedRatio? v) : r.IsShare := by
  obtain ⟨added, same⟩ := Option.ite_none_left_eq_some.mp divides
  cases same
  have le := addedServiceCount_le v
  exact ⟨(Nat.pos_of_ne_zero added).trans_le le, le⟩

/-- Every method weighs at least one. -/
theorem length_concrete_le (v : ClassView) : (concrete v).length ≤ weightedMethods v := by
  unfold weightedMethods
  have each : ∀ n ∈ (concrete v).map (weight decisionTags), 1 ≤ n := by
    intro n member
    obtain ⟨m, _, rfl⟩ := List.mem_map.mp member
    exact Nat.le_add_right 1 _
  have total := List.length_le_sum_of_one_le _ each
  rwa [List.length_map] at total

theorem meanRatio?_isMean (divides : r ∈ meanRatio? v) :
    0 < r.whole ∧ r.whole ≤ r.part ∧ r.part = weightedMethods v := by
  obtain ⟨several, same⟩ := Option.ite_none_left_eq_some.mp divides
  cases same
  exact ⟨Nat.pos_of_ne_zero several, length_concrete_le v, rfl⟩

/-- The accessors among the public methods are some of all accessors. -/
theorem dataFaceSize_le_accessors (v : ClassView) :
    dataFaceSize v ≤ accessors v + publicAttributes v :=
  Nat.add_le_add_right (List.filter_sublist.countP_le) _

/-- The measures that divide are well formed on every file whose groups were read. Each is the
quotient of two counts, finished in its own way, and an integer where there is nothing to divide:
zero, or for cohesion the number of methods. The denominators are positive. Cohesion, the weight of
a class and the share of added services divide a part by the whole, and the mean weight divides the
weight by no more than it. -/
theorem ratios_wellFormed {groups : List DeclGroup}
    (checked : ∀ g ∈ groups, ∃ value, DeclGroup.read value = .fits g) :
    let v := ClassView.ofComponents ⟨groups⟩
    (tightCohesion v = (cohesionRatio? v).elim (.ofNat (ordinary v).length)
        (fun r => .float r.quotient.roundHundredths) ∧
      (cohesionRatio? v = none ↔ (ordinary v).length ≤ 1) ∧
      ∀ r ∈ cohesionRatio? v, r.IsShare) ∧
    (classWeight v = (faceRatio? v).elim (.int 0)
        (fun r => .float ((Double.ofQuotient 1 1).sub r.quotient)) ∧
      ∀ r ∈ faceRatio? v, r.IsShare ∧
        r.whole = (publicMethods v).length + publicAttributes v ∧
        r.part = (publicMethods v).countP MethodDecl.isAccessor + publicAttributes v ∧
        r.part ≤ accessors v + publicAttributes v) ∧
    publicAttributes v = v.fields.countP (fun f => lower f.modifiers = "public") ∧
    (addedShare v = (addedRatio? v).elim (.int 0)
        (fun r => .float r.quotient.roundHundredths) ∧
      ∀ r ∈ addedRatio? v, r.IsShare ∧ r.part = addedServiceCount v) ∧
    (meanWeight v = (meanRatio? v).elim (.ok (.int 0)) roundedMean ∧
      ∀ r ∈ meanRatio? v, 0 < r.whole ∧ r.whole ≤ r.part ∧ r.part = weightedMethods v) := by
  intro v
  have flagged : (FileComponents.mk groups).Flagged := by
    intro g present
    obtain ⟨value, fits⟩ := checked g present
    exact DeclGroup.flagged_of_read fits
  refine ⟨⟨tightCohesion_eq_elim v, ?_, fun r => cohesionRatio?_isShare⟩,
    ⟨classWeight_eq_elim v, fun r divides => ?_⟩, ?_,
    ⟨addedShare_eq_elim v, fun r divides => ⟨addedRatio?_isShare divides, ?_⟩⟩,
    meanWeight_eq_elim v, fun r => meanRatio?_isMean⟩
  · simp [cohesionRatio?]
  · have share := faceRatio?_isShare divides
    obtain ⟨_, same⟩ := Option.ite_none_left_eq_some.mp divides
    cases same
    exact ⟨share, rfl, rfl, dataFaceSize_le_accessors v⟩
  · rw [publicAttributes_eq flagged, List.countP_map]
    rfl
  · obtain ⟨_, same⟩ := Option.ite_none_left_eq_some.mp divides
    cases same
    rfl

/-- A valve with two methods that hang together, a getter and a public label. -/
def valveGroup : DeclGroup where
  classes := [{ name := "Valve", parent := some "Fitting" }]
  methods := [{ name := "Valve", isConstructor := true },
    { name := "open", usedNames := ["angle"], bodyTags := ["if_statement"] },
    { name := "close", usedNames := ["torque", "angle"] },
    { name := "getAngle", isAccessor := true }]
  fields := [{ name := "angle", modifiers := "private", isEncapsulated := true },
    { name := "label", modifiers := "PUBLIC" }]

theorem valve_wellFormed :
    let v := ClassView.ofComponents ⟨[valveGroup]⟩
    DeclGroup.read valveGroup.write = .fits valveGroup ∧
    cohesionRatio? v = some ⟨1, 3⟩ ∧ faceRatio? v = some ⟨2, 4⟩ ∧ addedRatio? v = some ⟨2, 3⟩ ∧
    meanRatio? v = some ⟨5, 4⟩ ∧
    tightCohesion v = .float (Double.ofQuotient 1 3).roundHundredths ∧
    classWeight v = .float ((Double.ofQuotient 1 1).sub (Double.ofQuotient 2 4)) ∧
    addedShare v = .float (Double.ofQuotient 2 3).roundHundredths ∧
    meanWeight v = roundedMean ⟨5, 4⟩ ∧
    v.fields.countP (fun f => lower f.modifiers = "public") = 1 := by
  intro v
  have fits : DeclGroup.read valveGroup.write = .fits valveGroup :=
    (DeclGroup.read_write_iff valveGroup).mpr (by decide +kernel)
  have cohesion : cohesionRatio? v = some ⟨1, 3⟩ := by decide +kernel
  have face : faceRatio? v = some ⟨2, 4⟩ := by decide +kernel
  have added : addedRatio? v = some ⟨2, 3⟩ := by decide +kernel
  have mean : meanRatio? v = some ⟨5, 4⟩ := by decide +kernel
  have exposed : publicAttributes v = 1 := by decide +kernel
  obtain ⟨⟨asCohesion, _⟩, ⟨asFace, _⟩, asPublic, ⟨asAdded, _⟩, asMean, _⟩ :=
    ratios_wellFormed (List.forall_mem_singleton.mpr ⟨_, fits⟩)
  rw [cohesion] at asCohesion
  rw [face] at asFace
  rw [added] at asAdded
  rw [mean] at asMean
  exact ⟨fits, cohesion, face, added, mean, asCohesion, asFace, asAdded, asMean,
    asPublic.symm.trans exposed⟩

/-- A flag that was not computed hides a public field. -/
example : publicAttributes { fields := [{ name := "label", isEncapsulated := true }] } = 0 := by
  decide +kernel

end DesignGauge.Measure
