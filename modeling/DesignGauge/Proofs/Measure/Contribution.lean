import DesignGauge.Measure.Weight
import DesignGauge.Proofs.Text.Pieces
import Mathlib.Algebra.BigOperators.Group.List.Basic
import Mathlib.Algebra.GroupWithZero.Nat

/-!
# What methods contribute to the weight of a class

In an abstract class one method that stands for an abstract one takes all methods of its name out
of the weight, wherever they are declared in the file. Every other method contributes one and its
decisions. Which methods contribute depends on their bodies only in so far as these are empty, so
that tags added to a body add their decisions and nothing else.

Results:
1. `concrete_eq`: the concrete methods are those that contribute.
2. `weightedMethods_retagged`: the weight after tags were added to bodies and put in any order.
3. `weightedMethods_counts`: the weight of every class, and how it changes with the bodies.
-/

namespace DesignGauge.Measure

/-- The decisions in the body of a method. -/
def decisions (m : MethodDecl) : Nat := m.bodyTags.countP (· ∈ decisionTags)

/-- A method stands for an abstract one: by its flag, by its modifiers, or because it has no body
though it is neither constructor nor accessor. -/
def StandsAbstract (m : MethodDecl) : Prop :=
  m.isAbstract = true ∨ "abstract".toList <:+: m.modifiers.toList ∨
    m.bodyTags = [] ∧ m.isConstructor = false ∧ m.isAccessor = false

/-- A method contributes to the weight: if the class is abstract, no method of the same name stands
for an abstract one. -/
def Contributes (v : ClassView) (m : MethodDecl) : Prop :=
  isAbstractClass v.primary? = true →
    ∀ other ∈ v.methods, other.name = m.name → ¬ StandsAbstract other

theorem countsAsAbstract_iff {m : MethodDecl} : countsAsAbstract m = true ↔ StandsAbstract m := by
  simp only [countsAsAbstract, StandsAbstract, saysAbstract, Bool.or_eq_true, Bool.and_eq_true,
    Bool.not_eq_true', List.isEmpty_iff, Text.holdsPiece_iff, or_assoc, and_assoc]

instance (m : MethodDecl) : Decidable (StandsAbstract m) := decidable_of_iff _ countsAsAbstract_iff

instance (v : ClassView) (m : MethodDecl) : Decidable (Contributes v m) :=
  inferInstanceAs (Decidable (_ → ∀ other ∈ v.methods, _))

/-! ## The methods that contribute -/

theorem weight_decisionTags (m : MethodDecl) : weight decisionTags m = 1 + decisions m := by
  refine congrArg (1 + ·) (List.countP_congr fun tag _ => ?_)
  rw [List.contains_iff_mem, decide_eq_true_iff]

theorem mem_abstractNames_iff {v : ClassView} {name : String} :
    name ∈ abstractNames v.methods v.primary? ↔ isAbstractClass v.primary? = true ∧
      ∃ other ∈ v.methods, other.name = name ∧ StandsAbstract other := by
  unfold abstractNames abstractIn
  cases isAbstractClass v.primary? with
  | false => simp
  | true =>
    simp only [if_true, List.mem_map, List.mem_filter, countsAsAbstract_iff, true_and]
    constructor
    · rintro ⟨other, ⟨member, stands⟩, named⟩
      exact ⟨other, member, named, stands⟩
    · rintro ⟨other, member, named, stands⟩
      exact ⟨other, ⟨member, stands⟩, named⟩

theorem contributes_iff {v : ClassView} {m : MethodDecl} :
    Contributes v m ↔ m.name ∉ abstractNames v.methods v.primary? := by
  rw [mem_abstractNames_iff]
  constructor
  · rintro contributes ⟨abstractClass, other, member, named, stands⟩
    exact contributes abstractClass other member named stands
  · intro absent abstractClass other member named stands
    exact absent ⟨abstractClass, other, member, named, stands⟩

theorem concrete_eq (v : ClassView) : concrete v = v.methods.filter (Contributes v ·) := by
  refine List.filter_congr fun m _ => ?_
  rw [Bool.eq_iff_iff, Bool.not_eq_true', ← Bool.not_eq_true, List.contains_iff_mem,
    decide_eq_true_iff, contributes_iff]

theorem weightedMethods_eq_sum (v : ClassView) : weightedMethods v =
    ((v.methods.filter (Contributes v ·)).map fun m => 1 + decisions m).sum := by
  unfold weightedMethods
  rw [concrete_eq, List.map_congr_left fun m _ => weight_decisionTags m]
  rfl

theorem filter_contributes_of_concrete {v : ClassView}
    (notAbstract : isAbstractClass v.primary? = false) :
    v.methods.filter (Contributes v ·) = v.methods := by
  refine List.filter_eq_self.mpr fun m _ => decide_eq_true fun abstractClass => ?_
  rw [notAbstract] at abstractClass
  cases abstractClass

theorem isAbstractClass_iff {owner : Option ClassDecl} :
    isAbstractClass owner = true ↔ ∃ c ∈ owner, c.isAbstract = true := by
  cases owner with
  | none => simp [isAbstractClass]
  | some c => simp [isAbstractClass]

theorem sum_one_add_decisions (methods : List MethodDecl) :
    (methods.map fun m => 1 + decisions m).sum =
      methods.length + (methods.flatMap MethodDecl.bodyTags).countP (· ∈ decisionTags) := by
  induction methods with
  | nil => rfl
  | cons m rest ih =>
    rw [List.map_cons, List.sum_cons, ih, List.flatMap_cons, List.countP_append, List.length_cons,
      decisions]
    omega

/-! ## Tags added to bodies -/

/-- A method whose body gets further tags and is put in any order. A method without a body gets
none. -/
structure Retagging where
  method : MethodDecl
  added : List String
  tags : List String
  mixed : tags.Perm (method.bodyTags ++ added)
  bodiless : method.bodyTags = [] → added = []

namespace Retagging

/-- The method with its new tags. -/
def result (r : Retagging) : MethodDecl := { r.method with bodyTags := r.tags }

theorem bodyTags_result (r : Retagging) : r.result.bodyTags = r.tags := rfl

theorem tags_eq_nil_iff (r : Retagging) : r.tags = [] ↔ r.method.bodyTags = [] := by
  constructor
  · intro empty
    have mixed := r.mixed
    rw [empty, List.nil_perm, List.append_eq_nil_iff] at mixed
    exact mixed.1
  · intro empty
    have mixed := r.mixed
    rw [empty, r.bodiless empty] at mixed
    exact List.perm_nil.mp mixed

theorem standsAbstract_result (r : Retagging) :
    StandsAbstract r.result ↔ StandsAbstract r.method := by
  unfold StandsAbstract
  rw [bodyTags_result, r.tags_eq_nil_iff]
  rfl

theorem decisions_result (r : Retagging) :
    decisions r.result = decisions r.method + r.added.countP (· ∈ decisionTags) := by
  unfold decisions
  rw [bodyTags_result, r.mixed.countP_eq, List.countP_append]

end Retagging

theorem contributes_retagged {v : ClassView} {edits : List Retagging}
    (given : v.methods = edits.map Retagging.method) (r : Retagging) :
    Contributes { v with methods := edits.map Retagging.result } r.result ↔
      Contributes v r.method := by
  unfold Contributes
  simp only [given, List.forall_mem_map, Retagging.standsAbstract_result]
  rfl

/-- The weight grows by the decisions added to methods that contribute. -/
theorem weightedMethods_retagged {v : ClassView} {edits : List Retagging}
    (given : v.methods = edits.map Retagging.method) :
    weightedMethods { v with methods := edits.map Retagging.result } = weightedMethods v +
      ((edits.filter (Contributes v ·.method)).map
        fun r => r.added.countP (· ∈ decisionTags)).sum := by
  have before : v.methods.filter (Contributes v ·) =
      (edits.filter (Contributes v ·.method)).map Retagging.method := by
    rw [given, List.filter_map]
    rfl
  have after : (edits.map Retagging.result).filter
      (Contributes { v with methods := edits.map Retagging.result } ·) =
      (edits.filter (Contributes v ·.method)).map Retagging.result := by
    rw [List.filter_map]
    refine congrArg (List.map _) (List.filter_congr fun r _ => ?_)
    exact decide_eq_decide.mpr (contributes_retagged given r)
  rw [weightedMethods_eq_sum, weightedMethods_eq_sum, before, after, List.map_map, List.map_map,
    ← List.sum_map_add]
  refine congrArg List.sum (List.map_congr_left fun r _ => ?_)
  show 1 + decisions r.result = 1 + decisions r.method + _
  rw [r.decisions_result, Nat.add_assoc]

/-- The weight of a class that is missing or not abstract is the number of its methods and of all
decisions. In an abstract class a method contributes one and its decisions exactly if no method of
its name stands for an abstract one. Tags that decide nothing change the weight nowhere, in any
order, and others raise it by the number of decisions added to methods that contribute. -/
theorem weightedMethods_counts (v : ClassView) :
    ((∀ c ∈ v.primary?, c.isAbstract = false) → weightedMethods v =
      v.methods.length + (v.methods.flatMap MethodDecl.bodyTags).countP (· ∈ decisionTags)) ∧
    ((∃ c ∈ v.primary?, c.isAbstract = true) → weightedMethods v =
      ((v.methods.filter fun m =>
          ∀ other ∈ v.methods, other.name = m.name → ¬ StandsAbstract other).map
        fun m => 1 + decisions m).sum) ∧
    ∀ edits : List Retagging, v.methods = edits.map Retagging.method →
      ((∀ r ∈ edits, ∀ tag ∈ r.added, tag ∉ decisionTags) →
        weightedMethods { v with methods := edits.map Retagging.result } = weightedMethods v) ∧
      weightedMethods { v with methods := edits.map Retagging.result } = weightedMethods v +
        ((edits.filter (Contributes v ·.method)).map
          fun r => r.added.countP (· ∈ decisionTags)).sum := by
  refine ⟨fun notAbstract => ?_, fun abstractClass => ?_, fun edits given => ⟨fun idle => ?_, ?_⟩⟩
  · have concreteClass : isAbstractClass v.primary? = false := by
      rw [← Bool.not_eq_true, isAbstractClass_iff]
      rintro ⟨c, primary, isAbstract⟩
      rw [notAbstract c primary] at isAbstract
      cases isAbstract
    rw [weightedMethods_eq_sum, filter_contributes_of_concrete concreteClass,
      sum_one_add_decisions]
  · rw [weightedMethods_eq_sum]
    have same : v.methods.filter (Contributes v ·) = v.methods.filter fun m =>
        ∀ other ∈ v.methods, other.name = m.name → ¬ StandsAbstract other := by
      refine List.filter_congr fun m _ => decide_eq_decide.mpr ?_
      rw [Contributes, isAbstractClass_iff]
      exact forall_prop_of_true abstractClass
    rw [same]
  · rw [weightedMethods_retagged given, Nat.add_eq_left, List.sum_eq_zero]
    intro n member
    obtain ⟨r, kept, rfl⟩ := List.mem_map.mp member
    refine List.countP_eq_zero.mpr fun tag added => ?_
    rw [decide_eq_true_iff]
    exact idle r (List.mem_of_mem_filter kept) tag added
  · exact weightedMethods_retagged given

/-- An abstract shape. One of its two areas has a body and the other has none. -/
def shapeView : ClassView where
  classes := [{ name := "Shape", isAbstract := true }]
  methods := [{ name := "area" },
    { name := "area", params := ["int scale"], bodyTags := ["if_statement", "return_statement"] },
    { name := "Shape", isConstructor := true },
    { name := "draw", bodyTags := ["for_statement"] }]

/-- A loop more in the area that has a body; in the drawing a condition and a return. -/
def shapeEdits : List Retagging := [
  ⟨{ name := "area" }, [], [], by decide, fun _ => rfl⟩,
  ⟨{ name := "area", params := ["int scale"], bodyTags := ["if_statement", "return_statement"] },
    ["while_statement"], ["while_statement", "if_statement", "return_statement"], by decide,
    by decide⟩,
  ⟨{ name := "Shape", isConstructor := true }, [], [], by decide, fun _ => rfl⟩,
  ⟨{ name := "draw", bodyTags := ["for_statement"] }, ["return_statement", "if_statement"],
    ["if_statement", "for_statement", "return_statement"], by decide, by decide⟩]

/-- The areas do not count, whatever the body of one of them holds. -/
theorem shape_weighed :
    (∃ c ∈ shapeView.primary?, c.isAbstract = true) ∧
    shapeView.methods = shapeEdits.map Retagging.method ∧
    weightedMethods shapeView = 3 ∧
    weightedMethods { shapeView with methods := shapeEdits.map Retagging.result } = 4 := by
  have abstractClass : ∃ c ∈ shapeView.primary?, c.isAbstract = true := ⟨_, rfl, rfl⟩
  have given : shapeView.methods = shapeEdits.map Retagging.method := rfl
  obtain ⟨_, counted, edited⟩ := weightedMethods_counts shapeView
  have before : weightedMethods shapeView = 3 := (counted abstractClass).trans (by decide +kernel)
  refine ⟨abstractClass, given, before, ?_⟩
  rw [(edited shapeEdits given).2, before]
  decide +kernel

end DesignGauge.Measure
