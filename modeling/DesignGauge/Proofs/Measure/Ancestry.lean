import DesignGauge.Measure.Ancestry

/-!
# Climbing from parent to parent

Each step of the walk leads to a name that was not seen before, so that it needs no more fuel than
there are known classes of unseen names. The walk looks the known classes up by name only: two lists
that have the same first class of every name give the same ancestors.

Results:
1. `length_unseen_lt`: what a step leaves unseen.
2. `climb_congr`: the walk does not depend on the fuel, once there is enough of it.
3. `ancestors_congr`, `depth_congr`: ancestors and depth by the first classes of all names.
-/

namespace DesignGauge.Measure

/-- Two lists of classes have the same first class of every name. -/
def SameFirst (known known' : List ClassDecl) : Prop :=
  ∀ name, classNamed known name = classNamed known' name

theorem classNamed_append (front back : List ClassDecl) (name : String) :
    classNamed (front ++ back) name = (classNamed front name).or (classNamed back name) :=
  List.find?_append

theorem SameFirst.append_left {known known' : List ClassDecl} (same : SameFirst known known')
    (front : List ClassDecl) : SameFirst (front ++ known) (front ++ known') := by
  intro name
  rw [classNamed_append, classNamed_append, same name]

/-- The known classes of names that were not seen. -/
def unseen (known : List ClassDecl) (seen : List String) : List ClassDecl :=
  known.filter fun c => !seen.contains c.name

/-- A step to the name of a known class leaves fewer classes unseen. -/
theorem length_unseen_lt {known : List ClassDecl} {seen : List String} {parent : String}
    {ancestor : ClassDecl} (found : classNamed known parent = some ancestor)
    (new : seen.contains parent = false) :
    (unseen known (parent :: seen)).length < (unseen known seen).length := by
  have named : ancestor.name = parent := by simpa using List.find?_some found
  have left : unseen known (parent :: seen) =
      (unseen known seen).filter fun c => !(c.name == parent) := by
    unfold unseen
    rw [List.filter_filter]
    refine List.filter_congr fun c _ => ?_
    rw [List.contains_cons, Bool.not_or]
  rw [left, List.length_filter_lt_length_iff_exists]
  refine ⟨ancestor, ?_, by simp [named]⟩
  refine List.mem_filter.mpr ⟨List.mem_of_find?_eq_some found, ?_⟩
  rw [named, new]
  rfl

/-- The walk is the same for lists with the same first classes and for any two amounts of fuel that
are enough. -/
theorem climb_congr {known known' : List ClassDecl} (same : SameFirst known known')
    {fuel fuel' : Nat} {seen : List String} {parent : Option String}
    (enough : (unseen known seen).length < fuel) (enough' : (unseen known' seen).length < fuel') :
    climb known fuel seen parent = climb known' fuel' seen parent := by
  induction fuel generalizing fuel' seen parent with
  | zero => exact absurd enough (Nat.not_lt_zero _)
  | succ fuel ih =>
    cases fuel' with
    | zero => exact absurd enough' (Nat.not_lt_zero _)
    | succ fuel' =>
      cases parent with
      | none => rfl
      | some parent =>
        rw [climb, climb, same parent]
        split
        · rfl
        · next goesOn =>
          rw [Bool.or_eq_true, not_or, Bool.not_eq_true, Bool.not_eq_true] at goesOn
          congr 1
          cases found' : classNamed known' parent with
          | none => rfl
          | some ancestor =>
            have found := (same parent).trans found'
            have fewer := length_unseen_lt found goesOn.2
            have fewer' := length_unseen_lt found' goesOn.2
            exact ih (by omega) (by omega)

theorem ancestors_congr {known known' : List ClassDecl} (same : SameFirst known known')
    (c : ClassDecl) : ancestors c known = ancestors c known' :=
  climb_congr same (Nat.lt_succ_of_le (List.length_filter_le _ _))
    (Nat.lt_succ_of_le (List.length_filter_le _ _))

theorem child?_congr {v v' : ClassView} (classes : v.classes = v'.classes) :
    child? v = child? v' := by
  unfold child? ClassView.primary?
  rw [classes]

/-- The depth depends on the classes of the file, and on the first class of each name in the
store. -/
theorem depth_congr {e e' : Evidence} (classes : e.view.classes = e'.view.classes)
    (known : SameFirst e.known e'.known) : depth e = depth e' := by
  unfold depth lineage
  rw [child?_congr classes]
  cases child? e'.view with
  | none => rfl
  | some c =>
    rw [classes]
    exact congrArg List.length (ancestors_congr (known.append_left _) c)

end DesignGauge.Measure
