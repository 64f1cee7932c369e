import DesignGauge.Proofs.Measure.Lineage
import DesignGauge.Proofs.Measure.Locality

/-!
# Ancestors among more classes

Further known classes behind the others do not come first for any name that was known. So a path of
declared parents stays one, and the ancestors of a class can only be continued. A put under a new
stem adds its classes behind those of the store, and the depth of no file decreases.

Results:
1. `IsPath.append`: a path among more classes.
2. `depth_le_of_append`: the depth among more classes.
3. `depth_grows`: ancestors and depths never decrease.
-/

namespace DesignGauge.Measure

/-- A declared parent stays declared among more classes. -/
theorem declared_append {known : List ClassDecl} {name parent : String}
    (given : declared known name = some parent) (extra : List ClassDecl) :
    declared (known ++ extra) name = some parent := by
  obtain ⟨ancestor, found, _⟩ := Option.bind_eq_some_iff.mp given
  rw [declared, classNamed_append, found, Option.some_or, ← found]
  exact given

/-- A path of declared parents is one among more classes. -/
theorem IsPath.append {c : ClassDecl} {known : List ClassDecl} {chain : List String}
    (path : IsPath c known chain) (extra : List ClassDecl) : IsPath c (known ++ extra) chain :=
  { path with linked := path.linked.imp fun _ _ given => declared_append given extra }

theorem ancestors_isPrefix (c : ClassDecl) (known extra : List ClassDecl) :
    ancestors c known <+: ancestors c (known ++ extra) :=
  ((isLineage_ancestors c known).append extra).isPrefix

/-- The depth does not decrease where a file stays as it is and more classes are known. -/
theorem depth_le_of_append {e e' : Evidence} (classes : e.view.classes = e'.view.classes)
    {extra : List ClassDecl} (known : e'.known = e.known ++ extra) : depth e ≤ depth e' := by
  unfold depth lineage
  rw [← child?_congr classes, ← classes, known, ← List.append_assoc]
  cases child? e.view with
  | none => exact Nat.le_refl 0
  | some c => exact (ancestors_isPrefix c _ extra).length_le

/-- A file without an entry has no depth. -/
theorem depth_of_missing {s : Store} {file : String} (missing : s.find? file = none)
    (node : Datum) : depth (evidence node (some s) file) = 0 := by
  have view : (evidence node (some s) file).view = {} := by
    rw [evidence, viewOf, Option.bind_some, missing]
  rw [depth, lineage, view]
  rfl

/-- A put under a new stem decreases no depth. -/
theorem depth_le_put {s : Store} (indexed : s.Indexed) {path : String}
    (new : s.contains path = false) (components : FileComponents) (node : Datum) (file : String) :
    depth (evidence node (some s) file) ≤
      depth (evidence node (some (s.put path components)) file) := by
  cases has : s.find? file with
  | none =>
    -- the put may be of this very file, which had no classes before
    rw [depth_of_missing has]
    exact Nat.zero_le _
  | some found =>
    have views : viewOf (some s) file = viewOf (some (s.put path components)) file := by
      rw [viewOf, viewOf, Option.bind_some, Option.bind_some, has,
        indexed.find?_put new has]
    exact depth_le_of_append (congrArg ClassView.classes views)
      (indexed.classes_put new components)

theorem take_dit {language : Language} {m : Measure} (found : find? .dit language = some m)
    (node : Datum) (store : Option Store) (file : String) :
    m.take node store file = .ok (.ofNat (depth (evidence node store file))) := by
  cases language with
  | java =>
    obtain rfl := Option.some.inj found
    rfl
  | python => cases found

/-- More known classes only continue the ancestors of a class. So the depth of a file can be taken,
and does not decrease, when anything is put under a stem that is not in the store. -/
theorem depth_grows :
    (∀ (c : ClassDecl) (known extra : List ClassDecl),
      ancestors c known <+: ancestors c (known ++ extra)) ∧
    ∀ s : Store, s.Reached → ∀ path : String, s.contains path = false →
      ∀ (components : FileComponents) (language : Language) (m : Measure),
        find? .dit language = some m → ∀ (node : Datum) (file : String),
          ∃ before after : Nat, m.take node (some s) file = .ok (.ofNat before) ∧
            m.take node (some (s.put path components)) file = .ok (.ofNat after) ∧
            before ≤ after := by
  refine ⟨ancestors_isPrefix, fun s reached path new components language m found node file => ?_⟩
  exact ⟨_, _, take_dit found node (some s) file, take_dit found node (some _) file,
    depth_le_put reached.indexed new components node file⟩

/-- The pump is a vessel once the tank is known. -/
theorem pump_deepens :
    let alone := Store.empty.put "Pump.java" pumpComponents
    alone.contains "lib/Tank.java" = false ∧
    ∃ before after : Nat,
      (Measure.mk .dit (fun e => .ok (.ofNat (depth e))) depthTrace).take .null (some alone)
        "src/Pump.java" = .ok (.ofNat before) ∧
      (Measure.mk .dit (fun e => .ok (.ofNat (depth e))) depthTrace).take .null
        (some (alone.put "lib/Tank.java" tankComponents)) "src/Pump.java" = .ok (.ofNat after) ∧
      before ≤ after := by
  have new : (Store.empty.put "Pump.java" pumpComponents).contains "lib/Tank.java" = false := by
    decide +kernel
  exact ⟨new, depth_grows.2 _ (.put _ _ .empty) _ new tankComponents .java _ rfl .null _⟩

/-- The depth can decrease where an entry of the store is replaced. -/
example :
    depth (evidence .null (some pumpFirst) "Pump.java") = 2 ∧
      depth (evidence .null (some (pumpFirst.put "Tank.java" ⟨[]⟩)) "Pump.java") = 1 := by
  decide +kernel

end DesignGauge.Measure
