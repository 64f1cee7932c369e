import DesignGauge.Proofs.Measure.Alike
import DesignGauge.Proofs.Store.History

/-!
# Measures of a file depend on its own entry

What is put and removed under other stems does not reach the measures of a file. The depth of its
class is the exception: it follows parents into other files. But of these it only sees which class
comes first for each name.

Results:
1. `take_eq_of_find?_eq`: stores that agree on a file, and for its depth on first classes.
2. `take_eq_after_others`: measures after changes under other stems.
-/

namespace DesignGauge.Measure

/-- Stores with the same entry for a file give it the same measures; the depth asks for the same
first class of every name as well. -/
theorem take_eq_of_find?_eq {language : Language} {m : Measure} (member : m ∈ ofLanguage language)
    {a b : Store} {file : String} (found : a.find? file = b.find? file)
    (known : m.metric = .dit → SameFirst a.classes b.classes) (node : Datum) :
    m.take node (some a) file = m.take node (some b) file := by
  have views : Alike (viewOf (some a) file) (viewOf (some b) file) := by
    unfold viewOf
    rw [Option.bind_some, Option.bind_some, found]
    exact .refl _
  exact RespectsAlike.of_mem member _ _ rfl views known

/-- The measures of a file are local to its entry. Changes under other stems keep every measure but
the depth. Any two stores that agree on the entry of the file and on the first class of each name
give the same measures, the depth included. -/
theorem take_eq_after_others {language : Language} {m : Measure} (member : m ∈ ofLanguage language)
    {s : Store} (reached : s.Reached) (file : String) (node : Datum) :
    (m.metric ≠ .dit → ∀ acts : List Store.Act,
      (∀ act ∈ acts, act.settles (SourceName.stem file) = false) →
        m.take node (some (s.after acts)) file = m.take node (some s) file) ∧
    (∀ a b : Store, a.find? file = b.find? file →
      (∀ name, classNamed a.classes name = classNamed b.classes name) →
        m.take node (some a) file = m.take node (some b) file) := by
  constructor
  · intro notDepth acts others
    have found := reached.indexed.find?_after others
    exact take_eq_of_find?_eq member found (fun depth => absurd depth notDepth) node
  · intro a b found first
    exact take_eq_of_find?_eq member found (fun _ => first) node

/-- A pump is a tank. -/
def pumpComponents : FileComponents :=
  ⟨[{ classes := [{ name := "Pump", parent := some "Tank" }], fields := [{ name := "flow" }] }]⟩

/-- A tank is a vessel. -/
def tankComponents : FileComponents :=
  ⟨[{ classes := [{ name := "Tank", parent := some "Vessel" }] }]⟩

/-- The store with the pump and then the tank. -/
def pumpFirst : Store := (Store.empty.put "Pump.java" pumpComponents).put "Tank.java" tankComponents

/-- The store with the tank and then the pump. -/
def tankFirst : Store := (Store.empty.put "Tank.java" tankComponents).put "Pump.java" pumpComponents

/-- The fields of the pump after the tank is put in again and removed, and its depth in two stores
of different order. -/
theorem take_pump_after_tank :
    (counting .noa attributes).take .null (some (pumpFirst.after
        [.put "old/Tank.java" pumpComponents, .remove "Tank.java"])) "src/Pump.java" =
      (counting .noa attributes).take .null (some pumpFirst) "src/Pump.java" ∧
    pumpFirst.classes ≠ tankFirst.classes ∧
    (Measure.mk .dit (fun e => .ok (.ofNat (depth e))) depthTrace).take .null (some pumpFirst)
        "src/Pump.java" =
      (Measure.mk .dit (fun e => .ok (.ofNat (depth e))) depthTrace).take .null (some tankFirst)
        "src/Pump.java" := by
  have reached : pumpFirst.Reached := .put _ _ (.put _ _ .empty)
  have fields : counting .noa attributes ∈ ofLanguage .java :=
    List.mem_of_find?_eq_some (p := (·.metric == .noa)) rfl
  have depths : Measure.mk .dit (fun e => .ok (.ofNat (depth e))) depthTrace ∈ ofLanguage .java :=
    List.mem_of_find?_eq_some (p := (·.metric == .dit)) rfl
  have first : ∀ name, classNamed pumpFirst.classes name = classNamed tankFirst.classes name := by
    intro name
    by_cases pump : name = "Pump"
    · rw [pump]
      decide
    · have absent : classNamed pumpComponents.classes name = none := by
        simp [classNamed, FileComponents.classes, pumpComponents, Ne.symm pump]
      have classes : pumpFirst.classes = pumpComponents.classes ++ tankComponents.classes := by
        decide
      have classes' : tankFirst.classes = tankComponents.classes ++ pumpComponents.classes := by
        decide
      rw [classes, classes', classNamed_append, classNamed_append, absent, Option.none_or,
        Option.or_none]
  refine ⟨?_, by decide, ?_⟩
  · exact (take_eq_after_others fields reached "src/Pump.java" .null).1 (by decide) _
      (by decide +kernel)
  · exact (take_eq_after_others depths reached "src/Pump.java" .null).2 _ _ (by decide +kernel)
      first

/-- The depth is not local: another file may say more about a parent. -/
example :
    let alone := Store.empty.put "Pump.java" pumpComponents
    depth (evidence .null (some alone) "Pump.java") = 1 ∧
      depth (evidence .null (some pumpFirst) "Pump.java") = 2 := by
  decide +kernel

end DesignGauge.Measure
