import DesignGauge.Proofs.Measure.Alike
import Mathlib.Data.List.Nodup
import Mathlib.Data.List.TakeWhile

/-!
# The order of declarations

No measure depends on the order of the methods. The order of the fields shows in two places: of two
foreign fields of one name the last one wins, and the scan for types ends at the first field without
one. Where names are distinct and every field has a type, the order of the fields makes no
difference either.

Results:
1. `ownerOf_eq_some_iff`: which type a name leads to when names are distinct.
2. `alike_of_perm_fields`: fields in another order make a view that is alike.
3. `value_eq_of_reordered`: all measures of all languages.
-/

namespace DesignGauge.Measure

/-- Among fields of distinct names, a name leads to the type of the one field that has it. -/
theorem ownerOf_eq_some_iff {fields : List FieldDecl}
    (distinct : (fields.map FieldDecl.name).Nodup) {name type : String} :
    ownerOf fields name = some type ↔ ∃ f ∈ fields, f.name = name ∧ f.type = type := by
  unfold ownerOf
  rw [Option.map_eq_some_iff]
  constructor
  · rintro ⟨f, found, rfl⟩
    have present := List.mem_reverse.mp (List.mem_of_find?_eq_some found)
    exact ⟨f, present, by simpa using List.find?_some found, rfl⟩
  · rintro ⟨f, present, rfl, rfl⟩
    cases found : fields.reverse.find? (·.name == f.name) with
    | none =>
      have differs := List.find?_eq_none.mp found f (List.mem_reverse.mpr present)
      exact absurd (beq_self_eq_true f.name) differs
    | some f' =>
      have present' := List.mem_reverse.mp (List.mem_of_find?_eq_some found)
      have named : f'.name = f.name := by simpa using List.find?_some found
      exact ⟨f', rfl, by rw [List.inj_on_of_nodup_map distinct present' present named]⟩

theorem ownerOf_of_perm {fields fields' : List FieldDecl} (same : fields.Perm fields')
    (distinct : (fields'.map FieldDecl.name).Nodup) : ownerOf fields = ownerOf fields' := by
  have distinct' : (fields.map FieldDecl.name).Nodup := (same.map _).nodup_iff.mpr distinct
  funext name
  ext type
  rw [ownerOf_eq_some_iff distinct', ownerOf_eq_some_iff distinct]
  simp only [same.mem_iff]

/-- Where every field has a type, the scan for types reads them all. -/
theorem typedFields_of_typed {v : ClassView} (typed : ∀ f ∈ v.fields, f.type ≠ "") :
    typedFields v = v.fields := by
  refine List.takeWhile_eq_self_iff.mpr fun f present => ?_
  rw [Bool.not_eq_true', ← Bool.not_eq_true, String.isEmpty_iff]
  exact typed f present

theorem alike_of_perm_methods (v : ClassView) {methods : List MethodDecl}
    (same : methods.Perm v.methods) : Alike { v with methods } v :=
  { Alike.refl v with methods := same }

theorem alike_of_perm_fields {v : ClassView} (distinct : (v.fields.map FieldDecl.name).Nodup)
    (typed : ∀ f ∈ v.fields, f.type ≠ "") {fields : List FieldDecl}
    (same : fields.Perm v.fields) : Alike { v with fields } v := by
  have typed' : ∀ f ∈ fields, f.type ≠ "" := fun f present => typed f (same.mem_iff.mp present)
  refine ⟨rfl, .refl _, same.map _, same.map _, ?_, (same.filter _).length_eq, fun current => ?_⟩
  · rw [typedFields_of_typed typed, typedFields_of_typed (v := { v with fields }) typed']
    exact same.map _
  · exact ownerOf_of_perm (same.filter _) ((List.filter_sublist.map _).nodup distinct)

/-- The order of declarations makes no difference. Every measure is the same after the methods are
put in another order, and after the fields are, if their names are distinct and each has a type. -/
theorem value_eq_of_reordered {language : Language} {m : Measure}
    (member : m ∈ ofLanguage language) (e : Evidence) :
    (∀ methods, methods.Perm e.view.methods →
      m.value { e with view := { e.view with methods } } = m.value e) ∧
    ((e.view.fields.map FieldDecl.name).Nodup → (∀ f ∈ e.view.fields, f.type ≠ "") →
      ∀ fields, fields.Perm e.view.fields →
        m.value { e with view := { e.view with fields } } = m.value e) := by
  have respects := RespectsAlike.of_mem member
  constructor
  · intro methods same
    exact respects _ _ rfl (alike_of_perm_methods e.view same) fun _ _ => rfl
  · intro distinct typed fields same
    exact respects _ _ rfl (alike_of_perm_fields distinct typed same) fun _ _ => rfl

/-- A file whose methods reach the data of two others, one of them through two names. -/
def reachingView : ClassView where
  classes := [{ name := "Pump" }]
  methods := [{ name := "fill", fieldAccess := ["tank.level", "spare.level"] },
    { name := "read", fieldAccess := ["gauge.value"] }]
  fields := [{ name := "tank", type := "Tank" }, { name := "spare", type := "Tank" },
    { name := "gauge", type := "Gauge" }]

theorem dataProviders_reordered :
    (counting .fdp dataProviders dataProvidersTrace).value
        ⟨{ reachingView with methods := reachingView.methods.reverse }, .null, []⟩ =
      (counting .fdp dataProviders dataProvidersTrace).value ⟨reachingView, .null, []⟩ ∧
    (counting .fdp dataProviders dataProvidersTrace).value
        ⟨{ reachingView with fields := reachingView.fields.reverse }, .null, []⟩ =
      (counting .fdp dataProviders dataProvidersTrace).value ⟨reachingView, .null, []⟩ :=
  have listed : counting .fdp dataProviders dataProvidersTrace ∈ ofLanguage .java :=
    List.mem_of_find?_eq_some (p := (·.metric == .fdp)) rfl
  have reordered := value_eq_of_reordered listed ⟨reachingView, .null, []⟩
  ⟨reordered.1 _ (List.reverse_perm _),
    reordered.2 (by decide) (by decide) _ (List.reverse_perm _)⟩

/-- Of two foreign fields of one name the last one wins. -/
example :
    let tank : FieldDecl := { name := "part", type := "Tank" }
    let gauge : FieldDecl := { name := "part", type := "Gauge" }
    let view (fields : List FieldDecl) : ClassView :=
      { classes := [{ name := "Pump" }], methods := [{ fieldAccess := ["part.x", "gauge.x"] }],
        fields := { name := "gauge", type := "Gauge" } :: fields }
    dataProviders (view [tank, gauge]) = 1 ∧ dataProviders (view [gauge, tank]) = 2 := by
  decide +kernel

/-- A field without a type hides those behind it from the scan for types. -/
example :
    let bare : FieldDecl := { name := "level" }
    let tank : FieldDecl := { name := "tank", type := "Tank" }
    typedFields { fields := [bare, tank] } = [] ∧
      typedFields { fields := [tank, bare] } = [tank] := by
  decide

end DesignGauge.Measure
