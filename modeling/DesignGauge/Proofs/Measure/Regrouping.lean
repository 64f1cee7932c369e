import DesignGauge.Proofs.Measure.Alike
import DesignGauge.Proofs.Wire.RoundTrip

/-!
# Groups and flags

The flag of a field is computed from the methods of its own group, so that other groups of the same
declarations give other flags. Measures look at the flags of public fields only, and these are never
set.

Results:
1. `isPublic_of_isEncapsulated`: components that were read have no public field with its flag set.
2. `alike_of_regrouped`: the same declarations in other groups make views that are alike.
3. `Store.find?_put_cases`: putting one or the other of two components in the same place.
4. `take_put_regrouped`: all measures of all files after either put.
-/

namespace DesignGauge

/-- The field without its flag. -/
def FieldDecl.unflagged (f : FieldDecl) : FieldDecl := { f with isEncapsulated := false }

namespace FileComponents

/-- The same declarations in the same order, whatever the groups and the flags. -/
structure Regrouped (c c' : FileComponents) : Prop where
  classes : c.classes = c'.classes
  methods : c.methods = c'.methods
  fields : c.fields.map FieldDecl.unflagged = c'.fields.map FieldDecl.unflagged

/-- A computed flag is set on fields that are not public only. -/
theorem isPublic_of_isEncapsulated {c : FileComponents} (flagged : c.Flagged) {f : FieldDecl}
    (present : f ∈ c.fields) (isSet : f.isEncapsulated = true) : f.isPublic = false := by
  obtain ⟨g, member, here⟩ := List.mem_flatMap.mp present
  rw [← flagged g member] at here
  obtain ⟨f', _, rfl⟩ := List.mem_map.mp here
  obtain ⟨notPublic, _⟩ := Bool.and_eq_true_iff.mp isSet
  rw [Bool.not_eq_true'] at notPublic
  exact notPublic

end FileComponents

namespace Measure

/-- What is the same with and without flags is the same of two lists that differ in flags. -/
theorem map_eq_of_unflagged {α : Type} {fields fields' : List FieldDecl} (look : FieldDecl → α)
    (blind : ∀ f, look f.unflagged = look f)
    (same : fields.map FieldDecl.unflagged = fields'.map FieldDecl.unflagged) :
    fields.map look = fields'.map look := by
  have seen : ∀ l : List FieldDecl, l.map look = (l.map FieldDecl.unflagged).map look := by
    intro l
    rw [List.map_map]
    exact List.map_congr_left fun f _ => (blind f).symm
  rw [seen, same, ← seen]

theorem ownerOf_unflagged (fields : List FieldDecl) (current : Option String) :
    ownerOf (foreignFields (fields.map FieldDecl.unflagged) current) =
      ownerOf (foreignFields fields current) := by
  funext name
  unfold ownerOf foreignFields
  rw [List.filter_map, ← List.map_reverse, List.find?_map, Option.map_map]
  rfl

/-- Where no public field has its flag set, the exposed fields are the public ones. -/
theorem publicAttributes_eq {c : FileComponents} (flagged : c.Flagged) :
    publicAttributes (.ofComponents c) = (c.fields.map FieldDecl.isPublic).countP id := by
  rw [List.countP_map, List.countP_eq_length_filter]
  refine congrArg List.length (List.filter_congr fun f present => ?_)
  cases isSet : f.isEncapsulated with
  | false => simp [isExposed, isSet]
  | true => simp [isExposed, FileComponents.isPublic_of_isEncapsulated flagged present isSet]

/-- Views of the same declarations are alike, whatever the order of methods and the flags of fields,
if as many fields are exposed. -/
theorem alike_of_unflagged {v v' : ClassView} (classes : v.classes = v'.classes)
    (methods : v.methods.Perm v'.methods)
    (fields : v.fields.map FieldDecl.unflagged = v'.fields.map FieldDecl.unflagged)
    (exposed : publicAttributes v = publicAttributes v') : Alike v v' := by
  have types := map_eq_of_unflagged FieldDecl.type (fun _ => rfl) fields
  refine ⟨classes, methods,
    .of_eq (map_eq_of_unflagged FieldDecl.name (fun _ => rfl) fields), .of_eq types, ?_, exposed,
    fun current => ?_⟩
  · rw [map_type_typedFields, map_type_typedFields]
    exact .of_eq (congrArg (List.takeWhile _) types)
  · calc ownerOf (foreignFields v.fields current)
        = ownerOf (foreignFields (v.fields.map FieldDecl.unflagged) current) :=
          (ownerOf_unflagged ..).symm
      _ = ownerOf (foreignFields (v'.fields.map FieldDecl.unflagged) current) := by rw [fields]
      _ = ownerOf (foreignFields v'.fields current) := ownerOf_unflagged ..

/-- As many fields are exposed in components that differ in flags, if these are computed. -/
theorem publicAttributes_congr {c c' : FileComponents} (flagged : c.Flagged)
    (flagged' : c'.Flagged)
    (fields : c.fields.map FieldDecl.unflagged = c'.fields.map FieldDecl.unflagged) :
    publicAttributes (.ofComponents c) = publicAttributes (.ofComponents c') := by
  rw [publicAttributes_eq flagged, publicAttributes_eq flagged',
    map_eq_of_unflagged FieldDecl.isPublic (fun _ => rfl) fields]

theorem alike_of_regrouped {c c' : FileComponents} (same : c.Regrouped c') (flagged : c.Flagged)
    (flagged' : c'.Flagged) : Alike (.ofComponents c) (.ofComponents c') :=
  alike_of_unflagged same.classes (.of_eq same.methods) same.fields
    (publicAttributes_congr flagged flagged' same.fields)

end Measure

namespace Store

/-- The entries in front of a put do not depend on what is put. -/
theorem exists_kept (s : Store) (path : String) :
    ∃ kept, ∀ c, (s.put path c).entries = kept ++ [(path, c)] :=
  ⟨_, fun _ => rfl⟩

/-- A file leads to what was put, or to the same as it would if something else were put. -/
theorem find?_put_cases (s : Store) (path file : String) (c c' : FileComponents) :
    (s.put path c).find? file = (s.put path c').find? file ∨
      ((s.put path c).find? file = some c ∧ (s.put path c').find? file = some c') := by
  obtain ⟨kept, entries⟩ := s.exists_kept path
  unfold find?
  -- the index of stems holds paths only, so that both puts make the same one
  have stems : (s.put path c').pathOf? = (s.put path c).pathOf? := rfl
  rw [stems, entries, entries]
  cases (s.put path c).pathOf? (SourceName.stem file) with
  | none => exact .inl rfl
  | some key =>
    simp only [Option.bind_eq_bind, Option.bind_some, List.lookup_append]
    cases kept.lookup key with
    | some before => exact .inl rfl
    | none =>
      rw [List.lookup_cons, List.lookup_cons]
      cases key == path with
      | true => exact .inr ⟨rfl, rfl⟩
      | false => exact .inl rfl

theorem classes_put_congr (s : Store) (path : String) {c c' : FileComponents}
    (same : c.classes = c'.classes) : (s.put path c).classes = (s.put path c').classes := by
  obtain ⟨kept, entries⟩ := s.exists_kept path
  simp only [classes, entries, List.flatMap_append, List.flatMap_cons, same]

/-- A file shows what was put, or the same as it would if something else were put. -/
theorem viewOf_put_cases (s : Store) (path file : String) (c c' : FileComponents) :
    viewOf (some (s.put path c)) file = viewOf (some (s.put path c')) file ∨
      (viewOf (some (s.put path c)) file = .ofComponents c ∧
        viewOf (some (s.put path c')) file = .ofComponents c') := by
  unfold viewOf
  rw [Option.bind_some, Option.bind_some]
  rcases s.find?_put_cases path file c c' with equal | ⟨found, found'⟩
  · exact .inl (by rw [equal])
  · rw [found, found']
    exact .inr ⟨rfl, rfl⟩

end Store

namespace Measure

/-- Measures do not see groups and flags: after putting either of two components that were read and
have the same classes, methods and, flags aside, fields, every measure of every file is the same,
whatever the store, the path and the syntax node. -/
theorem take_put_regrouped {language : Language} {m : Measure} (member : m ∈ ofLanguage language)
    {value value' : Datum} {c c' : FileComponents} (fits : FileComponents.read value = .fits c)
    (fits' : FileComponents.read value' = .fits c') (same : c.Regrouped c') (node : Datum)
    (s : Store) (path file : String) :
    m.take node (some (s.put path c)) file = m.take node (some (s.put path c')) file := by
  have views : Alike (viewOf (some (s.put path c)) file) (viewOf (some (s.put path c')) file) := by
    rcases s.viewOf_put_cases path file c c' with equal | ⟨shown, shown'⟩
    · rw [equal]
      exact .refl _
    · rw [shown, shown']
      exact alike_of_regrouped same (FileComponents.flagged_of_read fits)
        (FileComponents.flagged_of_read fits')
  refine RespectsAlike.of_mem member _ _ rfl views fun _ name => ?_
  exact congrArg (classNamed · name) (s.classes_put_congr path same.classes)

/-- A getter in the group of its field, beside a public field. -/
def jointComponents : FileComponents :=
  ⟨[{ classes := [{ name := "Tank" }]
      methods := [{ name := "getLevel", isAccessor := true }]
      fields := [{ name := "level", modifiers := "private", isEncapsulated := true },
        { name := "label", type := "Label" }] }]⟩

/-- The same declarations with the getter in a group of its own. -/
def splitComponents : FileComponents :=
  ⟨[{ classes := [{ name := "Tank" }]
      fields := [{ name := "level", modifiers := "private" },
        { name := "label", type := "Label" }] },
    { methods := [{ name := "getLevel", isAccessor := true }] }]⟩

/-- The flags differ and the weight of the class does not. -/
theorem take_woc_regrouped : jointComponents.fields ≠ splitComponents.fields ∧
    (rating .woc classWeight classWeightTrace).take .null
        (some (Store.empty.put "Tank.java" jointComponents)) "Tank.java" =
      (rating .woc classWeight classWeightTrace).take .null
        (some (Store.empty.put "Tank.java" splitComponents)) "Tank.java" :=
  have joint : FileComponents.read jointComponents.write = .fits jointComponents :=
    FileComponents.read_write_of_flagged (by decide +kernel)
  have split : FileComponents.read splitComponents.write = .fits splitComponents :=
    FileComponents.read_write_of_flagged (by decide +kernel)
  have listed : rating .woc classWeight classWeightTrace ∈ ofLanguage .java :=
    List.mem_of_find?_eq_some (p := (·.metric == .woc)) rfl
  ⟨by decide, take_put_regrouped listed joint split ⟨by decide, by decide, by decide⟩ .null
    Store.empty "Tank.java" "Tank.java"⟩

end Measure

end DesignGauge
