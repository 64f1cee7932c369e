import DesignGauge.Proofs.Measure.Alike
import DesignGauge.Proofs.Text.Pieces
import Mathlib.Data.Set.Card

/-!
# Types within reach

A field of a foreign type leads from its name to the class that declares the type. Of several such
fields of one name the last one counts, and fields of other types do not come in between. A method
reaches a type by reading from a field that leads to it, or by calling an accessor of the field. The
data providers are the types that any method reads from, and the types whose data is used are those
that working methods reach in either way.

Results:
1. `foreignFields_eq`, `ownerOf_eq_some_iff_isOwner`: which type a name leads to.
2. `reachedBy_eq_some_iff`, `reachedByCall_eq_some_iff`: which type an entry reaches.
3. `encard_providerTypes`, `encard_accessedTypes`: the measures count the types within reach.
4. `reach_counted`: both measures of every file whose class has a name, and their bounds.
-/

namespace DesignGauge

theorem TypeName.base_base (type : String) : base (base type) = base type := by
  have apart : '<' ∉ Text.strip (Text.cut '<' type.toList).1 := fun member =>
    Text.not_mem_cut ((Text.strip_infix _).subset member)
  unfold base
  rw [String.toList_ofList, Text.cut_of_not_mem apart, Text.strip_strip]

namespace Measure

open Text

/-! ## Foreign fields -/

/-- A field declares a type that is foreign to a class: it is named, no primitive and not the class
itself, type arguments aside. -/
def DeclaresForeign (own : String) (f : FieldDecl) : Prop :=
  f.type ≠ "" ∧ TypeName.base f.type ≠ "" ∧ TypeName.base f.type ∉ TypeName.primitives ∧
    TypeName.base f.type ≠ own

instance (own : String) (f : FieldDecl) : Decidable (DeclaresForeign own f) :=
  inferInstanceAs (Decidable (_ ∧ _ ∧ _ ∧ _))

/-- A name leads to a type: the last of the fields of this name that declare a foreign type declares
this one. -/
def IsOwner (own : String) (fields : List FieldDecl) (name type : String) : Prop :=
  ∃ front f back, fields = front ++ f :: back ∧ DeclaresForeign own f ∧ f.name = name ∧
    f.type = type ∧ ∀ g ∈ back, DeclaresForeign own g → g.name ≠ name

theorem isForeign_iff {type own : String} : TypeName.isForeign type (some own) = true ↔
    TypeName.base type ≠ "" ∧ TypeName.base type ∉ TypeName.primitives ∧
      TypeName.base type ≠ own := by
  simp only [TypeName.isForeign, TypeName.isPrimitive, TypeName.base_base, Bool.and_eq_true,
    Bool.not_eq_true', ← Bool.not_eq_true, String.isEmpty_iff, List.contains_iff_mem, bne_iff_ne,
    ne_eq, Option.some.injEq, and_assoc, eq_comm (a := own)]

theorem foreignFields_eq (fields : List FieldDecl) (own : String) :
    foreignFields fields (some own) = fields.filter (DeclaresForeign own ·) := by
  refine List.filter_congr fun f _ => ?_
  rw [Bool.eq_iff_iff, Bool.and_eq_true, isForeign_iff, Bool.not_eq_true', ← Bool.not_eq_true,
    String.isEmpty_iff, decide_eq_true_iff]
  rfl

/-- What is found from the end is the last of its kind. -/
theorem find?_reverse_eq_some_iff {α : Type} {p : α → Bool} {l : List α} {a : α} :
    l.reverse.find? p = some a ↔
      p a = true ∧ ∃ front back, l = front ++ a :: back ∧ ∀ b ∈ back, p b = false := by
  rw [List.find?_eq_some_iff_append]
  refine and_congr_right fun _ => ?_
  constructor
  · rintro ⟨before, after, reversed, others⟩
    refine ⟨after.reverse, before.reverse, ?_, fun b member => ?_⟩
    · rw [← List.reverse_reverse l, reversed]
      simp
    · simpa using others b (List.mem_reverse.mp member)
  · rintro ⟨front, back, rfl, others⟩
    refine ⟨back.reverse, front.reverse, by simp, fun b member => ?_⟩
    simpa using others b (List.mem_reverse.mp member)

theorem ownerOf_eq_some_iff_isOwner {fields : List FieldDecl} {own name type : String} :
    ownerOf (foreignFields fields (some own)) name = some type ↔ IsOwner own fields name type := by
  rw [ownerOf, foreignFields_eq, ← List.filter_reverse, List.find?_filter, Option.map_eq_some_iff]
  simp only [find?_reverse_eq_some_iff, decide_eq_true_iff, beq_iff_eq]
  constructor
  · rintro ⟨f, ⟨⟨foreign, named⟩, front, back, split, others⟩, declared⟩
    refine ⟨front, f, back, split, foreign, named, declared, fun g member foreign' named' => ?_⟩
    simpa [foreign', named'] using others g member
  · rintro ⟨front, f, back, split, foreign, named, declared, others⟩
    refine ⟨f, ⟨⟨foreign, named⟩, front, back, split, fun g member => ?_⟩, declared⟩
    by_cases foreign' : DeclaresForeign own g
    · simp [others g member foreign']
    · simp [foreign']

/-! ## What an entry reaches -/

/-- An entry reads from an object: its text up to the first point. -/
def ReadsFrom (entry object : String) : Prop :=
  object.toList = entry.toList.takeWhile (· != '.')

/-- A call is one of a getter or setter of an object. -/
def CallsAccessorOf (call object : String) : Prop :=
  ∃ member : String, call.toList = object.toList ++ '.' :: member.toList ∧ '.' ∉ object.toList ∧
    ∃ start ∈ ["get", "Get", "set", "Set"], start.toList <+: member.toList

theorem isAccessorName_iff {name : String} : isAccessorName name = true ↔
    ∃ start ∈ ["get", "Get", "set", "Set"], start.toList <+: name.toList := by
  simp only [isAccessorName, List.any_eq_true, List.isPrefixOf_iff_prefix]

theorem isAccessorName_empty : isAccessorName "" = false := by decide

/-- The object and the member of an access are the pieces of a cut at the first point. -/
theorem splitAccess_eq (entry : String) : splitAccess entry =
    (String.ofList (cut '.' entry.toList).1, String.ofList (cut '.' entry.toList).2) := rfl

theorem readsFrom_iff {entry object : String} :
    ReadsFrom entry object ↔ object = (splitAccess entry).1 := by
  constructor
  · intro reads
    rw [← String.ofList_toList (s := object), reads]
    rfl
  · rintro rfl
    exact String.toList_ofList

theorem callsAccessorOf_iff {call object : String} : CallsAccessorOf call object ↔
    object = (splitAccess call).1 ∧ isAccessorName (splitAccess call).2 = true := by
  rw [splitAccess_eq]
  constructor
  · rintro ⟨member, split, absent, starts⟩
    rw [split, cut_append_cons absent, String.ofList_toList, String.ofList_toList]
    exact ⟨rfl, isAccessorName_iff.mpr starts⟩
  · rintro ⟨rfl, accessor⟩
    -- a name that starts as getters do is not empty, so that there is a point in front of it
    have left : (cut '.' call.toList).2 ≠ [] := by
      intro empty
      rw [empty] at accessor
      exact absurd (isAccessorName_empty.symm.trans accessor) Bool.false_ne_true
    refine ⟨String.ofList (cut '.' call.toList).2, ?_, ?_, isAccessorName_iff.mp accessor⟩
    · rw [String.toList_ofList, String.toList_ofList]
      exact eq_append_of_cut left
    · rw [String.toList_ofList]
      exact not_mem_cut

instance (call object : String) : Decidable (CallsAccessorOf call object) :=
  decidable_of_iff _ callsAccessorOf_iff.symm

theorem reachedBy_eq_some_iff {fields : List FieldDecl} {own entry type : String} :
    reachedBy (foreignFields fields (some own)) entry = some type ↔
      ∃ object, ReadsFrom entry object ∧ IsOwner own fields object type := by
  simp only [readsFrom_iff, exists_eq_left, reachedBy, ownerOf_eq_some_iff_isOwner]

theorem reachedByCall_eq_some_iff {fields : List FieldDecl} {own call type : String} :
    reachedByCall (foreignFields fields (some own)) call = some type ↔
      ∃ object, CallsAccessorOf call object ∧ IsOwner own fields object type := by
  simp only [callsAccessorOf_iff, and_assoc, exists_eq_left, ← ownerOf_eq_some_iff_isOwner]
  exact Option.ite_none_right_eq_some

/-! ## What methods reach -/

/-- The foreign types that fields declare. -/
def foreignTypes (own : String) (v : ClassView) : Set String :=
  {type | ∃ f ∈ v.fields, DeclaresForeign own f ∧ f.type = type}

/-- The foreign types that methods read from. -/
def providerTypes (own : String) (v : ClassView) : Set String :=
  {type | ∃ m ∈ v.methods, ∃ entry ∈ m.fieldAccess, ∃ object,
    ReadsFrom entry object ∧ IsOwner own v.fields object type}

/-- The foreign types that methods read from or call accessors of, constructors and accessors
aside. -/
def accessedTypes (own : String) (v : ClassView) : Set String :=
  {type | ∃ m ∈ v.methods, m.isConstructor = false ∧ m.isAccessor = false ∧ ∃ object,
    ((∃ entry ∈ m.fieldAccess, ReadsFrom entry object) ∨
      ∃ call ∈ m.calls, CallsAccessorOf call object) ∧ IsOwner own v.fields object type}

theorem encard_mem_eq (l : List String) : {a | a ∈ l}.encard = l.eraseDups.length := by
  have same : {a | a ∈ l} = (l.eraseDups.toFinset : Set String) := by
    ext a
    simp
  rw [same, Set.encard_coe_eq_coe_finsetCard,
    List.toFinset_card_of_nodup (nodup_eraseDups l)]

variable {v : ClassView} {own : String}

/-- In a class with a name the foreign fields are those of a type foreign to it. -/
theorem foreignIn_of_named (named : v.className? = some own) (nonempty : own ≠ "") :
    foreignIn v = foreignFields v.fields (some own) := by
  unfold foreignIn
  rw [named]
  exact if_neg (by simpa [String.isEmpty_iff] using nonempty)

theorem encard_providerTypes (named : v.className? = some own) (nonempty : own ≠ "") :
    (providerTypes own v).encard = dataProviders v := by
  unfold dataProviders providers
  rw [foreignIn_of_named named nonempty, ← encard_mem_eq]
  refine congrArg Set.encard (Set.ext fun type => ?_)
  simp only [providerTypes, Set.mem_ofPred_eq, List.mem_flatMap, List.mem_filterMap,
    reachedBy_eq_some_iff]

theorem mem_working_iff {m : MethodDecl} :
    m ∈ working v ↔ m ∈ v.methods ∧ m.isConstructor = false ∧ m.isAccessor = false := by
  rw [working, List.mem_filter, Bool.not_eq_true', Bool.or_eq_false_iff]

theorem encard_accessedTypes (named : v.className? = some own) (nonempty : own ≠ "") :
    (accessedTypes own v).encard = foreignAccess v := by
  unfold foreignAccess accessed
  rw [foreignIn_of_named named nonempty, ← encard_mem_eq]
  refine congrArg Set.encard (Set.ext fun type => ?_)
  simp only [accessedTypes, Set.mem_ofPred_eq, List.mem_flatMap, List.mem_filterMap,
    List.mem_append, mem_working_iff, reachedBy_eq_some_iff, reachedByCall_eq_some_iff]
  constructor
  · rintro ⟨m, member, constructs, accesses, object, ⟨entry, here, reads⟩ | ⟨call, here, calls⟩,
      owner⟩
    · exact ⟨m, ⟨member, constructs, accesses⟩, .inl ⟨entry, here, object, reads, owner⟩⟩
    · exact ⟨m, ⟨member, constructs, accesses⟩, .inr ⟨call, here, object, calls, owner⟩⟩
  · rintro ⟨m, ⟨member, constructs, accesses⟩, ⟨entry, here, object, reads, owner⟩ |
      ⟨call, here, object, calls, owner⟩⟩
    · exact ⟨m, member, constructs, accesses, object, .inl ⟨entry, here, reads⟩, owner⟩
    · exact ⟨m, member, constructs, accesses, object, .inr ⟨call, here, calls⟩, owner⟩

/-! ## Bounds -/

theorem IsOwner.exists_field {name type : String} (owner : IsOwner own v.fields name type) :
    ∃ f ∈ v.fields, DeclaresForeign own f ∧ f.name = name ∧ f.type = type := by
  obtain ⟨front, f, back, split, foreign, named, declared, _⟩ := owner
  have member : f ∈ v.fields := by
    rw [split]
    exact List.mem_append_right front List.mem_cons_self
  exact ⟨f, member, foreign, named, declared⟩

theorem providerTypes_subset : providerTypes own v ⊆ foreignTypes own v := by
  rintro type ⟨_, _, _, _, _, _, owner⟩
  obtain ⟨f, member, foreign, _, declared⟩ := owner.exists_field
  exact ⟨f, member, foreign, declared⟩

theorem accessedTypes_subset : accessedTypes own v ⊆ foreignTypes own v := by
  rintro type ⟨_, _, _, _, _, _, owner⟩
  obtain ⟨f, member, foreign, _, declared⟩ := owner.exists_field
  exact ⟨f, member, foreign, declared⟩

/-- There are no more foreign types than fields. -/
theorem encard_foreignTypes_le (v : ClassView) (own : String) :
    (foreignTypes own v).encard ≤ attributes v := by
  have declared : foreignTypes own v ⊆ ((v.fields.map FieldDecl.type).toFinset : Set String) := by
    rintro type ⟨f, member, _, rfl⟩
    exact Finset.mem_coe.mpr (List.mem_toFinset.mpr (List.mem_map_of_mem member))
  calc (foreignTypes own v).encard
    _ ≤ ((v.fields.map FieldDecl.type).toFinset : Set String).encard :=
        Set.encard_le_encard declared
    _ = ((v.fields.map FieldDecl.type).toFinset.card : ℕ∞) := Set.encard_coe_eq_coe_finsetCard _
    _ ≤ ((v.fields.map FieldDecl.type).length : ℕ∞) :=
        Nat.cast_le.mpr (List.toFinset_card_le _)
    _ = attributes v := by rw [List.length_map, attributes]

/-- Data providers and the types whose data is used are exactly the foreign types within reach, for
every file whose class has a name. There are no more of either than foreign types of fields, and no
more than fields. Where no working method calls an accessor of a field of a foreign type, every type
whose data is used is a data provider. -/
theorem reach_counted (named : v.className? = some own) (nonempty : own ≠ "") :
    (providerTypes own v).encard = dataProviders v ∧
    (accessedTypes own v).encard = foreignAccess v ∧
    (dataProviders v ≤ (foreignTypes own v).encard ∧ dataProviders v ≤ attributes v) ∧
    (foreignAccess v ≤ (foreignTypes own v).encard ∧ foreignAccess v ≤ attributes v) ∧
    ((∀ m ∈ v.methods, m.isConstructor = false → m.isAccessor = false → ∀ call ∈ m.calls,
        ∀ f ∈ v.fields, DeclaresForeign own f → ¬ CallsAccessorOf call f.name) →
      foreignAccess v ≤ dataProviders v) := by
  have provided := encard_providerTypes named nonempty
  have used := encard_accessedTypes named nonempty
  have few := encard_foreignTypes_le v own
  have fewProvided := provided.symm.le.trans (Set.encard_le_encard providerTypes_subset)
  have fewUsed := used.symm.le.trans (Set.encard_le_encard accessedTypes_subset)
  refine ⟨provided, used, ⟨fewProvided, Nat.cast_le.mp (fewProvided.trans few)⟩,
    ⟨fewUsed, Nat.cast_le.mp (fewUsed.trans few)⟩, fun direct => ?_⟩
  have within : accessedTypes own v ⊆ providerTypes own v := by
    rintro type ⟨m, member, constructs, accesses, object,
      ⟨entry, here, reads⟩ | ⟨call, here, calls⟩, owner⟩
    · exact ⟨m, member, entry, here, object, reads, owner⟩
    · obtain ⟨f, declared, foreign, rfl, _⟩ := owner.exists_field
      exact absurd calls (direct m member constructs accesses call here f declared foreign)
  have le := Set.encard_le_encard within
  rw [provided, used] at le
  exact Nat.cast_le.mp le

/-- A reservoir with two fields called tank, one of them a number, and two called gauge. -/
def reservoirView : ClassView where
  classes := [{ name := "Reservoir" }]
  methods := [{ name := "Reservoir", isConstructor := true, fieldAccess := ["log.size"] },
    { name := "fill", fieldAccess := ["tank.level.unit", "inner.depth", "other"],
      calls := ["gauge.getValue", "log.add", "getTank"] }]
  fields := [{ name := "tank", type := "Tank" }, { name := "tank", type := "int" },
    { name := "gauge", type := "Tank" }, { name := "gauge", type := "Gauge<Float>" },
    { name := "inner", type := "Reservoir<Water>" }, { name := "log", type := "List<String>" }]

/-- The reservoir with one method, which calls accessors of its own class only. -/
def drainedView : ClassView where
  classes := reservoirView.classes
  methods := [
    { name := "drain", fieldAccess := ["gauge.value"],
      calls := ["tank.open", "log", "inner.getDepth"] }]
  fields := reservoirView.fields

/-- The number does not hide the tank, and the second gauge hides the first. -/
theorem reservoir_counted :
    reservoirView.className? = some "Reservoir" ∧
    (providerTypes "Reservoir" reservoirView).encard = 2 ∧
    (accessedTypes "Reservoir" reservoirView).encard = 2 ∧
    2 ≤ (foreignTypes "Reservoir" reservoirView).encard ∧
    foreignAccess drainedView ≤ dataProviders drainedView := by
  have providers : dataProviders reservoirView = 2 := by decide +kernel
  have accesses : foreignAccess reservoirView = 2 := by decide +kernel
  have named : reservoirView.className? = some "Reservoir" := rfl
  have drainedNamed : drainedView.className? = some "Reservoir" := rfl
  obtain ⟨provided, used, ⟨few, _⟩, _⟩ := reach_counted named (by decide)
  obtain ⟨_, _, _, _, direct⟩ := reach_counted drainedNamed (by decide)
  rw [providers] at provided few
  rw [accesses] at used
  exact ⟨named, provided, used, few, direct (by decide +kernel)⟩

end Measure

end DesignGauge
