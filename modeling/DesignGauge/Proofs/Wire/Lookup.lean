import DesignGauge.Component.Wire
import Mathlib.Data.List.Perm.Basic

/-!
# Names in a mapping

A part of a record is looked up in a mapping under the first of its spellings that is there. What is
found depends on the names and their values alone: where a name is the key of one entry only, the
order of the entries does not matter.

Results:
1. `lookup?_eq_some_iff_mem`, `lookup?_perm`: the value of a name in a mapping, in any order.
2. `spelled?_congr`, `spelled?_rel`: mappings that are alike name by name are alike in each part.
3. `spelled?_middle`: a part with one spelling is found under it.
4. `AgreeBut.member`: a part is read alike from mappings that differ in another name.
-/

namespace DesignGauge.Wire

/-- The name that a key is. -/
def nameOf? : Datum → Option String
  | .text name => some name
  | _ => none

/-- The entries are those of a mapping: no name is the key of two of them. -/
def Distinct (entries : Entries) : Prop := (entries.filterMap fun e => nameOf? e.1).Nodup

/-- A name is one of the keys. -/
def Present (name : String) (entries : Entries) : Prop := ∃ entry ∈ entries, entry.1 = .text name

instance (entries : Entries) : Decidable (Distinct entries) :=
  inferInstanceAs (Decidable (List.Nodup _))

theorem nameOf?_eq_some_iff {key : Datum} {name : String} :
    nameOf? key = some name ↔ key = .text name := by
  cases key <;> simp [nameOf?]

instance (name : String) (entries : Entries) : Decidable (Present name entries) :=
  decidable_of_iff (∃ entry ∈ entries, nameOf? entry.1 = some name)
    (exists_congr fun _ => and_congr_right fun _ => nameOf?_eq_some_iff)

variable {name : String} {entries entries' : Entries}

/-! ## Looking a name up -/

theorem lookup?_append (front back : Entries) :
    Datum.lookup? name (front ++ back) =
      (Datum.lookup? name front).or (Datum.lookup? name back) := by
  unfold Datum.lookup?
  rw [List.find?_append, Option.map_or]

theorem lookup?_cons_self (value : Datum) (rest : Entries) :
    Datum.lookup? name ((.text name, value) :: rest) = some value := by
  simp [Datum.lookup?]

theorem lookup?_cons_of_ne {key : Datum} (differs : key ≠ .text name) (value : Datum)
    (rest : Entries) :
    Datum.lookup? name ((key, value) :: rest) = Datum.lookup? name rest := by
  cases key with
  | text other =>
    have other : (other == name) = false :=
      beq_eq_false_iff_ne.mpr fun same => differs (congrArg _ same)
    simp [Datum.lookup?, other]
  | _ => rfl

/-- What is looked up is the value of an entry. -/
theorem mem_of_lookup? {value : Datum} (found : Datum.lookup? name entries = some value) :
    ∃ entry ∈ entries, entry.2 = value := by
  obtain ⟨entry, first, same⟩ := Option.map_eq_some_iff.mp found
  exact ⟨entry, List.mem_of_find?_eq_some first, same⟩

theorem present_cons_iff {entry : Datum × Datum} :
    Present name (entry :: entries) ↔ entry.1 = .text name ∨ Present name entries := by
  simp only [Present, List.mem_cons, exists_eq_or_imp]

theorem lookup?_eq_none_iff : Datum.lookup? name entries = none ↔ ¬ Present name entries := by
  induction entries with
  | nil => simp [Datum.lookup?, Present]
  | cons entry rest ih =>
    obtain ⟨key, value⟩ := entry
    rw [present_cons_iff]
    by_cases same : key = .text name
    · subst same
      simp [lookup?_cons_self]
    · rw [lookup?_cons_of_ne same, ih]
      simp [same]

theorem distinct_cons {entry : Datum × Datum} (distinct : Distinct (entry :: entries)) :
    Distinct entries ∧ (entry.1 = .text name → ¬ Present name entries) := by
  have rest : Distinct entries :=
    distinct.sublist ((List.sublist_cons_self _ _).filterMap _)
  refine ⟨rest, ?_⟩
  rintro same ⟨other, member, again⟩
  rw [Distinct, List.filterMap_cons, same] at distinct
  refine (List.nodup_cons.mp distinct).1 (List.mem_filterMap.mpr ⟨other, member, ?_⟩)
  rw [again, nameOf?]

/-- In a mapping the value of a name is the one that stands with it. -/
theorem lookup?_eq_some_iff_mem (distinct : Distinct entries) {value : Datum} :
    Datum.lookup? name entries = some value ↔ (.text name, value) ∈ entries := by
  induction entries with
  | nil => simp [Datum.lookup?]
  | cons entry rest ih =>
    obtain ⟨key, first⟩ := entry
    obtain ⟨distinct, once⟩ := @distinct_cons name _ _ distinct
    by_cases same : key = .text name
    · have absent : (Datum.text name, value) ∉ rest := fun member => once same ⟨_, member, rfl⟩
      subst same
      simp [lookup?_cons_self, absent, eq_comm]
    · have apart : (Datum.text name, value) ≠ (key, first) := fun both =>
        same (congrArg Prod.fst both).symm
      rw [lookup?_cons_of_ne same, ih distinct, List.mem_cons, or_iff_right apart]

theorem lookup?_perm (distinct : Distinct entries) (perm : entries.Perm entries') :
    Datum.lookup? name entries = Datum.lookup? name entries' := by
  have distinct' : Distinct entries' := (perm.filterMap _).nodup_iff.mp distinct
  refine Option.ext fun value => ?_
  rw [lookup?_eq_some_iff_mem distinct, lookup?_eq_some_iff_mem distinct', perm.mem_iff]

theorem lookup?_extended {key value : Datum} (differs : key ≠ .text name) :
    Datum.lookup? name entries = Datum.lookup? name (entries ++ [(key, value)]) := by
  rw [lookup?_append, lookup?_cons_of_ne differs]
  exact (Option.or_none).symm

theorem lookup?_middle_of_ne {front back : Entries} {key key' value value' : Datum}
    (differs : key ≠ .text name) (differs' : key' ≠ .text name) :
    Datum.lookup? name (front ++ (key, value) :: back) =
      Datum.lookup? name (front ++ (key', value') :: back) := by
  rw [lookup?_append, lookup?_append, lookup?_cons_of_ne differs, lookup?_cons_of_ne differs']

/-! ## Spellings of a part -/

theorem spelled?_append (front back : List String) :
    spelled? entries (front ++ back) = (spelled? entries front).or (spelled? entries back) := by
  induction front with
  | nil => rfl
  | cons first front ih =>
    rw [List.cons_append, spelled?, spelled?]
    cases Datum.lookup? first entries with
    | none => exact ih
    | some value => rfl

theorem spelled?_congr {names : List String}
    (same : ∀ name ∈ names, Datum.lookup? name entries = Datum.lookup? name entries') :
    spelled? entries names = spelled? entries' names := by
  induction names with
  | nil => rfl
  | cons first names ih =>
    rw [spelled?, spelled?, same first List.mem_cons_self,
      ih fun name member => same name (List.mem_cons_of_mem _ member)]

/-- Values that are related name by name are related under the first spelling that is there. -/
theorem spelled?_rel {related : Datum → Datum → Prop} {names : List String}
    (each : ∀ name ∈ names,
      Option.Rel related (Datum.lookup? name entries) (Datum.lookup? name entries')) :
    Option.Rel (fun found found' => related found.2 found'.2)
      (spelled? entries names) (spelled? entries' names) := by
  induction names with
  | nil => exact .none
  | cons first names ih =>
    have here := each first List.mem_cons_self
    have later := ih fun name member => each name (List.mem_cons_of_mem _ member)
    rw [spelled?, spelled?]
    generalize Datum.lookup? first entries = value at here ⊢
    generalize Datum.lookup? first entries' = value' at here ⊢
    cases here with
    | none => exact later
    | some here => exact .some here

/-- The only spelling that is there is found. -/
theorem spelled?_of_only {names : List String} (member : name ∈ names) {value : Datum}
    (found : Datum.lookup? name entries = some value)
    (only : ∀ other ∈ names, other ≠ name → Datum.lookup? other entries = none) :
    spelled? entries names = some (name, value) := by
  induction names with
  | nil => exact absurd member List.not_mem_nil
  | cons first names ih =>
    rw [spelled?]
    by_cases same : first = name
    · rw [same, found]
    · rw [only first List.mem_cons_self same]
      exact ih ((List.mem_cons.mp member).resolve_left (Ne.symm same)) fun other later =>
        only other (List.mem_cons_of_mem _ later)

theorem isSome_spelled? {names : List String} (member : name ∈ names)
    (present : Present name entries) : (spelled? entries names).isSome = true := by
  induction names with
  | nil => exact absurd member List.not_mem_nil
  | cons first names ih =>
    rw [spelled?]
    cases found : Datum.lookup? first entries with
    | some value => rfl
    | none =>
      have absent := lookup?_eq_none_iff.mp found
      refine ih ((List.mem_cons.mp member).resolve_left fun same => ?_)
      exact absent (same ▸ present)

theorem mem_of_spelled? {names : List String} {found : String × Datum}
    (spelled : spelled? entries names = some found) :
    found.1 ∈ names ∧ ∃ entry ∈ entries, entry.2 = found.2 := by
  induction names with
  | nil => cases spelled
  | cons first names ih =>
    rw [spelled?] at spelled
    cases looked : Datum.lookup? first entries with
    | some value =>
      rw [looked] at spelled
      obtain rfl := Option.some.inj spelled
      exact ⟨List.mem_cons_self, mem_of_lookup? looked⟩
    | none =>
      rw [looked] at spelled
      exact (ih spelled).imp_left (List.mem_cons_of_mem _)

/-- A part with one spelling is found under it. -/
theorem spelled?_middle {front back : Entries} {names : List String} {value : Datum}
    (member : name ∈ names) (only : ∀ other ∈ names, ¬ Present other (front ++ back)) :
    spelled? (front ++ (.text name, value) :: back) names = some (name, value) := by
  have absent {other : String} (spelling : other ∈ names) :
      Datum.lookup? other front = none ∧ Datum.lookup? other back = none := by
    have nowhere := lookup?_eq_none_iff.mpr (only other spelling)
    rwa [lookup?_append, Option.or_eq_none_iff] at nowhere
  refine spelled?_of_only member ?_ fun other spelling differs => ?_
  · rw [lookup?_append, (absent member).1, lookup?_cons_self, Option.none_or]
  · rw [lookup?_append, (absent spelling).1, Option.none_or,
      lookup?_cons_of_ne fun same => differs (Datum.text.inj same).symm]
    exact (absent spelling).2

/-! ## Mappings that differ in one name -/

/-- Two mappings have the same values under all names but one. -/
def AgreeBut (name : String) (entries entries' : Entries) : Prop :=
  ∀ other, other ≠ name → Datum.lookup? other entries = Datum.lookup? other entries'

theorem AgreeBut.spelled? (agree : AgreeBut name entries entries') {spellings : List String}
    (apart : name ∉ spellings) :
    spelled? entries spellings = spelled? entries' spellings := by
  refine spelled?_congr fun other member => agree other ?_
  rintro rfl
  exact apart member

theorem AgreeBut.member {α : Type} (agree : AgreeBut name entries entries')
    {spellings : List String} (apart : name ∉ spellings) (absent : α)
    (read : Datum → Checked α) :
    member entries spellings absent read = member entries' spellings absent read := by
  rw [Wire.member, Wire.member, agree.spelled? apart]

end DesignGauge.Wire
