import DesignGauge.Proofs.Wire.Lookup
import Mathlib.Data.List.Forall2
import Mathlib.Data.List.TakeWhile

/-!
# Spellings and order of keys

A record is read from a mapping by the spellings of its parts. Two mappings can differ in the order
of their keys, in keys that name no part, in the spelling of a part, and in a further spelling that
an earlier one overrules, here and in every value inside. Such variants are read alike: as the same
record, or with the same issues at the same parts, or both are broken off.

What a reader sees of a value is its `Shape`, and `Respects` says that a reader reads the variants
of a shape alike.

Results:
1. `Variant.view`: what two variants have in common one level down.
2. `Matching.member`: a part of two matching mappings is read alike.
3. `respects_list`, `respects_nullable`, `respects_record`: compound readers read variants alike
   when the readers of their parts do.
-/

namespace DesignGauge.Wire

/-! ## Shapes and variants -/

/-- What is read from a value: a single value, a list of values, or a record with spellings of its
parts, the decisive one first. -/
inductive Shape where
  | plain
  | list (item : Shape)
  | record (parts : List (List String × Shape))

namespace Shape

/-- The parts of a record; other shapes have none. -/
def parts : Shape → List (List String × Shape)
  | .record parts => parts
  | _ => []

/-- The shape of the items of a list. -/
def item : Shape → Shape
  | .list item => item
  | _ => .plain

end Shape

/-- Two values of a shape differ in what is not read. -/
inductive Variant : Shape → Datum → Datum → Prop where
  | refl {shape : Shape} (value : Datum) : Variant shape value value
  | trans {shape : Shape} {a b c : Datum} :
      Variant shape a b → Variant shape b c → Variant shape a c
  /-- The keys are put in another order. -/
  | reorder {shape : Shape} {entries entries' : Entries} :
      Distinct entries → entries.Perm entries' → Variant shape (.map entries) (.map entries')
  /-- A key is added that names no part. -/
  | extend {shape : Shape} {entries : Entries} {key value : Datum} :
      (∀ part ∈ shape.parts, ∀ name ∈ part.1, key ≠ .text name) →
      Variant shape (.map entries) (.map (entries ++ [(key, value)]))
  /-- A part gets another of its spellings, if it has only one. -/
  | respell {shape : Shape} {front back : Entries} {old new : String} {value : Datum} :
      (∀ part ∈ shape.parts, old ∈ part.1 ↔ new ∈ part.1) →
      (∀ part ∈ shape.parts, old ∈ part.1 → ∀ name ∈ part.1, ¬ Present name (front ++ back)) →
      Variant shape (.map (front ++ (.text old, value) :: back))
        (.map (front ++ (.text new, value) :: back))
  /-- A part gets a further spelling, behind one that it has. -/
  | overrule {shape : Shape} {entries : Entries} {later : String} {value : Datum} :
      (∀ part ∈ shape.parts, later ∈ part.1 →
        ∃ earlier ∈ part.1.takeWhile (· != later), Present earlier entries) →
      Variant shape (.map entries) (.map (entries ++ [(.text later, value)]))
  /-- The value of a key changes into a variant for each part that the key names. -/
  | value {shape : Shape} {front back : Entries} {key value value' : Datum} :
      (∀ part ∈ shape.parts, (∃ name ∈ part.1, key = .text name) → Variant part.2 value value') →
      Variant shape (.map (front ++ (key, value) :: back)) (.map (front ++ (key, value') :: back))
  | item {shape : Shape} {front back : List Datum} {value value' : Datum} :
      Variant shape.item value value' →
      Variant shape (.list (front ++ value :: back)) (.list (front ++ value' :: back))
  | tupleItem {shape : Shape} {front back : List Datum} {value value' : Datum} :
      Variant shape.item value value' →
      Variant shape (.tuple (front ++ value :: back)) (.tuple (front ++ value' :: back))

/-- Two places are the same up to the spelling of parts. -/
inductive SamePlace : Shape → List Step → List Step → Prop where
  | here {shape : Shape} : SamePlace shape [] []
  | member {shape part : Shape} {names : List String} {name name' : String}
      {place place' : List Step} :
      (names, part) ∈ shape.parts → name ∈ names → name' ∈ names → SamePlace part place place' →
      SamePlace shape (.member name :: place) (.member name' :: place')
  | item {shape : Shape} {index : Nat} {place place' : List Step} :
      SamePlace shape.item place place' →
      SamePlace shape (.item index :: place) (.item index :: place')

/-- Two issues are of the same kind and at the same place. -/
def SameIssue (shape : Shape) (i i' : Issue) : Prop :=
  i.misfit = i'.misfit ∧ SamePlace shape i.place i'.place

/-- Two readings have the same outcome: the same value, the same issues in the same order, or both
are broken off by a value of the same kind. -/
inductive Agree {α : Type} (shape : Shape) : Checked α → Checked α → Prop where
  | fits (value : α) : Agree shape (.fits value) (.fits value)
  | issues {all all' : List Issue} :
      List.Forall₂ (SameIssue shape) all all' → Agree shape (.issues all) (.issues all')
  | unkeyable (kind : String) : Agree shape (.unkeyable kind) (.unkeyable kind)

/-- A reader reads the variants of a shape alike. -/
def Respects {α : Type} (shape : Shape) (read : Datum → Checked α) : Prop :=
  ∀ ⦃value value' : Datum⦄, Variant shape value value' → Agree shape (read value) (read value')

/-! ## What variants have in common -/

theorem rel_self {α : Type} {related : α → α → Prop} (refl : ∀ a, related a a) (value : Option α) :
    Option.Rel related value value := by
  cases value with
  | none => exact .none
  | some a => exact .some (refl a)

/-- Each part has variants under its decisive spellings, or is missing in both mappings. -/
def Matching (shape : Shape) (entries entries' : Entries) : Prop :=
  ∀ part ∈ shape.parts, Option.Rel (fun found found' => Variant part.2 found.2 found'.2)
    (spelled? entries part.1) (spelled? entries' part.1)

/-- A value has no values inside. -/
def isSingle : Datum → Bool
  | .map _ => false
  | .list _ => false
  | .tuple _ => false
  | _ => true

/-- What two variants have in common one level down. -/
inductive View (shape : Shape) : Datum → Datum → Prop where
  | single {value : Datum} : isSingle value = true → View shape value value
  | map {entries entries' : Entries} :
      Matching shape entries entries' → View shape (.map entries) (.map entries')
  | list {items items' : List Datum} :
      List.Forall₂ (Variant shape.item) items items' → View shape (.list items) (.list items')
  | tuple {items items' : List Datum} :
      List.Forall₂ (Variant shape.item) items items' → View shape (.tuple items) (.tuple items')

section Matching

variable {shape : Shape} {entries entries' entries'' : Entries}

theorem Matching.trans (first : Matching shape entries entries')
    (second : Matching shape entries' entries'') : Matching shape entries entries'' := by
  intro part member
  have here := first part member
  have there := second part member
  generalize spelled? entries part.1 = found at here ⊢
  generalize spelled? entries' part.1 = found' at here there
  generalize spelled? entries'' part.1 = found'' at there ⊢
  cases here with
  | none => exact there
  | some here =>
    cases there with
    | some there => exact .some (here.trans there)

theorem matching_of_lookup
    (each : ∀ part ∈ shape.parts, ∀ name ∈ part.1,
      Option.Rel (Variant part.2) (Datum.lookup? name entries) (Datum.lookup? name entries')) :
    Matching shape entries entries' :=
  fun part member => spelled?_rel (each part member)

theorem matching_of_spelled
    (each : ∀ part ∈ shape.parts, spelled? entries part.1 = spelled? entries' part.1) :
    Matching shape entries entries' := by
  intro part member
  rw [each part member]
  exact rel_self (fun _ => .refl _) _

theorem matching_extend {key value : Datum}
    (new : ∀ part ∈ shape.parts, ∀ name ∈ part.1, key ≠ .text name) :
    Matching shape entries (entries ++ [(key, value)]) :=
  matching_of_spelled fun part member =>
    spelled?_congr fun name spelling => lookup?_extended (new part member name spelling)

/-- The spelling that is there stands in front of the one that is added. -/
theorem matching_overrule {later : String} {value : Datum}
    (overruled : ∀ part ∈ shape.parts, later ∈ part.1 →
      ∃ earlier ∈ part.1.takeWhile (· != later), Present earlier entries) :
    Matching shape entries (entries ++ [(.text later, value)]) := by
  refine matching_of_spelled fun part member => ?_
  have apart {name : String} (differs : name ≠ later) :
      Datum.lookup? name entries = Datum.lookup? name (entries ++ [(.text later, value)]) :=
    lookup?_extended fun same => differs (Datum.text.inj same).symm
  by_cases spelling : later ∈ part.1
  · obtain ⟨earlier, inFront, present⟩ := overruled part member spelling
    have front : spelled? entries (part.1.takeWhile (· != later)) =
        spelled? (entries ++ [(.text later, value)]) (part.1.takeWhile (· != later)) := by
      refine spelled?_congr fun name first => apart ?_
      have differs : (name != later) = true := List.mem_takeWhile_imp (p := (· != later)) first
      exact bne_iff_ne.mp differs
    obtain ⟨found, decisive⟩ := Option.isSome_iff_exists.mp (isSome_spelled? inFront present)
    rw [← List.takeWhile_append_dropWhile (p := (· != later)) (l := part.1), spelled?_append,
      spelled?_append, ← front, decisive]
    rfl
  · refine spelled?_congr fun name first => apart ?_
    rintro rfl
    exact spelling first

theorem matching_respell {front back : Entries} {old new : String} {value : Datum}
    (same : ∀ part ∈ shape.parts, old ∈ part.1 ↔ new ∈ part.1)
    (only : ∀ part ∈ shape.parts, old ∈ part.1 →
      ∀ name ∈ part.1, ¬ Present name (front ++ back)) :
    Matching shape (front ++ (.text old, value) :: back) (front ++ (.text new, value) :: back) := by
  intro part member
  by_cases spelling : old ∈ part.1
  · have only := only part member spelling
    rw [spelled?_middle spelling only, spelled?_middle ((same part member).mp spelling) only]
    exact .some (.refl value)
  · have spelling' : new ∉ part.1 := fun there => spelling ((same part member).mpr there)
    have others : spelled? (front ++ (.text old, value) :: back) part.1 =
        spelled? (front ++ (.text new, value) :: back) part.1 := by
      refine spelled?_congr fun name first => lookup?_middle_of_ne ?_ ?_
      · rintro ⟨⟩
        exact spelling first
      · rintro ⟨⟩
        exact spelling' first
    rw [others]
    exact rel_self (fun _ => .refl _) _

theorem matching_value {front back : Entries} {key value value' : Datum}
    (variant : ∀ part ∈ shape.parts, (∃ name ∈ part.1, key = .text name) →
      Variant part.2 value value') :
    Matching shape (front ++ (key, value) :: back) (front ++ (key, value') :: back) := by
  refine matching_of_lookup fun part member name spelling => ?_
  by_cases same : key = .text name
  · have here := variant part member ⟨name, spelling, same⟩
    subst same
    rw [lookup?_append, lookup?_append, lookup?_cons_self, lookup?_cons_self]
    cases Datum.lookup? name front with
    | none => exact .some here
    | some found => exact .some (.refl found)
  · rw [@lookup?_middle_of_ne name front back key key value value' same same]
    exact rel_self (fun _ => .refl _) _

end Matching

theorem forall₂_same {shape : Shape} (items : List Datum) :
    List.Forall₂ (Variant shape) items items :=
  List.forall₂_same.mpr fun item _ => .refl item

theorem forall₂_middle {shape : Shape} {front back : List Datum} {value value' : Datum}
    (variant : Variant shape value value') :
    List.Forall₂ (Variant shape) (front ++ value :: back) (front ++ value' :: back) :=
  List.rel_append (forall₂_same front) (.cons variant (forall₂_same back))

theorem forall₂_trans {shape : Shape} {items items' items'' : List Datum}
    (first : List.Forall₂ (Variant shape) items items')
    (second : List.Forall₂ (Variant shape) items' items'') :
    List.Forall₂ (Variant shape) items items'' := by
  induction first generalizing items'' with
  | nil => exact second
  | cons here _ ih =>
    cases second with
    | cons there later => exact .cons (here.trans there) (ih later)

theorem View.trans {shape : Shape} {a b c : Datum} (first : View shape a b)
    (second : View shape b c) : View shape a c := by
  cases first with
  | single => exact second
  | map here =>
    cases second with
    | single never => cases never
    | map there => exact .map (here.trans there)
  | list here =>
    cases second with
    | single never => cases never
    | list there => exact .list (forall₂_trans here there)
  | tuple here =>
    cases second with
    | single never => cases never
    | tuple there => exact .tuple (forall₂_trans here there)

theorem View.refl {shape : Shape} (value : Datum) : View shape value value := by
  cases value with
  | map entries => exact .map (matching_of_spelled fun _ _ => rfl)
  | list items => exact .list (forall₂_same items)
  | tuple items => exact .tuple (forall₂_same items)
  | _ => exact .single rfl

theorem Variant.view {shape : Shape} {value value' : Datum} (variant : Variant shape value value') :
    View shape value value' := by
  induction variant with
  | refl value => exact .refl value
  | trans _ _ first second => exact first.trans second
  | reorder distinct perm =>
    exact .map (matching_of_spelled fun _ _ => spelled?_congr fun _ _ => lookup?_perm distinct perm)
  | extend new => exact .map (matching_extend new)
  | respell same only => exact .map (matching_respell same only)
  | overrule overruled => exact .map (matching_overrule overruled)
  | value variant => exact .map (matching_value variant)
  | item variant => exact .list (forall₂_middle variant)
  | tupleItem variant => exact .tuple (forall₂_middle variant)

/-! ## Outcomes -/

namespace Agree

variable {α β : Type} {shape : Shape}

theorem misfit (m : Misfit) : Agree shape (.misfit m : Checked α) (.misfit m) :=
  .issues (.cons ⟨rfl, .here⟩ .nil)

theorem map (f : α → β) {c c' : Checked α} (agree : Agree shape c c') :
    Agree shape (f <$> c) (f <$> c') := by
  cases agree with
  | fits value => exact .fits (f value)
  | issues same => exact .issues same
  | unkeyable kind => exact .unkeyable kind

theorem seq {f f' : Checked (α → β)} {c c' : Checked α} (function : Agree shape f f')
    (argument : Agree shape c c') : Agree shape (f <*> c) (f' <*> c') := by
  cases function with
  | fits g => exact argument.map g
  | unkeyable kind => exact .unkeyable kind
  | issues same =>
    cases argument with
    | fits value => exact .issues same
    | issues more => exact .issues (List.rel_append same more)
    | unkeyable kind => exact .unkeyable kind

/-- Steps to the same place keep an agreement. -/
theorem under {part : Shape} {step step' : Step} {c c' : Checked α}
    (places : ∀ place place', SamePlace part place place' →
      SamePlace shape (step :: place) (step' :: place'))
    (agree : Agree part c c') : Agree shape (c.under step) (c'.under step') := by
  cases agree with
  | fits value => exact .fits value
  | unkeyable kind => exact .unkeyable kind
  | issues same =>
    refine .issues (List.forall₂_map_left_iff.mpr (List.forall₂_map_right_iff.mpr ?_))
    exact same.imp fun _ _ issue => ⟨issue.1, places _ _ issue.2⟩

end Agree

section Reading

variable {α : Type} {shape : Shape}

/-- A part of two matching mappings is read alike. -/
theorem Matching.member {entries entries' : Entries} (matching : Matching shape entries entries')
    (index : Nat) {names : List String} {part : Shape}
    (present : shape.parts[index]? = some (names, part)) {absent : α}
    {read : Datum → Checked α} (respects : Respects part read) :
    Agree shape (Wire.member entries names absent read)
      (Wire.member entries' names absent read) := by
  have member : (names, part) ∈ shape.parts := List.mem_of_getElem? present
  have found := matching (names, part) member
  unfold Wire.member
  generalize spelled : spelled? entries names = first at found ⊢
  generalize spelled' : spelled? entries' names = second at found ⊢
  cases found with
  | none => exact .fits absent
  | some variant =>
    exact (respects variant).under fun _ _ same =>
      .member member (mem_of_spelled? spelled).1 (mem_of_spelled? spelled').1 same

/-- A record is read alike if matching mappings are. -/
theorem respects_record {read : Entries → Checked α}
    (matched : ∀ ⦃entries entries' : Entries⦄, Matching shape entries entries' →
      Agree shape (read entries) (read entries')) : Respects shape (record read) := by
  intro value value' variant
  cases variant.view with
  | single single =>
    cases value with
    | map _ => cases single
    | _ => exact .misfit .recordType
  | map matching => exact matched matching
  | list _ => exact .misfit .recordType
  | tuple _ => exact .misfit .recordType

theorem agree_itemsFrom {read : Datum → Checked α} (respects : Respects shape.item read)
    {items items' : List Datum} (variants : List.Forall₂ (Variant shape.item) items items')
    (index : Nat) : Agree shape (itemsFrom read index items) (itemsFrom read index items') := by
  induction variants generalizing index with
  | nil => exact .fits []
  | cons variant _ ih =>
    have first := (respects variant).under fun _ _ same => @SamePlace.item shape index _ _ same
    exact (first.map List.cons).seq (ih (index + 1))

/-- A list is read alike if its items are. -/
theorem respects_list {read : Datum → Checked α} (respects : Respects shape.item read) :
    Respects shape (list read) := by
  intro value value' variant
  cases variant.view with
  | single single =>
    cases value with
    | list _ => cases single
    | tuple _ => cases single
    | _ => exact .misfit .listType
  | map _ => exact .misfit .listType
  | list variants => exact agree_itemsFrom respects variants 0
  | tuple variants => exact agree_itemsFrom respects variants 0

/-- Null has no variants but itself. -/
theorem eq_null_iff {value value' : Datum} (variant : Variant shape value value') :
    value = .null ↔ value' = .null := by
  cases variant.view <;> simp

/-- A reader that gives null a value of its own. -/
theorem respects_orNull {read reading : Datum → Checked α} {empty : α}
    (null : reading .null = .fits empty)
    (other : ∀ value, value ≠ .null → reading value = read value)
    (respects : Respects shape read) : Respects shape reading := by
  intro value value' variant
  by_cases same : value = .null
  · rw [same, (eq_null_iff variant).mp same, null]
    exact .fits empty
  · rw [other value same, other value' fun same' => same ((eq_null_iff variant).mpr same')]
    exact respects variant

theorem respects_nullable {read : Datum → Checked α} (respects : Respects shape read) :
    Respects shape (nullable read) := by
  have given : Respects shape fun value => some <$> read value :=
    fun _ _ variant => (respects variant).map some
  refine respects_orNull rfl (fun value there => ?_) given
  cases value with
  | null => exact absurd rfl there
  | _ => rfl

theorem respects_listOrNull {read : Datum → Checked α} (respects : Respects shape.item read) :
    Respects shape (listOrNull read) := by
  refine respects_orNull rfl (fun value there => ?_) (respects_list respects)
  cases value with
  | null => exact absurd rfl there
  | _ => rfl

/-! ### Single values -/

/-- A reader of single values: it fits or misfits as a whole, and refuses what has values inside. -/
structure IsScalar (read : Datum → Checked α) : Prop where
  whole : ∀ value, (∃ a, read value = .fits a) ∨ ∃ m, read value = .misfit m
  refuses : ∃ m, ∀ value, isSingle value = false → read value = .misfit m

theorem IsScalar.respects {read : Datum → Checked α} (scalar : IsScalar read) :
    Respects shape read := by
  obtain ⟨m, refuses⟩ := scalar.refuses
  intro value value' variant
  cases variant.view with
  | single _ =>
    rcases scalar.whole value with ⟨a, fits⟩ | ⟨m, misfit⟩
    · rw [fits]
      exact .fits a
    · rw [misfit]
      exact .misfit m
  | map _ => rw [refuses _ rfl, refuses _ rfl]; exact .misfit m
  | list _ => rw [refuses _ rfl, refuses _ rfl]; exact .misfit m
  | tuple _ => rw [refuses _ rfl, refuses _ rfl]; exact .misfit m

theorem isScalar_text : IsScalar text where
  whole value := by
    cases value with
    | text s => exact .inl ⟨s, rfl⟩
    | _ => exact .inr ⟨.textType, rfl⟩
  refuses := by
    refine ⟨.textType, fun value inside => ?_⟩
    cases value with
    | text s => cases inside
    | _ => rfl

theorem isScalar_textOrNull : IsScalar textOrNull where
  whole value := by
    cases value with
    | null => exact .inl ⟨"", rfl⟩
    | text s => exact .inl ⟨s, rfl⟩
    | _ => exact .inr ⟨.textType, rfl⟩
  refuses := by
    refine ⟨.textType, fun value inside => ?_⟩
    cases value with
    | null => cases inside
    | text s => cases inside
    | _ => rfl

theorem flagOfInt_whole (i : Int) :
    (∃ b, flagOfInt i = .fits b) ∨ ∃ m, flagOfInt i = .misfit m := by
  unfold flagOfInt
  split
  · exact .inl ⟨false, rfl⟩
  · split
    · exact .inl ⟨true, rfl⟩
    · exact .inr ⟨.flagText, rfl⟩

theorem isScalar_flag : IsScalar flag where
  whole value := by
    unfold flag
    split
    · exact .inl ⟨_, rfl⟩
    · split
      · exact .inl ⟨_, rfl⟩
      · exact .inr ⟨_, rfl⟩
    · split
      · exact flagOfInt_whole _
      · exact .inr ⟨_, rfl⟩
    · split
      · split
        · exact flagOfInt_whole _
        · exact .inr ⟨_, rfl⟩
      · exact .inr ⟨_, rfl⟩
    · exact .inr ⟨_, rfl⟩
  refuses := by
    refine ⟨.flagType, fun value inside => ?_⟩
    cases value with
    | map _ => rfl
    | list _ => rfl
    | tuple _ => rfl
    | _ => cases inside

theorem isScalar_whole : IsScalar whole where
  whole value := by
    unfold Wire.whole
    split
    · exact .inl ⟨_, rfl⟩
    · exact .inl ⟨_, rfl⟩
    · split
      · exact .inr ⟨_, rfl⟩
      · split
        · exact .inr ⟨_, rfl⟩
        · split
          · exact .inl ⟨_, rfl⟩
          · exact .inr ⟨_, rfl⟩
    · split
      · exact .inl ⟨_, rfl⟩
      · exact .inr ⟨_, rfl⟩
      · exact .inr ⟨_, rfl⟩
    · exact .inr ⟨_, rfl⟩
  refuses := by
    refine ⟨.wholeType, fun value inside => ?_⟩
    cases value with
    | map _ => rfl
    | list _ => rfl
    | tuple _ => rfl
    | _ => cases inside

theorem respects_textList : Respects shape textList :=
  respects_listOrNull isScalar_text.respects

end Reading

end DesignGauge.Wire
