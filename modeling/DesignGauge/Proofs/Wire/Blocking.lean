import DesignGauge.Component.Wire

/-!
# Readings that are broken off

A reading either reports what does not fit or is broken off by a value that is looked up as a key
and cannot be one. Of all that the components of a file are made of, only the modifiers of a method
are looked up, and only up to the first visibility word.

Results:
1. `Checked.blocks_seq`, `blocks_list`, `blocks_member`: a compound reading is broken off exactly
   when the reading of one of its parts is.
2. `firstAccess_blocks_iff`: the modifiers that break off the search for a visibility.
3. `FileComponents.read_blocks_iff`: the values that break off the reading of a file.
-/

namespace DesignGauge

open Wire

/-- The items of a list; other values have none. -/
def Datum.items : Datum → List Datum
  | .list xs => xs
  | .tuple xs => xs
  | _ => []

namespace Wire

namespace Checked

variable {α β : Type}

/-- The reading is broken off. -/
def blocks : Checked α → Bool
  | .unkeyable _ => true
  | _ => false

@[simp]
theorem blocks_fits (a : α) : (Checked.fits a).blocks = false := rfl

@[simp]
theorem blocks_misfit (m : Misfit) : (Checked.misfit m : Checked α).blocks = false := rfl

@[simp]
theorem blocks_map (f : α → β) (c : Checked α) : (f <$> c).blocks = c.blocks := by
  cases c <;> rfl

@[simp]
theorem blocks_seq (f : Checked (α → β)) (c : Checked α) :
    (f <*> c).blocks = (f.blocks || c.blocks) := by
  cases f <;> cases c <;> rfl

@[simp]
theorem blocks_under (step : Step) (c : Checked α) : (c.under step).blocks = c.blocks := by
  cases c <;> rfl

end Checked

variable {α : Type}

/-! ## Single values are never looked up -/

@[simp]
theorem blocks_text (value : Datum) : (text value).blocks = false := by
  cases value <;> rfl

@[simp]
theorem blocks_textOrNull (value : Datum) : (textOrNull value).blocks = false := by
  cases value <;> rfl

theorem blocks_flagOfInt (i : Int) : (flagOfInt i).blocks = false := by
  unfold flagOfInt
  split
  · rfl
  · split <;> rfl

@[simp]
theorem blocks_flag (value : Datum) : (flag value).blocks = false := by
  unfold flag
  split
  · rfl
  · split <;> rfl
  · split
    · exact blocks_flagOfInt _
    · rfl
  · split
    · split
      · exact blocks_flagOfInt _
      · rfl
    · rfl
  · rfl

@[simp]
theorem blocks_whole (value : Datum) : (whole value).blocks = false := by
  unfold whole
  split
  · rfl
  · rfl
  · split
    · rfl
    · split
      · rfl
      · split <;> rfl
  · split <;> rfl
  · rfl

@[simp]
theorem blocks_double (value : Datum) : (double value).blocks = false := by
  unfold double
  split
  · rfl
  · split <;> rfl
  · split
    · split <;> rfl
    · rfl

@[simp]
theorem blocks_number (value : Datum) : (number value).blocks = false := by
  have whole := blocks_whole value
  have double := blocks_double value
  unfold number
  split
  · rfl
  · rfl
  · cases read : Wire.whole value with
    | fits i => rfl
    | unkeyable kind => rw [read] at whole; exact nomatch whole
    | issues all =>
      cases read' : Wire.double value with
      | fits x => rfl
      | unkeyable kind => rw [read'] at double; exact nomatch double
      | issues more => rfl

/-! ## Parts -/

theorem blocks_itemsFrom (read : Datum → Checked α) (index : Nat) (values : List Datum) :
    (itemsFrom read index values).blocks = values.any fun value => (read value).blocks := by
  induction values generalizing index with
  | nil => rfl
  | cons value rest ih => simp [itemsFrom, ih]

/-- A list is broken off by its items. -/
theorem blocks_list (read : Datum → Checked α) (value : Datum) :
    (list read value).blocks = value.items.any fun item => (read item).blocks := by
  cases value with
  | list values => exact blocks_itemsFrom read 0 values
  | tuple values => exact blocks_itemsFrom read 0 values
  | _ => rfl

@[simp]
theorem blocks_textList (value : Datum) : (textList value).blocks = false := by
  have items : (list text value).blocks = false := by simp [blocks_list]
  cases value with
  | null => rfl
  | _ => exact items

theorem blocks_nullable {read : Datum → Checked α} (safe : ∀ value, (read value).blocks = false)
    (value : Datum) : (nullable read value).blocks = false := by
  cases value with
  | null => rfl
  | _ => exact (Checked.blocks_map some _).trans (safe _)

/-- A part is broken off by what stands under its spelling. -/
theorem blocks_member (entries : List (Datum × Datum)) (spellings : List String) (absent : α)
    (read : Datum → Checked α) :
    (member entries spellings absent read).blocks =
      (spelled? entries spellings).any fun found => (read found.2).blocks := by
  unfold member
  cases spelled? entries spellings with
  | none => rfl
  | some found => exact Checked.blocks_under ..

theorem blocks_member_of_safe {read : Datum → Checked α}
    (safe : ∀ value, (read value).blocks = false) (entries : List (Datum × Datum))
    (spellings : List String) (absent : α) :
    (member entries spellings absent read).blocks = false := by
  rw [blocks_member]
  cases spelled? entries spellings with
  | none => rfl
  | some found => exact safe found.2

theorem blocks_required_of_safe {read : Datum → Checked α}
    (safe : ∀ value, (read value).blocks = false) (entries : List (Datum × Datum))
    (spellings : List String) : (required entries spellings read).blocks = false := by
  unfold required
  cases spelled? entries spellings with
  | none => rfl
  | some found => exact (Checked.blocks_under ..).trans (safe found.2)

/-- A part with one spelling is broken off by what stands under it. -/
theorem blocks_member_iff {entries : List (Datum × Datum)} {name : String} {absent : α}
    {read : Datum → Checked α} :
    (member entries [name] absent read).blocks = true ↔
      ∃ value, Datum.lookup? name entries = some value ∧ (read value).blocks = true := by
  rw [blocks_member, spelled?]
  cases Datum.lookup? name entries with
  | none => simp [spelled?]
  | some value => simp

theorem blocks_record (read : List (Datum × Datum) → Checked α) (value : Datum) :
    (record read value).blocks = true ↔
      ∃ entries, value = .map entries ∧ (read entries).blocks = true := by
  cases value <;> simp [record]

end Wire

/-! ## Modifiers -/

/-- A modifier is a visibility word. -/
def isAccessWord : Datum → Bool
  | .text s => Access.all.any (·.word == s)
  | _ => false

/-- Some modifier cannot be a key, and no visibility word stands in front of it. -/
def Obstructive (modifiers : List Datum) : Prop :=
  ∃ before modifier rest, modifiers = before ++ modifier :: rest ∧
    modifier.unkeyable? ≠ none ∧ ∀ earlier ∈ before, isAccessWord earlier = false

theorem not_obstructive_nil : ¬ Obstructive [] := by
  rintro ⟨before, _, _, split, _⟩
  exact absurd split (by simp)

theorem obstructive_cons_iff {modifier : Datum} {rest : List Datum} :
    Obstructive (modifier :: rest) ↔
      modifier.unkeyable? ≠ none ∨ isAccessWord modifier = false ∧ Obstructive rest := by
  constructor
  · rintro ⟨before, blocked, later, split, unkeyable, free⟩
    cases before with
    | nil =>
      obtain ⟨rfl, rfl⟩ := List.cons.inj split
      exact .inl unkeyable
    | cons first before =>
      obtain ⟨rfl, rfl⟩ := List.cons.inj split
      exact .inr ⟨free _ List.mem_cons_self,
        before, blocked, later, rfl, unkeyable, fun m hm => free m (List.mem_cons_of_mem _ hm)⟩
  · rintro (unkeyable | ⟨word, before, blocked, later, rfl, unkeyable, free⟩)
    · exact ⟨[], modifier, rest, rfl, unkeyable, nofun⟩
    · refine ⟨modifier :: before, blocked, later, rfl, unkeyable, fun m hm => ?_⟩
      rcases List.mem_cons.mp hm with rfl | hm
      · exact word
      · exact free m hm

/-- The search for a visibility is broken off by obstructive modifiers, and by no others. -/
theorem firstAccess_blocks_iff (modifiers : List Datum) :
    (firstAccess modifiers).blocks = true ↔ Obstructive modifiers := by
  induction modifiers with
  | nil => simp [firstAccess, not_obstructive_nil]
  | cons modifier rest ih =>
    rw [obstructive_cons_iff]
    unfold firstAccess
    cases unkeyable : modifier.unkeyable? with
    | some kind => simp [Checked.blocks]
    | none =>
      cases modifier with
      | text s =>
        cases word : Access.all.any (·.word == s) with
        | true => simp [isAccessWord, word]
        | false => simp [isAccessWord, word, ih]
      | _ => simp [isAccessWord, ih]

theorem methodModifiers_blocks_iff (value : Datum) :
    (methodModifiers value).blocks = true ↔ Obstructive value.items := by
  cases value with
  | list values => exact firstAccess_blocks_iff values
  | tuple values => exact firstAccess_blocks_iff values
  | _ => simp [methodModifiers, Datum.items, not_obstructive_nil]

/-! ## Declarations -/

theorem Position.read_safe (value : Datum) : (Position.read value).blocks = false := by
  rw [Bool.eq_false_iff, Position.read, Ne, blocks_record]
  rintro ⟨entries, _, blocked⟩
  simp [blocks_member_of_safe blocks_whole] at blocked

theorem Access.read_safe (value : Datum) : (Access.read value).blocks = false := by
  unfold Access.read
  split
  · split <;> rfl
  · rfl

theorem ClassDecl.read_safe (value : Datum) : (ClassDecl.read value).blocks = false := by
  rw [Bool.eq_false_iff, ClassDecl.read, Ne, blocks_record]
  rintro ⟨entries, _, blocked⟩
  simp [blocks_member_of_safe blocks_text, blocks_member_of_safe blocks_textList,
    blocks_member_of_safe blocks_flag, blocks_member_of_safe Access.read_safe,
    blocks_member_of_safe (blocks_nullable Position.read_safe),
    blocks_member_of_safe (blocks_nullable blocks_text)] at blocked

theorem FieldDecl.read_safe (value : Datum) : (FieldDecl.read value).blocks = false := by
  rw [Bool.eq_false_iff, FieldDecl.read, Ne, blocks_record]
  rintro ⟨entries, _, blocked⟩
  simp [blocks_member_of_safe blocks_text, blocks_member_of_safe blocks_textOrNull,
    blocks_member_of_safe blocks_flag,
    blocks_member_of_safe (blocks_nullable Position.read_safe)] at blocked

/-- A value stands under a name in a mapping. -/
def HasMember (value : Datum) (name : String) (part : Datum) : Prop :=
  ∃ entries, value = .map entries ∧ Datum.lookup? name entries = some part

/-- A method is broken off by its modifiers. -/
theorem MethodDecl.read_blocks_iff (value : Datum) :
    (MethodDecl.read value).blocks = true ↔
      ∃ modifiers, HasMember value "modifiers" modifiers ∧ Obstructive modifiers.items := by
  rw [MethodDecl.read, blocks_record]
  simp only [Checked.blocks_map, Checked.blocks_seq, Bool.or_eq_true,
    blocks_member_of_safe blocks_text, blocks_member_of_safe blocks_textList,
    blocks_member_of_safe blocks_flag, blocks_member_of_safe (blocks_nullable ClassDecl.read_safe),
    blocks_member_of_safe (blocks_nullable Position.read_safe), blocks_member_iff,
    methodModifiers_blocks_iff, Bool.false_eq_true, false_or, or_false]
  constructor
  · rintro ⟨entries, rfl, modifiers, found, obstructive⟩
    exact ⟨modifiers, ⟨entries, rfl, found⟩, obstructive⟩
  · rintro ⟨modifiers, ⟨entries, rfl, found⟩, obstructive⟩
    exact ⟨entries, rfl, modifiers, found, obstructive⟩

/-- A value is an item of the list under a name in a mapping. -/
def HasItem (value : Datum) (name : String) (item : Datum) : Prop :=
  ∃ part, HasMember value name part ∧ item ∈ part.items

/-- A list under a name is broken off by its items. -/
theorem member_list_blocks_iff {α : Type} {entries : Entries} {name : String} {absent : List α}
    {read : Datum → Checked α} :
    (member entries [name] absent (list read)).blocks = true ↔
      ∃ item, HasItem (.map entries) name item ∧ (read item).blocks = true := by
  rw [blocks_member_iff]
  simp only [blocks_list, List.any_eq_true]
  constructor
  · rintro ⟨part, found, item, member, blocked⟩
    exact ⟨item, ⟨part, ⟨entries, rfl, found⟩, member⟩, blocked⟩
  · rintro ⟨item, ⟨part, ⟨_, same, found⟩, member⟩, blocked⟩
    cases same
    exact ⟨part, found, item, member, blocked⟩

theorem DeclGroup.read_blocks_iff (value : Datum) :
    (DeclGroup.read value).blocks = true ↔
      ∃ method, HasItem value "methods" method ∧ (MethodDecl.read method).blocks = true := by
  have classes : ∀ value, (list ClassDecl.read value).blocks = false := fun value => by
    simp [blocks_list, ClassDecl.read_safe]
  have fields : ∀ value, (list FieldDecl.read value).blocks = false := fun value => by
    simp [blocks_list, FieldDecl.read_safe]
  rw [DeclGroup.read, blocks_record]
  simp only [Checked.blocks_map, Checked.blocks_seq, Bool.or_eq_true,
    blocks_member_of_safe blocks_text, blocks_member_of_safe classes,
    blocks_member_of_safe fields, member_list_blocks_iff, Bool.false_eq_true, false_or, or_false]
  constructor
  · rintro ⟨entries, rfl, blocked⟩
    exact blocked
  · rintro ⟨method, ⟨part, ⟨entries, rfl, found⟩, member⟩, blocked⟩
    exact ⟨entries, rfl, method, ⟨part, ⟨entries, rfl, found⟩, member⟩, blocked⟩

/-- Some method of some group has modifiers that break off the search for its visibility. -/
def Obstructed (value : Datum) : Prop :=
  ∃ group method modifiers, HasItem value "classes" group ∧ HasItem group "methods" method ∧
    HasMember method "modifiers" modifiers ∧ Obstructive modifiers.items

/-- The reading of a file is broken off by an obstructed value, and by no other. -/
theorem FileComponents.read_blocks_iff (value : Datum) :
    (FileComponents.read value).blocks = true ↔ Obstructed value := by
  rw [FileComponents.read, blocks_record]
  simp only [Checked.blocks_map, member_list_blocks_iff, DeclGroup.read_blocks_iff,
    MethodDecl.read_blocks_iff]
  constructor
  · rintro ⟨entries, rfl, group, inFile, method, inGroup, modifiers, found, obstructive⟩
    exact ⟨group, method, modifiers, inFile, inGroup, found, obstructive⟩
  · rintro ⟨group, method, modifiers, inFile, inGroup, found, obstructive⟩
    obtain ⟨_, ⟨entries, rfl, _⟩, _⟩ := id inFile
    exact ⟨entries, rfl, group, inFile, method, inGroup, modifiers, found, obstructive⟩

end DesignGauge
