import DesignGauge.Proofs.Threshold.RoundTrip

/-!
# The format of a threshold configuration

A configuration is read from a mapping in which each section is missing, counts as missing, or leads
from names of thresholds to numbers. Everything else is refused as a fault of the configuration,
with one exception: the refusal of a value shows it, and an integer with too many digits cannot be
shown.

Results:
1. `checkNumbers_eq`, `checkNames_cases`: what the two checks of a section find.
2. `fits_iff`, `isOverlong_iff`: what a section is read from.
3. `checkSection_cases`: what comes of a section.
4. `ofDatum_accepts_format`: what is accepted, what it gives, and how the rest is refused.
-/

namespace DesignGauge.Thresholds

/-! ## What a section may hold -/

/-- What may stand under the name of a section: nothing, a value that counts as absent, or a mapping
with the entries that are allowed. -/
inductive Fits (allowed : Datum × Datum → Prop) : Option Datum → Prop
  | absent : Fits allowed none
  | void {value : Datum} : value.isVoid = true → Fits allowed (some value)
  | mapping {entries : List (Datum × Datum)} :
      (∀ entry ∈ entries, allowed entry) → Fits allowed (some (.map entries))

/-- The value of an entry is an integer or a double. -/
def HoldsNumber (entry : Datum × Datum) : Prop := ∃ n, entry.2 = .ofNumber n

/-- The key of an entry is one of some names. -/
def IsNamed (known : List String) (entry : Datum × Datum) : Prop :=
  ∃ name ∈ known, entry.1 = .text name

/-- The first value of a section that is no number, or its key, holds an integer with more digits
than are written. -/
def IsOverlong (given : Option Datum) : Prop :=
  ∃ front entry rest, given = some (.map (front ++ entry :: rest)) ∧
    (∀ earlier ∈ front, HoldsNumber earlier) ∧ ¬ HoldsNumber entry ∧
    (entry.1.isWritable && entry.2.isWritable) = false

/-- A section gives a threshold. -/
def Gives (given : Option Datum) (name : String) (n : Number) : Prop :=
  ∃ entries, given = some (.map entries) ∧ Datum.lookup? name entries = some (.ofNumber n)

/-- Each threshold is the one that a section gives, or the default where it gives none. -/
def Takes (given : Option Datum) (defaults fields : List (String × Number)) : Prop :=
  ∀ field ∈ fields, Gives given field.1 field.2 ∨
    (¬ ∃ n, Gives given field.1 n) ∧ field ∈ defaults

/-- An entry of a section: the name of one of its thresholds, and a number. -/
def IsThreshold (fields : List (String × Number)) (entry : Datum × Datum) : Prop :=
  IsNamed (fields.map Prod.fst) entry ∧ HoldsNumber entry

/-- The format of a configuration. -/
def IsConfiguration (data : Datum) : Prop :=
  ∃ entries, data = .map entries ∧
    Fits (IsThreshold ({} : SmellThresholds).fields) (Datum.lookup? "smells" entries) ∧
    Fits (IsThreshold ({} : HighlightThresholds).fields) (Datum.lookup? "highlight" entries)

/-- The refusal of a configuration would show an integer with more digits than are written. -/
def IsUnshowable (data : Datum) : Prop :=
  ∃ entries, data = .map entries ∧
    (IsOverlong (Datum.lookup? "smells" entries) ∨
      Fits HoldsNumber (Datum.lookup? "smells" entries) ∧
      IsOverlong (Datum.lookup? "highlight" entries))

theorem Fits.mono {allowed allowed' : Datum × Datum → Prop} {given : Option Datum}
    (fits : Fits allowed given) (weaker : ∀ entry, allowed entry → allowed' entry) :
    Fits allowed' given := by
  cases fits with
  | absent => exact .absent
  | void void => exact .void void
  | mapping all => exact .mapping fun entry member => weaker entry (all entry member)

theorem isNumeric_iff (value : Datum) : isNumeric value = true ↔ ∃ n, value = .ofNumber n := by
  constructor
  · intro numeric
    cases value with
    | int i => exact ⟨.int i, rfl⟩
    | float x => exact ⟨.float x, rfl⟩
    | _ => cases numeric
  · rintro ⟨n, rfl⟩
    exact isNumeric_ofNumber n

/-! ## The checks of a section -/

/-- The first value that is no number is refused. -/
theorem checkNumbers_eq (part : String) (entries : List (Datum × Datum)) :
    checkNumbers part entries =
      (entries.find? fun entry => !isNumeric entry.2).elim (.ok ())
        fun entry => .error (refuseValue part entry.1 entry.2) := by
  induction entries with
  | nil => rfl
  | cons entry rest ih =>
    obtain ⟨key, value⟩ := entry
    rw [checkNumbers, List.find?_cons]
    cases isNumeric value with
    | true => exact ih
    | false => rfl

theorem checkKnown_cases (title : String) (known : List String) {entries : List (Datum × Datum)}
    (texts : ∀ entry ∈ entries, ∃ name, entry.1 = .text name) :
    (checkKnown title known entries = .ok () ∧ ∀ entry ∈ entries, IsNamed known entry) ∨
    ∃ cause, checkKnown title known entries = .error (.config cause) ∧
      ¬ ∀ entry ∈ entries, IsNamed known entry := by
  induction entries with
  | nil => exact .inl ⟨rfl, by simp⟩
  | cons entry rest ih =>
    obtain ⟨key, value⟩ := entry
    rw [List.forall_mem_cons] at texts
    obtain ⟨⟨name, rfl⟩, others⟩ := texts
    by_cases member : name ∈ known
    · have named : IsNamed known (.text name, value) := ⟨name, member, rfl⟩
      rw [checkKnown, if_pos (List.contains_iff_mem.mpr member), List.forall_mem_cons]
      simpa only [named, true_and] using ih others
    · refine .inr ⟨.thresholdNames (nameFault title name), ?_, ?_⟩
      · rw [checkKnown, if_neg (by simpa using member)]
      · intro all
        obtain ⟨other, known, same⟩ := all _ List.mem_cons_self
        cases same
        exact member known

/-- The keys of a section are names of its thresholds, or they are refused. -/
theorem checkNames_cases (title : String) (known : List String) (entries : List (Datum × Datum)) :
    (checkNames title known entries = .ok () ∧ ∀ entry ∈ entries, IsNamed known entry) ∨
    ∃ cause, checkNames title known entries = .error (.config cause) ∧
      ¬ ∀ entry ∈ entries, IsNamed known entry := by
  unfold checkNames
  split
  · next texts =>
    refine checkKnown_cases title known fun entry member => ?_
    have text := List.all_eq_true.mp texts entry member
    split at text
    · next name key => exact ⟨name, key⟩
    · cases text
  · next texts =>
    refine .inr ⟨_, rfl, fun all => texts (List.all_eq_true.mpr fun entry member => ?_)⟩
    obtain ⟨name, _, key⟩ := all entry member
    rw [key]

/-! ## What a section is read from -/

/-- A section depends on what stands under its name. -/
theorem sectionOf_congr {entries entries' : List (Datum × Datum)} {name : String}
    (same : Datum.lookup? name entries = Datum.lookup? name entries') :
    sectionOf entries name = sectionOf entries' name := by
  unfold sectionOf
  rw [same]

/-- A section that is read from entries is missing, or the entries stand under its name. -/
theorem sectionOf_eq_map {entries es : List (Datum × Datum)} {name : String}
    (read : sectionOf entries name = .map es) :
    (es = [] ∧ ∀ allowed, Fits allowed (Datum.lookup? name entries)) ∨
    Datum.lookup? name entries = some (.map es) := by
  unfold sectionOf at read
  split at read
  · next value found =>
    split at read
    · next void =>
      cases read
      exact .inl ⟨rfl, fun _ => by rw [found]; exact .void void⟩
    · rw [found, read]
      exact .inr rfl
  · next missing =>
    cases read
    exact .inl ⟨rfl, fun _ => by rw [missing]; exact .absent⟩

theorem sectionOf_of_lookup {entries es : List (Datum × Datum)} {name : String}
    (found : Datum.lookup? name entries = some (.map es)) :
    sectionOf entries name = .map es := by
  rw [sectionOf, found]
  cases es with
  | nil => rfl
  | cons entry rest => rfl

/-- A section fits exactly when it is read from entries that are allowed. -/
theorem fits_iff {allowed : Datum × Datum → Prop} {entries : List (Datum × Datum)}
    {name : String} :
    Fits allowed (Datum.lookup? name entries) ↔
      ∃ es, sectionOf entries name = .map es ∧ ∀ entry ∈ es, allowed entry := by
  constructor
  · intro fits
    generalize found : Datum.lookup? name entries = given at fits
    cases fits with
    | absent => exact ⟨[], by rw [sectionOf, found], by simp⟩
    | void void => exact ⟨[], by rw [sectionOf, found]; exact if_pos void, by simp⟩
    | mapping all => exact ⟨_, sectionOf_of_lookup found, all⟩
  · rintro ⟨es, read, all⟩
    rcases sectionOf_eq_map read with ⟨_, fits⟩ | found
    · exact fits allowed
    · rw [found]
      exact .mapping all

/-- The first value that is no number cannot be shown exactly when it stands so in the section that
is read. -/
theorem isOverlong_iff {entries : List (Datum × Datum)} {name : String} :
    IsOverlong (Datum.lookup? name entries) ↔
      ∃ es entry, sectionOf entries name = .map es ∧
        es.find? (fun entry => !isNumeric entry.2) = some entry ∧
        (entry.1.isWritable && entry.2.isWritable) = false := by
  simp only [List.find?_eq_some_iff_append, Bool.not_eq_true', Bool.not_not]
  constructor
  · rintro ⟨front, entry, rest, found, numbers, refused, overlong⟩
    refine ⟨_, entry, sectionOf_of_lookup found, ⟨?_, front, rest, rfl, ?_⟩, overlong⟩
    · exact eq_false_of_ne_true fun numeric => refused ((isNumeric_iff _).mp numeric)
    · exact fun earlier member => (isNumeric_iff _).mpr (numbers earlier member)
  · rintro ⟨es, entry, read, ⟨refused, front, rest, rfl, numbers⟩, overlong⟩
    rcases sectionOf_eq_map read with ⟨none, _⟩ | found
    · simp at none
    · refine ⟨front, entry, rest, found, ?_, ?_, overlong⟩
      · exact fun earlier member => (isNumeric_iff _).mp (numbers earlier member)
      · intro number
        rw [(isNumeric_iff _).mpr number] at refused
        cases refused

/-- A section is read from entries that hold numbers, or it is refused; the refusal is a fault of
the configuration unless it cannot be shown. -/
theorem checkSection_cases (part : String) (entries : List (Datum × Datum)) (name : String) :
    (∃ es, sectionOf entries name = .map es ∧ (∀ entry ∈ es, HoldsNumber entry) ∧
      checkSection part (sectionOf entries name) = .ok es ∧
      ¬ IsOverlong (Datum.lookup? name entries)) ∨
    ∃ fault, checkSection part (sectionOf entries name) = .error fault ∧
      ¬ Fits HoldsNumber (Datum.lookup? name entries) ∧
      (fault = .tooManyDigits ∧ IsOverlong (Datum.lookup? name entries) ∨
        (∃ cause, fault = .config cause) ∧ ¬ IsOverlong (Datum.lookup? name entries)) := by
  rw [isOverlong_iff, fits_iff]
  generalize sectionOf entries name = value
  cases value with
  | map es =>
    have checked : checkSection part (.map es) = (checkNumbers part es).map fun _ => es := by
      rw [checkSection]
      cases checkNumbers part es with
      | error fault => rfl
      | ok value => rfl
    rw [checked, checkNumbers_eq]
    simp only [Datum.map.injEq, exists_and_left, exists_eq_left']
    cases found : es.find? fun entry => !isNumeric entry.2 with
    | none =>
      refine .inl ⟨fun entry member => ?_, rfl, by simp⟩
      have numeric := List.find?_eq_none.mp found entry member
      exact (isNumeric_iff _).mp (by simpa using numeric)
    | some entry =>
      refine .inr ⟨refuseValue part entry.1 entry.2, rfl, ?_, ?_⟩
      · intro numbers
        have refused := List.find?_some found
        have number := numbers entry (List.mem_of_find?_eq_some found)
        simp only [(isNumeric_iff _).mpr number] at refused
        cases refused
      · simp only [Option.some.injEq, exists_eq_left']
        unfold refuseValue
        cases entry.1.isWritable && entry.2.isWritable with
        | true => exact .inr ⟨⟨_, rfl⟩, by simp⟩
        | false => exact .inl ⟨rfl, rfl⟩
  | _ => simp [checkSection]

/-! ## What thresholds a section gives -/

/-- What is found under a name stands in the list. -/
theorem mem_of_lookup {es : List (Datum × Datum)} {name : String} {value : Datum}
    (found : Datum.lookup? name es = some value) : ∃ entry ∈ es, entry.2 = value := by
  obtain ⟨entry, first, rfl⟩ := Option.map_eq_some_iff.mp found
  exact ⟨entry, List.mem_of_find?_eq_some first, rfl⟩

/-- A threshold is the number under its name, or the default. -/
theorem takes_numberAt {entries es : List (Datum × Datum)} {part : String}
    (read : sectionOf entries part = .map es) (numbers : ∀ entry ∈ es, HoldsNumber entry)
    (defaults : List (String × Number)) :
    Takes (Datum.lookup? part entries) defaults
      (defaults.map fun field => (field.1, numberAt es field.1 field.2)) := by
  intro field member
  obtain ⟨⟨name, absent⟩, default, rfl⟩ := List.mem_map.mp member
  dsimp only
  have gives (n : Number) : Gives (Datum.lookup? part entries) name n ↔
      Datum.lookup? name es = some (.ofNumber n) := by
    constructor
    · rintro ⟨es', found, number⟩
      rw [sectionOf_of_lookup found] at read
      cases read
      exact number
    · intro number
      rcases sectionOf_eq_map read with ⟨rfl, _⟩ | found
      · cases number
      · exact ⟨es, found, number⟩
  cases found : Datum.lookup? name es with
  | none =>
    have untouched : numberAt es name absent = absent := by rw [numberAt, found]; rfl
    rw [untouched]
    refine .inr ⟨?_, default⟩
    rintro ⟨n, given⟩
    rw [gives, found] at given
    cases given
  | some value =>
    obtain ⟨entry, inside, rfl⟩ := mem_of_lookup found
    obtain ⟨n, number⟩ := numbers entry inside
    have taken : numberAt es name absent = n := by
      rw [numberAt, found, number, Option.bind_some, number?_ofNumber]
      rfl
    rw [taken, gives, found, number]
    exact .inl rfl

/-! ## Reading a configuration -/

theorem isConfiguration_map {entries : List (Datum × Datum)} :
    IsConfiguration (.map entries) ↔
      Fits (IsThreshold ({} : SmellThresholds).fields) (Datum.lookup? "smells" entries) ∧
      Fits (IsThreshold ({} : HighlightThresholds).fields)
        (Datum.lookup? "highlight" entries) := by
  simp only [IsConfiguration, Datum.map.injEq, exists_eq_left']

theorem isUnshowable_map {entries : List (Datum × Datum)} :
    IsUnshowable (.map entries) ↔
      IsOverlong (Datum.lookup? "smells" entries) ∨
      Fits HoldsNumber (Datum.lookup? "smells" entries) ∧
      IsOverlong (Datum.lookup? "highlight" entries) := by
  simp only [IsUnshowable, Datum.map.injEq, exists_eq_left']

/-- The entries that a fitting section is read from have the names of its thresholds. -/
theorem isNamed_of_fits {entries es : List (Datum × Datum)} {name : String}
    {fields : List (String × Number)} (read : sectionOf entries name = .map es)
    (fits : Fits (IsThreshold fields) (Datum.lookup? name entries)) :
    ∀ entry ∈ es, IsNamed (fields.map Prod.fst) entry := by
  obtain ⟨again, same, all⟩ := fits_iff.mp fits
  cases read.symm.trans same
  exact fun entry member => (all entry member).1

/-- A mapping is read as the thresholds of its two sections, or it is not in the format and is
refused. -/
theorem ofDatum_cases (entries : List (Datum × Datum)) :
    (∃ smells highlight,
      sectionOf entries "smells" = .map smells ∧ sectionOf entries "highlight" = .map highlight ∧
      (∀ entry ∈ smells, IsThreshold ({} : SmellThresholds).fields entry) ∧
      (∀ entry ∈ highlight, IsThreshold ({} : HighlightThresholds).fields entry) ∧
      ofDatum (.map entries) = .ok ⟨.ofEntries smells, .ofEntries highlight⟩) ∨
    ∃ fault, ofDatum (.map entries) = .error fault ∧ ¬ IsConfiguration (.map entries) ∧
      (fault = .tooManyDigits ∧ IsUnshowable (.map entries) ∨
        (∃ cause, fault = .config cause) ∧ ¬ IsUnshowable (.map entries)) := by
  rw [isConfiguration_map, isUnshowable_map]
  -- the sections are checked for numbers first, and their names after that
  rcases checkSection_cases "smells" entries "smells" with
    ⟨smells, readS, numbersS, checkedS, fineS⟩ | ⟨fault, refused, misfit, kind⟩
  · have fitsS : Fits HoldsNumber (Datum.lookup? "smells" entries) :=
      fits_iff.mpr ⟨smells, readS, numbersS⟩
    rcases checkSection_cases "highlight" entries "highlight" with
      ⟨highlight, readH, numbersH, checkedH, fineH⟩ | ⟨fault, refused, misfit, kind⟩
    · have read : ofDatum (.map entries) = (do
          checkNames "SmellThresholds" (({} : SmellThresholds).fields.map Prod.fst) smells
          checkNames "HighlightThresholds" (({} : HighlightThresholds).fields.map Prod.fst)
            highlight
          return ⟨.ofEntries smells, .ofEntries highlight⟩) := by
        rw [ofDatum, checkedS, checkedH]
        rfl
      have showable : ¬ (IsOverlong (Datum.lookup? "smells" entries) ∨
          Fits HoldsNumber (Datum.lookup? "smells" entries) ∧
          IsOverlong (Datum.lookup? "highlight" entries)) := by
        simp only [fineS, fineH, and_false, or_self, not_false_eq_true]
      rw [read]
      rcases checkNames_cases "SmellThresholds" (({} : SmellThresholds).fields.map Prod.fst) smells
        with ⟨passed, namedS⟩ | ⟨cause, refused, unnamed⟩
      · rw [passed]
        rcases checkNames_cases "HighlightThresholds"
          (({} : HighlightThresholds).fields.map Prod.fst) highlight
          with ⟨passed, namedH⟩ | ⟨cause, refused, unnamed⟩
        · rw [passed]
          exact .inl ⟨smells, highlight, readS, readH,
            fun entry member => ⟨namedS entry member, numbersS entry member⟩,
            fun entry member => ⟨namedH entry member, numbersH entry member⟩, rfl⟩
        · rw [refused]
          refine .inr ⟨_, rfl, ?_, .inr ⟨⟨cause, rfl⟩, showable⟩⟩
          exact fun fits => unnamed (isNamed_of_fits readH fits.2)
      · rw [refused]
        refine .inr ⟨_, rfl, ?_, .inr ⟨⟨cause, rfl⟩, showable⟩⟩
        exact fun fits => unnamed (isNamed_of_fits readS fits.1)
    · refine .inr ⟨fault, by rw [ofDatum, checkedS, refused]; rfl, ?_, ?_⟩
      · exact fun fits => misfit (fits.2.mono fun _ threshold => threshold.2)
      · simpa only [fineS, fitsS, true_and, false_or] using kind
  · refine .inr ⟨fault, by rw [ofDatum, refused]; rfl, ?_, ?_⟩
    · exact fun fits => misfit (fits.1.mono fun _ threshold => threshold.2)
    · simpa only [misfit, false_and, or_false] using kind

/-- Exactly the values in the format are read, and then each threshold is the one that is given or
its default. Nothing but the two sections matters, and a configuration is read from its own mapping.
Every other value is refused as a fault of the configuration, except where the refusal would have to
show an integer with more digits than are written. -/
theorem ofDatum_accepts_format (data : Datum) :
    ((∃ t, ofDatum data = .ok t) ↔ IsConfiguration data) ∧
    (∀ entries t, data = .map entries → ofDatum data = .ok t →
      Takes (Datum.lookup? "smells" entries) ({} : SmellThresholds).fields t.smells.fields ∧
      Takes (Datum.lookup? "highlight" entries) ({} : HighlightThresholds).fields
        t.highlight.fields) ∧
    (∀ entries others, data = .map entries →
      Datum.lookup? "smells" entries = Datum.lookup? "smells" others →
      Datum.lookup? "highlight" entries = Datum.lookup? "highlight" others →
      ofDatum data = ofDatum (.map others)) ∧
    (∀ t : Thresholds, ofDatum t.toDatum = .ok t) ∧
    (∀ fault, ofDatum data = .error fault →
      fault = .tooManyDigits ∧ IsUnshowable data ∨
      (∃ cause, fault = .config cause) ∧ ¬ IsUnshowable data) := by
  refine ⟨?_, ?_, ?_, ofDatum_toDatum, ?_⟩
  · cases data with
    | map entries =>
      rcases ofDatum_cases entries with ⟨smells, highlight, readS, readH, allS, allH, result⟩ |
        ⟨fault, result, misfit, _⟩
      · rw [result]
        exact ⟨fun _ => ⟨entries, rfl, fits_iff.mpr ⟨smells, readS, allS⟩,
          fits_iff.mpr ⟨highlight, readH, allH⟩⟩, fun _ => ⟨_, rfl⟩⟩
      · rw [result]
        simp [misfit]
    | _ => simp [ofDatum, IsConfiguration]
  · rintro entries t rfl result
    rcases ofDatum_cases entries with ⟨smells, highlight, readS, readH, allS, allH, given⟩ |
      ⟨fault, refused, _⟩
    · cases result.symm.trans given
      exact ⟨takes_numberAt readS (fun entry member => (allS entry member).2) _,
        takes_numberAt readH (fun entry member => (allH entry member).2) _⟩
    · cases result.symm.trans refused
  · rintro entries others rfl smells highlight
    rw [ofDatum, ofDatum, sectionOf_congr smells, sectionOf_congr highlight]
  · intro fault refused
    cases data with
    | map entries =>
      rcases ofDatum_cases entries with ⟨_, _, _, _, _, _, given⟩ | ⟨found, result, _, kind⟩
      · cases refused.symm.trans given
      · cases refused.symm.trans result
        exact kind
    | _ =>
      cases refused
      simp [IsUnshowable]

/-- A mapping in which a list with an integer of one digit too many stands for a threshold. -/
def overlongData : Datum :=
  .map [(.text "smells", .map [(.text "god_class_wmc", .list [.int (10 ^ 4300)])])]

/-- The list is refused, but not as a fault of the configuration. -/
theorem overlongData_refused :
    ofDatum overlongData = .error .tooManyDigits ∧
    ∀ cause, ofDatum overlongData ≠ .error (.config cause) := by
  have overlong : (Datum.list [.int (10 ^ 4300)]).isWritable = false := by decide +kernel
  have refused : ofDatum overlongData = .error .tooManyDigits := by
    show Except.error (refuseValue "smells" (.text "god_class_wmc") _) = _
    rw [refuseValue, overlong, Bool.and_false]
    rfl
  refine ⟨refused, fun cause given => ?_⟩
  cases refused.symm.trans given

end DesignGauge.Thresholds
