import DesignGauge.Proofs.Number.Range
import DesignGauge.Settings

/-!
# How settings are refused

Settings are read from a mapping in three steps: its keys must be known, its timeout must become a
double, and its paths must be texts. A fault of the configuration reports what is wrong with the
first two. But the keys are sorted and joined for the report, an integer may be beyond the doubles,
a refused timeout is shown, and a path is made of any value that is given for one. Where such a step
fails itself, the fault is another one.

Results:
1. `sortKeys_cases`: what sorting does to keys.
2. `checkKeys_cases`, `timeoutOf_cases`, `pathOf_cases`: what comes of the three steps.
3. `ofDatum_outcome`: which values are read, which are reported and which are not.
-/

namespace DesignGauge.Settings

/-! ## Values by what comes of them -/

/-- The name of a setting. -/
def IsSetting (key : Datum) : Prop := ∃ name ∈ names, key = .text name

/-- A key that is a text. -/
def IsText (key : Datum) : Prop := ∃ name, key = .text name

/-- The double that a timeout becomes. -/
def seconds? : Datum → Option Double
  | .float x => some x
  | .int i => Double.ofInt? i
  | .bool b => Double.ofInt? (if b then 1 else 0)
  | .text s => Reading.ofText? s
  | .octets s => Reading.ofOctets? s
  | _ => none

/-- A timeout that is not given, or becomes a double. -/
def Converts (given : Option Datum) : Prop :=
  ∀ value, given = some value → ∃ x, seconds? value = some x

/-- A timeout that is refused with a report. -/
def IsRefused (given : Option Datum) : Prop :=
  ∃ value, given = some value ∧ seconds? value = none ∧ (∀ i, value ≠ .int i) ∧
    value.isWritable = true

/-- A timeout that is lost: an integer beyond the range of doubles, or a value that is refused and
cannot be shown. -/
def IsLost (given : Option Datum) : Prop :=
  (∃ i : Int, given = some (.int i) ∧ Double.overflowBound ≤ i.natAbs) ∨
  ∃ value, given = some value ∧ seconds? value = none ∧ (∀ i, value ≠ .int i) ∧
    value.isWritable = false

/-- A path that is not given, counts as absent or is a text. -/
def IsPathLike (given : Option Datum) : Prop :=
  ∀ value, given = some value → value.isVoid = true ∨ IsText value

/-- The settings that are paths. -/
def pathNames : List String := ["components_dir", "results_dir", "thresholds_path"]

/-- A mapping of known settings with a timeout that becomes a double and with paths. -/
def IsAccepted (data : Datum) : Prop :=
  ∃ entries, data = .map entries ∧ (∀ entry ∈ entries, IsSetting entry.1) ∧
    Converts (Datum.lookup? "timeout" entries) ∧
    ∀ name ∈ pathNames, IsPathLike (Datum.lookup? name entries)

/-- No mapping; a mapping with an unknown key and with texts for keys; or one of known settings
whose timeout is refused. -/
def IsReported (data : Datum) : Prop :=
  (∀ entries, data ≠ .map entries) ∨
  ∃ entries, data = .map entries ∧
    ((∃ entry ∈ entries, ¬ IsSetting entry.1) ∧ (∀ entry ∈ entries, IsText entry.1) ∨
      (∀ entry ∈ entries, IsSetting entry.1) ∧ IsRefused (Datum.lookup? "timeout" entries))

/-- A mapping with a key that is no text, or one of known settings whose timeout is lost, or else
one of whose paths is neither absent nor a text. -/
def IsUnreported (data : Datum) : Prop :=
  ∃ entries, data = .map entries ∧
    ((∃ entry ∈ entries, ¬ IsText entry.1) ∨
      (∀ entry ∈ entries, IsSetting entry.1) ∧
        (IsLost (Datum.lookup? "timeout" entries) ∨
          Converts (Datum.lookup? "timeout" entries) ∧
            ∃ name ∈ pathNames, ¬ IsPathLike (Datum.lookup? name entries)))

/-- A fault of the configuration. -/
def IsConfig (fault : Fault) : Prop := ∃ cause, fault = .config cause

theorem isText_of_isSetting {key : Datum} (known : IsSetting key) : IsText key := by
  obtain ⟨name, _, rfl⟩ := known
  exact ⟨name, rfl⟩

/-! ## Sorting keys -/

theorem precedes?_of_texts {key other : Datum} (text : IsText key) (otherText : IsText other) :
    ∃ first, precedes? key other = some first := by
  obtain ⟨name, rfl⟩ := text
  obtain ⟨otherName, rfl⟩ := otherText
  exact ⟨_, rfl⟩

/-- A key is put among the others, unless it has no order with one of them. -/
theorem insertKey_cases (key : Datum) (sorted : List Datum) :
    (∃ result, insertKey key sorted = .ok result ∧ result.Perm (key :: sorted)) ∨
    ∃ left right, insertKey key sorted = .error (.unordered left right) ∧
      ¬ ∀ other ∈ key :: sorted, IsText other := by
  induction sorted with
  | nil => exact .inl ⟨[key], rfl, .refl _⟩
  | cons other rest ih =>
    simp only [List.forall_mem_cons] at ih ⊢
    rw [insertKey]
    cases order : precedes? key other with
    | none =>
      refine .inr ⟨_, _, rfl, fun texts => ?_⟩
      obtain ⟨first, ordered⟩ := precedes?_of_texts texts.1 texts.2.1
      cases order.symm.trans ordered
    | some first =>
      cases first with
      | true => exact .inl ⟨_, rfl, .refl _⟩
      | false =>
        rcases ih with ⟨result, inserted, perm⟩ | ⟨left, right, refused, mixed⟩
        · rw [inserted]
          exact .inl ⟨other :: result, rfl, (perm.cons other).trans (.swap ..)⟩
        · rw [refused]
          exact .inr ⟨left, right, rfl, fun texts => mixed ⟨texts.1, texts.2.2⟩⟩

theorem sortKeys_from (keys sorted : List Datum) :
    (∃ result, keys.foldlM (fun sorted key => insertKey key sorted) sorted = .ok result ∧
      result.Perm (keys ++ sorted)) ∨
    ∃ left right, keys.foldlM (fun sorted key => insertKey key sorted) sorted =
      .error (.unordered left right) ∧ ¬ ∀ key ∈ keys ++ sorted, IsText key := by
  induction keys generalizing sorted with
  | nil => exact .inl ⟨sorted, rfl, .refl _⟩
  | cons key rest ih =>
    rw [List.foldlM_cons]
    rcases insertKey_cases key sorted with ⟨longer, inserted, perm⟩ | ⟨left, right, refused, mixed⟩
    · have moved : (rest ++ longer).Perm (key :: rest ++ sorted) :=
        (perm.append_left rest).trans List.perm_middle
      rw [inserted]
      rcases ih longer with ⟨result, done, perm'⟩ | ⟨left, right, refused, mixed⟩
      · exact .inl ⟨result, done, perm'.trans moved⟩
      · refine .inr ⟨left, right, refused, fun texts => mixed fun other member => ?_⟩
        exact texts other (moved.mem_iff.mp member)
    · rw [refused]
      refine .inr ⟨left, right, rfl, fun texts => mixed fun other member => texts other ?_⟩
      rcases List.mem_cons.mp member with rfl | old
      · exact List.mem_cons_self
      · exact List.mem_append_right _ old

/-- Sorting rearranges the keys, unless two of them have no order; texts have one. -/
theorem sortKeys_cases (keys : List Datum) :
    (∃ sorted, sortKeys keys = .ok sorted ∧ sorted.Perm keys) ∨
    ∃ left right, sortKeys keys = .error (.unordered left right) ∧ ¬ ∀ key ∈ keys, IsText key := by
  have cases := sortKeys_from keys []
  rw [List.append_nil] at cases
  exact cases

/-! ## The three steps -/

theorem firstNonText?_eq_none_iff (index : Nat) (keys : List Datum) :
    firstNonText? index keys = none ↔ ∀ key ∈ keys, IsText key := by
  induction keys generalizing index with
  | nil => simp [firstNonText?]
  | cons key rest ih =>
    rw [List.forall_mem_cons]
    cases key with
    | text name =>
      rw [firstNonText?, ih]
      exact ⟨fun texts => ⟨⟨name, rfl⟩, texts⟩, fun texts => texts.2⟩
    | _ => simp [firstNonText?, IsText]

theorem mem_unknownKeys_iff {entries : List (Datum × Datum)} {key : Datum} :
    key ∈ unknownKeys entries ↔ key ∈ entries.map Prod.fst ∧ ¬ IsSetting key := by
  rw [unknownKeys, List.mem_filter]
  refine and_congr_right fun _ => ?_
  cases key with
  | text name => simp [IsSetting]
  | _ => simp [IsSetting]

theorem unknownKeys_eq_nil_iff {entries : List (Datum × Datum)} :
    unknownKeys entries = [] ↔ ∀ entry ∈ entries, IsSetting entry.1 := by
  rw [List.eq_nil_iff_forall_not_mem]
  constructor
  · intro none entry present
    by_contra unknown
    exact none entry.1 (mem_unknownKeys_iff.mpr ⟨List.mem_map_of_mem present, unknown⟩)
  · intro known key member
    obtain ⟨inside, unknown⟩ := mem_unknownKeys_iff.mp member
    obtain ⟨entry, present, rfl⟩ := List.mem_map.mp inside
    exact unknown (known entry present)

/-- The unknown keys are texts exactly when all keys are, since the known ones are texts. -/
theorem unknownKeys_texts_iff {entries : List (Datum × Datum)} :
    (∀ key ∈ unknownKeys entries, IsText key) ↔ ∀ entry ∈ entries, IsText entry.1 := by
  constructor
  · intro texts entry present
    by_cases setting : IsSetting entry.1
    · exact isText_of_isSetting setting
    · exact texts entry.1 (mem_unknownKeys_iff.mpr ⟨List.mem_map_of_mem present, setting⟩)
  · intro texts key member
    obtain ⟨entry, present, rfl⟩ := List.mem_map.mp (mem_unknownKeys_iff.mp member).1
    exact texts entry present

/-- Known keys pass. Unknown ones are reported when all keys are texts, and otherwise not. -/
theorem checkKeys_cases (entries : List (Datum × Datum)) :
    ((∀ entry ∈ entries, IsSetting entry.1) ∧ checkKeys entries = .ok ()) ∨
    ((∃ entry ∈ entries, ¬ IsSetting entry.1) ∧ (∀ entry ∈ entries, IsText entry.1) ∧
      ∃ fault, checkKeys entries = .error fault ∧ IsConfig fault) ∨
    ((∃ entry ∈ entries, ¬ IsText entry.1) ∧
      ∃ fault, checkKeys entries = .error fault ∧ ¬ IsConfig fault) := by
  by_cases known : ∀ entry ∈ entries, IsSetting entry.1
  · refine .inl ⟨known, ?_⟩
    rw [checkKeys, unknownKeys_eq_nil_iff.mpr known]
    rfl
  · have notEmpty : (unknownKeys entries).isEmpty = false :=
      List.isEmpty_eq_false_iff.mpr fun none => known (unknownKeys_eq_nil_iff.mp none)
    have unknown : ∃ entry ∈ entries, ¬ IsSetting entry.1 := by
      simpa only [not_forall, exists_prop] using known
    unfold checkKeys
    simp only [notEmpty, Bool.false_eq_true, if_false]
    rcases sortKeys_cases (unknownKeys entries) with
      ⟨sorted, done, perm⟩ | ⟨left, right, refused, mixed⟩
    · have texts : (∀ key ∈ sorted, IsText key) ↔ ∀ entry ∈ entries, IsText entry.1 := by
        rw [← unknownKeys_texts_iff]
        simp only [perm.mem_iff]
      rw [done]
      simp only [bind, Except.bind]
      cases found : firstNonText? 0 sorted with
      | none =>
        have all := texts.mp ((firstNonText?_eq_none_iff 0 sorted).mp found)
        exact .inr (.inl ⟨unknown, all, _, rfl, _, rfl⟩)
      | some place =>
        have mixed : ¬ ∀ entry ∈ entries, IsText entry.1 := by
          rw [← texts, ← firstNonText?_eq_none_iff 0, found]
          simp
        refine .inr (.inr ⟨by simpa only [not_forall, exists_prop] using mixed, _, rfl, ?_⟩)
        rintro ⟨cause, same⟩
        cases same
    · rw [unknownKeys_texts_iff] at mixed
      rw [refused]
      refine .inr (.inr ⟨by simpa only [not_forall, exists_prop] using mixed, _, rfl, ?_⟩)
      rintro ⟨cause, same⟩
      cases same

section Timeout

variable {entries : List (Datum × Datum)} {value : Datum}
  (given : Datum.lookup? "timeout" entries = some value)
include given

theorem timeoutOf_of_seconds {x : Double} (becomes : seconds? value = some x) :
    timeoutOf entries = .ok x := by
  rw [timeoutOf, given]
  cases value with
  | int i => simp_all [seconds?, Datum.number?]
  | float y => simp_all [seconds?, Datum.number?]
  | bool b => simp_all [seconds?, Datum.number?]
  | text s => simp_all [seconds?]
  | octets s => simp_all [seconds?]
  | _ => cases becomes

theorem timeoutOf_of_none (stays : seconds? value = none) (noInt : ∀ i, value ≠ .int i) :
    timeoutOf entries = .error (refuseTimeout value) := by
  rw [timeoutOf, given]
  cases value with
  | int i => exact absurd rfl (noInt i)
  | float y => cases stays
  | bool b => cases b with
    | true => exact absurd stays (by decide +kernel)
    | false => exact absurd stays (by decide +kernel)
  | text s => simp_all [seconds?]
  | octets s => simp_all [seconds?]
  | _ => rfl

theorem timeoutOf_of_beyond {i : Int} (int : value = .int i)
    (beyond : Double.overflowBound ≤ i.natAbs) : timeoutOf entries = .error .beyondDouble := by
  subst int
  have none : Double.ofInt? i = none := by
    rw [← Option.not_isSome_iff_eq_none, Double.ofInt?_isSome_iff]
    exact Nat.not_lt.mpr beyond
  simp [timeoutOf, given, Datum.number?, none]

end Timeout

/-- A timeout becomes a double, is reported, or is lost. -/
theorem timeoutOf_cases (entries : List (Datum × Datum)) :
    (Converts (Datum.lookup? "timeout" entries) ∧ ∃ x, timeoutOf entries = .ok x) ∨
    (IsRefused (Datum.lookup? "timeout" entries) ∧
      ∃ fault, timeoutOf entries = .error fault ∧ IsConfig fault) ∨
    (IsLost (Datum.lookup? "timeout" entries) ∧
      ∃ fault, timeoutOf entries = .error fault ∧ ¬ IsConfig fault) := by
  cases given : Datum.lookup? "timeout" entries with
  | none =>
    refine .inl ⟨fun value found => ?_, _, by rw [timeoutOf, given]⟩
    cases found
  | some value =>
    cases becomes : seconds? value with
    | some x =>
      refine .inl ⟨fun other found => ?_, x, timeoutOf_of_seconds given becomes⟩
      cases found
      exact ⟨x, becomes⟩
    | none =>
      by_cases int : ∃ i, value = .int i
      · obtain ⟨i, rfl⟩ := int
        have beyond : Double.overflowBound ≤ i.natAbs := by
          refine Nat.not_lt.mp fun less => ?_
          have some := Double.ofInt?_isSome_iff.mpr less
          rw [show Double.ofInt? i = none from becomes] at some
          cases some
        refine .inr (.inr ⟨.inl ⟨i, rfl, beyond⟩, _, timeoutOf_of_beyond given rfl beyond, ?_⟩)
        rintro ⟨cause, same⟩
        cases same
      · have noInt : ∀ i, value ≠ .int i := fun i same => int ⟨i, same⟩
        have refused := timeoutOf_of_none given becomes noInt
        cases writable : value.isWritable with
        | true =>
          rw [refuseTimeout, writable, if_pos rfl] at refused
          exact .inr (.inl ⟨⟨value, rfl, becomes, noInt, writable⟩, _, refused, _, rfl⟩)
        | false =>
          rw [refuseTimeout, writable, if_neg Bool.false_ne_true] at refused
          refine .inr (.inr ⟨.inr ⟨value, rfl, becomes, noInt, writable⟩, _, refused, ?_⟩)
          rintro ⟨cause, same⟩
          cases same

/-- A path is read, or its fault is none of the configuration. -/
theorem pathOf_cases (entries : List (Datum × Datum)) (root : Path) (name : String)
    (absent : Path) :
    (IsPathLike (Datum.lookup? name entries) ∧ ∃ path, pathOf entries root name absent = .ok path) ∨
    (¬ IsPathLike (Datum.lookup? name entries) ∧
      ∃ fault, pathOf entries root name absent = .error fault ∧ ¬ IsConfig fault) := by
  unfold pathOf
  cases Datum.lookup? name entries with
  | none => exact .inl ⟨by simp [IsPathLike], absent, rfl⟩
  | some value =>
    have like : IsPathLike (some value) ↔ value.isVoid = true ∨ IsText value := by
      simp [IsPathLike]
    rw [like]
    cases void : value.isVoid with
    | true => exact .inl ⟨.inl rfl, absent, if_pos void⟩
    | false =>
      cases value with
      | text s => exact .inl ⟨.inr ⟨s, rfl⟩, root.below s, by simp [void]⟩
      | _ => exact .inr ⟨by simp [IsText], _, by simp only [void]; rfl, by simp [IsConfig]⟩

/-! ## Reading settings -/

/-! At most one of three things is true of a timeout. -/

theorem Converts.not_isRefused {given : Option Datum} (converts : Converts given) :
    ¬ IsRefused given := by
  rintro ⟨value, rfl, none, _⟩
  obtain ⟨x, some⟩ := converts value rfl
  cases none.symm.trans some

theorem Converts.not_isLost {given : Option Datum} (converts : Converts given) :
    ¬ IsLost given := by
  rintro (⟨i, rfl, beyond⟩ | ⟨value, rfl, none, _⟩)
  · obtain ⟨x, some⟩ := converts _ rfl
    have less := Double.ofInt?_isSome_iff.mp (Option.isSome_of_eq_some some)
    exact Nat.not_lt.mpr beyond less
  · obtain ⟨x, some⟩ := converts value rfl
    cases none.symm.trans some

theorem IsRefused.not_isLost {given : Option Datum} (refused : IsRefused given) :
    ¬ IsLost given := by
  obtain ⟨value, rfl, _, noInt, writable⟩ := refused
  rintro (⟨i, same, _⟩ | ⟨other, same, _, _, unwritable⟩)
  · cases same
    exact noInt i rfl
  · cases same
    cases writable.symm.trans unwritable

/-! So at most one of three things is true of a value. -/

theorem IsAccepted.not_isReported {data : Datum} (accepted : IsAccepted data) :
    ¬ IsReported data := by
  obtain ⟨entries, rfl, known, converts, _⟩ := accepted
  rintro (noMap | ⟨_, same, ⟨⟨entry, member, unknown⟩, _⟩ | ⟨_, refused⟩⟩)
  · exact noMap entries rfl
  · cases same
    exact unknown (known entry member)
  · cases same
    exact converts.not_isRefused refused

theorem IsAccepted.not_isUnreported {data : Datum} (accepted : IsAccepted data) :
    ¬ IsUnreported data := by
  obtain ⟨entries, rfl, known, converts, paths⟩ := accepted
  rintro ⟨_, same, ⟨entry, member, mixed⟩ | ⟨_, lost | ⟨_, name, member, unlike⟩⟩⟩
  · cases same
    exact mixed (isText_of_isSetting (known entry member))
  · cases same
    exact converts.not_isLost lost
  · cases same
    exact unlike (paths name member)

theorem IsReported.not_isUnreported {data : Datum} (reported : IsReported data) :
    ¬ IsUnreported data := by
  rintro ⟨entries, rfl, unreported⟩
  rcases reported with noMap | ⟨_, same, reason⟩
  · exact noMap entries rfl
  · cases same
    rcases reason with ⟨⟨entry, member, unknown⟩, texts⟩ | ⟨known, refused⟩
    · rcases unreported with ⟨other, present, mixed⟩ | ⟨known, _⟩
      · exact mixed (texts other present)
      · exact unknown (known entry member)
    · rcases unreported with ⟨other, present, mixed⟩ | ⟨_, lost | ⟨converts, _⟩⟩
      · exact mixed (isText_of_isSetting (known other present))
      · exact refused.not_isLost lost
      · exact converts.not_isRefused refused

/-- A mapping is read, is reported, or ends with another fault. -/
theorem ofDatum_map_cases (root : Path) (entries : List (Datum × Datum)) :
    (IsAccepted (.map entries) ∧ ∃ s, ofDatum root (.map entries) = .ok s) ∨
    (IsReported (.map entries) ∧
      ∃ fault, ofDatum root (.map entries) = .error fault ∧ IsConfig fault) ∨
    (IsUnreported (.map entries) ∧
      ∃ fault, ofDatum root (.map entries) = .error fault ∧ ¬ IsConfig fault) := by
  rw [ofDatum]
  simp only [bind, Except.bind]
  rcases checkKeys_cases entries with
    ⟨known, passed⟩ | ⟨unknown, texts, fault, refused, config⟩ | ⟨mixed, fault, refused, other⟩
  · rw [passed]
    rcases timeoutOf_cases entries with
      ⟨converts, x, timeout⟩ | ⟨refused, fault, failed, config⟩ | ⟨lost, fault, failed, other⟩
    · have escapes {name : String} (member : name ∈ pathNames)
          (unlike : ¬ IsPathLike (Datum.lookup? name entries)) : IsUnreported (.map entries) :=
        ⟨entries, rfl, .inr ⟨known, .inr ⟨converts, name, member, unlike⟩⟩⟩
      rw [timeout]
      rcases pathOf_cases entries root "components_dir" (defaults root).componentsDir with
        ⟨components, _, read⟩ | ⟨unlike, fault, failed, other⟩
      · rw [read]
        rcases pathOf_cases entries root "results_dir" (defaults root).resultsDir with
          ⟨results, _, read⟩ | ⟨unlike, fault, failed, other⟩
        · rw [read]
          rcases pathOf_cases entries root "thresholds_path" (defaults root).thresholdsPath with
            ⟨thresholds, _, read⟩ | ⟨unlike, fault, failed, other⟩
          · rw [read]
            refine .inl ⟨⟨entries, rfl, known, converts, ?_⟩, _, rfl⟩
            simp only [pathNames, List.forall_mem_cons]
            exact ⟨components, results, thresholds, by simp⟩
          · rw [failed]
            exact .inr (.inr ⟨escapes (by decide) unlike, fault, rfl, other⟩)
        · rw [failed]
          exact .inr (.inr ⟨escapes (by decide) unlike, fault, rfl, other⟩)
      · rw [failed]
        exact .inr (.inr ⟨escapes (by decide) unlike, fault, rfl, other⟩)
    · rw [failed]
      exact .inr (.inl ⟨.inr ⟨entries, rfl, .inr ⟨known, refused⟩⟩, fault, rfl, config⟩)
    · rw [failed]
      exact .inr (.inr ⟨⟨entries, rfl, .inr ⟨known, .inl lost⟩⟩, fault, rfl, other⟩)
  · rw [refused]
    exact .inr (.inl ⟨.inr ⟨entries, rfl, .inl ⟨unknown, texts⟩⟩, fault, rfl, config⟩)
  · rw [refused]
    exact .inr (.inr ⟨⟨entries, rfl, .inl mixed⟩, fault, rfl, other⟩)

/-- A value is read exactly when it is a mapping of known settings with a timeout that becomes a
double and with paths. What is no mapping is reported as a fault of the configuration, and so are
unknown keys that are all texts and a refused timeout that can be shown. Every other value ends with
a fault of another kind: one with a key that is no text, with a timeout beyond the doubles or with
too many digits, or with a path that is no text. -/
theorem ofDatum_outcome (root : Path) (data : Datum) :
    ((∃ s, ofDatum root data = .ok s) ↔ IsAccepted data) ∧
    ((∃ fault, ofDatum root data = .error fault ∧ IsConfig fault) ↔ IsReported data) ∧
    ((∃ fault, ofDatum root data = .error fault ∧ ¬ IsConfig fault) ↔ IsUnreported data) := by
  have split : (IsAccepted data ∧ ∃ s, ofDatum root data = .ok s) ∨
      (IsReported data ∧ ∃ fault, ofDatum root data = .error fault ∧ IsConfig fault) ∨
      (IsUnreported data ∧ ∃ fault, ofDatum root data = .error fault ∧ ¬ IsConfig fault) := by
    cases data with
    | map entries => exact ofDatum_map_cases root entries
    | _ => exact .inr (.inl ⟨.inl (by simp), _, rfl, _, rfl⟩)
  rcases split with ⟨accepted, s, result⟩ | ⟨reported, fault, result, config⟩ |
    ⟨unreported, fault, result, other⟩
  · have notReported := accepted.not_isReported
    have notUnreported := accepted.not_isUnreported
    rw [result]
    simp [accepted, notReported, notUnreported]
  · have notAccepted : ¬ IsAccepted data := fun accepted => accepted.not_isReported reported
    have notUnreported := reported.not_isUnreported
    rw [result]
    simp [notAccepted, reported, notUnreported, config]
  · have notAccepted : ¬ IsAccepted data := fun accepted => accepted.not_isUnreported unreported
    have notReported : ¬ IsReported data := fun reported => reported.not_isUnreported unreported
    rw [result]
    simp [notAccepted, notReported, unreported, other]

/-- A key that is an integer, a timeout beyond the doubles and a path that is an integer: each is
wrong, and none is reported as a fault of the configuration. -/
theorem wrong_settings_unreported :
    ofDatum ⟨"", ["p"]⟩ (.map [(.int 1, .int 2)]) = .error (.notText 0 "int") ∧
    ofDatum ⟨"", ["p"]⟩ (.map [(.text "timeout", .int (10 ^ 400))]) = .error .beyondDouble ∧
    ofDatum ⟨"", ["p"]⟩ (.map [(.text "components_dir", .int 5)]) = .error (.notPath "int") := by
  refine ⟨rfl, ?_, rfl⟩
  have lost : timeoutOf [(.text "timeout", .int (10 ^ 400))] = .error .beyondDouble :=
    timeoutOf_of_beyond rfl rfl (by decide +kernel)
  rw [ofDatum, lost]
  rfl

end DesignGauge.Settings
