import DesignGauge.Proofs.Measure.Contribution
import DesignGauge.Proofs.Wire.Lookup
import DesignGauge.Proofs.Wire.RoundTrip

/-!
# Abstract methods and the spelling of their modifiers

The modifiers of a method are read from a text or from a list. A text is kept as it is, so that a
method declared abstract in it counts as abstract wherever modifiers are looked at. A list is
reduced to its first visibility word, and no visibility word mentions being abstract: a method
whose modifiers are listed counts as abstract only by its flag, by an annotation, or, in the weight
of an abstract class, for want of a body.

Results:
1. `MethodDecl.read_withModifiers`: two spellings of the modifiers give the same method up to them.
2. `firstAccess_texts`, `not_mentions_visibility`: what is left of listed modifiers.
3. `isCounted_iff`, `isNamed_iff`: when a method is counted, and named, as abstract in every file.
4. `listed_reduced_joined_kept`: listed and joined modifiers with the word abstract among them.
-/

namespace DesignGauge

open Wire

/-! ## Readings that differ in one part -/

namespace Wire

variable {α β γ : Type}

namespace Checked

theorem map_map (g : β → γ) (f : α → β) (c : Checked α) : g <$> f <$> c = (g ∘ f) <$> c := by
  cases c <;> rfl

theorem map_seq (g : β → γ) (f : Checked (α → β)) (c : Checked α) :
    g <$> (f <*> c) = (g ∘ ·) <$> f <*> c := by
  cases f <;> cases c <;> rfl

theorem seq_fits (f : Checked (α → β)) (a : α) : f <*> .fits a = (· a) <$> f := by
  cases f <;> rfl

end Checked

end Wire

namespace MethodDecl

/-- The method with other modifiers. -/
def withModifiers (modifiers : String) (m : MethodDecl) : MethodDecl := { m with modifiers }

/-- Mappings that differ in their modifiers alone are read as methods that do, with the same issues
where they do not fit. -/
theorem read_withModifiers {entries entries' : Entries} {modifiers modifiers' : String}
    (agree : AgreeBut "modifiers" entries entries')
    (kept : member entries ["modifiers"] "public" methodModifiers = .fits modifiers)
    (kept' : member entries' ["modifiers"] "public" methodModifiers = .fits modifiers') :
    read (.map entries') = withModifiers modifiers' <$> read (.map entries) := by
  simp only [read, record, kept, kept', Checked.seq_fits, Checked.map_map, Checked.map_seq]
  simp (disch := decide) only [agree.member]
  rfl

end MethodDecl

/-! ## Listed modifiers -/

/-- The first visibility word among some modifiers, public if there is none. -/
def visibility (modifiers : List String) : String :=
  (modifiers.find? fun modifier => Access.all.any (·.word == modifier)).getD Access.isPublic.word

theorem firstAccess_texts (modifiers : List String) :
    firstAccess (modifiers.map .text) = .fits (visibility modifiers) := by
  induction modifiers with
  | nil => rfl
  | cons modifier rest ih =>
    rw [List.map_cons, firstAccess, visibility, List.find?_cons]
    cases word : Access.all.any (·.word == modifier) with
    | true => simp [Datum.unkeyable?]
    | false => simp [Datum.unkeyable?, ih, visibility]

theorem member_listed {entries : Entries} {modifiers : List String}
    (listed : Datum.lookup? "modifiers" entries = some (ofTexts modifiers)) :
    member entries ["modifiers"] "public" methodModifiers = .fits (visibility modifiers) := by
  rw [member, spelled?, listed]
  exact congrArg (Checked.under _) (firstAccess_texts modifiers)

theorem member_joined {entries : Entries} {modifiers : String}
    (joined : Datum.lookup? "modifiers" entries = some (.text modifiers)) :
    member entries ["modifiers"] "public" methodModifiers = .fits modifiers := by
  rw [member, spelled?, joined]
  rfl

theorem exists_word_eq_visibility (modifiers : List String) :
    ∃ access : Access, access.word = visibility modifiers := by
  rw [visibility]
  cases found : modifiers.find? fun modifier => Access.all.any (·.word == modifier) with
  | none => exact ⟨.isPublic, rfl⟩
  | some modifier =>
    have word : Access.all.any (·.word == modifier) = true :=
      List.find?_some (p := fun modifier => Access.all.any (·.word == modifier)) found
    obtain ⟨access, _, same⟩ := List.any_eq_true.mp word
    exact ⟨access, beq_iff_eq.mp same⟩

/-- No visibility mentions being abstract. -/
theorem not_mentions_visibility (modifiers : List String) :
    ¬ "abstract".toList <:+: (visibility modifiers).toList := by
  obtain ⟨access, word⟩ := exists_word_eq_visibility modifiers
  rw [← word, ← Text.holdsPiece_iff]
  cases access <;> decide

/-- A word is found in what it is joined into. -/
theorem infix_intercalate {word : String} {words : List String} (member : word ∈ words) :
    word.toList <:+: (" ".intercalate words).toList := by
  induction words with
  | nil => exact absurd member List.not_mem_nil
  | cons first rest ih =>
    cases rest with
    | nil =>
      obtain rfl := List.mem_singleton.mp member
      simp only [String.intercalate_singleton, List.infix_rfl]
    | cons second rest =>
      rw [String.intercalate_cons_cons, String.toList_append, String.toList_append]
      rcases List.mem_cons.mp member with rfl | later
      · rw [List.append_assoc]
        exact (List.prefix_append _ _).isInfix
      · exact (ih later).trans (List.suffix_append _ _).isInfix

/-! ## Abstract methods -/

namespace Measure

/-- A method is marked abstract outside its modifiers, by its flag or by an annotation. -/
def MarkedAbstract (m : MethodDecl) : Prop :=
  m.isAbstract = true ∨ ∃ annotation ∈ m.annotations, "abstract".toList <:+: annotation.toList

/-- A method has no body though it is neither constructor nor accessor. -/
def IsBodiless (m : MethodDecl) : Prop :=
  m.bodyTags = [] ∧ m.isConstructor = false ∧ m.isAccessor = false

/-- Wherever the method stands in a file, it is one more abstract method. -/
def IsCounted (m : MethodDecl) : Prop :=
  ∀ (v : ClassView) (front back : List MethodDecl), v.methods = front ++ m :: back →
    abstractMethods v = abstractMethods { v with methods := front ++ back } + 1

/-- In every file whose first class is abstract, the method gives its name to the abstract ones. -/
def IsNamed (m : MethodDecl) : Prop :=
  ∀ v : ClassView, m ∈ v.methods → isAbstractClass v.primary? = true →
    m.name ∈ abstractNames v.methods v.primary?

theorem isAbstractMethod_iff {m : MethodDecl} :
    isAbstractMethod m = true ↔
      MarkedAbstract m ∨ "abstract".toList <:+: m.modifiers.toList := by
  simp only [isAbstractMethod, saysAbstract, MarkedAbstract, Bool.or_eq_true, List.any_eq_true,
    Text.holdsPiece_iff]
  exact or_right_comm

theorem isCounted_iff {m : MethodDecl} : IsCounted m ↔ isAbstractMethod m = true := by
  constructor
  · intro counted
    have alone := counted { methods := [m] } [] [] rfl
    simp only [abstractMethods, List.append_nil, List.countP_singleton, List.countP_nil] at alone
    by_contra concrete
    rw [if_neg concrete] at alone
    cases alone
  · intro abstract v front back methods
    simp only [abstractMethods, methods, List.countP_append, List.countP_cons_of_pos abstract]
    omega

/-- One file decides: that of an abstract class with no other method. -/
theorem isNamed_iff {m : MethodDecl} : IsNamed m ↔ StandsAbstract m := by
  constructor
  · intro named
    have alone := named { classes := [{ isAbstract := true }], methods := [m] }
      List.mem_cons_self rfl
    obtain ⟨_, other, member, _, stands⟩ := mem_abstractNames_iff.mp alone
    obtain rfl := List.mem_singleton.mp member
    exact stands
  · intro stands v member abstractClass
    exact mem_abstractNames_iff.mpr ⟨abstractClass, m, member, rfl, stands⟩

/-- A method with the word abstract among its modifiers. Where these are listed, it is read with
their visibility alone: it is an abstract method, and counted as one, exactly if it is marked
abstract elsewhere, and it gives its name to the abstract ones of an abstract class exactly if it
has the flag or no body. Where they are joined by blanks, it is the same method up to its modifiers,
with the same issues where it does not fit, and it is all of that. -/
theorem listed_reduced_joined_kept {entries entries' : Entries} {modifiers : List String}
    (listed : Datum.lookup? "modifiers" entries = some (ofTexts modifiers))
    (joined : Datum.lookup? "modifiers" entries' = some (.text (" ".intercalate modifiers)))
    (others : AgreeBut "modifiers" entries entries') (declared : "abstract" ∈ modifiers) :
    MethodDecl.read (.map entries') =
        MethodDecl.withModifiers (" ".intercalate modifiers) <$> MethodDecl.read (.map entries) ∧
    ∀ m, MethodDecl.read (.map entries) = .fits m →
      m.modifiers = visibility modifiers ∧
      (isAbstractMethod m = true ↔ MarkedAbstract m) ∧
      (IsCounted m ↔ MarkedAbstract m) ∧
      (IsNamed m ↔ m.isAbstract = true ∨ IsBodiless m) ∧
      isAbstractMethod (m.withModifiers (" ".intercalate modifiers)) = true ∧
      IsCounted (m.withModifiers (" ".intercalate modifiers)) ∧
      IsNamed (m.withModifiers (" ".intercalate modifiers)) := by
  have kept := member_listed listed
  refine ⟨MethodDecl.read_withModifiers others kept (member_joined joined), fun m fits => ?_⟩
  have reduced : m.modifiers = visibility modifiers := by
    have same := MethodDecl.read_withModifiers (fun _ _ => rfl) kept kept
    rw [fits] at same
    exact congrArg MethodDecl.modifiers (Checked.fits.inj same)
  have lost : ¬ "abstract".toList <:+: m.modifiers.toList := by
    rw [reduced]
    exact not_mentions_visibility modifiers
  have found := infix_intercalate declared
  have abstract : isAbstractMethod (m.withModifiers (" ".intercalate modifiers)) = true :=
    isAbstractMethod_iff.mpr (.inr found)
  refine ⟨reduced, ?_, ?_, ?_, abstract, isCounted_iff.mpr abstract,
    isNamed_iff.mpr (.inr (.inl found))⟩
  · rw [isAbstractMethod_iff, or_iff_left lost]
  · rw [isCounted_iff, isAbstractMethod_iff, or_iff_left lost]
  · rw [isNamed_iff, StandsAbstract, or_iff_right lost]
    rfl

/-- A method with a body, without a flag and without annotations. -/
def areaEntries (modifiers : Datum) : Entries :=
  written [("name", .text "area"), ("modifiers", modifiers),
    ("methodBody", ofTexts ["return_statement"])]

/-- The method that is read from it. -/
def areaMethod (modifiers : String) : MethodDecl :=
  { name := "area", modifiers, bodyTags := ["return_statement"] }

/-- Listed, the word abstract is lost with all that follows from it. -/
theorem listed_abstract_lost :
    MethodDecl.read (.map (areaEntries (ofTexts ["public", "abstract"]))) =
      .fits (areaMethod "public") ∧
    isAbstractMethod (areaMethod "public") = false ∧
    abstractMethods { methods := [areaMethod "public"] } = 0 ∧
    "area" ∉ abstractNames [areaMethod "public"] (some { isAbstract := true }) ∧
    MethodDecl.read (.map (areaEntries (.text "public abstract"))) =
      .fits (areaMethod "public abstract") ∧
    isAbstractMethod (areaMethod "public abstract") = true ∧
    abstractMethods { methods := [areaMethod "public abstract"] } = 1 ∧
    "area" ∈ abstractNames [areaMethod "public abstract"] (some { isAbstract := true }) := by
  exact ⟨rfl, by decide, by decide, by decide, rfl, by decide, by decide, by decide⟩

/-- The word stands between two others: the listed method is read with its visibility. -/
theorem areaEntries_reduced_and_kept :
    MethodDecl.read (.map (areaEntries (ofTexts ["static", "abstract", "protected"]))) =
      .fits (areaMethod "protected") ∧
    MethodDecl.read (.map (areaEntries (.text "static abstract protected"))) =
      .fits (areaMethod "static abstract protected") ∧
    ¬ IsCounted (areaMethod "protected") ∧ ¬ IsNamed (areaMethod "protected") ∧
    IsCounted (areaMethod "static abstract protected") ∧
    IsNamed (areaMethod "static abstract protected") := by
  have others : AgreeBut "modifiers" (areaEntries (ofTexts ["static", "abstract", "protected"]))
      (areaEntries (.text "static abstract protected")) := by
    intro other differs
    simp only [areaEntries, lookup?_written, List.lookup_cons, beq_eq_false_iff_ne.mpr differs]
  obtain ⟨joined, listed⟩ :=
    @listed_reduced_joined_kept _ _ ["static", "abstract", "protected"] rfl rfl others (by decide)
  obtain ⟨_, _, counted, named, _, counted', named'⟩ := listed (areaMethod "protected") rfl
  refine ⟨rfl, joined, ?_, ?_, counted', named'⟩
  · rw [counted]
    simp [MarkedAbstract, areaMethod]
  · rw [named]
    simp [IsBodiless, areaMethod]

end Measure

end DesignGauge
