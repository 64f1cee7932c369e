import DesignGauge.Analysis.Choice
import DesignGauge.Proofs.Path.BaseName
import DesignGauge.Proofs.Store.Index
import DesignGauge.Proofs.Text.LowerCase
import DesignGauge.Report.Basic

/-!
# Spellings of a path

A file is known by the last component of its path. Whatever the directory in front of it is and
whichever separators it uses, the stem, the report file, the name in a report and the language are
those of the last component alone. The stem does not see the case of basic letters either, nor the
extension, so that what is put under one spelling of a path is found under every other.

Only the path of a network share is different: the share does not belong to the directory.

Results:
1. `IsPathOf.baseName`, `IsPathOf.name`: both readings of a path end with the same name.
2. `Respelling.stem`: the stem of a name is that of its respellings.
3. `keys_of_last_component`: what is derived from a path depends on its last component.
-/

namespace DesignGauge

namespace Text

/-! ## Ends of a text -/

section Ends

variable {p : Char → Bool} {stop : Char} {front back : List Char}

theorem dropRightWhile_append_cons (stops : p stop = false) :
    dropRightWhile p (front ++ stop :: back) = front ++ stop :: dropRightWhile p back := by
  have reversed : (front ++ stop :: back).reverse = back.reverse ++ stop :: front.reverse := by
    simp
  have kept : (stop :: front.reverse).dropWhile p = stop :: front.reverse :=
    List.dropWhile_cons_of_neg (by simp [stops])
  rw [dropRightWhile, reversed, List.dropWhile_append, kept, dropRightWhile]
  split
  · next empty => simp [List.isEmpty_iff.mp empty]
  · simp

theorem dropRightWhile_of_all (all : ∀ c ∈ back, p c = true) : dropRightWhile p back = [] := by
  rw [dropRightWhile, List.dropWhile_eq_nil_iff.mpr fun c member =>
    all c (List.mem_reverse.mp member), List.reverse_nil]

theorem takeRightWhile_of_all (all : ∀ c ∈ back, p c = true) : takeRightWhile p back = back := by
  rw [takeRightWhile, List.takeWhile_eq_self_iff.mpr fun c member =>
    all c (List.mem_reverse.mp member), List.reverse_reverse]

theorem takeRightWhile_append_cons (stops : p stop = false) (all : ∀ c ∈ back, p c = true) :
    takeRightWhile p (front ++ stop :: back) = back := by
  have reversed : (front ++ stop :: back).reverse = back.reverse ++ stop :: front.reverse := by
    simp
  rw [takeRightWhile, reversed, List.takeWhile_append_of_pos fun c member =>
    all c (List.mem_reverse.mp member), List.takeWhile_cons_of_neg (by simp [stops])]
  simp

end Ends

theorem exchange_of_not_mem {old new : Char} {text : List Char} (absent : old ∉ text) :
    exchange old new text = text := by
  have kept : ∀ c ∈ text, (if c == old then new else c) = c := by
    intro c member
    rw [if_neg]
    intro same
    exact absent (beq_iff_eq.mp same ▸ member)
  rw [exchange, List.map_congr_left kept, List.map_id']

end Text

open Text

/-! ## The last component -/

namespace SourceName

/-- A text without separators and without the mark of a drive. -/
def Plain (text : String) : Prop := ∀ c ∈ text.toList, c ≠ '/' ∧ c ≠ '\\' ∧ c ≠ ':'

/-- A separator of either style. -/
def isSeparator (c : Char) : Bool := c == '/' || c == '\\'

/-- Two separators in front mark the path of a network share. -/
def startsShare (path : String) : Bool :=
  match path.toList with
  | a :: b :: _ => isSeparator a && isSeparator b
  | _ => false

/-- A path that ends with a name behind a separator, and leads to no network share. -/
def IsPathOf (name path : String) : Prop :=
  ∃ (directory : String) (mark : Char), isSeparator mark = true ∧
    startsShare (directory.push mark) = false ∧ path = directory.push mark ++ name

theorem plain_of_all {text : String}
    (all : text.toList.all (fun c => c != '/' && c != '\\' && c != ':') = true) : Plain text := by
  intro c member
  have here := List.all_eq_true.mp all c member
  simpa only [Bool.and_eq_true, bne_iff_ne, and_assoc] using here

theorem Plain.not_mem {text : String} (plain : Plain text) :
    '/' ∉ text.toList ∧ '\\' ∉ text.toList ∧ ':' ∉ text.toList :=
  ⟨fun member => (plain _ member).1 rfl, fun member => (plain _ member).2.1 rfl,
    fun member => (plain _ member).2.2 rfl⟩

theorem unify_of_plain {text : String} (plain : Plain text) : unify text.toList = text.toList :=
  exchange_of_not_mem plain.not_mem.1

theorem afterLast_of_plain {text : String} (plain : Plain text) (front : List Char) :
    afterLast separator (front ++ separator :: text.toList) = text.toList :=
  takeRightWhile_append_cons (by decide) fun c member => bne_iff_ne.mpr (plain c member).2.1

/-- A name has no drive in front and is its own last component. -/
theorem lastComponent_of_plain {name : String} (plain : Plain name) :
    lastComponent name.toList = name.toList := by
  have bare : dropDrive name.toList = name.toList := by
    unfold dropDrive
    split
    · next a b rest chars =>
      have first := plain a (by rw [chars]; simp)
      have second := plain b (by rw [chars]; simp)
      rw [if_neg, if_neg]
      · simpa using second.2.2
      · simp only [separator, Bool.and_eq_true, beq_iff_eq, not_and]
        exact fun same => absurd same first.2.1
    · rfl
  rw [lastComponent, unify_of_plain plain, bare]
  exact takeRightWhile_of_all fun c member => bne_iff_ne.mpr (plain c member).2.1

/-- A separator is what becomes a backslash. -/
theorem isSeparator_iff {c : Char} :
    isSeparator c = true ↔ (if c == '/' then separator else c) = separator := by
  by_cases slash : c = '/'
  · rw [slash]
    decide
  · rw [if_neg (by simpa using slash)]
    simp [isSeparator, separator, slash]

/-- Without a share in front, at most a drive is dropped. -/
theorem dropDrive_cons_cons {a b : Char} (noShare : ¬ (a = separator ∧ b = separator))
    (rest : List Char) :
    dropDrive (a :: b :: rest) = if b = ':' then rest else a :: b :: rest := by
  rw [dropDrive, if_neg (by simpa using noShare)]
  simp only [beq_iff_eq]

/-- What is dropped stands in front of the last separator. -/
theorem exists_dropDrive {front name : List Char} (colon : ':' ∉ name) (apart : separator ∉ name)
    (noShare : ∀ rest, front ++ [separator] ≠ separator :: separator :: rest) :
    ∃ kept, dropDrive (front ++ separator :: name) = kept ++ separator :: name := by
  match front with
  | [] =>
    cases name with
    | nil => exact ⟨[], rfl⟩
    | cons c rest =>
      rw [List.mem_cons, not_or] at colon apart
      refine ⟨[], ?_⟩
      rw [List.nil_append, dropDrive_cons_cons fun both => apart.1 both.2.symm,
        if_neg (Ne.symm colon.1)]
  | [a] =>
    refine ⟨[a], ?_⟩
    have other : ¬ (a = separator ∧ separator = separator) := by
      rintro ⟨rfl, _⟩
      exact noShare [] rfl
    rw [List.singleton_append, dropDrive_cons_cons other, if_neg (by decide)]
  | a :: b :: front =>
    have other : ¬ (a = separator ∧ b = separator) := by
      rintro ⟨rfl, rfl⟩
      exact noShare _ rfl
    rw [List.cons_append, List.cons_append, dropDrive_cons_cons other]
    split
    · exact ⟨front, rfl⟩
    · exact ⟨a :: b :: front, rfl⟩

theorem unify_append (front back : List Char) : unify (front ++ back) = unify front ++ unify back :=
  List.map_append

/-- Two separators in front of the unified path are two separators in front of the path. -/
theorem startsShare_of_unify {path : String} {rest : List Char}
    (unified : unify path.toList = separator :: separator :: rest) : startsShare path = true := by
  unfold startsShare
  generalize path.toList = chars at unified
  match chars with
  | [] => exact nomatch unified
  | [a] => exact nomatch (List.cons.inj unified).2
  | a :: b :: _ =>
    obtain ⟨first, more⟩ := List.cons.inj unified
    obtain ⟨second, _⟩ := List.cons.inj more
    exact Bool.and_eq_true_iff.mpr ⟨isSeparator_iff.mpr first, isSeparator_iff.mpr second⟩

/-- The last component of a path is the name that it ends with. -/
theorem IsPathOf.lastComponent {name path : String} (leads : IsPathOf name path)
    (plain : Plain name) : lastComponent path.toList = name.toList := by
  obtain ⟨directory, mark, separates, noShare, rfl⟩ := leads
  have marked : unify [mark] = [separator] := by
    rw [unify, exchange, List.map_singleton, isSeparator_iff.mp separates]
  have unified : unify (directory.push mark ++ name).toList =
      unify directory.toList ++ separator :: name.toList := by
    rw [String.toList_append, String.toList_push, unify_append, unify_append, marked,
      unify_of_plain plain, List.append_assoc, List.singleton_append]
  obtain ⟨slash, backslash, colon⟩ := plain.not_mem
  have unshared : ∀ rest, unify directory.toList ++ [separator] ≠
      separator :: separator :: rest := by
    intro rest share
    rw [← marked, ← unify_append, ← String.toList_push] at share
    rw [startsShare_of_unify share] at noShare
    exact nomatch noShare
  obtain ⟨kept, dropped⟩ := exists_dropDrive colon backslash unshared
  rw [SourceName.lastComponent, unified, dropped]
  exact afterLast_of_plain plain kept

theorem IsPathOf.baseName {name path : String} (leads : IsPathOf name path) (plain : Plain name) :
    baseName path = baseName name := by
  rw [SourceName.baseName, SourceName.baseName, leads.lastComponent plain,
    lastComponent_of_plain plain]

/-! ## Respellings of a name -/

theorem dropExtension_extended {base extension : List Char} (letters : ∃ c ∈ base, c ≠ '.')
    (dotless : '.' ∉ extension) : dropExtension (base ++ '.' :: extension) = base := by
  have front : (dropRightWhile (· != '.') (base ++ '.' :: extension)).dropLast = base := by
    rw [dropRightWhile_append_cons (by decide), dropRightWhile_of_all fun c member => ?_,
      List.dropLast_concat]
    rw [bne_iff_ne]
    rintro rfl
    exact dotless member
  have named : (base.any fun c => c != '.') = true := by
    obtain ⟨c, member, other⟩ := letters
    exact List.any_eq_true.mpr ⟨c, member, bne_iff_ne.mpr other⟩
  rw [dropExtension]
  simp only [front]
  rw [if_pos named]

theorem toLower_eq_dot_iff {c : Char} : c.toLower = '.' ↔ c = '.' := by
  constructor
  · intro same
    rcases eq_or_letters (c := c) (d := '.') same with equal | ⟨_, letter⟩
    · exact equal
    · exact absurd letter (by decide)
  · rintro rfl
    rfl

/-- An extension is found whatever the case of the letters. -/
theorem dropExtension_map_toLower (name : List Char) :
    dropExtension (name.map Char.toLower) = (dropExtension name).map Char.toLower := by
  have dots : ((· != '.') ∘ Char.toLower : Char → Bool) = (· != '.') := by
    funext c
    rw [Function.comp_apply, Bool.eq_iff_iff, bne_iff_ne, bne_iff_ne, Ne, toLower_eq_dot_iff]
  have front : (dropRightWhile (· != '.') (name.map Char.toLower)).dropLast =
      ((dropRightWhile (· != '.') name).dropLast).map Char.toLower := by
    rw [dropRightWhile, ← List.map_reverse, List.dropWhile_map, dots, ← List.map_reverse,
      List.map_dropLast, dropRightWhile]
  unfold dropExtension
  simp only [front, List.any_map, dots]
  split
  · rfl
  · rfl

/-- Two texts that differ at most in the case of basic letters. -/
def SameLetters (a b : String) : Prop := a.toList.map Char.toLower = b.toList.map Char.toLower

theorem SameLetters.plain {a b : String} (same : SameLetters a b) (plain : Plain a) : Plain b := by
  intro d member
  have lowered : d.toLower ∈ a.toList.map Char.toLower := same ▸ List.mem_map_of_mem member
  obtain ⟨c, present, equal⟩ := List.mem_map.mp lowered
  rcases eq_or_letters equal with rfl | ⟨_, letter⟩
  · exact plain c present
  · -- no separator is a letter
    refine ⟨?_, ?_, ?_⟩ <;> rintro rfl <;> exact absurd letter (by decide)

theorem SameLetters.stem {a b : String} (same : SameLetters a b) (plain : Plain a) :
    stem a = stem b := by
  have extensions := congrArg dropExtension same
  rw [dropExtension_map_toLower, dropExtension_map_toLower] at extensions
  rw [SourceName.stem, SourceName.stem, SourceName.baseName, SourceName.baseName, lower, lower,
    lastComponent_of_plain plain, lastComponent_of_plain (same.plain plain), String.toList_ofList,
    String.toList_ofList, lowerChars_congr extensions]

/-- A name and its extension. -/
def extended (base extension : String) : String := base ++ "." ++ extension

theorem toList_extended (base extension : String) :
    (extended base extension).toList = base.toList ++ '.' :: extension.toList := by
  rw [extended, String.toList_append, String.toList_append, List.append_assoc]
  rfl

theorem plain_extended {base extension : String} (plain : Plain base) (plain' : Plain extension) :
    Plain (extended base extension) := by
  intro c member
  rw [toList_extended, List.mem_append, List.mem_cons] at member
  rcases member with front | rfl | back
  · exact plain c front
  · decide
  · exact plain' c back

/-- The stem of a name with an extension is the name in lower case. -/
theorem stem_extended {base extension : String} (plain : Plain base) (plain' : Plain extension)
    (letters : ∃ c ∈ base.toList, c ≠ '.') (dotless : '.' ∉ extension.toList) :
    stem (extended base extension) = lower base := by
  rw [SourceName.stem, SourceName.baseName, lastComponent_of_plain (plain_extended plain plain'),
    toList_extended, dropExtension_extended letters dotless, String.ofList_toList]

/-- Another spelling of a name: with letters in another case, with another extension, or both. -/
inductive Respelling : String → String → Prop
  | letters {a b : String} : SameLetters a b → Respelling a b
  | extension {base e e' : String} : Plain base → Plain e → Plain e' →
      (∃ c ∈ base.toList, c ≠ '.') → '.' ∉ e.toList → '.' ∉ e'.toList →
      Respelling (extended base e) (extended base e')
  | trans {a b c : String} : Respelling a b → Respelling b c → Respelling a c

/-- A respelling of a plain name is a plain name with the same stem. -/
theorem Respelling.stem {a b : String} (respelled : Respelling a b) (plain : Plain a) :
    Plain b ∧ stem a = stem b := by
  induction respelled with
  | letters same => exact ⟨same.plain plain, same.stem plain⟩
  | extension base e e' letters dotless dotless' =>
    refine ⟨plain_extended base e', ?_⟩
    rw [stem_extended base e letters dotless, stem_extended base e' letters dotless']
  | trans _ _ ih ih' =>
    obtain ⟨plain, first⟩ := ih plain
    obtain ⟨plain, second⟩ := ih' plain
    exact ⟨plain, first.trans second⟩

end SourceName

/-! ## The name in a report -/

theorem Path.pieces_append (front : List Char) {name : String} (plain : '/' ∉ name.toList) :
    ∃ before, Path.pieces (String.ofList (front ++ '/' :: name.toList)) = before ++ [name] := by
  refine ⟨(front.splitOn '/').map String.ofList, ?_⟩
  rw [Path.pieces, String.toList_ofList, List.splitOn_eq_splitOnP,
    List.splitOnP_append_cons _ _ (by decide), ← List.splitOn_eq_splitOnP,
    ← List.splitOn_eq_splitOnP, List.splitOn_eq_singleton plain, List.map_append,
    List.map_singleton, String.ofList_toList]

theorem Path.name_ofText {text name : String} {before : List String}
    (pieces : Path.pieces text = before ++ [name]) (nonempty : name ≠ "") (notDot : name ≠ ".") :
    (Path.ofText text).name = name := by
  have kept : (!name.isEmpty && name != ".") = true := by
    simp [nonempty, notDot]
  rw [Path.ofText, Path.name, pieces, List.filter_append, List.filter_singleton]
  simp only [kept, cond_true, List.getLastD_concat]

namespace SourceName

theorem name_of_plain {name : String} (plain : Plain name) (nonempty : name ≠ "")
    (notDot : name ≠ ".") : (Path.sourceName name).name = name := by
  obtain ⟨slash, backslash, _⟩ := plain.not_mem
  have alone : Path.pieces (String.ofList (exchange '\\' '/' name.toList)) = [] ++ [name] := by
    rw [exchange_of_not_mem backslash, Path.pieces, String.toList_ofList,
      List.splitOn_eq_singleton slash, List.map_singleton, String.ofList_toList, List.nil_append]
  exact Path.name_ofText alone nonempty notDot

/-- The name of the file that a path leads to. -/
theorem IsPathOf.name {name path : String} (leads : IsPathOf name path) (plain : Plain name)
    (nonempty : name ≠ "") (notDot : name ≠ ".") : (Path.sourceName path).name = name := by
  obtain ⟨directory, mark, separates, _, rfl⟩ := leads
  obtain ⟨slash, backslash, _⟩ := plain.not_mem
  have marked : exchange '\\' '/' [mark] = ['/'] := by
    rcases Bool.or_eq_true_iff.mp separates with same | same
    · rw [beq_iff_eq.mp same]; rfl
    · rw [beq_iff_eq.mp same]; rfl
  have exchanged : exchange '\\' '/' (directory.push mark ++ name).toList =
      exchange '\\' '/' directory.toList ++ '/' :: name.toList := by
    rw [String.toList_append, String.toList_push, exchange, List.map_append, List.map_append,
      ← exchange, ← exchange, marked, List.append_assoc, List.singleton_append]
    exact congrArg _ (congrArg _ (exchange_of_not_mem backslash))
  obtain ⟨before, pieces⟩ := Path.pieces_append (exchange '\\' '/' directory.toList) slash
  rw [Path.sourceName, exchanged]
  exact Path.name_ofText pieces nonempty notDot

end SourceName

theorem languageOfFile_congr {a b : String}
    (same : (Path.sourceName a).name = (Path.sourceName b).name) :
    languageOfFile a = languageOfFile b := by
  rw [languageOfFile, languageOfFile, Path.suffix, Path.suffix, same]

/-! ## Keys -/

open SourceName

/-- What is derived from a path depends on its last component, a name other than a dot without
separators or colons, in a directory of any style that is no network share. The stem and the report
file are those of the name, a report has the name for its file and its folder, and the language is
that of the name. Names that differ in the case of basic letters have the same stem, and the stem of
a name with an extension is the name in lower case. So what is put under the path is found under
every respelling of its name, alone or in any directory. -/
theorem keys_of_last_component {name path : String} (plain : Plain name) (nonempty : name ≠ "")
    (notDot : name ≠ ".") (leads : IsPathOf name path) :
    stem path = stem name ∧
    (∀ folder, Report.pathIn folder path = Report.pathIn folder name) ∧
    (∀ values, (Report.ofValues path values).folderName = name ∧
      (Report.ofValues path values).fileName = name) ∧
    (∀ language, chooseLanguage path language = chooseLanguage name language) ∧
    (∀ other, SameLetters name other → stem other = stem name) ∧
    (∀ base extension, Plain base → Plain extension → (∃ c ∈ base.toList, c ≠ '.') →
      '.' ∉ extension.toList → stem (base ++ "." ++ extension) = lower base) ∧
    ∀ store components other query, Store.Reached store → Respelling name other →
      query = other ∨ IsPathOf other query →
      (store.put path components).find? query = some components := by
  have bases := leads.baseName plain
  have stems : stem path = stem name := by rw [stem, stem, bases]
  have named := leads.name plain nonempty notDot
  refine ⟨stems, fun folder => ?_, fun values => ⟨?_, ?_⟩, fun language => ?_,
    fun other same => (same.stem plain).symm, fun base extension => stem_extended, ?_⟩
  · rw [Report.pathIn, Report.pathIn, bases]
  · rw [Report.ofValues, named]
  · rw [Report.fileName, Report.ofValues, named]
  · cases language with
    | none =>
      rw [chooseLanguage, chooseLanguage, languageOfFile_congr (b := name)]
      rw [named, name_of_plain plain nonempty notDot]
    | some word => rfl
  · intro store components other query reached respelled spelled
    obtain ⟨plain', same⟩ := respelled.stem plain
    have found : stem query = stem other := by
      rcases spelled with rfl | leads'
      · rfl
      · rw [stem, stem, leads'.baseName plain']
    rw [(reached.indexed.put path components).find?_eq_some_iff, reached.indexed.entries_put]
    exact ⟨path, List.mem_append_right _ (List.mem_singleton_self _), by rw [stems, same, found]⟩

/-- A sigma at the end of a word, behind a basic letter whose case differs; the directories mix both
separators, and one of them has a drive. -/
theorem keys_of_sigma :
    IsPathOf "ΔAΣ.PyW" "C:src\\../lib/ΔAΣ.PyW" ∧ IsPathOf "ΔaΣ.java" "\\tmp/ΔaΣ.java" ∧
    stem "C:src\\../lib/ΔAΣ.PyW" = "δaς" ∧
    Report.pathIn ⟨"", ["out"]⟩ "C:src\\../lib/ΔAΣ.PyW" = ⟨"", ["out", "ΔAΣ.json"]⟩ ∧
    chooseLanguage "C:src\\../lib/ΔAΣ.PyW" none = .ok .python ∧
    (Store.empty.put "C:src\\../lib/ΔAΣ.PyW" {}).find? "\\tmp/ΔaΣ.java" = some {} := by
  have plain : Plain "ΔAΣ.PyW" := plain_of_all (by decide +kernel)
  have leads : IsPathOf "ΔAΣ.PyW" "C:src\\../lib/ΔAΣ.PyW" :=
    ⟨"C:src\\../lib", '/', by decide, by decide +kernel, by decide +kernel⟩
  have leads' : IsPathOf "ΔaΣ.java" "\\tmp/ΔaΣ.java" :=
    ⟨"\\tmp", '/', by decide, by decide +kernel, by decide +kernel⟩
  have letters : Respelling "ΔAΣ.PyW" "ΔaΣ.PyW" := .letters (by unfold SameLetters; decide +kernel)
  have extension : Respelling (extended "ΔaΣ" "PyW") (extended "ΔaΣ" "java") :=
    .extension (plain_of_all (by decide +kernel)) (plain_of_all (by decide +kernel))
      (plain_of_all (by decide +kernel)) ⟨'a', by decide +kernel, by decide⟩ (by decide +kernel)
      (by decide +kernel)
  obtain ⟨stems, reports, _, languages, _, _, found⟩ :=
    keys_of_last_component plain (by decide) (by decide) leads
  refine ⟨leads, leads', ?_, ?_, ?_, ?_⟩
  · rw [stems]
    decide +kernel
  · rw [reports]
    decide +kernel
  · have language : languageOfFile "ΔAΣ.PyW" = .python := by decide +kernel
    rw [languages, chooseLanguage, language]
  · exact found .empty {} _ _ .empty (letters.trans extension) (.inr leads')

end DesignGauge
