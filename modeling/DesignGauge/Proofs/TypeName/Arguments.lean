import DesignGauge.Proofs.Text.Pieces
import DesignGauge.Proofs.TypeName.Lexeme
import DesignGauge.Proofs.TypeName.Scanning

/-!
# Types with arguments

A declared type is a class, maybe a member of others or of packages, with arguments at any level of
its name and any number of dimensions.

Whether a type has arguments is decided by its text alone: a word, an opening bracket directly
behind it, and a closing bracket at the end. All declared types of this shape have arguments. Those
that are arrays, that start with a qualifier or end in a member without arguments, whose first name
is no word, or which have a blank in front of the bracket or a line break inside are overlooked.

Results:
1. `isSome_splitGeneric_iff`: the shape that is looked for.
2. `ClassType.lexemes_of_opens`, `DeclaredType.getLast?_lexemes_iff`: the ends of a type.
3. `Spelled.bracketed_iff`: which spelled types have the shape.
4. `Spelled.isGeneric_iff`: a spelled type has arguments if there is a bracket in it.
5. `not_isLibrary_of_less`: no library type has arguments.
-/

namespace DesignGauge.TypeName

open Text

/-! ## The shape of a text -/

/-- Blanks at the ends aside, a word, an opening bracket, some text on one line and a closing
bracket. -/
def Bracketed (text : List Char) : Prop :=
  ∃ container element : List Char, container ≠ [] ∧ (∀ c ∈ container, Text.isWord c = true) ∧
    element ≠ [] ∧ '\n' ∉ element ∧ strip text = container ++ '<' :: (element ++ ['>'])

theorem isSome_splitGeneric_iff {type : String} :
    (splitGeneric type).isSome = true ↔ Bracketed type.toList := by
  unfold splitGeneric Bracketed
  generalize strip type.toList = text
  constructor
  · intro found
    simp only at found
    split at found
    · next rest split =>
      split at found
      · cases found
      · next complete =>
        simp only [Bool.or_eq_true, List.isEmpty_iff, bne_iff_ne, List.contains_iff_mem, not_or,
          ne_eq, not_not] at complete
        obtain ⟨⟨⟨container, element⟩, closed⟩, oneLine⟩ := complete
        have ends : rest.dropLast ++ ['>'] = rest := List.dropLast_append_getLast? _ closed
        refine ⟨_, _, container, fun c member => List.mem_takeWhile_imp member, element, oneLine,
          ?_⟩
        rw [ends, ← split, List.takeWhile_append_dropWhile]
    · cases found
  · rintro ⟨container, element, nonempty, word, inside, oneLine, rfl⟩
    have bracket : ¬ Text.isWord '<' = true := by decide
    have front : (container ++ '<' :: (element ++ ['>'])).takeWhile Text.isWord = container := by
      rw [List.takeWhile_append_of_pos word, List.takeWhile_cons_of_neg bracket, List.append_nil]
    have back : (container ++ '<' :: (element ++ ['>'])).dropWhile Text.isWord =
        '<' :: (element ++ ['>']) := by
      rw [List.dropWhile_append_of_pos word, List.dropWhile_cons_of_neg bracket]
    simp [front, back, nonempty, inside, oneLine]

/-! ## Plain names -/

/-- The characters of signs. -/
def signChars : List Char := ['<', '>', ',', '?', '[', ']', '.']

/-- A character of a name: no blank and no sign. -/
def isPlain (c : Char) : Bool := !isBlank c && !signChars.contains c

/-- A name: some characters that are neither blanks nor signs. -/
structure PlainName where
  chars : List Char
  nonempty : chars ≠ [] := by decide
  plain : chars.all isPlain = true := by decide

/-- Every sign can stand between plain names. -/
instance : NameKind PlainName where
  chars := PlainName.chars
  isPart := isPlain
  chars_ne_nil := PlainName.nonempty
  isPart_of_mem := fun {n c} member => List.all_eq_true.mp n.plain c member
  solid := fun plain => by simpa using (Bool.and_eq_true_iff.mp plain).1

theorem Sign.not_isPlain (s : Sign) : isPlain s.char = false := by
  cases s <;> decide

theorem isPlain_of_isWord {c : Char} (word : Text.isWord c = true) : isPlain c = true := by
  have solid : isBlank c = false := by
    rw [← Bool.not_eq_true]
    intro blank
    rw [isWord_of_isBlank blank] at word
    cases word
  have unsigned : c ∉ signChars := by
    intro sign
    have noWord : signChars.all (!Text.isWord ·) = true := by decide
    have apart := List.all_eq_true.mp noWord c sign
    rw [word] at apart
    cases apart
  simp [isPlain, solid, unsigned]

/-- The lexeme is a name. -/
def Lexeme.isName : Lexeme PlainName → Bool
  | .name _ => true
  | .sign _ => false

/-- Without blanks, where no two names stand next to each other. -/
theorem Spelled.of_isChain {lexemes : List (Lexeme PlainName)}
    (apart : lexemes.IsChain fun l l' => (l.isName && l'.isName) = false) :
    Spelled lexemes (lexemes.flatMap Lexeme.chars) := by
  have fits (s : Sign) (text : List Char) :
      (Lexeme.sign s : Lexeme PlainName).fitsBefore text = true :=
    (Bool.not_eq_true' _).mpr s.not_isPlain
  induction lexemes with
  | nil => exact .blank gap_nil
  | cons first rest ih =>
    cases rest with
    | nil =>
      refine .lexeme gap_nil ?_ (.blank gap_nil)
      cases first with
      | name n => rfl
      | sign s => exact fits s []
    | cons next rest =>
      obtain ⟨differ, apart⟩ := List.isChain_cons_cons.mp apart
      refine .lexeme gap_nil ?_ (ih apart)
      cases first with
      | sign s => exact fits s _
      | name n =>
        cases next with
        | name _ => cases differ
        | sign s => exact fits s []

/-! ## Declared types -/

/-- The side on which a wildcard is bounded. -/
inductive Bound where
  | upper
  | lower
  deriving DecidableEq, Repr

/-- The word in front of a bound. -/
def Bound.word : Bound → PlainName
  | .upper => { chars := ['e', 'x', 't', 'e', 'n', 'd', 's'] }
  | .lower => { chars := ['s', 'u', 'p', 'e', 'r'] }

mutual

/-- A class, maybe a member of another class or of a package. -/
inductive ClassType where
  | outermost (name : PlainName) (arguments : List Argument)
  | member (outer : ClassType) (name : PlainName) (arguments : List Argument)

/-- An argument: a wildcard, a type or a wildcard bounded by a type. -/
inductive Argument where
  | wildcard
  | type (bound : Option Bound) (base : ClassType) (dimensions : Nat)

end

/-- A class or an array of some dimensions. -/
structure DeclaredType where
  base : ClassType
  dimensions : Nat := 0

/-- The lexemes of some dimensions. -/
def dimensionLexemes : Nat → List (Lexeme PlainName)
  | 0 => []
  | n + 1 => dimensionLexemes n ++ [.sign .left, .sign .right]

/-- The lexemes in front of a bound. -/
def boundLexemes : Option Bound → List (Lexeme PlainName)
  | none => []
  | some bound => [.sign .query, .name bound.word]

mutual

/-- The lexemes of a class. -/
def ClassType.lexemes : ClassType → List (Lexeme PlainName)
  | .outermost name arguments => .name name :: argumentLexemes arguments
  | .member outer name arguments =>
    outer.lexemes ++ .sign .point :: .name name :: argumentLexemes arguments

/-- The lexemes of an argument list; none if there are no arguments. -/
def argumentLexemes : List Argument → List (Lexeme PlainName)
  | [] => []
  | first :: others => .sign .less :: (first.lexemes ++ furtherLexemes others)

/-- The lexemes of an argument list behind its first argument. -/
def furtherLexemes : List Argument → List (Lexeme PlainName)
  | [] => [.sign .greater]
  | next :: others => .sign .comma :: (next.lexemes ++ furtherLexemes others)

/-- The lexemes of an argument. -/
def Argument.lexemes : Argument → List (Lexeme PlainName)
  | .wildcard => [.sign .query]
  | .type bound base dimensions =>
    boundLexemes bound ++ (base.lexemes ++ dimensionLexemes dimensions)

end

/-- The lexemes of a declared type. -/
def DeclaredType.lexemes (e : DeclaredType) : List (Lexeme PlainName) :=
  e.base.lexemes ++ dimensionLexemes e.dimensions

namespace ClassType

/-- The first name of a class. -/
def root : ClassType → PlainName
  | .outermost name _ => name
  | .member outer _ _ => outer.root

/-- The first name has arguments. -/
def opens : ClassType → Bool
  | .outermost _ arguments => !arguments.isEmpty
  | .member outer _ _ => outer.opens

/-- The last name has arguments. -/
def closes : ClassType → Bool
  | .outermost _ arguments => !arguments.isEmpty
  | .member _ _ arguments => !arguments.isEmpty

/-- Some name has arguments. -/
def isGeneric : ClassType → Bool
  | .outermost _ arguments => !arguments.isEmpty
  | .member outer _ arguments => outer.isGeneric || !arguments.isEmpty

end ClassType

/-! ## First and last lexemes -/

theorem ClassType.exists_lexemes : (t : ClassType) → ∃ rest, t.lexemes = .name t.root :: rest
  | .outermost _ _ => ⟨_, rfl⟩
  | .member outer _ _ => by
    obtain ⟨rest, split⟩ := outer.exists_lexemes
    exact ⟨_, congrArg (· ++ _) split⟩

/-- An argument does not start with a closing bracket. -/
theorem Argument.exists_lexemes (a : Argument) :
    ∃ first rest, a.lexemes = first :: rest ∧ first ≠ .sign .greater := by
  cases a with
  | wildcard => exact ⟨_, _, rfl, by simp⟩
  | type bound base dimensions =>
    cases bound with
    | some bound => exact ⟨_, _, rfl, by simp⟩
    | none =>
      obtain ⟨rest, split⟩ := base.exists_lexemes
      exact ⟨_, _, congrArg (· ++ _) split, by simp⟩

theorem head?_append_ne {rest more : List (Lexeme PlainName)} {l : Lexeme PlainName}
    (front : rest.head? ≠ some l) (back : more.head? ≠ some l) : (rest ++ more).head? ≠ some l := by
  cases rest with
  | nil => exact back
  | cons first rest => exact front

namespace ClassType

/-- Behind a first name with arguments stands a bracket, and behind that no closing bracket. -/
theorem lexemes_of_opens : (t : ClassType) → t.opens = true →
    ∃ first rest, t.lexemes = .name t.root :: .sign .less :: first :: rest ∧
      first ≠ .sign .greater
  | .outermost name [], opens => by cases opens
  | .outermost name (argument :: others), _ => by
    obtain ⟨first, rest, split, other⟩ := argument.exists_lexemes
    refine ⟨first, rest ++ furtherLexemes others, ?_, other⟩
    rw [lexemes, argumentLexemes, split]
    rfl
  | .member outer _ _, opens => by
    obtain ⟨first, rest, split, other⟩ := outer.lexemes_of_opens opens
    exact ⟨first, _, congrArg (· ++ _) split, other⟩

theorem lexemes_of_not_opens : (t : ClassType) → t.opens = false →
    ∃ rest, t.lexemes = .name t.root :: rest ∧ rest.head? ≠ some (.sign .less)
  | .outermost name [], _ => ⟨_, rfl, by simp [argumentLexemes]⟩
  | .outermost name (_ :: _), opens => by cases opens
  | .member outer _ _, opens => by
    obtain ⟨rest, split, other⟩ := outer.lexemes_of_not_opens opens
    exact ⟨_, congrArg (· ++ _) split, head?_append_ne other (by simp)⟩

/-- The types with an opening bracket are those with arguments. -/
theorem less_mem_lexemes_iff : (t : ClassType) → (.sign .less ∈ t.lexemes ↔ t.isGeneric = true)
  | .outermost _ [] => by simp [lexemes, argumentLexemes, isGeneric]
  | .outermost _ (_ :: _) => by simp [lexemes, argumentLexemes, isGeneric]
  | .member outer _ arguments => by
    rw [lexemes, List.mem_append, outer.less_mem_lexemes_iff, isGeneric, Bool.or_eq_true]
    cases arguments with
    | nil => simp [argumentLexemes]
    | cons _ _ => simp [argumentLexemes]

end ClassType

theorem getLast?_furtherLexemes (arguments : List Argument) :
    (furtherLexemes arguments).getLast? = some (.sign .greater) := by
  induction arguments with
  | nil => rfl
  | cons next others ih =>
    rw [furtherLexemes, List.getLast?_cons, List.getLast?_append, ih]
    rfl

theorem getLast?_arguments (name : PlainName) (arguments : List Argument) :
    (.name name :: argumentLexemes arguments).getLast? =
      some (if arguments.isEmpty then .name name else .sign .greater) := by
  cases arguments with
  | nil => rfl
  | cons argument others =>
    rw [argumentLexemes, List.getLast?_cons, List.getLast?_cons, List.getLast?_append,
      getLast?_furtherLexemes]
    rfl

theorem ClassType.getLast?_lexemes (t : ClassType) :
    ∃ name, t.lexemes.getLast? = some (if t.closes then .sign .greater else .name name) := by
  cases t with
  | outermost name arguments =>
    refine ⟨name, (getLast?_arguments name arguments).trans ?_⟩
    cases arguments with
    | nil => rfl
    | cons argument others => rfl
  | member outer name arguments =>
    refine ⟨name, ?_⟩
    rw [lexemes, List.getLast?_append, List.getLast?_cons, getLast?_arguments]
    cases arguments with
    | nil => rfl
    | cons argument others => rfl

theorem head?_dimensionLexemes (n : Nat) : (dimensionLexemes n).head? ≠ some (.sign .less) := by
  induction n with
  | zero => simp [dimensionLexemes]
  | succ n ih => exact head?_append_ne ih (by simp)

namespace DeclaredType

theorem lexemes_of_opens {e : DeclaredType} (opens : e.base.opens = true) :
    ∃ first rest, e.lexemes = .name e.base.root :: .sign .less :: first :: rest ∧
      first ≠ .sign .greater := by
  obtain ⟨first, rest, split, other⟩ := e.base.lexemes_of_opens opens
  exact ⟨first, _, congrArg (· ++ _) split, other⟩

theorem lexemes_of_not_opens {e : DeclaredType} (opens : e.base.opens = false) :
    ∃ rest, e.lexemes = .name e.base.root :: rest ∧ rest.head? ≠ some (.sign .less) := by
  obtain ⟨rest, split, other⟩ := e.base.lexemes_of_not_opens opens
  exact ⟨_, congrArg (· ++ _) split, head?_append_ne other (head?_dimensionLexemes _)⟩

theorem less_mem_lexemes_iff (e : DeclaredType) :
    .sign .less ∈ e.lexemes ↔ e.base.isGeneric = true := by
  have absent (n : Nat) : .sign .less ∉ dimensionLexemes n := by
    induction n with
    | zero => simp [dimensionLexemes]
    | succ n ih => simp [dimensionLexemes, ih]
  rw [lexemes, List.mem_append, or_iff_left (absent _), e.base.less_mem_lexemes_iff]

/-- A closing bracket at the end is that of the last name. -/
theorem getLast?_lexemes_iff (e : DeclaredType) :
    e.lexemes.getLast? = some (.sign .greater) ↔ e.dimensions = 0 ∧ e.base.closes = true := by
  obtain ⟨name, last⟩ := e.base.getLast?_lexemes
  unfold lexemes
  cases e.dimensions with
  | zero =>
    rw [dimensionLexemes, List.append_nil, last]
    cases e.base.closes with
    | true => simp
    | false => simp
  | succ n => simp [dimensionLexemes, List.getLast?_append]

end DeclaredType

/-! ## Spelled types of the shape -/

/-- A type as it is spelled is recognized: it is no array, its first and its last name have
arguments, the first name is a word with a bracket directly behind it, and all is on one line. -/
structure Recognizable (e : DeclaredType) (text : List Char) : Prop where
  flat : e.dimensions = 0
  opens : e.base.opens = true
  closes : e.base.closes = true
  word : ∀ c ∈ e.base.root.chars, Text.isWord c = true
  joined : e.base.root.chars ++ ['<'] <+: strip text
  oneLine : '\n' ∉ strip text

namespace Spelled

variable {text : List Char}

/-- A type spelled with a bracket directly behind its first name, a word, has arguments there. -/
theorem opens_of_container {e : DeclaredType} {container : List Char}
    (spelled : Spelled e.lexemes (container ++ '<' :: text)) (nonempty : container ≠ [])
    (word : ∀ c ∈ container, Text.isWord c = true) :
    e.base.root.chars = container ∧ e.base.opens = true := by
  have plain : ∀ c ∈ container, isPlain c = true :=
    fun c member => isPlain_of_isWord (word c member)
  cases opens : e.base.opens with
  | true =>
    obtain ⟨_, _, starts, _⟩ := e.lexemes_of_opens opens
    rw [starts] at spelled
    exact ⟨(spelled.name_inv nonempty plain (Sign.not_isPlain .less)).1, rfl⟩
  | false =>
    obtain ⟨rest, starts, other⟩ := e.lexemes_of_not_opens opens
    rw [starts] at spelled
    obtain ⟨_, behind⟩ := spelled.name_inv nonempty plain (Sign.not_isPlain .less)
    obtain ⟨_, bracket, _⟩ := sign_inv (s := .less) (Sign.not_isPlain .less) behind
    rw [bracket] at other
    exact absurd rfl other

/-- Brackets that are not empty stand behind a first name with arguments. -/
theorem exists_element {e : DeclaredType} (opens : e.base.opens = true)
    (spelled : Spelled e.lexemes (e.base.root.chars ++ '<' :: text))
    (closed : '>' ∈ (e.base.root.chars ++ '<' :: text).getLast?) :
    ∃ element, element ≠ [] ∧ text = element ++ ['>'] := by
  obtain ⟨first, rest, starts, other⟩ := e.lexemes_of_opens opens
  rw [starts] at spelled
  obtain ⟨_, behind⟩ := spelled.name_inv e.base.root.nonempty
    (fun _ member => NameKind.isPart_of_mem member) (Sign.not_isPlain .less)
  obtain ⟨_, bracket, inside⟩ := sign_inv (s := .less) (Sign.not_isPlain .less) behind
  obtain ⟨_, rfl⟩ := List.cons.inj bracket
  have ends : '>' ∈ text.getLast? := by
    rwa [← List.singleton_append, ← List.append_assoc,
      List.getLast?_append_of_ne_nil _ inside.ne_nil] at closed
  have split := List.dropLast_append_getLast? _ ends
  refine ⟨text.dropLast, fun empty => ?_, split.symm⟩
  -- the first argument would start with the closing bracket
  rw [← split, empty, List.nil_append] at inside
  obtain ⟨_, bracket, _⟩ := sign_inv (s := .greater) (Sign.not_isPlain .greater) inside
  exact other (List.cons.inj bracket).1

/-- The spelled types of the shape are those that are recognized. -/
theorem bracketed_iff {e : DeclaredType} (spelled : Spelled e.lexemes text) :
    Bracketed text ↔ Recognizable e text := by
  have stripped := spelled.strip
  constructor
  · rintro ⟨container, element, isWord, word, _, oneLine, shape⟩
    rw [shape] at stripped
    obtain ⟨root, opens⟩ := stripped.opens_of_container isWord word
    obtain ⟨_, _, starts, _⟩ := e.lexemes_of_opens opens
    -- the closing bracket belongs to the last lexeme
    obtain ⟨last, isLast⟩ : ∃ last, last ∈ e.lexemes.getLast? := by
      rw [starts]
      exact ⟨_, rfl⟩
    have closed := stripped.getLast?_chars isLast (c := '>')
      (by simp [List.getLast?_append, List.getLast?_cons]) (by decide)
    rw [Lexeme.eq_sign_of_mem (s := .greater) (Sign.not_isPlain .greater)
      (List.mem_of_getLast? closed)] at isLast
    obtain ⟨flat, closes⟩ := e.getLast?_lexemes_iff.mp isLast
    refine ⟨flat, opens, closes, root ▸ word, ?_, ?_⟩
    · rw [root, shape]
      exact ⟨element ++ ['>'], by simp⟩
    · rw [shape]
      have noWord : '\n' ∉ container := fun member => absurd (word _ member) (by decide)
      simp [noWord, oneLine]
  · rintro ⟨flat, opens, closes, word, ⟨rest, joined⟩, oneLine⟩
    rw [List.append_assoc, List.singleton_append] at joined
    have nonempty : Text.strip text ≠ [] := by simp [← joined]
    have ends := List.getLast?_eq_some_getLast nonempty
    generalize (Text.strip text).getLast nonempty = c at ends
    have closed := stripped.getLast?_chars (e.getLast?_lexemes_iff.mpr ⟨flat, closes⟩) ends
      (not_isBlank_of_getLast?_strip ends)
    obtain rfl : '>' = c := Option.some.inj closed
    rw [← joined] at stripped ends
    obtain ⟨element, inside, rfl⟩ := exists_element opens stripped ends
    refine ⟨e.base.root.chars, element, e.base.root.nonempty, word, inside,
      fun broken => oneLine ?_, joined.symm⟩
    rw [← joined]
    simp [broken]

/-- A spelled type has arguments exactly if there is a bracket in it. -/
theorem isGeneric_iff {e : DeclaredType} (spelled : Spelled e.lexemes text) :
    e.base.isGeneric = true ↔ '<' ∈ text := by
  have present := spelled.mem_iff (c := '<') (Sign.not_isBlank .less)
  rw [present, ← e.less_mem_lexemes_iff]
  constructor
  · intro member
    exact ⟨_, member, List.mem_singleton_self _⟩
  · rintro ⟨l, member, inside⟩
    rwa [Lexeme.eq_sign_of_mem (s := .less) (Sign.not_isPlain .less) inside] at member

end Spelled

/-- A text writes a declared type. -/
def IsType (type : String) : Prop := ∃ e : DeclaredType, Spelled e.lexemes type.toList

/-- A text writes a type with arguments. -/
def IsGeneric (type : String) : Prop :=
  ∃ e : DeclaredType, e.base.isGeneric = true ∧ Spelled e.lexemes type.toList

/-! ## Library types -/

/-- A basic character without case stays in lower case. -/
theorem less_mem_lowerChars {text : List Char} (member : '<' ∈ text) : '<' ∈ lowerChars text := by
  have after (before : List Char) : '<' ∈ lowerAfter before text := by
    induction text generalizing before with
    | nil => cases member
    | cons c rest ih =>
      rw [lowerAfter]
      rcases List.mem_cons.mp member with rfl | later
      · exact List.mem_append_left _ (List.mem_singleton_self '<')
      · exact List.mem_append_right _ (ih later _)
  unfold lowerChars
  split
  · exact List.mem_map.mpr ⟨'<', member, by decide⟩
  · exact after []

/-- No type of the library has a bracket. -/
theorem not_isLibrary_of_less {type : String} (member : '<' ∈ type.toList) :
    isLibrary type = false := by
  have listed : libraryTypes.all (!·.toList.contains '<') = true := by
    rw [libraryTypes, List.all_map]
    simp only [Function.comp_def, lower, String.toList_ofList]
    decide +kernel
  rw [← Bool.not_eq_true]
  intro library
  rw [isLibrary, List.contains_iff_mem] at library
  have absent := List.all_eq_true.mp listed _ library
  have present := less_mem_lowerChars (mem_strip member (Sign.not_isBlank .less))
  simp [lower, present] at absent

theorem Bracketed.less_mem {text : List Char} (bracketed : Bracketed text) : '<' ∈ text := by
  obtain ⟨container, element, _, _, _, _, shape⟩ := bracketed
  have kept := strip_infix text
  rw [shape] at kept
  exact kept.subset (by simp)

theorem isGeneric_iff_isType {type : String} :
    IsGeneric type ↔ IsType type ∧ '<' ∈ type.toList := by
  constructor
  · rintro ⟨e, isGeneric, spelled⟩
    exact ⟨⟨e, spelled⟩, spelled.isGeneric_iff.mp isGeneric⟩
  · rintro ⟨⟨e, spelled⟩, member⟩
    exact ⟨e, spelled.isGeneric_iff.mpr member, spelled⟩

end DesignGauge.TypeName
