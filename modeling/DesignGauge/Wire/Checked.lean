import DesignGauge.Datum.Basic
import DesignGauge.Number.Reading

/-!
# Checked values

Reading a record from a data value reports every part that does not fit, with the place of the
part and the kind of misfit. `Checked` is the result of such a reading. Its `seq` collects the
issues of both sides, in order; a value that cannot be looked up as a key ends the reading.

What is read comes from JSON texts, or is put together like what does. So octets and sets, which no
JSON text holds, are taken neither for texts nor for lists.
-/

namespace DesignGauge.Wire

/-- One step from a value to a part of it. -/
inductive Step where
  | member (name : String)
  | item (index : Nat)
  deriving DecidableEq, Repr

/-- How a part can fail to fit. -/
inductive Misfit where
  | missing
  | textType
  | flagType
  | flagText
  | wholeType
  | wholeText
  | wholeFraction
  | wholeSize
  | notFinite
  | numberType
  | numberText
  | listType
  | recordType
  | notAChoice
  deriving DecidableEq, Repr

/-- The word that reports give a misfit. -/
def Misfit.word : Misfit → String
  | .missing => "missing"
  | .textType => "string_type"
  | .flagType => "bool_type"
  | .flagText => "bool_parsing"
  | .wholeType => "int_type"
  | .wholeText => "int_parsing"
  | .wholeFraction => "int_from_float"
  | .wholeSize => "int_parsing_size"
  | .notFinite => "finite_number"
  | .numberType => "float_type"
  | .numberText => "float_parsing"
  | .listType => "list_type"
  | .recordType => "model_type"
  | .notAChoice => "enum"

/-- A part that does not fit. -/
structure Issue where
  place : List Step
  misfit : Misfit
  deriving DecidableEq, Repr

/-- The result of a reading. -/
inductive Checked (α : Type) where
  /-- The value fits. -/
  | fits (value : α)
  /-- Some parts do not fit. -/
  | issues (all : List Issue)
  /-- A value of this kind was looked up as a key. -/
  | unkeyable (kind : String)
  deriving Repr

namespace Checked

/-- Applies a function to a value that fits. -/
def map {α β : Type} (f : α → β) : Checked α → Checked β
  | .fits a => .fits (f a)
  | .issues is => .issues is
  | .unkeyable kind => .unkeyable kind

/-- Reads both sides and keeps the issues of both. -/
def seq {α β : Type} (f : Checked (α → β)) (x : Unit → Checked α) : Checked β :=
  match f with
  | .fits f => map f (x ())
  | .issues is => match x () with
    | .fits _ => .issues is
    | .issues more => .issues (is ++ more)
    | .unkeyable kind => .unkeyable kind
  | .unkeyable kind => .unkeyable kind

instance : Applicative Checked where
  pure := .fits
  map := map
  seq := seq

/-- A single misfit at the value itself. -/
def misfit {α : Type} (m : Misfit) : Checked α :=
  .issues [⟨[], m⟩]

/-- Puts a step in front of every place. -/
def under {α : Type} (step : Step) : Checked α → Checked α
  | .issues is => .issues (is.map fun i => { i with place := step :: i.place })
  | other => other

end Checked

/-! ## Single values -/

/-- A text. -/
def text : Datum → Checked String
  | .text s => .fits s
  | _ => .misfit .textType

/-- The words that stand for a truth value, in lower case. -/
def flagWords : List (String × Bool) :=
  [("0", false), ("off", false), ("f", false), ("false", false), ("n", false), ("no", false),
    ("1", true), ("on", true), ("t", true), ("true", true), ("y", true), ("yes", true)]

/-- The truth value of a whole number. -/
def flagOfInt (i : Int) : Checked Bool :=
  if i == 0 then .fits false else if i == 1 then .fits true else .misfit .flagText

/-- A truth value: a flag, one of its words in any letter case, or the number 0 or 1. -/
def flag : Datum → Checked Bool
  | .bool b => .fits b
  | .text s =>
    match flagWords.lookup (String.ofList (s.toList.map Char.toLower)) with
    | some b => .fits b
    | none => .misfit .flagText
  | .int i =>
    if -signedBound ≤ i && i < signedBound then flagOfInt i else .misfit .flagType
  | .float x =>
    match x.toInt? with
    | some i => if -signedBound < i && i < signedBound then flagOfInt i else .misfit .flagType
    | none => .misfit .flagType
  | _ => .misfit .flagType

/-- A whole number: an integer, a truth value, a double without a fraction, or a text. -/
def whole : Datum → Checked Int
  | .int i => .fits i
  | .bool b => .fits (if b then 1 else 0)
  | .float x =>
    if !x.isFinite then .misfit .notFinite
    else match x.toInt? with
      | none => .misfit .wholeFraction
      | some i => if -signedBound < i && i < signedBound then .fits i else .misfit .wholeSize
  | .text s =>
    match Reading.wireInt s with
    | .ok i => .fits i
    | .error .malformed => .misfit .wholeText
    | .error .tooLong => .misfit .wholeSize
  | _ => .misfit .wholeType

/-- A double: a number or a text. -/
def double : Datum → Checked Double
  | .float x => .fits x
  | .text s =>
    match Reading.wireDouble? s with
    | some x => .fits x
    | none => .misfit .numberText
  | value => match value.number? with
    | some (.int i) => match Double.ofInt? i with
      | some x => .fits x
      | none => .misfit .numberType
    | _ => .misfit .numberType

/-- A number that keeps its kind. What is no number is read as a whole number, then as a double,
and the issues of both readings are kept. -/
def number (value : Datum) : Checked Number :=
  match value with
  | .int i => .fits (.int i)
  | .float x => .fits (.float x)
  | other =>
    match whole other with
    | .fits i => .fits (.int i)
    | .unkeyable kind => .unkeyable kind
    | .issues is => match double other with
      | .fits x => .fits (.float x)
      | .unkeyable kind => .unkeyable kind
      | .issues more =>
        .issues (is.map (fun i => { i with place := i.place ++ [.member "int"] })
          ++ more.map fun i => { i with place := i.place ++ [.member "float"] })

/-! ## Parts -/

/-- Reads the items of a list from an index on. -/
def itemsFrom {α : Type} (read : Datum → Checked α) (index : Nat) :
    List Datum → Checked (List α)
  | [] => .fits []
  | x :: rest => List.cons <$> (read x).under (.item index) <*> itemsFrom read (index + 1) rest

/-- A list of values that all fit. -/
def list {α : Type} (read : Datum → Checked α) : Datum → Checked (List α)
  | .list xs => itemsFrom read 0 xs
  | .tuple xs => itemsFrom read 0 xs
  | _ => .misfit .listType

/-- A list in which null stands for no items. -/
def listOrNull {α : Type} (read : Datum → Checked α) : Datum → Checked (List α)
  | .null => .fits []
  | value => list read value

/-- A text in which null stands for the empty one. -/
def textOrNull : Datum → Checked String
  | .null => .fits ""
  | value => text value

/-- A value that may be null. -/
def nullable {α : Type} (read : Datum → Checked α) : Datum → Checked (Option α)
  | .null => .fits none
  | value => some <$> read value

/-- The entries of a mapping, read as a record. -/
def record {α : Type} (read : List (Datum × Datum) → Checked α) : Datum → Checked α
  | .map entries => read entries
  | _ => .misfit .recordType

/-- The first of some spellings that a mapping has, with its value. -/
def spelled? (entries : List (Datum × Datum)) : List String → Option (String × Datum)
  | [] => none
  | name :: rest => match Datum.lookup? name entries with
    | some value => some (name, value)
    | none => spelled? entries rest

/-- A part of a record under the first of its spellings, with a default. -/
def member {α : Type} (entries : List (Datum × Datum)) (spellings : List String) (absent : α)
    (read : Datum → Checked α) : Checked α :=
  match spelled? entries spellings with
  | some (name, value) => (read value).under (.member name)
  | none => .fits absent

/-- A part that a record must have; its absence is reported under the first spelling. -/
def required {α : Type} (entries : List (Datum × Datum)) (spellings : List String)
    (read : Datum → Checked α) : Checked α :=
  match spelled? entries spellings with
  | some (name, value) => (read value).under (.member name)
  | none => .issues [⟨[.member (spellings.headD "")], .missing⟩]

end DesignGauge.Wire
