import DesignGauge.Fault

/-!
# Thresholds

The numbers that metrics are compared with, in two sections: those of the smells and those of the
highlights. A configuration is read from a mapping of sections; what a section does not give keeps
its default.
-/

namespace DesignGauge

/-- A decimal fraction with two places as a double. -/
def hundredth (n : Nat) : Number := .float (Double.ofDecimal false n (-2))

/-- The thresholds of the smells. -/
structure SmellThresholds where
  brainLoc : Number := .int 50
  brainWmc : Number := .int 15
  godWmc : Number := .int 47
  godTcc : Number := hundredth 33
  godAtfd : Number := .int 5
  dataWoc : Number := hundredth 33
  dataPublicLow : Number := .int 2
  dataWmcLow : Number := .int 31
  dataPublicHigh : Number := .int 4
  dataWmcHigh : Number := .int 47
  splitNom : Number := .int 7
  splitTcc : Number := hundredth 33
  splitWoc : Number := hundredth 50
  deriving DecidableEq, Repr

/-- The thresholds of the highlights. -/
structure HighlightThresholds where
  godWmc : Number := .int 19
  brainLoc : Number := .int 50
  brainWmc : Number := .int 15
  deriving DecidableEq, Repr

/-- A threshold configuration. -/
structure Thresholds where
  smells : SmellThresholds := {}
  highlight : HighlightThresholds := {}
  deriving DecidableEq, Repr

/-- The thresholds of the smells by key, in order. -/
def SmellThresholds.fields (t : SmellThresholds) : List (String × Number) := [
  ("brain_class_loc", t.brainLoc),
  ("brain_class_wmc", t.brainWmc),
  ("god_class_wmc", t.godWmc),
  ("god_class_tcc", t.godTcc),
  ("god_class_atfd", t.godAtfd),
  ("data_class_woc", t.dataWoc),
  ("data_class_public_low", t.dataPublicLow),
  ("data_class_wmc_low", t.dataWmcLow),
  ("data_class_public_high", t.dataPublicHigh),
  ("data_class_wmc_high", t.dataWmcHigh),
  ("schizophrenic_nom", t.splitNom),
  ("schizophrenic_tcc", t.splitTcc),
  ("schizophrenic_woc", t.splitWoc)]

/-- The thresholds of the highlights by key, in order. -/
def HighlightThresholds.fields (t : HighlightThresholds) : List (String × Number) := [
  ("god_class_wmc", t.godWmc),
  ("brain_class_loc", t.brainLoc),
  ("brain_class_wmc", t.brainWmc)]

/-- The number under a key, or a default. -/
def numberAt (entries : List (Datum × Datum)) (key : String) (absent : Number) : Number :=
  ((Datum.lookup? key entries).bind Datum.number?).getD absent

/-- The thresholds of the smells that a section gives. -/
def SmellThresholds.ofEntries (es : List (Datum × Datum)) : SmellThresholds :=
  let d : SmellThresholds := {}
  { brainLoc := numberAt es "brain_class_loc" d.brainLoc
    brainWmc := numberAt es "brain_class_wmc" d.brainWmc
    godWmc := numberAt es "god_class_wmc" d.godWmc
    godTcc := numberAt es "god_class_tcc" d.godTcc
    godAtfd := numberAt es "god_class_atfd" d.godAtfd
    dataWoc := numberAt es "data_class_woc" d.dataWoc
    dataPublicLow := numberAt es "data_class_public_low" d.dataPublicLow
    dataWmcLow := numberAt es "data_class_wmc_low" d.dataWmcLow
    dataPublicHigh := numberAt es "data_class_public_high" d.dataPublicHigh
    dataWmcHigh := numberAt es "data_class_wmc_high" d.dataWmcHigh
    splitNom := numberAt es "schizophrenic_nom" d.splitNom
    splitTcc := numberAt es "schizophrenic_tcc" d.splitTcc
    splitWoc := numberAt es "schizophrenic_woc" d.splitWoc }

/-- The thresholds of the highlights that a section gives. -/
def HighlightThresholds.ofEntries (es : List (Datum × Datum)) : HighlightThresholds :=
  let d : HighlightThresholds := {}
  { godWmc := numberAt es "god_class_wmc" d.godWmc
    brainLoc := numberAt es "brain_class_loc" d.brainLoc
    brainWmc := numberAt es "brain_class_wmc" d.brainWmc }

namespace Thresholds

/-- A value that is a number and no truth value. -/
def isNumeric : Datum → Bool
  | .int _ | .float _ => true
  | _ => false

/-- The section of a name; a section that counts as absent is empty. -/
def sectionOf (entries : List (Datum × Datum)) (name : String) : Datum :=
  match Datum.lookup? name entries with
  | some value => if value.isVoid then .map [] else value
  | none => .map []

/-- Refuses a value that is no number. The refusal shows the key and the value, so that both must
be fit to be written. -/
def refuseValue (part : String) (key value : Datum) : Fault :=
  if key.isWritable && value.isWritable then .config (.thresholdNotNumber part key value)
  else .tooManyDigits

/-- The first value of a section that is no number. -/
def checkNumbers (part : String) : List (Datum × Datum) → Except Fault Unit
  | [] => .ok ()
  | (key, value) :: rest =>
    if isNumeric value then checkNumbers part rest
    else .error (refuseValue part key value)

/-- The entries of a section whose values are all numbers. -/
def checkSection (part : String) : Datum → Except Fault (List (Datum × Datum))
  | .map entries => do
    checkNumbers part entries
    return entries
  | _ => .error (.config (.sectionNotMapping part))

/-- Why a key is no threshold of a section. -/
def nameFault (title : String) : String → String
  | "self" => title ++ ".__init__() got multiple values for argument 'self'"
  | key => title ++ ".__init__() got an unexpected keyword argument '" ++ key ++ "'"

/-- The first key of a section that is no threshold of it. -/
def checkKnown (title : String) (known : List String) :
    List (Datum × Datum) → Except Fault Unit
  | [] => .ok ()
  | (.text key, _) :: rest =>
    if known.contains key then checkKnown title known rest
    else .error (.config (.thresholdNames (nameFault title key)))
  | _ :: rest => checkKnown title known rest

/-- Every key of a section is the name of one of its thresholds. -/
def checkNames (title : String) (known : List String) (entries : List (Datum × Datum)) :
    Except Fault Unit :=
  if entries.all fun entry => match entry.1 with | .text _ => true | _ => false then
    checkKnown title known entries
  else .error (.config (.thresholdNames "keywords must be strings"))

/-- Reads a configuration. -/
def ofDatum : Datum → Except Fault Thresholds
  | .map entries => do
    let smells ← checkSection "smells" (sectionOf entries "smells")
    let highlight ← checkSection "highlight" (sectionOf entries "highlight")
    checkNames "SmellThresholds" (({} : SmellThresholds).fields.map Prod.fst) smells
    checkNames "HighlightThresholds" (({} : HighlightThresholds).fields.map Prod.fst) highlight
    return ⟨.ofEntries smells, .ofEntries highlight⟩
  | _ => .error (.config .thresholdsNotMapping)

/-- A section as a data value. -/
def sectionDatum (fields : List (String × Number)) : Datum :=
  .ofFields (fields.map fun field => (field.1, .ofNumber field.2))

/-- A configuration as a data value. -/
def toDatum (t : Thresholds) : Datum :=
  .ofFields [("smells", sectionDatum t.smells.fields),
    ("highlight", sectionDatum t.highlight.fields)]

/-- Equal thresholds, number by number: an integer may equal a double, and what is no number
equals nothing. -/
def equals (a b : Thresholds) : Bool :=
  let equalFields (xs ys : List (String × Number)) : Bool :=
    (xs.zip ys).all fun (x, y) => x.2.equals y.2
  equalFields a.smells.fields b.smells.fields && equalFields a.highlight.fields b.highlight.fields

end Thresholds

end DesignGauge
