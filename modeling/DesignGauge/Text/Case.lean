import DesignGauge.Text.CaseTable

/-!
# Lower and upper case

Full case mapping: a form may have more characters than the text (`ß` becomes `SS`, `İ` becomes
`i` with a dot above), and a capital sigma at the end of a word becomes the final one.
-/

namespace DesignGauge.Text

/-- The case form of a character that lies in one of the runs. -/
def shiftCase (runs : List CaseRun) (c : Char) : Char :=
  match runs.find? fun run =>
      run.first ≤ c.toNat && c.toNat ≤ run.last && (c.toNat - run.first) % run.stride == 0 with
  | some run => Char.ofNat (Int.toNat (c.toNat + run.shift))
  | none => c

/-- The lower case form of a character away from its neighbours. -/
def lowerChar (c : Char) : List Char :=
  if c.toNat < 0x80 then [c.toLower]
  else if c == 'İ' then ['i', Char.ofNat 0x307]
  else [shiftCase lowerRuns c]

/-- The upper case form of a character. -/
def upperChar (c : Char) : List Char :=
  if c.toNat < 0x80 then [c.toUpper]
  else match upperLong.find? fun entry => entry.1 == c.toNat with
    | some entry => entry.2.map Char.ofNat
    | none => [shiftCase upperRuns c]

/-- The first character of the list that is not passed over has case. -/
def meetsCased (text : List Char) : Bool :=
  match text.dropWhile (CharClass.has caseIgnorableRanges) with
  | c :: _ => CharClass.has casedRanges c
  | [] => false

/-- Lower case with the reversed text already read at hand, for the form of a sigma. -/
def lowerAfter (before : List Char) : List Char → List Char
  | [] => []
  | c :: rest =>
    let form :=
      if c == 'Σ' then
        if meetsCased before && !meetsCased rest then ['ς'] else ['σ']
      else lowerChar c
    form ++ lowerAfter (c :: before) rest

/-- The lower case form of a list of characters. -/
def lowerChars (text : List Char) : List Char :=
  if text.all (·.toNat < 0x80) then text.map Char.toLower else lowerAfter [] text

/-- The lower case form of a text. -/
def lower (text : String) : String :=
  String.ofList (lowerChars text.toList)

end DesignGauge.Text
