import DesignGauge.Fault

/-!
# Metric values on the console

Whole values stand without a fraction, all others with two places.
-/

namespace DesignGauge.Console

/-- A double with two places. -/
def twoPlaces : Double → String
  | .finite x =>
    let n := x.hundredths
    (if x.negative then "-" else "") ++ toString (n / 100) ++ "." ++ padded 2 (n % 100)
  | x => x.text

/-- A double as the console shows it. -/
def doubleText (x : Double) : String :=
  match x.toInt? with
  | some i => toString i
  | none => twoPlaces x

/-- A number as the console shows it; an integer must be within the range of doubles. -/
def numberText : Number → Except Fault String
  | .float x => .ok (doubleText x)
  | .int i => match Double.ofInt? i with
    | some _ => .ok (toString i)
    | none => .error .beyondDouble

/-- A text that spells a number as the console shows it. -/
def spelledText (s : String) : Except Fault String :=
  match Reading.ofText? s with
  | none => .error (.noNumber s)
  | some x => match x.toInt?, Reading.wholeOfText? s with
    | some _, some i => .ok (toString i)
    | some _, none => .error (.notInteger 10 s)
    | none, _ => .error (.badValue "Unknown format code 'f' for object of type 'str'")

/-- A value as the console shows it. -/
def valueText (value : Datum) : Except Fault String :=
  match value with
  | .text s => spelledText s
  | other => match other.number? with
    | some n => numberText n
    | none => .error (.notReal other.kindName)

end DesignGauge.Console
