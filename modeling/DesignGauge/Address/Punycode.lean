/-!
# Punycode

Texts of any characters written with the letters, digits and hyphens of the basic range. The basic
characters come first; the others follow in the order of their code points, each as the number of
steps from the one before, in digits whose weights adapt to the steps seen so far.
-/

namespace DesignGauge.Punycode

/-- The greatest digit that ends a number at a place, plus one. -/
def threshold (place bias : Nat) : Nat :=
  min 26 (max 1 (36 * (place + 1) - bias))

theorem threshold_pos (place bias : Nat) : 0 < threshold place bias := by
  unfold threshold; omega

/-- Divides a step until it is small; each division moves the bias. -/
def settle (bias step : Nat) : Nat :=
  if 455 < step then settle (bias + 36) (step / 35) else bias + 36 * step / (step + 38)
termination_by step
decreasing_by omega

/-- The bias after a step, with the number of characters that there are now. -/
def adapt (first : Bool) (step count : Nat) : Nat :=
  let part := if first then step / 700 else step / 2
  settle 0 (part + part / count)

/-! ## Writing -/

/-- The letter or digit for a value below 36. -/
def digit (value : Nat) : Char :=
  if value < 26 then Char.ofNat (97 + value) else Char.ofNat (22 + value)

/-- The digits of a step. -/
def digits (bias place step : Nat) : List Char :=
  let bound := threshold place bias
  if step < bound then [digit step]
  else digit (bound + (step - bound) % (36 - bound))
    :: digits bias (place + 1) ((step - bound) / (36 - bound))
termination_by step
decreasing_by
  have pos := threshold_pos place bias
  exact Nat.lt_of_le_of_lt (Nat.div_le_self _ _) (by omega)

/-- What writing has reached: the digits, the steps since the last character that was written, the
bias and the number of characters written. -/
structure Progress where
  written : List Char
  step : Nat
  bias : Nat
  count : Nat

/-- Passes one character of the text while the characters with a code are written. -/
def Progress.pass (basic code : Nat) (p : Progress) (c : Char) : Progress :=
  if c.toNat < code then { p with step := p.step + 1 }
  else if c.toNat = code then
    ⟨p.written ++ digits p.bias 0 p.step, 0, adapt (p.count == basic) p.step (p.count + 1),
      p.count + 1⟩
  else p

/-- Writes the characters of a text that have one of the codes, which increase from `least` on. -/
def writeCodes (text : List Char) (basic : Nat) : Nat → List Nat → Progress → Progress
  | _, [], p => p
  | least, code :: codes, p =>
    let start := { p with step := p.step + (code - least) * (p.count + 1) }
    let passed := text.foldl (Progress.pass basic code) start
    writeCodes text basic (code + 1) codes { passed with step := passed.step + 1 }

/-- Writes a text. -/
def encode (text : List Char) : List Char :=
  let basic := text.filter (·.toNat < 128)
  let codes := ((text.map Char.toNat).filter (128 ≤ ·)).mergeSort.eraseDups
  let all := writeCodes text basic.length 128 codes ⟨[], 0, 72, basic.length⟩
  basic ++ (if basic.isEmpty then [] else ['-']) ++ all.written

/-! ## Reading -/

/-- The value of a letter or digit. -/
def digitValue? (c : Char) : Option Nat :=
  if 'a' ≤ c && c ≤ 'z' then some (c.toNat - 97)
  else if '0' ≤ c && c ≤ '9' then some (c.toNat - 22)
  else none

/-- Reads a step from its digits; gives the digits that are left. -/
def readStep (bias place weight sum : Nat) : List Char → Option (Nat × List Char)
  | [] => none
  | c :: rest => do
    let value ← digitValue? c
    let bound := threshold place bias
    let sum := sum + value * weight
    if value < bound then some (sum, rest)
    else readStep bias (place + 1) (weight * (36 - bound)) sum rest

/-- The greatest code point. -/
def lastCode : Nat := 0x10FFFF

/-- Puts the characters of the steps into a text of code points. -/
def insertSteps (code position bias : Nat) (first : Bool) (text : List Nat) :
    Nat → List Char → Option (List Nat)
  | _, [] => some text
  | 0, _ => none
  | fuel + 1, rest => do
    let (step, rest) ← readStep bias 0 1 0 rest
    let size := text.length + 1
    let code := code + (position + step) / size
    let place := (position + step) % size
    guard (code ≤ lastCode)
    let text := text.take place ++ code :: text.drop place
    insertSteps code (place + 1) (adapt first step size) false text fuel rest

/-- Reads a written text, in small letters, as code points. -/
def decode? (written : List Char) : Option (List Nat) :=
  let tail := (written.reverse.takeWhile (· != '-')).reverse
  let head := written.take (written.length - tail.length - 1)
  insertSteps 128 0 72 true (head.map Char.toNat) tail.length tail

end DesignGauge.Punycode
