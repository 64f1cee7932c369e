import DesignGauge.Fault
import DesignGauge.Text.Word

/-!
# Handlers in tags

A tag whose name starts with an at sign attaches a handler to its text. What follows the equals
sign is the name of the handler, with arguments in brackets if it has some, or a value of its own.
Arguments are literals: numbers, texts, tuples, sets and mappings of them. The console never calls
a handler, so all that matters is whether its arguments can be read.
-/

namespace DesignGauge.Console.Handler

open Text

/-- A word of an argument list. -/
inductive Token where
  | number (imaginary : Bool)
  | text (octets : Bool)
  | name (word : String)
  | sign (word : String)
  deriving DecidableEq, Repr

/-- The refusal of what has no form at all. -/
def malformed : String := "invalid syntax"

/-! ## Numbers -/

/-- A character that continues a word. -/
def continuesWord (c : Char) : Bool :=
  isAsciiLetter c || isAsciiDigit c || c == '_' || 0x80 ≤ c.toNat

/-- A word that may follow a number without a blank. -/
def isNumberFollower (rest : List Char) : Bool :=
  ["if", "in", "is"].any (·.toList.isPrefixOf rest)
    || ["and", "else", "for", "or", "not"].contains (String.ofList (rest.takeWhile continuesWord))

/-- Nothing that continues a word may follow a number. -/
def endNumber (kind : String) (imaginary : Bool) (rest : List Char) :
    Except String (Bool × List Char) :=
  let follows := rest.head?.any fun c => c.toNat < 0x80 && continuesWord c
  if isNumberFollower rest || !follows then .ok (imaginary, rest)
  else .error ("invalid " ++ kind ++ " literal")

/-- What follows digits in groups that single underscores divide. -/
def afterDigits (isDigit : Char → Bool) (refusal : Option Char → String) :
    List Char → Except String (List Char)
  | [] => .ok []
  | '_' :: rest =>
    if rest.head?.any isDigit then afterDigits isDigit refusal rest
    else .error (refusal rest.head?)
  | c :: rest => if isDigit c then afterDigits isDigit refusal rest else .ok (c :: rest)

/-- What follows decimal digits. -/
def afterDecimals (text : List Char) : Except String (List Char) :=
  afterDigits isAsciiDigit (fun _ => "invalid decimal literal") text

/-- The end of a decimal number: an imaginary unit or nothing. -/
def endDecimal : List Char → Except String (Bool × List Char)
  | c :: rest =>
    if c == 'j' || c == 'J' then endNumber "imaginary" true rest
    else endNumber "decimal" false (c :: rest)
  | [] => .ok (false, [])

/-- The exponent of a decimal number. -/
def exponent : List Char → Except String (Bool × List Char)
  | e :: rest =>
    if e == 'e' || e == 'E' then match rest with
      | c :: more =>
        if c == '+' || c == '-' then
          if more.head?.any isAsciiDigit then do endDecimal (← afterDecimals more)
          else .error "invalid decimal literal"
        else if isAsciiDigit c then do endDecimal (← afterDecimals rest)
        else endNumber "decimal" false (e :: rest)
      | [] => endNumber "decimal" false [e]
    else endDecimal (e :: rest)
  | [] => .ok (false, [])

/-- The fraction of a decimal number. -/
def fraction (text : List Char) : Except String (Bool × List Char) :=
  if text.head?.any isAsciiDigit then do exponent (← afterDecimals text) else exponent text

/-- What follows the whole part of a decimal number. -/
def afterWhole : List Char → Except String (Bool × List Char)
  | '.' :: rest => fraction rest
  | rest => exponent rest

/-- A number in another base. -/
def based (kind : String) (isDigit : Char → Bool) (text : List Char) :
    Except String (Bool × List Char) := do
  let refusal : Option Char → String := fun c => match c with
    | some c =>
      if isAsciiDigit c then "invalid digit '" ++ c.toString ++ "' in " ++ kind ++ " literal"
      else "invalid " ++ kind ++ " literal"
    | none => "invalid " ++ kind ++ " literal"
  let digits := if text.head? == some '_' then text.drop 1 else text
  if !(digits.head?.any isDigit) then throw (refusal digits.head?)
  let rest ← afterDigits isDigit refusal digits
  if rest.head?.any isAsciiDigit then throw (refusal rest.head?)
  endNumber kind false rest

/-- A number that starts with a zero: in another base, or a decimal one without more zeros in
front. -/
def afterZero (text : List Char) : Except String (Bool × List Char) := do
  match text with
  | c :: rest =>
    if c == 'x' || c == 'X' then
      return ← based "hexadecimal" (fun d => isAsciiDigit d || ('a' ≤ d.toLower && d.toLower ≤ 'f'))
        rest
    else if c == 'o' || c == 'O' then
      return ← based "octal" (fun d => '0' ≤ d && d < '8') rest
    else if c == 'b' || c == 'B' then
      return ← based "binary" (fun d => d == '0' || d == '1') rest
  | [] => pure ()
  let rest ← afterDecimals text
  let significant := (text.take (text.length - rest.length)).any fun d => '1' ≤ d && d ≤ '9'
  let isWhole := !(rest.head?.any fun c => c == '.' || c.toLower == 'e' || c.toLower == 'j')
  if significant && isWhole then
    throw ("leading zeros in decimal integer literals are not permitted; "
      ++ "use an 0o prefix for octal integers")
  afterWhole rest

/-- A number at the start of a text, and what follows it. -/
def number : List Char → Except String (Bool × List Char)
  | '0' :: rest => afterZero rest
  | '.' :: rest => fraction rest
  | text => do afterWhole (← afterDecimals text)

/-! ## Texts -/

/-- The text after the closing quote; a line end closes a text of one line badly. -/
def afterQuote (quote : Char) (triple : Bool) : List Char → Option (List Char)
  | [] => none
  | ['\\'] => none
  | '\\' :: _ :: rest => afterQuote quote triple rest
  | c :: rest =>
    if c == quote then
      if !triple then some rest
      else match rest with
        | d :: e :: more =>
          if d == quote && e == quote then some more else afterQuote quote triple (d :: e :: more)
        | _ => none
    else if c == '\n' && !triple then none
    else afterQuote quote triple rest

/-- A text in quotes of either kind, and what follows it. -/
def quotedText (octets : Bool) (quote : Char) (rest : List Char) :
    Except String (Token × List Char) := do
  let triple := rest.take 2 == [quote, quote]
  let body := if triple then rest.drop 2 else rest
  match afterQuote quote triple body with
  | none =>
    throw ("unterminated " ++ (if triple then "triple-quoted " else "")
      ++ "string literal (detected at line "
      ++ toString (1 + (if triple then body.count '\n' else 0)) ++ ")")
  | some more =>
    if octets && (body.take (body.length - more.length)).any (0x80 ≤ ·.toNat) then
      throw "bytes can only contain ASCII literal characters"
    return (.text octets, more)

/-- The letters that may stand in front of a quote. -/
def textMarks : List String := ["r", "u", "b", "br", "rb", "f", "fr", "rf"]

/-! ## Words -/

/-- The code of a character, with at least four digits. -/
def codeName (c : Char) : String :=
  "U+" ++ String.ofList ((hexDigits 4 c.toNat).map Char.toUpper)

/-- The first character of a name is a letter or an underscore. -/
def startsWord (c : Char) : Bool := isWord c && (digitValue? c).isNone

/-- A name; all its characters must belong into names. -/
def nameToken (word : List Char) : Except String Token :=
  let bad := match word with
    | c :: rest => if startsWord c then rest.find? (!isWord ·) else some c
    | [] => none
  match bad with
  | none => .ok (.name (String.ofList word))
  | some c =>
    if isPrintable c then .error ("invalid character '" ++ c.toString ++ "' (" ++ codeName c ++ ")")
    else .error ("invalid non-printable character " ++ codeName c)

/-- The longer signs. -/
def longSigns : List String :=
  ["...", "**", "//", "<<", ">>", "==", "!=", "<=", ">=", "->", ":="]

/-- The closing bracket of an opening one. -/
def closing (c : Char) : Char := if c == '(' then ')' else '\x7d'

/-- The words of a text, and what is wrong with its end for whoever gets there. -/
structure Words where
  tokens : List Token := []
  ending : Option String := none

/-- A word in front of others. -/
def Words.cons (token : Token) (words : Words) : Words :=
  { words with tokens := token :: words.tokens }

/-- The words of a text, given the brackets that are open, the last one first. The fuel is the
number of characters. -/
def tokens : Nat → List Char → List Char → Except String Words
  | 0, open_, _ | _, open_, [] =>
    match open_ with
    | [] => .ok {}
    | c :: _ => .ok { ending := some ("'" ++ c.toString ++ "' was never closed") }
  | fuel + 1, open_, c :: rest => do
    if c == ' ' || c == '\t' || c.toNat == 12 then tokens fuel open_ rest
    else if c == '\n' || c == '\r' then
      if open_.isEmpty then return (← tokens fuel open_ rest).cons (.sign "\n")
      else tokens fuel open_ rest
    else if c == '#' then tokens fuel open_ (rest.dropWhile (· != '\n'))
    else if c == '\\' then
      if rest.head? == some '\n' then tokens fuel open_ (rest.drop 1)
      else return { ending := some "unexpected character after line continuation character" }
    else if c == '"' || c == apostrophe then
      let (token, more) ← quotedText false c rest
      return (← tokens fuel open_ more).cons token
    else if isAsciiDigit c || (c == '.' && rest.head?.any isAsciiDigit) then
      let (imaginary, more) ← number (c :: rest)
      return (← tokens fuel open_ more).cons (.number imaginary)
    else if continuesWord c then
      let word := (c :: rest).takeWhile continuesWord
      let more := (c :: rest).dropWhile continuesWord
      let mark := String.ofList (word.map Char.toLower)
      match more with
      | q :: body =>
        if (q == '"' || q == apostrophe) && textMarks.contains mark then
          let (token, more) ← quotedText (mark.toList.contains 'b') q body
          return (← tokens fuel open_ more).cons token
      | [] => pure ()
      let token ← nameToken word
      return (← tokens fuel open_ more).cons token
    else if c == '(' || c == '\x7b' then
      if open_.length ≥ 200 then return { ending := some "too many nested parentheses" }
      return (← tokens fuel (c :: open_) rest).cons (.sign c.toString)
    else if c == ')' || c == '\x7d' then match open_ with
      | [] => throw ("unmatched '" ++ c.toString ++ "'")
      | b :: others =>
        if closing b != c then
          throw ("closing parenthesis '" ++ c.toString
            ++ "' does not match opening parenthesis '" ++ b.toString ++ "'")
        return (← tokens fuel others rest).cons (.sign c.toString)
    else if 0x20 ≤ c.toNat then
      match longSigns.find? (·.toList.isPrefixOf (c :: rest)) with
      | some sign => return (← tokens fuel open_ (rest.drop (sign.length - 1))).cons (.sign sign)
      | none => return (← tokens fuel open_ rest).cons (.sign c.toString)
    else throw ("invalid non-printable character " ++ codeName c)

/-! ## Values -/

/-- A value as it is written. -/
inductive Term where
  | number (imaginary : Bool)
  | atom
  | signed (term : Term)
  | sum (left right : Term)
  | tuple (items : List Term)
  | set (items : List Term)
  | map (entries : List (Term × Term))
  /-- Anything that is no literal. -/
  | other

/-- Words that are no names. -/
def keywords : List String :=
  ["and", "as", "assert", "async", "await", "break", "class", "continue", "def", "del", "elif",
    "else", "except", "finally", "for", "from", "global", "if", "import", "in", "is", "lambda",
    "nonlocal", "not", "or", "pass", "raise", "return", "try", "while", "with", "yield"]

/-- The signs and words between two values. -/
def isOperator : Token → Bool
  | .sign s =>
    ["+", "-", "*", "/", "%", "@", "&", "|", "^", "<", ">", "==", "!=", "<=", ">=", "//", "**",
      "<<", ">>"].contains s
  | .name s => ["and", "or", "in", "is"].contains s
  | _ => false

/-- Two values joined by an operator. -/
def joined (operator : Token) (left right : Term) : Term :=
  match operator with
  | .sign s => if s == "+" || s == "-" then .sum left right else .other
  | _ => .other

/-- Why words are no value: they are too few, or one of them does not fit. -/
inductive Stop where
  | atEnd
  | refused (detail : String)
  deriving DecidableEq, Repr

/-- The refusal of a word that does not fit. -/
def misplaced {α : Type} : Except Stop α := .error (.refused malformed)

/-- A refusal in words. -/
def refuse {α : Type} (detail : String) : Except Stop α := .error (.refused detail)

/-- The texts at the start of some words are one; octets do not mix with characters. -/
def texts (octets : Bool) : List Token → Except Stop (List Token)
  | .text o :: rest =>
    if o == octets then texts octets rest else refuse "cannot mix bytes and nonbytes literals"
  | rest => .ok rest

/-- What a second value right after a first one is refused with. -/
def besides (detail : String) : Except Stop (Term × List Token) → Except Stop Unit
  | .ok (_, []) | .error .atEnd => .error .atEnd
  | .ok _ => refuse detail
  | .error _ => .ok ()

/-- Two values side by side in brackets are refused; a text after a name is no second value. -/
def checkComma (first : List Token) (second : Except Stop (Term × List Token)) :
    Except Stop Unit :=
  match first with
  | .name word :: .text _ :: _ =>
    if keywords.contains word then besides (malformed ++ ". Perhaps you forgot a comma?") second
    else .ok ()
  | _ => besides (malformed ++ ". Perhaps you forgot a comma?") second

/-- A value after one of two words that were no functions once. -/
def checkCall (first : List Token) (second : Except Stop (Term × List Token)) :
    Except Stop Unit :=
  match first, second with
  | .name word :: _, .ok _ =>
    if word == "print" || word == "exec" then
      refuse ("Missing parentheses in call to '" ++ word ++ "'. Did you mean " ++ word ++ "(...)?")
    else .ok ()
  | _, _ => .ok ()

mutual

/-- A value without operators. -/
def atom : Nat → List Token → Except Stop (Term × List Token)
  | 0, _ | _, [] => .error .atEnd
  | fuel + 1, token :: rest => match token with
    | .number imaginary => .ok (.number imaginary, rest)
    | .text octets => do return (.atom, ← texts octets rest)
    | .name word =>
      if ["None", "True", "False"].contains word then .ok (.atom, rest)
      else if keywords.contains word then misplaced
      else if word == "set" && rest.take 2 == [.sign "(", .sign ")"] then
        .ok (.set [], rest.drop 2)
      else .ok (.other, rest)
    | .sign "..." => .ok (.atom, rest)
    | .sign "(" => group fuel rest
    | .sign "\x7b" => match rest with
      | .sign "\x7d" :: more => .ok (.map [], more)
      | _ => braced fuel rest
    | _ => misplaced

/-- What may follow a value: members and calls make it something else than a literal. -/
def suffixes : Nat → Term → List Token → Except Stop (Term × List Token)
  | 0, term, rest => .ok (term, rest)
  | fuel + 1, _, .sign "." :: rest => match rest with
    | .name _ :: more => suffixes fuel .other more
    | [] => .error .atEnd
    | _ => misplaced
  | fuel + 1, _, .sign "(" :: rest => do
    let (_, more) ← group fuel rest
    suffixes fuel .other more
  | _, term, rest => .ok (term, rest)

/-- A value with signs in front of it. -/
def operand : Nat → List Token → Except Stop (Term × List Token)
  | 0, _ => .error .atEnd
  | fuel + 1, .sign s :: rest =>
    if s == "+" || s == "-" then do
      let (term, more) ← operand fuel rest
      return (.signed term, more)
    else if s == "~" then do
      let (_, more) ← operand fuel rest
      return (.other, more)
    else do
      let (term, more) ← atom fuel (.sign s :: rest)
      suffixes fuel term more
  | fuel + 1, .name "not" :: rest => do
    let (_, more) ← operand fuel rest
    return (.other, more)
  | fuel + 1, rest => do
    let (term, more) ← atom fuel rest
    suffixes fuel term more

/-- The operators and values that follow a value. -/
def operators : Nat → Term → List Token → Except Stop (Term × List Token)
  | 0, term, rest => .ok (term, rest)
  | _, term, [] => .ok (term, [])
  | fuel + 1, term, token :: rest =>
    if isOperator token then match operand fuel rest with
      | .ok (right, more) => operators fuel (joined token term right) more
      | .error (.refused detail) =>
        if detail == malformed then .ok (term, token :: rest) else refuse detail
      | .error .atEnd => .error .atEnd
    else .ok (term, token :: rest)

/-- A value. -/
def value : Nat → List Token → Except Stop (Term × List Token)
  | 0, _ => .error .atEnd
  | fuel + 1, rest => do
    let (term, more) ← operand fuel rest
    operators fuel term more

/-- A value in brackets; another value must not follow it without a comma. -/
def item : Nat → List Token → Except Stop (Term × List Token)
  | 0, _ => .error .atEnd
  | fuel + 1, rest => do
    let (term, more) ← value fuel rest
    checkCall rest (value fuel more)
    checkComma rest (value fuel more)
    return (term, more)

/-- Values between commas up to a closing bracket. The flag tells whether there was a comma. -/
def items (close : String) : Nat → List Token → Except Stop (List Term × Bool × List Token)
  | 0, _ => .error .atEnd
  | fuel + 1, rest => do
    let (term, more) ← item fuel rest
    match more with
    | .sign s :: others =>
      if s == close then return ([term], false, others)
      else if s == "," then
        if others.head? == some (.sign close) then return ([term], true, others.drop 1)
        let (terms, _, after) ← items close fuel others
        return (term :: terms, true, after)
      else match rest, s with
        | .name _ :: .sign "=" :: _, "=" =>
          besides (malformed ++ ". Maybe you meant '==' or ':=' instead of '='?")
            (value fuel others)
          misplaced
        | _, _ => misplaced
    | [] => throw .atEnd
    | _ => misplaced

/-- What follows an opening bracket: nothing, one value, or a tuple. -/
def group : Nat → List Token → Except Stop (Term × List Token)
  | 0, _ => .error .atEnd
  | _, .sign ")" :: rest => .ok (.tuple [], rest)
  | fuel + 1, .sign "*" :: rest => do
    if rest.head? == some (.sign ")") || rest.head? == some (.sign ",") then
      refuse "Invalid star expression"
    let (_, more) ← value fuel rest
    if more.head? == some (.sign ")") then refuse "cannot use starred expression here"
    else misplaced
  | fuel + 1, .sign "**" :: rest => do
    let (_, more) ← value fuel rest
    if more.head? == some (.sign ")") then refuse "cannot use double starred expression here"
    else misplaced
  | fuel + 1, rest => do
    let (terms, isTuple, more) ← items ")" fuel rest
    match terms, isTuple with
    | [term], false => return (term, more)
    | _, _ => return (.tuple terms, more)

/-- What follows an opening brace: a set or a mapping. -/
def braced : Nat → List Token → Except Stop (Term × List Token)
  | 0, _ => .error .atEnd
  | fuel + 1, rest => do
    let (_, more) ← item fuel rest
    if more.head? == some (.sign ":") then
      let (entries, after) ← entries fuel rest
      return (.map entries, after)
    else
      let (terms, _, after) ← items "\x7d" fuel rest
      return (.set terms, after)

/-- The entries of a mapping up to the closing brace. -/
def entries : Nat → List Token → Except Stop (List (Term × Term) × List Token)
  | 0, _ => .error .atEnd
  | fuel + 1, rest => do
    let (key, more) ← item fuel rest
    match more with
    | [] => throw .atEnd
    | .sign ":" :: others =>
      if others.head? == some (.sign "\x7d") || others.head? == some (.sign ",") then
        refuse "expression expected after dictionary key and ':'"
      else
        let (term, after) ← item fuel others
        match after with
        | [] => throw .atEnd
        | .sign "\x7d" :: last => return ([(key, term)], last)
        | .sign "," :: .sign "\x7d" :: last => return ([(key, term)], last)
        | .sign "," :: next =>
          let (more, last) ← entries fuel next
          return ((key, term) :: more, last)
        | _ => misplaced
    | .sign "\x7d" :: _ | .sign "," :: _ => refuse "':' expected after dictionary key"
    | _ => misplaced

end

/-- Values between commas, without brackets around them. -/
def row (depth : Nat) : Nat → List Token → Except Stop (List Term × Bool)
  | 0, _ => .error .atEnd
  | fuel + 1, rest => do
    let (term, more) ← value depth rest
    checkCall rest (value depth more)
    if !more.isEmpty && value depth more matches .error .atEnd then throw .atEnd
    match more.dropWhile (· == .sign "\n") with
    | [] => return ([term], false)
    | .sign "," :: others =>
      if (others.dropWhile (· == .sign "\n")).isEmpty then return ([term], true)
      let (terms, _) ← row depth fuel others
      return (term :: terms, true)
    | _ => misplaced

/-! ## Literals -/

/-- Why a value is refused. -/
inductive Refusal where
  /-- It has no form. -/
  | form (detail : String)
  /-- It has a form, but is no literal. -/
  | content (detail : String)
  deriving DecidableEq, Repr

/-- A number without a sign, and whether it is imaginary. -/
def plainNumber? : Term → Option Bool
  | .number imaginary => some imaginary
  | _ => none

/-- A number with at most one sign in front of it. -/
def signedNumber? : Term → Option Bool
  | .signed term => plainNumber? term
  | term => plainNumber? term

/-- Refuses what is no literal. -/
def notLiteral : Refusal := .content "malformed node or string on line 1"

mutual

/-- Checks a value; the result is the kind of a part that cannot be a key. -/
def check : Term → Except Refusal (Option String)
  | .number _ | .atom => .ok none
  | .signed term => if (plainNumber? term).isSome then .ok none else .error notLiteral
  | .sum left right =>
    if signedNumber? left == some false && plainNumber? right == some true then .ok none
    else .error notLiteral
  | .tuple items => checkAll items
  | .set items => do
    match ← checkAll items with
    | some kind => throw (.content ("unhashable type: '" ++ kind ++ "'"))
    | none => return some "set"
  | .map entries => do
    match ← checkEntries entries with
    | some kind => throw (.content ("unhashable type: '" ++ kind ++ "'"))
    | none => return some "dict"
  | .other => .error notLiteral

/-- Checks all values of a list. -/
def checkAll : List Term → Except Refusal (Option String)
  | [] => .ok none
  | term :: rest => do
    let first ← check term
    let others ← checkAll rest
    return first <|> others

/-- Checks the entries of a mapping; the result is that of the keys. -/
def checkEntries : List (Term × Term) → Except Refusal (Option String)
  | [] => .ok none
  | (key, term) :: rest => do
    let first ← check key
    let _ ← check term
    let others ← checkEntries rest
    return first <|> others

end

/-- The value that a text spells. -/
def term (text : List Char) : Except String Term := do
  if text.contains '\x00' then throw "source code string cannot contain null bytes"
  let words ← tokens text.length [] text
  let found := words.tokens.dropWhile (· == .sign "\n")
  match row (16 * (found.length + 1)) (found.length + 1) found, words.ending with
  | .ok ([term], false), none => return term
  | .ok (terms, _), none => return .tuple terms
  | .error (.refused detail), _ => throw detail
  | _, ending => throw (ending.getD malformed)

/-- Checks that a text spells a literal. -/
def literal (text : List Char) : Except Refusal Unit := do
  let _ ← check (← (term text).mapError .form)

/-! ## Handlers -/

/-- The arguments of a handler with a name, if a text has that form. -/
def arguments? (text : List Char) : Option (List Char) :=
  let rest := text.dropWhile fun c => isWord c || c == '.'
  match rest with
  | [] => some ['(', ')']
  | '(' :: inner =>
    if inner.getLast? == some ')' && !inner.contains '\n' then some rest else none
  | _ => none

/-- Checks what stands after the equals sign of a tag with a handler. -/
def verify (parameters : String) : Except Fault Unit :=
  let stripped := strip parameters.toList
  let arguments := (arguments? stripped).getD stripped
  match literal (arguments.dropWhile fun c => c == ' ' || c == '\t') with
  | .ok () => .ok ()
  | .error (.form detail) =>
    .error (.handlerForm (String.ofList arguments) parameters detail)
  | .error (.content detail) => .error (.handlerContent parameters detail)

end DesignGauge.Console.Handler
