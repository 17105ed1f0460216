import TokenAuthority.Json.Real
import TokenAuthority.Time.Calendar
import TokenAuthority.Width

/-!
# The parts of a TOML line

Readers for the parts that have no structure of their own: blanks, comments and line ends, keys, strings
in their four spellings, numbers, dates and times. Each reader takes the characters from the start of
its part and gives what it read with the characters after it.

Of a number with a fraction or exponent and of a date only the extent and the well-formedness are of
interest, since no setting has such a value.
-/

namespace TokenAuthority
namespace Toml

def isBlank (character : Char) : Bool :=
  character = ' ' || character = '\t'

def skipBlanks (text : List Char) : List Char :=
  text.dropWhile isBlank

/-- A character that may stand in a comment or in a literal string: no control character but the
tabulator. -/
def isPrintable (character : Char) : Bool :=
  character = '\t' || (0x20 ≤ character.toNat && character.toNat != 0x7f)

/-- The characters after a comment, if there is one. -/
def skipComment : List Char → List Char
  | '#' :: rest => rest.dropWhile isPrintable
  | text => text

/-- The characters after a line end: a line feed, or a carriage return and a line feed. -/
def readLineEnd? : List Char → Option (List Char)
  | '\n' :: rest => some rest
  | '\r' :: '\n' :: rest => some rest
  | _ => none

/-- The characters after the end of an expression: blanks, a comment, and a line end or the end of the
text. -/
def readRestOfLine? (text : List Char) : Option (List Char) :=
  match skipComment (skipBlanks text) with
  | [] => some []
  | rest => readLineEnd? rest

/-- The characters after blanks, line ends and whole comments, as they may stand in an array. -/
def skipLines? : (fuel : Nat) → List Char → Option (List Char)
  | 0, _ => none
  | fuel + 1, text =>
    match skipBlanks text with
    | '#' :: rest => (readLineEnd? (rest.dropWhile isPrintable)).bind (skipLines? fuel)
    | '\n' :: rest => skipLines? fuel rest
    | '\r' :: rest => (readLineEnd? ('\r' :: rest)).bind (skipLines? fuel)
    | rest => some rest

/-- The value of a digit in a base up to 16. -/
def digitValue? (base : Nat) (character : Char) : Option Nat :=
  let value :=
    if '0' ≤ character ∧ character ≤ '9' then character.toNat - 48
    else if 'a' ≤ character ∧ character ≤ 'f' then character.toNat - 87
    else if 'A' ≤ character ∧ character ≤ 'F' then character.toNat - 55
    else 16
  if value < base then some value else none

/-! ## Strings -/

/-- A code point written with a fixed number of hexadecimal digits. -/
def readCodePoint? (value : Nat) : (digits : Nat) → List Char → Option (Char × List Char)
  | 0, text => if value.isValidChar then some (Char.ofNat value, text) else none
  | _ + 1, [] => none
  | digits + 1, character :: rest =>
    (digitValue? 16 character).bind fun digit => readCodePoint? (16 * value + digit) digits rest

/-- The character of an escape, after its backslash. -/
def readEscape? : List Char → Option (Char × List Char)
  | 'b' :: rest => some (Char.ofNat 0x8, rest)
  | 't' :: rest => some ('\t', rest)
  | 'n' :: rest => some ('\n', rest)
  | 'f' :: rest => some (Char.ofNat 0xc, rest)
  | 'r' :: rest => some ('\r', rest)
  | '"' :: rest => some ('"', rest)
  | '\\' :: rest => some ('\\', rest)
  | 'u' :: rest => readCodePoint? 0 4 rest
  | 'U' :: rest => readCodePoint? 0 8 rest
  | _ => none

/-- A string on one line with escapes, after its opening quote. -/
def readBasic? : (fuel : Nat) → List Char → Option (List Char × List Char)
  | 0, _ => none
  | _ + 1, [] => none
  | fuel + 1, character :: rest =>
    if character = '"' then some ([], rest)
    else if character = '\\' then
      (readEscape? rest).bind fun (escaped, rest) =>
        (readBasic? fuel rest).map fun (content, rest) => (escaped :: content, rest)
    else if isPrintable character then
      (readBasic? fuel rest).map fun (content, rest) => (character :: content, rest)
    else none

/-- A string on one line without escapes, after its opening quote. -/
def readLiteral? : List Char → Option (List Char × List Char)
  | [] => none
  | character :: rest =>
    if character = '\'' then some ([], rest)
    else if isPrintable character then
      (readLiteral? rest).map fun (content, rest) => (character :: content, rest)
    else none

/-- The number of equal characters at the front. -/
def countFront (expected : Char) (text : List Char) : Nat :=
  (text.takeWhile (· = expected)).length

/-- The characters after blanks and line ends. -/
def skipBlankLines : List Char → List Char
  | '\n' :: rest => skipBlankLines rest
  | '\r' :: '\n' :: rest => skipBlankLines rest
  | ' ' :: rest => skipBlankLines rest
  | '\t' :: rest => skipBlankLines rest
  | text => text

/-- The characters after a backslash at a line's end, which joins the line to the next text. -/
def skipJoint? (text : List Char) : Option (List Char) :=
  (readLineEnd? (skipBlanks text)).map skipBlankLines

/-- A string over several lines, with escapes where `quote` is the double one. Up to two quotes may
stand inside and at the end of the content; a line end counts as a line feed. -/
def readMultiline? (quote : Char) : (fuel : Nat) → List Char → Option (List Char × List Char)
  | 0, _ => none
  | _ + 1, [] => none
  | fuel + 1, character :: rest =>
    if character = quote then
      let count := countFront quote (character :: rest)
      if count < 3 then
        (readMultiline? quote fuel rest).map fun (content, rest) => (character :: content, rest)
      else if count ≤ 5 then
        some (List.replicate (count - 3) quote, (character :: rest).drop count)
      else some (List.replicate 2 quote, (character :: rest).drop 5)
    else if character = '\\' ∧ quote = '"' then
      match skipJoint? rest with
      | some rest => readMultiline? quote fuel rest
      | none =>
        (readEscape? rest).bind fun (escaped, rest) =>
          (readMultiline? quote fuel rest).map fun (content, rest) => (escaped :: content, rest)
    else if character = '\r' then
      (readLineEnd? (character :: rest)).bind fun rest =>
        (readMultiline? quote fuel rest).map fun (content, rest) => ('\n' :: content, rest)
    else if character = '\n' ∨ isPrintable character then
      (readMultiline? quote fuel rest).map fun (content, rest) => (character :: content, rest)
    else none

/-- A string over several lines, after its opening quotes; a line end right there is dropped. -/
def readMultilineBody? (quote : Char) (text : List Char) : Option (List Char × List Char) :=
  let text := (readLineEnd? text).getD text
  readMultiline? quote (text.length + 1) text

def readString? : List Char → Option (String × List Char)
  | '"' :: '"' :: '"' :: rest =>
    (readMultilineBody? '"' rest).map fun (content, rest) => (String.ofList content, rest)
  | '\'' :: '\'' :: '\'' :: rest =>
    (readMultilineBody? '\'' rest).map fun (content, rest) => (String.ofList content, rest)
  | '"' :: rest =>
    (readBasic? (rest.length + 1) rest).map fun (content, rest) => (String.ofList content, rest)
  | '\'' :: rest =>
    (readLiteral? rest).map fun (content, rest) => (String.ofList content, rest)
  | _ => none

/-! ## Keys -/

/-- A character of a key without quotes. -/
def isBareKeyChar (character : Char) : Bool :=
  ('a' ≤ character && character ≤ 'z') || ('A' ≤ character && character ≤ 'Z') ||
    ('0' ≤ character && character ≤ '9') || character = '_' || character = '-'

/-- One name of a key: bare, or in quotes on one line. -/
def readName? : List Char → Option (String × List Char)
  | '"' :: rest =>
    (readBasic? (rest.length + 1) rest).map fun (content, rest) => (String.ofList content, rest)
  | '\'' :: rest =>
    (readLiteral? rest).map fun (content, rest) => (String.ofList content, rest)
  | text =>
    let name := text.takeWhile isBareKeyChar
    if name.isEmpty then none else some (String.ofList name, text.dropWhile isBareKeyChar)

/-- The names of a key between points; blanks may stand around each name. -/
def readNames? : (fuel : Nat) → List Char → Option (List String × List Char)
  | 0, _ => none
  | fuel + 1, text =>
    (readName? (skipBlanks text)).bind fun (name, rest) =>
      match skipBlanks rest with
      | '.' :: rest => (readNames? fuel rest).map fun (names, rest) => (name :: names, rest)
      | rest => some ([name], rest)

/-- How deep keys and values may nest: below this. -/
def depthLimit : Nat := 80

def readKey? (text : List Char) : Option (List String × List Char) :=
  (readNames? (text.length + 1) text).bind fun (names, rest) =>
    if names.length < depthLimit then some (names, rest) else none

/-! ## Numbers -/

/-- Further digits of a number, each group after an underscore. -/
def readMoreDigits? (base : Nat) : List Char → Option (List Nat × List Char)
  | [] => some ([], [])
  | '_' :: [] => none
  | '_' :: character :: rest =>
    (digitValue? base character).bind fun digit =>
      (readMoreDigits? base rest).map fun (digits, rest) => (digit :: digits, rest)
  | character :: rest =>
    match digitValue? base character with
    | some digit => (readMoreDigits? base rest).map fun (digits, rest) => (digit :: digits, rest)
    | none => some ([], character :: rest)

def readDigits? (base : Nat) : List Char → Option (List Nat × List Char)
  | [] => none
  | character :: rest =>
    (digitValue? base character).bind fun digit =>
      (readMoreDigits? base rest).map fun (digits, rest) => (digit :: digits, rest)

def ofDigits (base : Nat) (digits : List Nat) : Nat :=
  digits.foldl (fun value digit => base * value + digit) 0

/-- A sign, if there is one: whether it is negative, and the characters after it. -/
def readSign : List Char → Bool × List Char
  | '-' :: rest => (true, rest)
  | '+' :: rest => (false, rest)
  | text => (false, text)

/-- Decimal digits without a leading zero, or a single zero. -/
def readDecimal? : List Char → Option (List Nat × List Char)
  | '0' :: rest => some ([0], rest)
  | text => readDigits? 10 text

/-- An integer of 64 bits with sign: decimal, or without sign in base 16, 8 or 2. -/
def readInteger? : List Char → Option (Int × List Char)
  | '0' :: 'x' :: rest => based 16 rest
  | '0' :: 'o' :: rest => based 8 rest
  | '0' :: 'b' :: rest => based 2 rest
  | text =>
    let (negative, text) := readSign text
    (readDecimal? text).bind fun (digits, rest) =>
      let size : Int := ofDigits 10 digits
      let value := if negative then -size else size
      if IsSigned64 value then some (value, rest) else none
where
  based (base : Nat) (text : List Char) : Option (Int × List Char) :=
    (readDigits? base text).bind fun (digits, rest) =>
      let value : Int := ofDigits base digits
      if IsSigned64 value then some (value, rest) else none

/-- A number with fraction or exponent that is too large for binary64. -/
def isTooLarge (whole fraction : List Nat) (exponent : Int) : Bool :=
  let digits := whole.length + fraction.length
  let bounded := max (-(digits + 400 : Int)) (min (digits + 400 : Int) exponent)
  (Json.Real.ofDecimal? false (ofDigits 10 ((whole ++ fraction).take 19))
    (bounded + whole.length - min 19 digits)).isNone

/-- The exponent of a number, if there is one. -/
def readExponent? : List Char → Option (Option Int × List Char)
  | [] => some (none, [])
  | mark :: rest =>
    if mark = 'e' ∨ mark = 'E' then
      let (negative, rest) := readSign rest
      (readDigits? 10 rest).map fun (digits, rest) =>
        let size : Int := ofDigits 10 digits
        (some (if negative then -size else size), rest)
    else some (none, mark :: rest)

/-- The characters after a number with fraction or exponent, after `inf` or after `nan`. -/
def readReal? (text : List Char) : Option (List Char) :=
  let (negative, text) := readSign text
  match text with
  | 'i' :: 'n' :: 'f' :: rest => some rest
  | 'n' :: 'a' :: 'n' :: rest => some rest
  | text =>
    (readDecimal? text).bind fun (whole, rest) =>
      match rest with
      | '.' :: rest =>
        (readDigits? 10 rest).bind fun (fraction, rest) =>
          (readExponent? rest).bind fun (exponent, rest) =>
            if !negative && isTooLarge whole fraction (exponent.getD 0) then none else some rest
      | rest =>
        (readExponent? rest).bind fun (exponent, rest) =>
          exponent.bind fun exponent =>
            if !negative && isTooLarge whole [] exponent then none else some rest

/-! ## Dates and times -/

/-- A number of exactly so many decimal digits. -/
def readFixed? (value : Nat) : (digits : Nat) → List Char → Option (Nat × List Char)
  | 0, text => some (value, text)
  | _ + 1, [] => none
  | digits + 1, character :: rest =>
    (digitValue? 10 character).bind fun digit => readFixed? (10 * value + digit) digits rest

/-- A character that must stand at the front. -/
def readChar? (expected : Char) : List Char → Option (List Char)
  | [] => none
  | character :: rest => if character = expected then some rest else none

def readDate? (text : List Char) : Option (List Char) := do
  let (year, text) ← readFixed? 0 4 text
  let text ← readChar? '-' text
  let (month, text) ← readFixed? 0 2 text
  let text ← readChar? '-' text
  let (day, text) ← readFixed? 0 2 text
  if ({ year, month, day } : Time.Date).isValid then some text else none

/-- The characters after the fraction of a second, if there is one. -/
def skipSecondFraction : List Char → List Char
  | '.' :: character :: rest =>
    if (digitValue? 10 character).isSome then
      rest.dropWhile fun character => (digitValue? 10 character).isSome
    else '.' :: character :: rest
  | text => text

def readTime? (text : List Char) : Option (List Char) := do
  let (hour, text) ← readFixed? 0 2 text
  let text ← readChar? ':' text
  let (minute, text) ← readFixed? 0 2 text
  let text ← readChar? ':' text
  let (second, text) ← readFixed? 0 2 text
  if hour < 24 ∧ minute < 60 ∧ second ≤ 60 then some (skipSecondFraction text) else none

def readOffset? (text : List Char) : Option (List Char) :=
  match text with
  | [] => none
  | sign :: rest =>
    if sign = 'Z' ∨ sign = 'z' then some rest
    else if sign = '+' ∨ sign = '-' then do
      let (hour, rest) ← readFixed? 0 2 rest
      let rest ← readChar? ':' rest
      let (minute, rest) ← readFixed? 0 2 rest
      if hour < 24 ∧ minute < 60 then some rest else none
    else none

/-- The characters after a date, a time of day, or both with or without an offset. -/
def readDateTime? (text : List Char) : Option (List Char) :=
  match readDate? text with
  | some rest =>
    match rest with
    | [] => some []
    | separator :: after =>
      if separator = 'T' ∨ separator = 't' ∨ separator = ' ' then
        match readTime? after with
        | some after => some ((readOffset? after).getD after)
        | none => some rest
      else some rest
  | none => readTime? text

end Toml
end TokenAuthority
