import TokenAuthority.Text.Blank
import TokenAuthority.Time.Calendar
import TokenAuthority.Time.Instant

/-!
# Instants as text

An instant is written in UTC as `2025-01-02T03:04:05Z`, with three, six or nine digits of fraction where
that many are needed, and with a sign where the year needs more than four digits.

Reading is lenient: numbers may lack leading zeros, blanks may stand between the parts, a space or a
small letter may separate date and time, and the offset may be any below one day, written with or
without its colon.
-/

namespace TokenAuthority
namespace Time

/-- Decimal digits, padded with zeros on the left to a width. -/
def padded (width value : Nat) : List Char :=
  let digits := Nat.toDigits 10 value
  List.replicate (width - digits.length) '0' ++ digits

/-- A year: four digits, or a sign and at least four digits outside 0 to 9999. -/
def yearChars (year : Int) : List Char :=
  if 0 ≤ year ∧ year ≤ 9999 then padded 4 year.toNat
  else (if year < 0 then '-' else '+') :: padded 4 year.natAbs

/-- The fraction of a second, in groups of three digits, without trailing groups of zeros. -/
def fractionChars (nanoseconds : Nat) : List Char :=
  if nanoseconds = 0 then []
  else if nanoseconds % 1000000 = 0 then '.' :: padded 3 (nanoseconds / 1000000)
  else if nanoseconds % 1000 = 0 then '.' :: padded 6 (nanoseconds / 1000)
  else '.' :: padded 9 nanoseconds

def Instant.toChars (instant : Instant) : List Char :=
  let date := Date.ofDays (instant.seconds / 86400)
  let second := (instant.seconds % 86400).toNat
  let leap := instant.nanoseconds / 1000000000
  yearChars date.year ++ '-' :: padded 2 date.month ++ '-' :: padded 2 date.day ++
    'T' :: padded 2 (second / 3600) ++ ':' :: padded 2 (second / 60 % 60) ++
    ':' :: padded 2 (second % 60 + leap) ++ fractionChars (instant.nanoseconds % 1000000000) ++ ['Z']

def Instant.text (instant : Instant) : String :=
  String.ofList instant.toChars

def digitValue? (character : Char) : Option Nat :=
  if '0' ≤ character ∧ character ≤ '9' then some (character.toNat - 48) else none

/-- Reads at most `limit` further digits after a number's first ones. -/
def readDigitsFrom (value : Nat) : (limit : Nat) → List Char → Nat × List Char
  | 0, text => (value, text)
  | _ + 1, [] => (value, [])
  | limit + 1, character :: rest =>
    match digitValue? character with
    | some digit => readDigitsFrom (10 * value + digit) limit rest
    | none => (value, character :: rest)

/-- A number of at least one and at most `limit` digits, after any blanks. -/
def readNumber? (limit : Nat) (text : List Char) : Option (Nat × List Char) :=
  match text.dropWhile Text.isBlank with
  | [] => none
  | character :: rest =>
    match digitValue? character with
    | some digit => some (readDigitsFrom digit (limit - 1) rest)
    | none => none

/-- A year of up to four digits, or with a sign and any number of digits. -/
def readYear? (text : List Char) : Option (Int × List Char) :=
  match text.dropWhile Text.isBlank with
  | [] => none
  | character :: rest =>
    if character = '-' ∨ character = '+' then
      match rest with
      | [] => none
      | first :: _ =>
        if (digitValue? first).isSome then
          (readNumber? rest.length rest).map fun (year, rest) =>
            (if character = '-' then -(year : Int) else (year : Int), rest)
        else none
    else (readNumber? 4 (character :: rest)).map fun (year, rest) => ((year : Int), rest)

/-- The characters after a separator and the blanks in front of it. -/
def readSeparator? (separator : Char) (text : List Char) : Option (List Char) :=
  match text.dropWhile Text.isBlank with
  | [] => none
  | character :: rest => if character = separator then some rest else none

/-- The nanoseconds of a fraction whose first digits have the given value: digits after the ninth are
dropped. -/
def readFractionFrom (value : Nat) : (missing : Nat) → List Char → Nat × List Char
  | 0, text => (value, text.dropWhile fun character => (digitValue? character).isSome)
  | missing + 1, [] => (value * Nat.pow 10 (missing + 1), [])
  | missing + 1, character :: rest =>
    match digitValue? character with
    | some digit => readFractionFrom (10 * value + digit) missing rest
    | none => (value * Nat.pow 10 (missing + 1), character :: rest)

/-- The nanoseconds of an optional fraction. -/
def readFraction? : List Char → Option (Nat × List Char)
  | [] => some (0, [])
  | point :: rest =>
    if point = '.' then
      match rest with
      | [] => none
      | character :: rest =>
        match digitValue? character with
        | some digit => some (readFractionFrom digit 8 rest)
        | none => none
    else some (0, point :: rest)

/-- The hours and minutes of an offset, in seconds, after its sign. -/
def readOffsetSize? (text : List Char) : Option (Nat × List Char) :=
  match text with
  | tens :: ones :: rest =>
    match digitValue? tens, digitValue? ones with
    | some tens, some ones =>
      let hours := 10 * tens + ones
      match rest.dropWhile fun character => character = ':' || Text.isBlank character with
      | tens :: ones :: rest =>
        match digitValue? tens, digitValue? ones with
        | some tens, some ones =>
          if tens < 6 ∧ hours < 24 then some (hours * 3600 + (10 * tens + ones) * 60, rest) else none
        | _, _ => none
      | _ => none
    | _, _ => none
  | _ => none

/-- The offset from UTC in seconds: `Z`, `UTC`, or a sign with hours and minutes. -/
def readOffset? (text : List Char) : Option (Int × List Char) :=
  match text with
  | first :: second :: third :: rest =>
    if first.toUpper = 'U' ∧ second.toUpper = 'T' ∧ third.toUpper = 'C' then some (0, rest)
    else signed (first :: second :: third :: rest)
  | text => signed text
where
  signed : List Char → Option (Int × List Char)
    | [] => none
    | sign :: rest =>
      if sign = 'Z' ∨ sign = 'z' then some (0, rest)
      else if sign = '+' then (readOffsetSize? rest).map fun (size, rest) => ((size : Int), rest)
      else if sign = '-' ∨ sign = '−' then
        (readOffsetSize? rest).map fun (size, rest) => (-(size : Int), rest)
      else none

/-- The instant of a date and time of day at an offset from UTC, if they exist. The second 60 is a leap
second after the 59th. -/
def Instant.ofParts? (date : Date) (hour minute second nanoseconds : Nat) (offset : Int) :
    Option Instant :=
  if date.isValid ∧ -262143 ≤ date.year ∧ date.year ≤ 262142 ∧ hour < 24 ∧ minute < 60 ∧
      second ≤ 60 then
    let seconds := date.toDays * 86400 + hour * 3600 + minute * 60 + min second 59 - offset
    if isRepresentable seconds then
      some { seconds, nanoseconds := if second = 60 then 1000000000 + nanoseconds else nanoseconds }
    else none
  else none

def Instant.ofChars? (text : List Char) : Option Instant := do
  let (year, text) ← readYear? text
  let text ← readSeparator? '-' text
  let (month, text) ← readNumber? 2 text
  let text ← readSeparator? '-' text
  let (day, text) ← readNumber? 2 text
  let text ← match text with
    | separator :: rest =>
      if separator = 'T' ∨ separator = 't' ∨ separator = ' ' then some rest else none
    | [] => none
  let (hour, text) ← readNumber? 2 text
  let text ← readSeparator? ':' text
  let (minute, text) ← readNumber? 2 text
  let text ← readSeparator? ':' text
  let (second, text) ← readNumber? 2 text
  let (nanoseconds, text) ← readFraction? text
  let (offset, text) ← readOffset? (text.dropWhile Text.isBlank)
  if text.all Text.isBlank then
    ofParts? { year, month, day } hour minute second nanoseconds offset
  else none

def Instant.ofText? (text : String) : Option Instant :=
  Instant.ofChars? text.toList

end Time
end TokenAuthority
