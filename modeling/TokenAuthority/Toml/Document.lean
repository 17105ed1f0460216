import TokenAuthority.Json.Basic
import TokenAuthority.Toml.Lexical

/-!
# TOML documents

A document is a table of keys. A line sets a key of the current table or opens another table, and no key
may be set twice. How a table came into being decides what may still be added to it: a table opened by a
header or written in braces is complete, one that only lies on the path of a header may get a header of
its own, and one that lies on the path of a key takes further keys of the same kind.

The result is given as a JSON document, in which a date is an object with a name of its own.
-/

namespace TokenAuthority
namespace Toml

/-- How a table came into being. -/
inductive Origin where
  /-- By a header, or in braces. -/
  | stated
  /-- On the path of a header. -/
  | header
  /-- On the path of a key with points. -/
  | key
deriving DecidableEq, Repr

/-- What a key of a table holds. -/
inductive Entry where
  | value (value : Json)
  | table (origin : Origin) (entries : List (String × Entry))
  /-- The tables of an array of tables; headers below it go to the last one. -/
  | tables (tables : List (List (String × Entry)))
deriving Inhabited

/-- The keys of a table. -/
abbrev Entries := List (String × Entry)

/-- What a table holds under a key. -/
def find? (entries : Entries) (key : String) : Option Entry :=
  (entries.find? fun (name, _) => name == key).map Prod.snd

/-- Puts an entry under a key, in place of the present one if there is one. -/
def put (entries : Entries) (key : String) (entry : Entry) : Entries :=
  if entries.any fun (name, _) => name == key then
    entries.map fun (name, present) => if name == key then (name, entry) else (name, present)
  else entries ++ [(key, entry)]

/-- Changes the table at a path, and makes the tables on the way that do not exist. With `dotted` the
path belongs to a key, which may not go through stated tables. -/
def change? {α : Type} (dotted : Bool) (edit : Origin → Entries → Option (α × Entries)) :
    List String → Origin → Entries → Option (α × Entries)
  | [], origin, entries => edit origin entries
  | key :: path, _, entries =>
    match find? entries key with
    | none =>
      let origin := if dotted then Origin.key else Origin.header
      (change? dotted edit path origin []).map fun (result, inner) =>
        (result, put entries key (.table origin inner))
    | some (.value _) => none
    | some (.table origin inner) =>
      if dotted && origin = .stated then none
      else
        (change? dotted edit path origin inner).map fun (result, inner) =>
          (result, put entries key (.table origin inner))
    | some (.tables tables) =>
      match tables.getLast? with
      | none => none
      | some last =>
        (change? dotted edit path .stated last).map fun (result, inner) =>
          (result, put entries key (.tables (tables.dropLast ++ [inner])))

/-- Sets a key that must be new. The table that gets it must itself lie on the path of a key exactly
when the key has a path. -/
def setKey? (entries : Entries) (names : List String) (value : Json) : Option Entries :=
  match names.getLast? with
  | none => none
  | some name =>
    let path := names.dropLast
    (change? true (fun origin entries =>
      if (origin = .key) = (path ≠ []) ∧ (find? entries name).isNone then
        some ((), entries ++ [(name, .value value)])
      else none) path .stated entries).map Prod.snd

mutual

def Entry.toJson : Entry → Json
  | .value value => value
  | .table _ entries => .object (membersOf entries)
  | .tables tables => .array (tablesOf tables)

def membersOf : List (String × Entry) → List (String × Json)
  | [] => []
  | (name, entry) :: entries => (name, entry.toJson) :: membersOf entries

def tablesOf : List (List (String × Entry)) → List Json
  | [] => []
  | entries :: tables => .object (membersOf entries) :: tablesOf tables

end

/-- The name under which a date stands in a document. -/
def dateName : String := "$__toml_private_datetime"

/-- A date, given by its characters. -/
def dateJson (text : List Char) : Json :=
  .object [(dateName, .string (String.ofList text))]

/-- The characters in front of a rest. -/
def before (text rest : List Char) : List Char :=
  text.take (text.length - rest.length)

/-- A number, a date or a time. -/
def readNumeric? (text : List Char) : Option (Json × List Char) :=
  match readDateTime? text with
  | some rest => some (dateJson (before text rest), rest)
  | none =>
    match readReal? text with
    | some rest => some (.real 0, rest)
    | none => (readInteger? text).map fun (value, rest) => (.integer value, rest)

mutual

/-- A value. The depth counts the arrays and braces around it. -/
def readValue? : (fuel depth : Nat) → List Char → Option (Json × List Char)
  | 0, _, _ => none
  | fuel + 1, depth, text =>
    match text with
    | '"' :: _ => (readString? text).map fun (value, rest) => (.string value, rest)
    | '\'' :: _ => (readString? text).map fun (value, rest) => (.string value, rest)
    | '[' :: rest =>
      if depth + 1 < depthLimit then
        (readItems? fuel (depth + 1) rest).map fun (values, rest) => (.array values, rest)
      else none
    | '{' :: rest =>
      if depth + 1 < depthLimit then
        match skipBlanks rest with
        | '}' :: rest => some (.object [], rest)
        | rest =>
          (readPairs? fuel (depth + 1) [] rest).map fun (entries, rest) =>
            (.object (membersOf entries), rest)
      else none
    | 't' :: 'r' :: 'u' :: 'e' :: rest => some (.bool true, rest)
    | 'f' :: 'a' :: 'l' :: 's' :: 'e' :: rest => some (.bool false, rest)
    | text => readNumeric? text

/-- The items of an array and the bracket after them; a comma may stand after the last one. -/
def readItems? : (fuel depth : Nat) → List Char → Option (List Json × List Char)
  | 0, _, _ => none
  | fuel + 1, depth, text =>
    match skipLines? (text.length + 1) text with
    | none => none
    | some (']' :: rest) => some ([], rest)
    | some text =>
      match readValue? fuel depth text with
      | none => none
      | some (value, rest) =>
        match skipLines? (rest.length + 1) rest with
        | some (']' :: rest) => some ([value], rest)
        | some (',' :: rest) =>
          (readItems? fuel depth rest).map fun (values, rest) => (value :: values, rest)
        | _ => none

/-- The keys and values of a table in braces, after those in `entries`, and the brace after them. -/
def readPairs? : (fuel depth : Nat) → Entries → List Char → Option (Entries × List Char)
  | 0, _, _, _ => none
  | fuel + 1, depth, entries, text =>
    match readKey? text with
    | some (names, '=' :: rest) =>
      match readValue? fuel depth (skipBlanks rest) with
      | none => none
      | some (value, rest) =>
        match setKey? entries names value with
        | none => none
        | some entries =>
          match skipBlanks rest with
          | '}' :: rest => some (entries, rest)
          | ',' :: rest => readPairs? fuel depth entries rest
          | _ => none
    | _ => none

end

/-- The table that lines currently add to. -/
structure Section where
  /-- Its path; the document itself has none. -/
  path : List String := []
  /-- It becomes a further table of an array of tables. -/
  isItem : Bool := false
  entries : Entries := []

/-- Puts a section that is complete into the document. -/
def close? (document : Entries) (current : Section) : Option Entries :=
  match current.path.getLast? with
  | none => some current.entries
  | some name =>
    (change? false (fun _ entries =>
      if current.isItem then
        match find? entries name with
        | none => some ((), put entries name (.tables [current.entries]))
        | some (.tables tables) => some ((), put entries name (.tables (tables ++ [current.entries])))
        | some _ => none
      else some ((), put entries name (.table .stated current.entries)))
      current.path.dropLast .stated document).map Prod.snd

/-- The section that a header opens, with the document without it. -/
def openTable? (document : Entries) (path : List String) : Option (Section × Entries) :=
  match path.getLast? with
  | none => none
  | some name =>
    change? false (fun _ entries =>
      match find? entries name with
      | none => some ({ path }, entries)
      | some (.table .header inner) =>
        some ({ path, entries := inner }, entries.filter fun (other, _) => other != name)
      | some _ => none) path.dropLast .stated document

/-- The section that the header of an array of tables opens. -/
def openItem? (document : Entries) (path : List String) : Option (Section × Entries) :=
  match path.getLast? with
  | none => none
  | some name =>
    change? false (fun _ entries =>
      match find? entries name with
      | none => some ({ path, isItem := true }, put entries name (.tables []))
      | some (.tables _) => some ({ path, isItem := true }, entries)
      | some _ => none) path.dropLast .stated document

/-- The path of a header after its opening brackets, and the characters after the closing ones. -/
def readHeader? (brackets : Nat) (text : List Char) : Option (List String × List Char) :=
  (readKey? text).bind fun (path, rest) =>
    if rest.take brackets = List.replicate brackets ']' then some (path, rest.drop brackets) else none

/-- The document that lines state, given the tables that are complete and the one that is not. -/
def readLines? : (fuel : Nat) → Entries → Section → List Char → Option Entries
  | 0, _, _, _ => none
  | fuel + 1, document, current, text =>
    match skipBlanks text with
    | [] => close? document current
    | '[' :: '[' :: rest => do
      let document ← close? document current
      let (path, rest) ← readHeader? 2 rest
      let rest ← readRestOfLine? rest
      let (current, document) ← openItem? document path
      readLines? fuel document current rest
    | '[' :: rest => do
      let document ← close? document current
      let (path, rest) ← readHeader? 1 rest
      let rest ← readRestOfLine? rest
      let (current, document) ← openTable? document path
      readLines? fuel document current rest
    | character :: rest =>
      if character = '#' ∨ character = '\n' ∨ character = '\r' then do
        let rest ← readRestOfLine? (character :: rest)
        readLines? fuel document current rest
      else
        match readKey? (character :: rest) with
        | some (names, '=' :: rest) => do
          let (value, rest) ← readValue? (rest.length + 1) 0 (skipBlanks rest)
          let rest ← readRestOfLine? rest
          let entries ← setKey? current.entries names value
          readLines? fuel document { current with entries } rest
        | _ => none

/-- The characters after a byte order mark, if there is one. -/
def skipByteOrderMark : List Char → List Char
  | character :: rest => if character.toNat = 0xfeff then rest else character :: rest
  | [] => []

/-- The document that a text states, if it states one. -/
def ofText? (text : String) : Option Json :=
  let text := skipByteOrderMark text.toList
  (readLines? (text.length + 2) [] {} text).map fun entries => .object (membersOf entries)

end Toml
end TokenAuthority
