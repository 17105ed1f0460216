import TokenAuthority.Text.Split

/-!
# Options and operands

How the words of a command line are taken apart. An option is a word after two hyphens, or a letter
after one; its value is joined to it or is the next word, which then must not look like an option. After
two hyphens alone, every word is an operand. An option that takes no value, and one that is not meant to
be repeated, may stand once.
-/

namespace TokenAuthority
namespace CommandLine

/-- Why the words are not carried out as a command. -/
inductive Stop where
  | misuse
  /-- Asked for a description of the command line. -/
  | help
  | version
deriving DecidableEq, Repr

/-- What an option does. -/
inductive OptionKind where
  | flag
  | value
  /-- A value that must not be empty. -/
  | filledValue
  | values
  | stop (stop : Stop)
deriving DecidableEq, Repr

/-- An option that is known. -/
structure OptionRule where
  name : String
  letter : Option Char := none
  kind : OptionKind := .value
deriving DecidableEq, Repr

/-- The words that have been taken apart. -/
structure Words where
  /-- An option that still lacks its value. -/
  pending : Option OptionRule := none
  /-- Every further word is an operand. -/
  onlyOperands : Bool := false
  options : List (String × String) := []
  operands : List String := []
deriving Repr, Inhabited

namespace Words

/-- The values of an option, in order. -/
def values (words : Words) (name : String) : List String :=
  (words.options.filter fun (other, _) => other == name).map Prod.snd

def value? (words : Words) (name : String) : Option String :=
  (words.values name).head?

def has (words : Words) (name : String) : Bool :=
  (words.value? name).isSome

/-- Adds an option with its value; a flag has an empty one. -/
def add (words : Words) (rule : OptionRule) (value : String) : Except Stop Words :=
  if rule.kind = .filledValue ∧ value.isEmpty then .error .misuse
  else if words.has rule.name ∧ rule.kind ≠ .values then .error .misuse
  else .ok { words with pending := none, options := words.options ++ [(rule.name, value)] }

/-- Takes the name of an option, and the value that is joined to it. -/
def takeName (rules : List OptionRule) (words : Words) (name : String) (value : Option String) :
    Except Stop Words :=
  match rules.find? fun rule => rule.name == name with
  | none => .error .misuse
  | some rule =>
    match rule.kind, value with
    | .stop stop, none => .error stop
    | .stop _, some _ => .error .misuse
    | .flag, none => words.add rule ""
    | .flag, some _ => .error .misuse
    | _, none => .ok { words with pending := some rule }
    | _, some value => words.add rule value

/-- Takes the letters of options. What follows the letter of an option with a value is the value. -/
def takeLetters (rules : List OptionRule) (words : Words) : List Char → Except Stop Words
  | [] => .ok words
  | letter :: rest =>
    match rules.find? fun rule => rule.letter == some letter with
    | none => .error .misuse
    | some rule =>
      match rule.kind with
      | .stop stop => .error stop
      | .flag => do takeLetters rules (← words.add rule "") rest
      | _ =>
        match rest with
        | [] => .ok { words with pending := some rule }
        | '=' :: value => words.add rule (String.ofList value)
        | value => words.add rule (String.ofList value)

/-- A word that looks like an option. -/
def looksLikeOption (word : String) : Bool :=
  match word.toList with
  | '-' :: _ :: _ => true
  | _ => false

/-- Takes one word. -/
def take (rules : List OptionRule) (words : Words) (word : String) : Except Stop Words :=
  match words.pending with
  | some rule => if looksLikeOption word then .error .misuse else words.add rule word
  | none =>
    if words.onlyOperands then .ok { words with operands := words.operands ++ [word] }
    else
      match word.toList with
      | ['-', '-'] => .ok { words with onlyOperands := true }
      | '-' :: '-' :: characters =>
        match Text.splitFirstChars? '=' characters with
        | some (name, value) =>
          words.takeName rules (String.ofList name) (some (String.ofList value))
        | none => words.takeName rules (String.ofList characters) none
      | '-' :: letter :: letters => words.takeLetters rules (letter :: letters)
      | _ => .ok { words with operands := words.operands ++ [word] }

/-- No option lacks its value. -/
def complete (words : Words) : Except Stop Words :=
  if words.pending.isSome then .error .misuse else .ok words

/-- Takes all words. -/
def ofArguments (rules : List OptionRule) (arguments : List String) : Except Stop Words := do
  (← arguments.foldlM (take rules) {}).complete

/-- Takes the words up to the first operand, which names a command, and gives what follows it. -/
def upToCommand (rules : List OptionRule) (words : Words) :
    List String → Except Stop (Words × String × List String)
  | [] => .error .misuse
  | word :: rest =>
    if words.pending.isNone ∧ !words.onlyOperands ∧ !looksLikeOption word then .ok (words, word, rest)
    else
      match words.take rules word with
      | .error stop => .error stop
      | .ok words => upToCommand rules words rest

end Words
end CommandLine
end TokenAuthority
