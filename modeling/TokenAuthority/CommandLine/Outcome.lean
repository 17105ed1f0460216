import TokenAuthority.CommandLine.Options

/-!
# Outcomes of a command line

What a command line prints, and the code with which it ends: 0 after success, 1 after a failure or a
denial, 2 after misuse, 101 where the program breaks off. A failure is reported with its causes, one a
line and indented; the lines of a cause that has several stay aligned.
-/

namespace TokenAuthority
namespace CommandLine

/-- What a command line prints, and the code with which it ends. -/
structure Outcome where
  code : Nat := 0
  output : String := ""
  errors : String := ""
deriving DecidableEq, Repr

/-- A text in which every line but the first is indented. -/
def alignLines (indent text : String) : String :=
  ("\n" ++ indent).intercalate (Text.splitAll '\n' text)

/-- The causes of a failure. They are numbered if there are several. -/
def causeLines : List String → List String
  | [] => []
  | [cause] => ["    " ++ alignLines "    " cause]
  | causes => causes.zipIdx.map fun (cause, number) =>
    let number := toString number
    let indent := String.ofList (List.replicate (5 - number.length) ' ')
    indent ++ number ++ ": " ++ alignLines "       " cause

/-- The report of a failure: its sentence, and its causes. -/
def report (failure : String) (causes : List String) : String :=
  let heading := "Error: " ++ failure
  let lines := match causes with
    | [] => [heading]
    | causes => [heading, "", "Caused by:"] ++ causeLines causes
  "\n".intercalate lines ++ "\n"

def usage : String :=
  "Usage: radar-authctl [--config FILE] [--json-logs] COMMAND\n\n" ++
    "Commands:\n" ++
    "  jwks     Print the published key set\n" ++
    "  mint     Grant an access and a refresh token\n" ++
    "  inspect  Verify a token and print its claims\n" ++
    "  check    Check a permission against an access token\n"

def versionLine : String := "radar-authctl 0.1.0\n"

namespace Outcome

/-- The outcome of words that are not carried out as a command. -/
def ofStop : Stop → Outcome
  | .misuse => { code := 2, errors := usage }
  | .help => { output := usage }
  | .version => { output := versionLine }

/-- The outcome where the program breaks off, with the sentence that says why. -/
def brokenOff (cause : String) : Outcome :=
  { code := 101, errors := cause ++ "\n" }

/-- The outcome of a failure: a sentence, and those of its causes. -/
def ofFailure : List String → Outcome
  | [] => { code := 1 }
  | failure :: causes => { code := 1, errors := report failure causes }

end Outcome
end CommandLine
end TokenAuthority
