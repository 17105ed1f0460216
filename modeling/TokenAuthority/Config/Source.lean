import TokenAuthority.Config.Environment
import TokenAuthority.Config.Settings

/-!
# Configuration sources

A source is a layer, or the reason why there is none, with a rank. Sources are laid over each other from
the lowest rank to the highest, and those of one rank in the order in which they are given. The first
one that cannot be loaded decides the outcome.
-/

namespace TokenAuthority
namespace Config

/-- How strong a source is. -/
inductive Rank where
  | defaults
  | file
  | environment
deriving DecidableEq, Repr

/-- The place of a rank among the others. -/
def Rank.weight : Rank → Nat
  | defaults => 10
  | file => 20
  | environment => 50

/-- A layer, or the reason why there is none, with its rank. -/
structure Source where
  rank : Rank
  layer : Except ConfigError Layer

namespace Source

/-- The source of the defaults, which are applied when settings are resolved. -/
def defaults : Source := ⟨.defaults, .ok {}⟩

/-- The source in a file. A file that does not exist states nothing. -/
def ofFile (files : Files.Tree) (path : String) : Source :=
  ⟨.file,
    if files.contains path then
      match files.readText path with
      | .error _ => .error (.unreadableFile path)
      | .ok text =>
        match Layer.ofToml? text with
        | some layer => .ok layer
        | none => .error (.malformedFile path)
    else .ok {}⟩

/-- The source in environment variables. -/
def ofEnvironment (files : Files.Tree) (environment : Environment) (start : String) : Source :=
  ⟨.environment, environment.layer files start⟩

/-- Sources from the lowest rank to the highest. -/
def ordered (sources : List Source) : List Source :=
  sources.mergeSort fun left right => left.rank.weight ≤ right.rank.weight

/-- Lays sources over a layer, in their order. -/
def layered (lower : Layer) : List Source → Except ConfigError Layer
  | [] => .ok lower
  | source :: sources =>
    match source.layer with
    | .error error => .error error
    | .ok layer => layered (layer.over lower) sources

/-- The settings that sources give together. -/
def resolve (sources : List Source) : Except ConfigError Settings :=
  match layered {} (ordered sources) with
  | .error error => .error error
  | .ok layer => layer.resolve

end Source

/-- Where the configuration file is by default. -/
def defaultPath : String := "/etc/radar/auth.toml"

/-- The settings from the defaults, a file and the environment. -/
def load (files : Files.Tree) (environment : Environment) (path : String) :
    Except ConfigError Settings :=
  Source.resolve [.defaults, .ofFile files path,
    .ofEnvironment files environment Environment.defaultStart]

end Config
end TokenAuthority
