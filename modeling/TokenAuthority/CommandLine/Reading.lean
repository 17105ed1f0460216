import TokenAuthority.CommandLine.Invocation
import TokenAuthority.Config.Source
import TokenAuthority.Keys.Store

/-!
# What a command line reads

The files on which the outcome of a command line can depend, as paths. The settings come from at most
two files. The keys come from the directories of the key stores, and a name of a key may lead further
into such a directory or out of it, so the files of the named keys are read as well.
-/

namespace TokenAuthority

/-- The paths that lead to the directories on the way along a path. -/
def Files.pathsAbove (path : String) : List String :=
  let names := Text.splitAll '/' path
  (List.range (names.length - 1)).map fun count => "/".intercalate (names.take (count + 1))

/-- A file with this name may belong to a key pair. -/
def KeyStore.isEntry (file : String) : Bool :=
  [privateEnding, publicEnding].any fun ending => (Text.dropBack? ending.toList file.toList).isSome

/-- The paths of the two halves of each key pair that is used, at each location. -/
def Config.KeystoreSettings.keyPaths (settings : Config.KeystoreSettings) : List String :=
  settings.locations.flatMap fun location =>
    (settings.signingAlias :: settings.checkingAliases).flatMap fun name =>
      [KeyStore.privateEnding, KeyStore.publicEnding].map fun ending =>
        Files.join location (name ++ ending)

namespace CommandLine

/-- The environment variables on which a command line can depend. -/
def variableNames : List String :=
  Invocation.configVariable ::
    Config.Environment.settingNames.map fun name => Config.Environment.defaultStart ++ "_" ++ name

/-- The path of the configuration file. -/
def Invocation.configPath (invocation : Invocation) : String :=
  invocation.config.getD Config.defaultPath

/-- The paths of the files from which the settings come. -/
def Invocation.settingPaths (invocation : Invocation) (environment : Config.Environment) :
    List String :=
  invocation.configPath ::
    (environment.get? (Config.Environment.defaultStart ++ "_KEYSTORE_PASSWORD_FILE")).toList

end CommandLine
end TokenAuthority
