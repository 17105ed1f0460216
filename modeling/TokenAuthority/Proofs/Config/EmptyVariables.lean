import TokenAuthority.Proofs.Config.Layering

/-!
# Empty variables

A variable that is set to the empty text states nothing: lists, numbers and texts are read as if it were not
set.  The one reader that disagrees is that of secrets, which takes an empty variable for an empty secret.  So
an empty variable for the password hides the password that a weaker source states, unless a file is named for
the password, and the outcome differs exactly where there is something to hide.

The readers are compared on two environments that differ in one variable.  From there on only the outcome
counts: what sources resolve to is determined by the first error among them or by the settings that they state.
-/

namespace TokenAuthority
namespace Config

/-- The layer with another password. -/
def Layer.withPassword (password : Secret) (layer : Layer) : Layer :=
  { layer with keystore := some { layer.keystore.getD {} with password := some password } }

/-- The settings with another password. -/
def Settings.withPassword (settings : Settings) (password : Secret) : Settings :=
  { settings with keystore := { settings.keystore with password } }

namespace Environment

/-- The variables but for one, which is not set. -/
def without (environment : Environment) (name : String) : Environment :=
  environment.filter fun (other, _) => other != name

/-- The variables, one of which is set to a value. -/
def assign (environment : Environment) (name value : String) : Environment :=
  (name, value) :: environment.without name

/-- The variable of a setting. -/
def variableOf (start setting : String) : String :=
  start ++ "_" ++ setting

theorem variableOf_inj {start setting other : String} :
    variableOf start setting = variableOf start other ↔ setting = other := by
  refine ⟨fun same => ?_, fun same => by rw [same]⟩
  have characters := congrArg String.toList same
  simp only [variableOf, String.toList_append] at characters
  exact String.toList_inj.mp (List.append_cancel_left characters)

theorem fileVariable_variableOf (start setting : String) :
    fileVariable (variableOf start setting) = variableOf start (setting ++ "_FILE") := by
  rw [fileVariable, variableOf, variableOf, String.append_assoc]

/-- A variable is empty in one environment and not set in another, which is the same otherwise. -/
structure DifferInEmpty (full bare : Environment) (name : String) : Prop where
  empty : full.get? name = some ""
  unset : bare.get? name = none
  others : ∀ other, other ≠ name → full.get? other = bare.get? other

theorem get?_without_self (environment : Environment) (name : String) :
    (environment.without name).get? name = none := by
  rw [get?, without, Option.map_eq_none_iff, List.find?_filter, List.find?_eq_none]
  rintro ⟨other, value⟩ _ both
  rcases of_decide_eq_true both with ⟨different, same⟩
  exact ne_of_beq_false (Bool.not_eq_true' _ ▸ different) (eq_of_beq same)

theorem get?_without_of_ne (environment : Environment) {name other : String} (different : other ≠ name) :
    (environment.without name).get? other = environment.get? other := by
  rw [get?, without, List.find?_filter, get?]
  congr 2
  funext ⟨entry, value⟩
  by_cases same : entry = other <;> simp [same, different]

theorem differInEmpty (environment : Environment) (name : String) :
    DifferInEmpty (environment.assign name "") (environment.without name) name where
  empty := by simp [get?, assign]
  unset := get?_without_self environment name
  others := by
    intro other different
    have passed : (name == other) = false := beq_false_of_ne (Ne.symm different)
    simp only [get?, assign, List.find?_cons, passed]

section

variable {full bare : Environment} {name : String} (differ : DifferInEmpty full bare name)

include differ

/-- A variable that is empty is not set, for all who read a text. -/
theorem DifferInEmpty.text?_eq (other : String) : full.text? other = bare.text? other := by
  by_cases same : other = name
  · rw [same, text?, text?, differ.empty, differ.unset]
    rfl
  · rw [text?, text?, differ.others other same]

theorem DifferInEmpty.list?_eq (other : String) : full.list? other = bare.list? other := by
  rw [list?, list?, differ.text?_eq]

theorem DifferInEmpty.number?_eq (other : String) : full.number? other = bare.number? other := by
  rw [number?, number?, differ.text?_eq]

/-- Only a secret that is asked for in the variable itself can tell the two apart. -/
theorem DifferInEmpty.secret?_eq_of_ne {other : String} (different : other ≠ name)
    (notFile : fileVariable other ≠ name) (files : Files.Tree) :
    full.secret? files other = bare.secret? files other := by
  rw [secret?, secret?, differ.others other different, differ.others _ notFile]

/-- With a file named for it, a secret is not asked for in the variable. -/
theorem DifferInEmpty.secret?_eq_of_file {other path : String} (notFile : fileVariable other ≠ name)
    (named : bare.get? (fileVariable other) = some path) (files : Files.Tree) :
    full.secret? files other = bare.secret? files other := by
  rw [secret?, secret?, differ.others _ notFile, named]

/-- The layer that variables state depends on them through their readers. -/
theorem DifferInEmpty.layer_eq {files : Files.Tree} {start : String}
    (secret : full.secret? files (variableOf start "KEYSTORE_PASSWORD") =
      bare.secret? files (variableOf start "KEYSTORE_PASSWORD")) :
    full.layer files start = bare.layer files start := by
  unfold variableOf at secret
  simp only [layer, differ.list?_eq, differ.text?_eq, differ.number?_eq, secret]

end

/-- The empty variable of the password states the empty password, where its absence states none. -/
theorem DifferInEmpty.layer_eq_map {full bare : Environment} {start : String}
    (differ : DifferInEmpty full bare (variableOf start "KEYSTORE_PASSWORD"))
    (noFile : bare.get? (variableOf start "KEYSTORE_PASSWORD_FILE") = none) (files : Files.Tree) :
    full.layer files start = (bare.layer files start).map (Layer.withPassword ⟨""⟩) := by
  have notItself : variableOf start "KEYSTORE_PASSWORD_FILE" ≠ variableOf start "KEYSTORE_PASSWORD" :=
    fun same => absurd (variableOf_inj.mp same) (by decide)
  have fileVariable := fileVariable_variableOf start "KEYSTORE_PASSWORD"
  have emptySecret : full.secret? files (variableOf start "KEYSTORE_PASSWORD") = .ok (some ⟨""⟩) := by
    rw [secret?, fileVariable]
    simp [differ.others _ notItself, noFile, differ.empty]
  have noSecret : bare.secret? files (variableOf start "KEYSTORE_PASSWORD") = .ok none := by
    rw [secret?, fileVariable]
    simp [noFile, differ.unset]
  unfold variableOf at emptySecret noSecret
  simp only [layer, differ.list?_eq, differ.text?_eq, differ.number?_eq, emptySecret, noSecret,
    Except.mapError, bind, Except.bind]
  -- a number that cannot be read fails on both sides, before the layer is made
  cases bare.number? (start ++ "_" ++ "TOKEN_ACCESS_VALIDITY_SECS") with
  | error error => rfl
  | ok access =>
      cases bare.number? (start ++ "_" ++ "TOKEN_REFRESH_VALIDITY_SECS") with
      | error error => rfl
      | ok refresh =>
          cases bare.number? (start ++ "_" ++ "TOKEN_LEEWAY_SECS") with
          | error error => rfl
          | ok leeway => simp only [pure, Except.pure, Except.map, Layer.withPassword, Option.getD_some]

end Environment

namespace Source

/-! ## One source among others -/

section

variable {α : Type} {setting : Layer → Option α} {source other : Source}
  {sources lower upper before after : List Source}

theorem resolve_of_firstError? {error : ConfigError} (fails : firstError? (byRank sources) = some error) :
    resolve sources = .error error := by
  rw [resolve, ordered_eq_byRank, layered_of_firstError? fails]

theorem resolve_of_loads (loads : firstError? (byRank sources) = none) :
    resolve sources = unlessFault (stated (byRank sources)).fault? (stated (byRank sources)) := by
  rcases exists_layered loads {} with ⟨layer, success⟩
  rw [resolve, ordered_eq_byRank, success, ← settings_layered success]
  exact layer.resolve_eq_unlessFault

/-- What is laid over a source of the environment: those of its rank that are given after it. -/
def above (after : List Source) : List Source :=
  after.filter fun source => source.rank = .environment

/-- What a source of the environment is laid over. -/
def below (before after : List Source) : List Source :=
  (before ++ after).filter (fun source => source.rank = .defaults) ++
    ((before ++ after).filter (fun source => source.rank = .file) ++
      before.filter fun source => source.rank = .environment)

theorem byRank_append_cons (strongest : source.rank = .environment) :
    byRank (before ++ source :: after) = below before after ++ source :: above after := by
  simp [byRank_eq, below, above, strongest, List.filter_append, List.append_assoc]

theorem lastStated?_append_cons :
    lastStated? setting (lower ++ source :: upper) =
      (lastStated? setting upper).or ((stated? setting source).or (lastStated? setting lower)) := by
  induction lower with
  | nil =>
      have nothing : lastStated? setting ([] : List Source) = none := rfl
      rw [List.nil_append, lastStated?_cons, nothing, Option.or_none]
  | cons first lower ih =>
      rw [List.cons_append, lastStated?_cons, ih, lastStated?_cons, Option.or_assoc, Option.or_assoc]

theorem firstError?_append_cons (same : error? source = error? other) :
    firstError? (lower ++ source :: upper) = firstError? (lower ++ other :: upper) := by
  simp only [firstError?, List.filterMap_append, List.filterMap_cons, same]

theorem lastStated?_congr (same : stated? setting source = stated? setting other) :
    lastStated? setting (lower ++ source :: upper) = lastStated? setting (lower ++ other :: upper) := by
  rw [lastStated?_append_cons, lastStated?_append_cons, same]

end

theorem password_stated (sources : List Source) :
    (stated sources).keystore.password = (lastStated? Layer.password? sources).getD ⟨""⟩ :=
  rfl

/-- A source like another, but that it states the password to be empty. -/
structure HidesPassword (full bare : Source) : Prop where
  rank : full.rank = bare.rank
  layer : full.layer = bare.layer.map (Layer.withPassword ⟨""⟩)

section

variable {full bare : Source} (hides : HidesPassword full bare)

include hides

theorem HidesPassword.error?_eq : error? full = error? bare := by
  rw [error?, error?, hides.layer]
  cases bare.layer <;> rfl

theorem HidesPassword.stated?_eq {α : Type} {setting : Layer → Option α}
    (untouched : ∀ layer, setting (Layer.withPassword ⟨""⟩ layer) = setting layer) :
    stated? setting full = stated? setting bare := by
  rw [stated?, stated?, hides.layer]
  cases bare.layer with
  | error error => rfl
  | ok layer => exact untouched layer

theorem HidesPassword.stated?_password (loads : error? bare = none) :
    stated? Layer.password? full = some ⟨""⟩ := by
  rw [error?] at loads
  rw [stated?, hides.layer]
  cases loaded : bare.layer with
  | error error =>
      rw [loaded] at loads
      cases loads
  | ok layer => rfl

/-- All settings are stated as before, but for the password, which is empty if no source above states it. -/
theorem HidesPassword.stated_eq (loads : error? bare = none) (lower upper : List Source) :
    stated (lower ++ full :: upper) =
      (stated (lower ++ bare :: upper)).withPassword ((lastStated? Layer.password? upper).getD ⟨""⟩) := by
  have kept : ∀ {α : Type} (setting : Layer → Option α),
      (∀ layer, setting (Layer.withPassword ⟨""⟩ layer) = setting layer) →
      lastStated? setting (lower ++ full :: upper) = lastStated? setting (lower ++ bare :: upper) :=
    fun setting untouched => lastStated?_congr (hides.stated?_eq untouched)
  have ofKeystore : ∀ {α : Type} (setting : KeystoreLayer → Option α),
      (∀ layer : KeystoreLayer, setting { layer with password := some ⟨""⟩ } = setting layer) →
      setting {} = none → ∀ layer : Layer,
      (Layer.withPassword ⟨""⟩ layer).keystore.bind setting = layer.keystore.bind setting := by
    intro α setting untouched nothing layer
    rw [Layer.withPassword, Option.bind_some, untouched]
    cases layer.keystore with
    | none => exact nothing
    | some keystore => rfl
  have password : (lastStated? Layer.password? (lower ++ full :: upper)).getD ⟨""⟩ =
      (lastStated? Layer.password? upper).getD ⟨""⟩ := by
    rw [lastStated?_append_cons, hides.stated?_password loads]
    cases lastStated? Layer.password? upper <;> rfl
  rw [stated, password, kept Layer.locations? (ofKeystore _ (fun _ => rfl) rfl),
    kept Layer.signingAlias? (ofKeystore _ (fun _ => rfl) rfl),
    kept Layer.checkingAliases? (ofKeystore _ (fun _ => rfl) rfl), kept Layer.issuer? fun _ => rfl,
    kept Layer.resource? fun _ => rfl, kept Layer.accessValidity? fun _ => rfl,
    kept Layer.refreshValidity? fun _ => rfl, kept Layer.leeway? fun _ => rfl,
    kept Layer.level? fun _ => rfl]
  rfl

/-- The outcome is the same exactly if a source cannot be loaded, if a source above states the password, or if
there is no password to hide. -/
theorem HidesPassword.resolve_eq_iff (strongest : bare.rank = .environment) (before after : List Source) :
    resolve (before ++ full :: after) = resolve (before ++ bare :: after) ↔
      (firstError? (byRank (before ++ bare :: after))).isSome ∨
        (lastStated? Layer.password? (above after)).isSome ∨
        (stated (byRank (before ++ bare :: after))).keystore.password = ⟨""⟩ := by
  have alsoStrongest := hides.rank.trans strongest
  have sameErrors : firstError? (byRank (before ++ full :: after)) =
      firstError? (byRank (before ++ bare :: after)) := by
    rw [byRank_append_cons strongest, byRank_append_cons alsoStrongest]
    exact firstError?_append_cons hides.error?_eq
  cases fails : firstError? (byRank (before ++ bare :: after)) with
  | some error =>
      refine iff_of_true ?_ (Or.inl rfl)
      rw [resolve_of_firstError? fails, resolve_of_firstError? (sameErrors.trans fails)]
  | none =>
      have loads : error? bare = none := by
        rw [byRank_append_cons strongest, firstError?, List.head?_eq_none_iff,
          List.filterMap_eq_nil_iff] at fails
        exact fails bare (List.mem_append_right _ List.mem_cons_self)
      have given := hides.stated_eq loads (below before after) (above after)
      rw [← byRank_append_cons strongest, ← byRank_append_cons alsoStrongest] at given
      have same : (lastStated? Layer.password? (above after)).getD ⟨""⟩ =
            (stated (byRank (before ++ bare :: after))).keystore.password →
          resolve (before ++ full :: after) = resolve (before ++ bare :: after) := by
        intro samePassword
        rw [samePassword] at given
        rw [resolve_of_loads fails, resolve_of_loads (sameErrors.trans fails), given]
        rfl
      cases stronger : lastStated? Layer.password? (above after) with
      | some password =>
          rw [stronger] at same
          refine iff_of_true (same ?_) (Or.inr (Or.inl rfl))
          rw [password_stated, byRank_append_cons strongest, lastStated?_append_cons, stronger]
          rfl
      | none =>
          rw [stronger] at given same
          simp only [Option.isSome_none, Bool.false_eq_true, false_or]
          refine ⟨fun equal => ?_, fun empty => same empty.symm⟩
          rw [← Settings.fault?_eq_passwordMissing_iff, ← unlessFault_eq_error_iff, ← resolve_of_loads fails,
            ← equal, resolve_of_loads (sameErrors.trans fails), unlessFault_eq_error_iff,
            Settings.fault?_eq_passwordMissing_iff, given]
          rfl

end

/-- Of any variable that states a setting, but for the one that names a file, the empty value has the outcome
that its absence has.  The password is the exception: there the outcome is the same exactly if a file is named
for the password, if a source cannot be loaded, if a source above states the password, or if without the variable
there is no password either. -/
theorem resolve_assign_empty_iff (before after : List Source) (files : Files.Tree) (environment : Environment)
    (start setting : String) (noFile : setting ≠ "KEYSTORE_PASSWORD_FILE") :
    let name := Environment.variableOf start setting
    let bare := before ++ ofEnvironment files (environment.without name) start :: after
    resolve (before ++ ofEnvironment files (environment.assign name "") start :: after) = resolve bare ↔
      (setting = "KEYSTORE_PASSWORD" →
        (environment.get? (Environment.fileVariable name)).isSome ∨
          (firstError? (byRank bare)).isSome ∨
          (lastStated? Layer.password? (above after)).isSome ∨
          (stated (byRank bare)).keystore.password = ⟨""⟩) := by
  intro name bare
  have differ := Environment.differInEmpty environment name
  have sameLayer : ∀ {full : Except ConfigError Layer},
      full = (environment.without name).layer files start →
      resolve (before ++ ⟨.environment, full⟩ :: after) = resolve bare := by
    rintro full rfl
    rfl
  have otherFile : Environment.fileVariable (Environment.variableOf start "KEYSTORE_PASSWORD") ≠ name := by
    rw [Environment.fileVariable_variableOf]
    exact fun same => noFile (Environment.variableOf_inj.mp same).symm
  by_cases isPassword : setting = "KEYSTORE_PASSWORD"
  · subst isPassword
    rw [← Environment.get?_without_of_ne environment otherFile]
    cases named : (environment.without name).get? (Environment.fileVariable name) with
    | some path =>
        exact iff_of_true (sameLayer (differ.layer_eq (differ.secret?_eq_of_file otherFile named files)))
          fun _ => Or.inl rfl
    | none =>
        rw [Environment.fileVariable_variableOf] at named
        have hides : HidesPassword (ofEnvironment files (environment.assign name "") start)
            (ofEnvironment files (environment.without name) start) := ⟨rfl, differ.layer_eq_map named files⟩
        rw [hides.resolve_eq_iff rfl before after]
        simp only [Option.isSome_none, Bool.false_eq_true, false_or, forall_const, bare]
  · refine iff_of_true (sameLayer (differ.layer_eq (differ.secret?_eq_of_ne ?_ otherFile files))) ?_
    · exact fun same => isPassword (Environment.variableOf_inj.mp same).symm
    · exact fun same => absurd same isPassword

/-- A configuration file that states a password and the alias that signs. -/
def passwordFiles : Files.Tree where
  root := .directory
    [("auth.toml", .file
      "[keystore]\npassword = \"secret\"\nsigning_key_alias = \"main\"\n".toUTF8.data.toList)]

/-- What the file states. -/
def passwordLayer : Layer where
  keystore := some { password := some ⟨"secret"⟩, signingAlias := some "main" }

/-- The settings that the file states. -/
def passwordSettings : Settings where
  keystore := ⟨["config/keystore", "/etc/radar/keystore"], ⟨"secret"⟩, "main", []⟩
  token := {}
  logging := {}

theorem eq_mk_of_toOption_layer {source : Source} {rank : Rank} {layer : Layer} (ranked : source.rank = rank)
    (states : source.layer.toOption = some layer) : source = ⟨rank, .ok layer⟩ := by
  rcases source with ⟨_, error | loaded⟩
  · cases states
  · cases ranked
    cases states
    rfl

theorem ofFile_passwordFiles : ofFile passwordFiles "auth.toml" = ⟨.file, .ok passwordLayer⟩ :=
  eq_mk_of_toOption_layer rfl (by decide +kernel)

theorem load_passwordFiles : load passwordFiles [] "auth.toml" = .ok passwordSettings := by
  rw [load, ofFile_passwordFiles, resolve, ordered_eq_byRank]
  rfl

/-- An empty variable for the alias leaves the one of the file in force. -/
theorem resolve_assign_empty_iff_signingAlias :
    "KEYSTORE_SIGNING_KEY_ALIAS" ≠ "KEYSTORE_PASSWORD_FILE" ∧
      load passwordFiles [("RADAR_AUTH_KEYSTORE_SIGNING_KEY_ALIAS", "")] "auth.toml" =
        .ok passwordSettings := by
  refine ⟨by decide, ?_⟩
  rw [← load_passwordFiles]
  exact (resolve_assign_empty_iff [.defaults, ofFile passwordFiles "auth.toml"] [] passwordFiles [] "RADAR_AUTH"
    "KEYSTORE_SIGNING_KEY_ALIAS" (by decide)).mpr (fun same => absurd same (by decide))

/-- An empty variable for the password hides the one of the file. -/
theorem exists_load_assign_empty_ne :
    ∃ (files : Files.Tree) (environment : Environment) (path : String),
      load files (environment.assign "RADAR_AUTH_KEYSTORE_PASSWORD" "") path =
          .error (.invalid .passwordMissing) ∧
        load files (environment.without "RADAR_AUTH_KEYSTORE_PASSWORD") path = .ok passwordSettings := by
  refine ⟨passwordFiles, [], "auth.toml", ?_, load_passwordFiles⟩
  rw [load, ofFile_passwordFiles, resolve, ordered_eq_byRank]
  rfl

end Source
end Config
end TokenAuthority
