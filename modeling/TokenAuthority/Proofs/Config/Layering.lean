import Mathlib.Data.List.Perm.Basic
import TokenAuthority.Config.Source
import TokenAuthority.Proofs.Config.Validity

/-!
# Settings of several sources

Sources are put in the order of their ranks, and those of one rank stay in the order in which they are given.
In this order the first source that cannot be loaded decides the outcome.  If all are loaded, every setting is
what the last source says that states it, and has its default if none does, whatever else a source states or
leaves out.

Layers are laid over each other section by section, and a section setting by setting.  One step keeps this
law for every single setting, and the law for all sources follows by induction along them.
-/

namespace TokenAuthority
namespace Config

section

variable {α : Type}

namespace Layer

/-! ## Settings of one layer -/

def locations? (layer : Layer) : Option (List String) :=
  layer.keystore.bind KeystoreLayer.locations

def password? (layer : Layer) : Option Secret :=
  layer.keystore.bind KeystoreLayer.password

def signingAlias? (layer : Layer) : Option String :=
  layer.keystore.bind KeystoreLayer.signingAlias

def checkingAliases? (layer : Layer) : Option (List String) :=
  layer.keystore.bind KeystoreLayer.checkingAliases

def issuer? (layer : Layer) : Option String :=
  layer.token.bind TokenLayer.issuer

def resource? (layer : Layer) : Option String :=
  layer.token.bind TokenLayer.resource

def accessValidity? (layer : Layer) : Option UInt64 :=
  layer.token.bind TokenLayer.accessValidity

def refreshValidity? (layer : Layer) : Option UInt64 :=
  layer.token.bind TokenLayer.refreshValidity

def leeway? (layer : Layer) : Option UInt64 :=
  layer.token.bind TokenLayer.leeway

def level? (layer : Layer) : Option String :=
  layer.logging.bind LoggingLayer.level

/-- A setting that the empty layer does not state, and that is taken from the upper of two layers where this
states it. -/
structure IsSetting (setting : Layer → Option α) : Prop where
  empty : setting {} = none
  overlay : ∀ upper lower : Layer, setting (upper.over lower) = (setting upper <|> setting lower)

/-- A setting of a section is not lost when a section that does not state it is laid over. -/
theorem bind_sectionOver {σ : Type} {lay : σ → σ → σ} {setting : σ → Option α}
    (step : ∀ upper lower, setting (lay upper lower) = (setting upper <|> setting lower))
    (upper lower : Option σ) :
    (sectionOver lay upper lower).bind setting = (upper.bind setting <|> lower.bind setting) := by
  cases upper with
  | none => rfl
  | some upper =>
      cases lower with
      | none =>
          rw [Option.bind_none, Option.orElse_eq_orElse, Option.orElse_eq_or, Option.or_none]
          rfl
      | some lower => exact step upper lower

/-- A part of layers that is laid over section by section. -/
structure IsSection {σ : Type} (part : Layer → Option σ) (lay : σ → σ → σ) : Prop where
  empty : part {} = none
  overlay : ∀ upper lower : Layer, part (upper.over lower) = sectionOver lay (part upper) (part lower)

theorem isSection_keystore : IsSection Layer.keystore KeystoreLayer.over :=
  ⟨rfl, fun _ _ => rfl⟩

theorem isSection_token : IsSection Layer.token TokenLayer.over :=
  ⟨rfl, fun _ _ => rfl⟩

theorem isSection_logging : IsSection Layer.logging LoggingLayer.over :=
  ⟨rfl, fun _ _ => rfl⟩

theorem IsSection.isSetting {σ : Type} {part : Layer → Option σ} {lay : σ → σ → σ}
    (isSection : IsSection part lay) {setting : σ → Option α}
    (step : ∀ upper lower, setting (lay upper lower) = (setting upper <|> setting lower)) :
    IsSetting fun layer => (part layer).bind setting where
  empty := by rw [isSection.empty, Option.bind_none]
  overlay := by
    intro upper lower
    rw [isSection.overlay, bind_sectionOver step]

end Layer

namespace Source

/-! ## Sources in their order -/

/-- Sources from the lowest rank to the highest, those of one rank as they are given. -/
def byRank (sources : List Source) : List Source :=
  [Rank.defaults, .file, .environment].flatMap fun rank => sources.filter fun source => source.rank = rank

theorem byRank_eq (sources : List Source) :
    byRank sources = sources.filter (fun source => source.rank = .defaults) ++
      (sources.filter (fun source => source.rank = .file) ++
        sources.filter fun source => source.rank = .environment) := by
  simp only [byRank, List.flatMap_cons, List.flatMap_nil, List.append_nil]

/-- Sources that are in the order of their ranks are those of each rank after the other. -/
theorem byRank_of_pairwise {sources : List Source}
    (sorted : sources.Pairwise fun left right => left.rank.weight ≤ right.rank.weight) :
    byRank sources = sources := by
  induction sources with
  | nil => rfl
  | cons first sources ih =>
      rcases List.pairwise_cons.mp sorted with ⟨least, sorted⟩
      have later := ih sorted
      rw [byRank_eq] at later ⊢
      have none : ∀ rank : Rank, rank.weight < first.rank.weight →
          sources.filter (fun source => source.rank = rank) = [] := by
        intro rank below
        rw [List.filter_eq_nil_iff]
        intro source member same
        have atLeast := least source member
        rw [of_decide_eq_true same] at atLeast
        omega
      cases rank : first.rank with
      | defaults => simpa [rank] using later
      | file =>
          have noDefaults := none .defaults (by rw [rank]; decide)
          rw [noDefaults] at later
          simpa [rank, noDefaults] using later
      | environment =>
          have noDefaults := none .defaults (by rw [rank]; decide)
          have noFile := none .file (by rw [rank]; decide)
          rw [noDefaults, noFile] at later
          simpa [rank, noDefaults, noFile] using later

/-- Sources are compared by their ranks. -/
def notAbove (left right : Source) : Bool :=
  left.rank.weight ≤ right.rank.weight

theorem notAbove_trans (first second third : Source) (below : notAbove first second = true)
    (alsoBelow : notAbove second third = true) : notAbove first third = true :=
  decide_eq_true (Nat.le_trans (of_decide_eq_true below) (of_decide_eq_true alsoBelow))

theorem notAbove_total (first second : Source) :
    (notAbove first second || notAbove second first) = true := by
  rw [Bool.or_eq_true]
  exact (Nat.le_total _ _).imp decide_eq_true decide_eq_true

theorem pairwise_ordered (sources : List Source) :
    (ordered sources).Pairwise fun left right => left.rank.weight ≤ right.rank.weight := by
  have sorted : (ordered sources).Pairwise fun left right => notAbove left right = true :=
    List.pairwise_mergeSort notAbove_trans notAbove_total sources
  exact sorted.imp of_decide_eq_true

/-- Sorting keeps the sources of one rank in their order. -/
theorem filter_ordered (sources : List Source) (rank : Rank) :
    (ordered sources).filter (fun source => source.rank = rank) =
      sources.filter fun source => source.rank = rank := by
  have sameRank : (sources.filter fun source => source.rank = rank).Pairwise
      fun left right => notAbove left right = true := by
    rw [List.pairwise_iff_forall_sublist]
    intro left right inside
    have leftRank := (List.mem_filter.mp (inside.subset List.mem_cons_self)).2
    have rightRank :=
      (List.mem_filter.mp (inside.subset (List.mem_cons_of_mem left List.mem_cons_self))).2
    rw [notAbove, of_decide_eq_true leftRank, of_decide_eq_true rightRank]
    exact decide_eq_true (Nat.le_refl _)
  have kept : (sources.filter fun source => source.rank = rank).Sublist (ordered sources) :=
    List.sublist_mergeSort notAbove_trans notAbove_total sameRank List.filter_sublist
  have filtered := kept.filter fun source => source.rank = rank
  rw [List.filter_filter] at filtered
  simp only [Bool.and_self] at filtered
  have perm : (ordered sources).Perm sources := List.mergeSort_perm sources notAbove
  exact (filtered.eq_of_length (perm.filter _).length_eq.symm).symm

theorem ordered_eq_byRank (sources : List Source) : ordered sources = byRank sources := by
  rw [← byRank_of_pairwise (pairwise_ordered sources), byRank_eq, byRank_eq]
  simp only [filter_ordered]

/-- Of sources with distinct ranks, there is at most one of a rank, so that their order does not matter. -/
theorem byRank_of_perm {sources others : List Source} (distinct : (sources.map Source.rank).Nodup)
    (perm : others.Perm sources) : byRank others = byRank sources := by
  have each : ∀ rank : Rank, others.filter (fun source => source.rank = rank) =
      sources.filter fun source => source.rank = rank := by
    intro rank
    have same := perm.filter fun source => source.rank = rank
    have atMost : (sources.filter fun source => source.rank = rank).length ≤ 1 := by
      have ranks : (sources.filter fun source => source.rank = rank).map Source.rank =
          List.replicate (sources.filter fun source => source.rank = rank).length rank := by
        rw [List.eq_replicate_iff]
        refine ⟨List.length_map .., ?_⟩
        intro other member
        rcases List.mem_map.mp member with ⟨source, listed, rfl⟩
        exact of_decide_eq_true (List.mem_filter.mp listed).2
      rw [← List.nodup_replicate (a := rank), ← ranks]
      exact distinct.sublist (List.filter_sublist.map Source.rank)
    match left : sources.filter fun source => source.rank = rank with
    | [] =>
        rw [left] at same ⊢
        exact same.eq_nil
    | [source] =>
        rw [left] at same ⊢
        exact List.perm_singleton.mp same
    | _ :: _ :: _ =>
        rw [left] at atMost
        simp at atMost
  simp only [byRank, each]

/-! ## What sources state -/

/-- Why a source cannot be loaded. -/
def error? (source : Source) : Option ConfigError :=
  match source.layer with
  | .error error => some error
  | .ok _ => none

/-- The error of the first source that cannot be loaded. -/
def firstError? (sources : List Source) : Option ConfigError :=
  (sources.filterMap error?).head?

/-- What a source says of a setting. -/
def stated? (setting : Layer → Option α) (source : Source) : Option α :=
  source.layer.toOption.bind setting

/-- What the last source says of a setting that says anything of it. -/
def lastStated? (setting : Layer → Option α) (sources : List Source) : Option α :=
  (sources.filterMap (stated? setting)).getLast?

/-- Every setting is what the last source says that states it, and has its default if none does.  Checking
aliases are trimmed, and blank ones dropped.  Without a password it is empty. -/
def stated (sources : List Source) : Settings where
  keystore :=
    { locations := (lastStated? Layer.locations? sources).getD ["config/keystore", "/etc/radar/keystore"]
      password := (lastStated? Layer.password? sources).getD ⟨""⟩
      signingAlias := (lastStated? Layer.signingAlias? sources).getD "selfsigned"
      checkingAliases := (((lastStated? Layer.checkingAliases? sources).getD []).map Text.trim).filter
        fun name => !name.isEmpty }
  token :=
    { issuer := (lastStated? Layer.issuer? sources).getD "radar-auth"
      resource := (lastStated? Layer.resource? sources).getD "res_ManagementPortal"
      accessValidity := (lastStated? Layer.accessValidity? sources).getD 900
      refreshValidity := (lastStated? Layer.refreshValidity? sources).getD 86400
      leeway := (lastStated? Layer.leeway? sources).getD 60 }
  logging := { level := (lastStated? Layer.level? sources).getD "info" }

section

variable {setting : Layer → Option α} {source : Source} {sources : List Source} {lower layer : Layer}

theorem lastStated?_cons :
    lastStated? setting (source :: sources) = (lastStated? setting sources).or (stated? setting source) := by
  unfold lastStated?
  rw [List.filterMap_cons]
  cases stated? setting source with
  | none => rw [Option.or_none]
  | some value =>
      simp only
      rw [List.getLast?_cons]
      cases (sources.filterMap (stated? setting)).getLast? <;> rfl

theorem layered_of_firstError? {error : ConfigError} (fails : firstError? sources = some error)
    (lower : Layer) : layered lower sources = .error error := by
  induction sources generalizing lower with
  | nil => cases fails
  | cons source sources ih =>
      rw [firstError?, List.filterMap_cons, error?] at fails
      rw [layered]
      cases loaded : source.layer with
      | error other =>
          rw [loaded] at fails
          exact congrArg Except.error (Option.some.inj fails)
      | ok upper =>
          rw [loaded] at fails
          exact ih fails _

theorem exists_layered (loads : firstError? sources = none) (lower : Layer) :
    ∃ layer, layered lower sources = .ok layer := by
  induction sources generalizing lower with
  | nil => exact ⟨lower, rfl⟩
  | cons source sources ih =>
      rw [firstError?, List.filterMap_cons, error?] at loads
      rw [layered]
      cases loaded : source.layer with
      | error other =>
          rw [loaded] at loads
          cases loads
      | ok upper =>
          rw [loaded] at loads
          exact ih loads _

/-- After all sources, a setting is what the last of them says that states it, and what was there before
if none does. -/
theorem setting_layered (isSetting : Layer.IsSetting setting) (success : layered lower sources = .ok layer) :
    setting layer = (lastStated? setting sources).or (setting lower) := by
  induction sources generalizing lower with
  | nil =>
      cases success
      rfl
  | cons source sources ih =>
      rw [layered] at success
      rw [lastStated?_cons, stated?]
      cases loaded : source.layer with
      | error error =>
          rw [loaded] at success
          cases success
      | ok upper =>
          rw [loaded] at success
          rw [ih success, isSetting.overlay, Option.orElse_eq_orElse, Option.orElse_eq_or, Option.or_assoc]
          rfl

/-- Over nothing, a setting of a section is what the last source says that states it. -/
theorem setting_section {σ : Type} {part : Layer → Option σ} {lay : σ → σ → σ}
    (isSection : Layer.IsSection part lay) (setting : σ → Option α)
    (step : ∀ upper lower, setting (lay upper lower) = (setting upper <|> setting lower))
    (empty : σ) (nothing : setting empty = none) (success : layered {} sources = .ok layer) :
    setting ((part layer).getD empty) = lastStated? (fun layer => (part layer).bind setting) sources := by
  have isSetting := isSection.isSetting step
  have given := setting_layered isSetting success
  rw [isSetting.empty, Option.or_none] at given
  rw [← given]
  cases part layer with
  | none => exact nothing
  | some _ => rfl

end

/-- The settings that the layer of all sources gives are those that the sources state. -/
theorem settings_layered {sources : List Source} {layer : Layer} (success : layered {} sources = .ok layer) :
    layer.settings = stated sources := by
  have locations := setting_section Layer.isSection_keystore KeystoreLayer.locations (fun _ _ => rfl) {} rfl
    success
  have password := setting_section Layer.isSection_keystore KeystoreLayer.password (fun _ _ => rfl) {} rfl
    success
  have signingAlias := setting_section Layer.isSection_keystore KeystoreLayer.signingAlias (fun _ _ => rfl)
    {} rfl success
  have checkingAliases := setting_section Layer.isSection_keystore KeystoreLayer.checkingAliases
    (fun _ _ => rfl) {} rfl success
  have issuer := setting_section Layer.isSection_token TokenLayer.issuer (fun _ _ => rfl) {} rfl success
  have resource := setting_section Layer.isSection_token TokenLayer.resource (fun _ _ => rfl) {} rfl success
  have accessValidity := setting_section Layer.isSection_token TokenLayer.accessValidity (fun _ _ => rfl) {}
    rfl success
  have refreshValidity := setting_section Layer.isSection_token TokenLayer.refreshValidity
    (fun _ _ => rfl) {} rfl success
  have leeway := setting_section Layer.isSection_token TokenLayer.leeway (fun _ _ => rfl) {} rfl success
  have level := setting_section Layer.isSection_logging LoggingLayer.level (fun _ _ => rfl) {} rfl success
  rw [Layer.settings, KeystoreLayer.settings, TokenLayer.settings, LoggingLayer.resolve, locations, password,
    signingAlias, checkingAliases, issuer, resource, accessValidity, refreshValidity, leeway, level]
  rfl

/-- For any sources: the first one that cannot be loaded decides.  If all are loaded, the outcome is the settings
that they state, or a fault if these are not valid.  Sources with distinct ranks may be given in any order. -/
theorem resolve_eq_stated (sources : List Source) :
    (∀ error, firstError? (byRank sources) = some error → resolve sources = .error error) ∧
      (firstError? (byRank sources) = none →
        ((stated (byRank sources)).IsValid → resolve sources = .ok (stated (byRank sources))) ∧
        (¬ (stated (byRank sources)).IsValid → ∃ fault, resolve sources = .error (.invalid fault))) ∧
      ((sources.map Source.rank).Nodup → ∀ others, others.Perm sources →
        resolve others = resolve sources) := by
  refine ⟨?_, ?_, ?_⟩
  · intro error fails
    rw [resolve, ordered_eq_byRank, layered_of_firstError? fails]
  · intro loads
    rcases exists_layered loads {} with ⟨layer, success⟩
    have given := settings_layered success
    have checks := layer.checks
    rw [given] at checks
    rw [resolve, ordered_eq_byRank, success]
    exact ⟨checks.passes, checks.fails⟩
  · intro distinct others perm
    rw [resolve, resolve, ordered_eq_byRank, ordered_eq_byRank, byRank_of_perm distinct perm]

/-- The environment comes before the file and states all sections, but hardly any setting. -/
def sampleSources : List Source :=
  [⟨.environment, .ok {
      keystore := some { checkingAliases := some [" old ", " "] }
      token := some { refreshValidity := some 7200 }
      logging := some {} }⟩,
    ⟨.file, .ok {
      keystore := some { password := some ⟨"secret"⟩, signingAlias := some "main" }
      token := some { issuer := some "issuer", refreshValidity := some 60 } }⟩]

theorem resolve_eq_stated_sampleSources :
    resolve sampleSources = .ok {
      keystore := ⟨["config/keystore", "/etc/radar/keystore"], ⟨"secret"⟩, "main", ["old"]⟩
      token := { issuer := "issuer", refreshValidity := 7200 }
      logging := {} } ∧
    resolve sampleSources.reverse = resolve sampleSources := by
  have given : stated (byRank sampleSources) = {
      keystore := ⟨["config/keystore", "/etc/radar/keystore"], ⟨"secret"⟩, "main", ["old"]⟩
      token := { issuer := "issuer", refreshValidity := 7200 }
      logging := {} } := by decide +kernel
  have valid : (stated (byRank sampleSources)).IsValid := by
    rw [given]
    exact ⟨⟨by decide, ⟨'m', by decide, rfl⟩, by decide⟩, ⟨by decide, by decide, by decide, by decide⟩⟩
  have outcome := resolve_eq_stated sampleSources
  refine ⟨?_, outcome.2.2 (by decide) _ (List.reverse_perm _)⟩
  rw [← given]
  exact (outcome.2.1 rfl).1 valid

end Source
end
end Config
end TokenAuthority
