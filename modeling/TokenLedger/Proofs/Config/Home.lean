import Mathlib.Data.List.Basic
import TokenLedger.Startup

/-!
# The home of a start

A start reads its settings file below the home directory that its first argument names, or else a
variable. Even where an argument was given the variable then becomes the home directory of the node,
and by then the genesis file that the settings file names has been looked for below the first one.
So the files of a start come from one home directory exactly if an argument and the variable, where
both are given, name the same directory.
-/

namespace TokenLedger

namespace Path

/-! ## Joined paths -/

/-- What stands in front of a relative path that is looked for below a directory. -/
def front (base : String) : String :=
  if base.isEmpty || endsInSlash base then base else base ++ "/"

/-- A relative path goes behind its directory. -/
theorem join_of_relative {path : String} (relative : isAbsolute path = false) (base : String) :
    join base path = front base ++ path := by
  rw [join, if_neg (by simp [relative]), front]
  split <;> rfl

/-- Behind a directory that is named and brings no slash goes one. -/
theorem front_of_open {base : String} (named : base ≠ "") (unended : endsInSlash base = false) :
    front base = base ++ "/" := by
  rw [front, if_neg (by simp [named, unended])]

/-- Joining a path of two parts is joining one after the other. -/
theorem join_join {first second : String} (relative : isAbsolute first = false) (named : first ≠ "")
    (unended : endsInSlash first = false) (further : isAbsolute second = false) (base : String) :
    join (join base first) second = join base (first ++ "/" ++ second) := by
  have nonempty : first.toList ≠ [] := fun empty => named (String.toList_eq_nil_iff.mp empty)
  have whole : isAbsolute (first ++ "/" ++ second) = false := by
    simpa [isAbsolute, List.head?_append_of_ne_nil _ nonempty] using relative
  have openEnd : endsInSlash (front base ++ first) = false := by
    simpa [endsInSlash, List.getLast?_append_of_ne_nil _ nonempty] using unended
  have kept : front base ++ first ≠ "" := by
    simp [named]
  rw [join_of_relative relative, join_of_relative further, join_of_relative whole,
    front_of_open kept openEnd]
  simp only [String.append_assoc]

/-- A slash ends what is read of a part. -/
theorem partsFrom_append (pending left right : List Char) :
    partsFrom pending (left ++ '/' :: right) = partsFrom pending left ++ partsFrom [] right := by
  induction left generalizing pending with
  | nil => simp [partsFrom]
  | cons c rest ih => by_cases slash : c = '/' <;> simp [partsFrom, slash, ih]

/-- The parts of two paths with a slash in between are those of one and of the other. -/
theorem parts_append_slash (base path : String) :
    parts (base ++ "/" ++ path) = parts base ++ parts path := by
  have letters : (base ++ "/" ++ path).toList = base.toList ++ '/' :: path.toList := by simp
  rw [parts, letters, partsFrom_append, List.map_append, List.filter_append, ← parts, ← parts]

/-- A path that ends in a slash is another one with a slash behind it. -/
theorem exists_of_endsInSlash {path : String} (ended : endsInSlash path = true) :
    ∃ init, path = init ++ "/" := by
  obtain ⟨init, split⟩ := List.getLast?_eq_some_iff.mp (of_decide_eq_true ended)
  refine ⟨String.ofList init, ?_⟩
  rw [← String.toList_inj, split]
  simp

/-- The parts of a relative path follow those of the directory below which it is looked for. -/
theorem parts_join {path : String} (relative : isAbsolute path = false) (base : String) :
    parts (join base path) = parts base ++ parts path := by
  rw [join_of_relative relative, front]
  split
  next bare =>
    rcases (Bool.or_eq_true _ _).mp bare with empty | ended
    · rw [String.isEmpty_iff.mp empty, String.empty_append]
      rfl
    · -- The slash that the directory brings is the one in between, and no part follows it.
      obtain ⟨init, rfl⟩ := exists_of_endsInSlash ended
      have own : parts (init ++ "/") = parts init := by
        have apart := parts_append_slash init ""
        rw [String.append_empty] at apart
        exact apart.trans (List.append_nil _)
      rw [parts_append_slash, own]
  next => exact parts_append_slash base path

/-- A relative path below a directory starts at the root where the directory does. -/
theorem isAbsolute_join {path : String} (relative : isAbsolute path = false) (base : String) :
    isAbsolute (join base path) = isAbsolute base := by
  rw [join_of_relative relative, front]
  by_cases empty : base = ""
  · rw [empty]
    exact relative
  · have nonempty : base.toList ≠ [] := fun nil => empty (String.toList_eq_nil_iff.mp nil)
    split <;> simp [isAbsolute, List.head?_append_of_ne_nil _ nonempty]

/-- Two paths that a look-up follows alike: they start at the same place and move through the same
parts, however many slashes stand between them. -/
structure Same (left right : String) : Prop where
  /-- Both start at the root or neither does. -/
  isAbsolute : isAbsolute left = isAbsolute right
  /-- Their parts are the same. -/
  parts : parts left = parts right

namespace Same

variable {left right : String}

theorem refl (path : String) : Same path path := ⟨rfl, rfl⟩

theorem symm (same : Same left right) : Same right left :=
  ⟨same.isAbsolute.symm, same.parts.symm⟩

/-- A path is the same below the same directory. -/
theorem join (same : Same left right) (path : String) :
    Same (Path.join left path) (Path.join right path) := by
  cases relative : Path.isAbsolute path with
  | true =>
    rw [join_of_isAbsolute relative, join_of_isAbsolute relative]
    exact refl path
  | false =>
    constructor
    · rw [isAbsolute_join relative, isAbsolute_join relative, same.isAbsolute]
    · rw [parts_join relative, parts_join relative, same.parts]

end Same

end Path

/-! ## Where settings place files -/

/-- The settings document that reading a file gave, if the file is there and holds one. -/
def SettingsDocument.ofRead? : FileRead → Option SettingsDocument
  | .error _ => none
  | .ok text => parse? text

namespace NodeConfig

/-- The default genesis file is looked for below the home directory like any other. -/
theorem genesisPath_eq (home : String) :
    genesisPath home = Path.join home "config/genesis.json" := by
  have relative : Path.isAbsolute "config" = false := by decide
  have unended : Path.endsInSlash "config" = false := by decide
  have further : Path.isAbsolute "genesis.json" = false := by decide
  exact Path.join_join relative (by decide) unended further home

/-- The genesis file that a settings document names, or the default. -/
def documentGenesis (document : Option SettingsDocument) : String :=
  (document.bind SettingsDocument.genesisFile).getD "config/genesis.json"

/-- Settings that are loaded keep the home directory, and place the genesis file below it. -/
theorem places_of_ofSettingsFile {home : String} {file : FileRead} {config : NodeConfig}
    (loaded : ofSettingsFile home file = .ok config) :
    config.home = home ∧ config.genesisFile =
      Path.join home (documentGenesis (SettingsDocument.ofRead? file)) := by
  cases file with
  | error failure =>
    rw [ofSettingsFile] at loaded
    split at loaded
    · cases loaded
      exact ⟨rfl, genesisPath_eq home⟩
    · cases loaded
  | ok text =>
    cases parsed : SettingsDocument.parse? text with
    | none =>
      simp only [ofSettingsFile, parsed] at loaded
      cases loaded
    | some document =>
      simp only [ofSettingsFile, parsed] at loaded
      cases loaded
      refine ⟨rfl, ?_⟩
      simp only [SettingsDocument.ofRead?, parsed, documentGenesis, Option.bind_some, applyDocument]
      cases document.genesisFile with
      | none => exact genesisPath_eq home
      | some name => rfl

/-- A variable that holds a height moves no file. -/
theorem HeightVariable.places_store {entry : HeightVariable} (listed : entry ∈ heightVariables)
    (height : Height) (config : NodeConfig) :
    (entry.store height config).home = config.home ∧
      (entry.store height config).genesisFile = config.genesisFile := by
  rw [heightVariables, List.mem_cons, List.mem_map] at listed
  rcases listed with rfl | ⟨upgrade, _, rfl⟩
  · exact ⟨rfl, rfl⟩
  · exact ⟨rfl, rfl⟩

/-- Variables that hold heights move no file, whether or not one of them is refused. -/
theorem places_overrideHeights (env : Environment) {entries : List HeightVariable}
    (listed : ∀ entry ∈ entries, entry ∈ heightVariables) (config : NodeConfig) :
    (overrideHeights env entries config).2.home = config.home ∧
      (overrideHeights env entries config).2.genesisFile = config.genesisFile := by
  induction entries generalizing config with
  | nil => exact ⟨rfl, rfl⟩
  | cons entry rest ih =>
    rw [List.forall_mem_cons] at listed
    obtain ⟨first, others⟩ := listed
    rw [overrideHeights]
    split
    · exact ih others config
    · split
      · next height _ =>
        have stored := entry.places_store first height config
        obtain ⟨home, genesisFile⟩ := ih others (entry.store height config)
        exact ⟨home.trans stored.1, genesisFile.trans stored.2⟩
      · exact ⟨rfl, rfl⟩

/-- The variables of the environment replace the home directory, and then the genesis file by one
below the home directory they leave. -/
theorem places_applyOverrides (env : Environment) (config : NodeConfig) :
    (config.applyOverrides env).2.home = (env "BK_HOME").getD config.home ∧
      (config.applyOverrides env).2.genesisFile =
        ((env "BK_GENESIS").map (Path.join ((env "BK_HOME").getD config.home))).getD
          config.genesisFile :=
  places_overrideHeights env (fun _ listed => listed) (config.overrideNames env)

end NodeConfig

/-! ## The files of a start -/

namespace Startup

/-- Reads files and notes their paths. -/
def noting (files : String → FileRead) (path : String) : StateM (List String) FileRead :=
  modifyGet fun paths => (files path, paths ++ [path])

/-- The paths of the files that a start reads, in order. -/
def filesRead (files : String → FileRead) (argument : Option String) (env : Environment) :
    List String :=
  ((run (noting files) argument env).run.run []).2

section

variable {α β : Type} (files : String → FileRead) (paths : List String)

/-- A file that is read is noted behind those read before. -/
theorem noting_bind (path : String)
    (next : FileRead → ExceptT StartError (StateM (List String)) β) :
    (ExceptT.lift (noting files path) >>= next).run.run paths =
      (next (files path)).run.run (paths ++ [path]) := rfl

/-- A step that needs no file leaves the notes to what follows. -/
theorem ok_bind (value : α) (next : α → ExceptT StartError (StateM (List String)) β) :
    (ExceptT.mk (pure (.ok value)) >>= next).run.run paths = (next value).run.run paths := rfl

/-- A step that fails ends the notes. -/
theorem error_bind (cause : StartError) (next : α → ExceptT StartError (StateM (List String)) β) :
    (ExceptT.mk (pure (.error cause)) >>= next).run.run paths = (.error cause, paths) := rfl

end

variable {files : String → FileRead} {argument : Option String} {env : Environment}
  {base config : NodeConfig}

/-- The settings of a start are those that are loaded from its home directory, with the variables of
the environment. -/
theorem settings_eq
    (loaded : Id.run (NodeConfig.load files (NodeConfig.startHome argument env)) = .ok base)
    (overridden : base.applyOverrides env = (.ok (), config)) :
    settings argument env (files (NodeConfig.settingsPath (NodeConfig.startHome argument env))) =
      .ok config := by
  have read : NodeConfig.ofSettingsFile (NodeConfig.startHome argument env)
      (files (NodeConfig.settingsPath (NodeConfig.startHome argument env))) = .ok base := loaded
  simp only [settings, read, overridden]

/-- A start whose settings are found reads the settings file of its home directory, and after it at
most the genesis file of the settings. -/
theorem filesRead_cases
    (found : settings argument env
      (files (NodeConfig.settingsPath (NodeConfig.startHome argument env))) = .ok config) :
    filesRead files argument env = [NodeConfig.settingsPath (NodeConfig.startHome argument env)] ∨
      filesRead files argument env =
        [NodeConfig.settingsPath (NodeConfig.startHome argument env), config.genesisFile] := by
  rw [filesRead, run, noting_bind, found, ok_bind]
  cases telemetry env with
  | error stop =>
    rw [Except.mapError, error_bind]
    exact .inl rfl
  | ok kept =>
    rw [Except.mapError, ok_bind]
    cases Node.create config with
    | error stop =>
      rw [Except.mapError, error_bind]
      exact .inl rfl
    | ok node =>
      rw [Except.mapError, ok_bind, noting_bind]
      cases genesis config.genesisFile (files config.genesisFile) with
      | error cause => exact .inr rfl
      | ok document => exact .inr rfl

end Startup

namespace NodeConfig

/-- The genesis file that a start names: by a variable, else in its settings file, else the default.
-/
def genesisName (env : Environment) (document : Option SettingsDocument) : String :=
  (env "BK_GENESIS").getD (documentGenesis document)

/-- The files of a start are looked for below one home directory: the one of the settings is that
below which the settings file was read, and the genesis file is the named one below it. A name that
starts at the root stays what it is. -/
structure OneHome (home : String) (env : Environment) (document : Option SettingsDocument)
    (config : NodeConfig) : Prop where
  /-- The home directory is that of the settings file. -/
  home : Path.Same config.home home
  /-- The genesis file is the named one below the home directory. -/
  genesisFile : Path.Same config.genesisFile (config.resolve (genesisName env document))

/-- The home directory that the variable leaves is that of the start exactly if an argument and the
variable, where both are given, name the same directory. -/
theorem same_startHome_iff (argument : Option String) (env : Environment) :
    Path.Same ((env "BK_HOME").getD (startHome argument env)) (startHome argument env) ↔
      ∀ given set, argument = some given → env "BK_HOME" = some set → Path.Same given set := by
  constructor
  · rintro same given set rfl override
    rw [startHome, override] at same
    exact same.symm
  · intro agree
    cases override : env "BK_HOME" with
    | none => exact Path.Same.refl _
    | some set =>
      cases argument with
      | none =>
        rw [startHome, override]
        exact Path.Same.refl set
      | some given => exact (agree given set rfl override).symm

/-- Settings that are loaded for a start and changed by the environment have the home directory of
the variable, or else that of the start. A genesis file that a variable names is looked for below
that home directory, and any other below that of the start, where the settings file is read. So all
files come from one home directory exactly if an argument and the variable, where both are given,
name the same directory. -/
theorem oneHome_iff (files : String → FileRead) (argument : Option String) (env : Environment)
    {base config : NodeConfig} (loaded : Id.run (load files (startHome argument env)) = .ok base)
    (overridden : base.applyOverrides env = (.ok (), config)) :
    let home := startHome argument env
    let document := SettingsDocument.ofRead? (files (settingsPath home))
    config.home = (env "BK_HOME").getD home ∧
      config.genesisFile = Path.join (if (env "BK_GENESIS").isSome then config.home else home)
        (genesisName env document) ∧
      (Startup.filesRead files argument env = [settingsPath home] ∨
        Startup.filesRead files argument env = [settingsPath home, config.genesisFile]) ∧
      (OneHome home env document config ↔
        ∀ given set, argument = some given → env "BK_HOME" = some set → Path.Same given set) := by
  intro home document
  obtain ⟨baseHome, baseGenesis⟩ := places_of_ofSettingsFile loaded
  obtain ⟨newHome, newGenesis⟩ := places_applyOverrides env base
  rw [overridden, baseHome] at newHome
  rw [overridden, baseHome, baseGenesis, ← newHome] at newGenesis
  have genesisFile : config.genesisFile =
      Path.join (if (env "BK_GENESIS").isSome then config.home else home)
        (genesisName env document) := by
    rw [newGenesis, genesisName]
    cases env "BK_GENESIS" <;> rfl
  refine ⟨newHome, genesisFile,
    Startup.filesRead_cases (Startup.settings_eq loaded overridden), ?_⟩
  rw [← same_startHome_iff, ← newHome]
  refine ⟨OneHome.home, fun same => ⟨same, ?_⟩⟩
  rw [genesisFile, resolve]
  split
  · exact Path.Same.refl _
  · exact same.symm.join _

/-- An argument and a variable that spell one directory in two ways leave one home directory. -/
theorem oneHome_iff_sample :
    let files : String → FileRead := fun path =>
      if path = "node/config/app.toml" then .ok "[base]\ngenesis_file = \"first.json\"\n"
      else .error .notFound
    let env : Environment := fun name => if name = "BK_HOME" then some "node/." else none
    let config : NodeConfig := ⟨defaultChainId, "node/.", "node/first.json", 0, .never⟩
    ∃ base, Id.run (load files (startHome (some "node") env)) = .ok base ∧
      base.applyOverrides env = (.ok (), config) ∧
        config.OneHome "node" env
          (SettingsDocument.ofRead? (files "node/config/app.toml")) := by
  intro files env config
  let base : NodeConfig := ⟨defaultChainId, "node", "node/first.json", 0, .never⟩
  have loaded : Id.run (load files (startHome (some "node") env)) = .ok base := by
    decide +kernel
  have overridden : base.applyOverrides env = (.ok (), config) := by
    decide +kernel
  have place : settingsPath (startHome (some "node") env) = "node/config/app.toml" := by
    decide +kernel
  obtain ⟨_, _, _, one⟩ := oneHome_iff files (some "node") env loaded overridden
  rw [place] at one
  refine ⟨base, loaded, overridden, one.mpr ?_⟩
  intro given set argument override
  cases argument
  cases override
  exact ⟨by decide, by decide⟩

/-- With an argument and a variable that name two directories the settings file is read below one of
them, and the genesis file below the other. -/
theorem exists_start_of_two_homes :
    let files : String → FileRead := fun path =>
      if path = "node/config/app.toml" then .ok "" else .error .notFound
    let env : Environment := fun name =>
      if name = "BK_HOME" then some "other" else if name = "BK_GENESIS" then some "g.json" else none
    let config : NodeConfig := ⟨defaultChainId, "other", "other/g.json", 0, .never⟩
    ∃ base, Id.run (load files (startHome (some "node") env)) = .ok base ∧
      base.applyOverrides env = (.ok (), config) ∧
        Startup.filesRead files (some "node") env = ["node/config/app.toml", "other/g.json"] ∧
          ¬ config.OneHome "node" env
            (SettingsDocument.ofRead? (files "node/config/app.toml")) := by
  intro files env config
  refine ⟨⟨defaultChainId, "node", "node/config/genesis.json", 0, .never⟩, by decide +kernel,
    by decide +kernel, by decide +kernel, fun one => ?_⟩
  exact absurd one.home.parts (by decide)

end NodeConfig

end TokenLedger
