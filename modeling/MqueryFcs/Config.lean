import MqueryFcs.Url
import MqueryFcs.Corpus

/-!
# MqueryFcs.Config

The loading and the start-up checks of `cnf/conf.go`, and the worker's identity from
`main.go`.

* `ServerInfo.validate` is `(*ServerInfo).Validate()`: the first missing field of the
  `serverInfo` section, as the error text that names it. `validate_eq_none_iff` says which
  sections pass: host, port and database set, a title with an `en` entry, and an `en`
  entry in the description and the author sections when they are present.
* `validateAndDefaults` is `ValidateAndDefaults(conf)`, with `log.Fatal` as an error and
  the `log.Warn` lines left out. It assigns three defaults: the write timeout, the sources
  root and the assets path; the time zone is only checked, so an empty one stays empty
  (`validateAndDefaults_ok`).
* `loadConfig` is `LoadConfig(path)` with `loadResources` (lines 175-219), the file system
  and the decoders taken as parameters (`LoadDeps`). The loop over the resources directory
  is a traversal (`loadItems_eq_mapM`), so a configuration loads only when every entry of
  its resources directory reads and decodes, and then gets them after its own, in the
  directory's order (`loadConfig_ok`).
* `getEnv` and `getWorkerID` read `WORKER_ID` from the environment list. An entry is read
  only when it splits on `=` into exactly two parts; the first such `WORKER_ID` entry
  decides, and an empty value, or no entry, gives `"0"` (`getWorkerID_spec`).
-/

namespace MqueryFcs

/-! ## `serverInfo` -/

/-- Whether a decoded `map[string]string` has the key. -/
def hasKey (m : List (String × String)) (k : String) : Bool :=
  m.any (·.1 == k)

/-- `cnf.ServerInfo`, the fields `Validate` reads. A map section is `none` when the
configuration leaves it out (a nil map). -/
structure ServerInfo where
  serverHost : String
  serverPort : String
  database : String
  databaseTitle : Option (List (String × String))
  databaseDescription : Option (List (String × String))
  databaseAuthor : Option (List (String × String))
  deriving Repr, DecidableEq

/-- One of the required string fields, by the name its error gives it. -/
def requireField (field value : String) : Option String :=
  if value = "" then some ("missing configuration `serverInfo." ++ field ++ "`") else none

/-- A translation section's `en` entry. -/
def requireEn (sec : String) (m : List (String × String)) : Option String :=
  if hasKey m "en" then none
  else some ("missing required configuration for `serverInfo." ++ sec ++ ".en`")

/-- `(*ServerInfo).Validate()`: the checks in the order the source makes them, the first
failing one giving the error. -/
def ServerInfo.validate : Option ServerInfo → Option String
  | none => some "missing serverInfo section"
  | some s =>
    requireField "ServerHost" s.serverHost <|>
    requireField "ServerPort" s.serverPort <|>
    requireField "Database" s.database <|>
    (match s.databaseTitle with
      | none => some "missing configuration section `serverInfo.databaseTitle`"
      | some m => requireEn "databaseTitle" m) <|>
    s.databaseDescription.bind (requireEn "databaseDescription") <|>
    s.databaseAuthor.bind (requireEn "databaseAuthor")

@[simp] theorem requireField_eq_none {field value : String} :
    requireField field value = none ↔ value ≠ "" := by
  unfold requireField; split <;> simp_all

@[simp] theorem requireEn_eq_none {sec : String} {m : List (String × String)} :
    requireEn sec m = none ↔ hasKey m "en" = true := by
  unfold requireEn; split <;> simp_all

/-- **Which sections pass.** -/
theorem validate_eq_none_iff (s : ServerInfo) :
    ServerInfo.validate (some s) = none ↔
      s.serverHost ≠ "" ∧ s.serverPort ≠ "" ∧ s.database ≠ "" ∧
      (∃ m, s.databaseTitle = some m ∧ hasKey m "en" = true) ∧
      (∀ m, s.databaseDescription = some m → hasKey m "en" = true) ∧
      (∀ m, s.databaseAuthor = some m → hasKey m "en" = true) := by
  have htitle : (match s.databaseTitle with
      | none => some "missing configuration section `serverInfo.databaseTitle`"
      | some m => requireEn "databaseTitle" m) = none ↔
      ∃ m, s.databaseTitle = some m ∧ hasKey m "en" = true := by
    cases s.databaseTitle <;> simp
  have hopt (o : Option (List (String × String))) (sec : String) :
      o.bind (requireEn sec) = none ↔ ∀ m, o = some m → hasKey m "en" = true := by
    cases o <;> simp
  simp only [ServerInfo.validate, Option.orElse_eq_none, requireField_eq_none, htitle, hopt]

/-! ## `ValidateAndDefaults` -/

/-- `dfltServerWriteTimeoutSecs`. -/
def dfltServerWriteTimeoutSecs : Int := 30

/-- `dfltSourcesRootDir`. -/
def dfltSourcesRootDir : String := "."

/-- `dfltAssetsURLPath`. -/
def dfltAssetsURLPath : String := "/"

/-- A string setting, or its default when it is empty. -/
def orDefault (value dflt : String) : String :=
  if value = "" then dflt else value

theorem orDefault_ne_empty {value dflt : String} (h : dflt ≠ "") : orDefault value dflt ≠ "" := by
  unfold orDefault; split <;> assumption

theorem orDefault_of_ne_empty {value dflt : String} (h : value ≠ "") :
    orDefault value dflt = value :=
  if_neg h

/-- `cnf.Conf`, the fields `ValidateAndDefaults` reads or sets. -/
structure Conf where
  serverWriteTimeoutSecs : Int
  serverInfo : Option ServerInfo
  corporaSetup : CorporaSetup
  timeZone : String
  sourcesRootDir : String
  assetsURLPath : String
  deriving Repr, DecidableEq

/-- What `ValidateAndDefaults` calls outside `conf.go`. -/
structure ConfDeps where
  /-- `(*corpus.CorporaSetup).ValidateAndDefaults(confContext)`, which may fill defaults. -/
  validateCorpora : String → CorporaSetup → Except String CorporaSetup
  /-- `conf.Redis.Validate()`. -/
  validateRedis : Option String
  /-- The error of `time.LoadLocation(name)`. -/
  loadLocation : String → Option String

/-- `ValidateAndDefaults(conf)`: the checks in source order, each `log.Fatal` an error.
The corpora section is checked twice, as `corpora` and as `corporaSetup`. -/
def validateAndDefaults (deps : ConfDeps) (conf : Conf) : Except String Conf :=
  let conf := if conf.serverWriteTimeoutSecs = 0 then
    { conf with serverWriteTimeoutSecs := dfltServerWriteTimeoutSecs } else conf
  match ServerInfo.validate conf.serverInfo with
  | some err => .error err
  | none =>
    match deps.validateCorpora "corpora" conf.corporaSetup >>=
        deps.validateCorpora "corporaSetup" with
    | .error err => .error err
    | .ok corporaSetup =>
      match deps.validateRedis <|> deps.loadLocation conf.timeZone with
      | some err => .error err
      | none =>
        .ok { conf with
          corporaSetup := corporaSetup
          sourcesRootDir := orDefault conf.sourcesRootDir dfltSourcesRootDir
          assetsURLPath := orDefault conf.assetsURLPath dfltAssetsURLPath }

/-- **What a configuration that passes looks like.** The write timeout, the sources root
and the assets path are set, the `serverInfo` section passes, and the time zone is the
one configured, which `time.LoadLocation` accepts: an empty one is not replaced. Every
value that was set is kept. -/
theorem validateAndDefaults_ok {deps : ConfDeps} {conf conf' : Conf}
    (h : validateAndDefaults deps conf = .ok conf') :
    conf'.serverWriteTimeoutSecs ≠ 0 ∧ conf'.sourcesRootDir ≠ "" ∧ conf'.assetsURLPath ≠ "" ∧
      ServerInfo.validate conf'.serverInfo = none ∧
      conf'.timeZone = conf.timeZone ∧ deps.loadLocation conf'.timeZone = none ∧
      (conf.serverWriteTimeoutSecs ≠ 0 → conf'.serverWriteTimeoutSecs = conf.serverWriteTimeoutSecs) ∧
      (conf.sourcesRootDir ≠ "" → conf'.sourcesRootDir = conf.sourcesRootDir) ∧
      (conf.assetsURLPath ≠ "" → conf'.assetsURLPath = conf.assetsURLPath) := by
  unfold validateAndDefaults at h
  dsimp only at h
  generalize hc : (if conf.serverWriteTimeoutSecs = 0 then
    { conf with serverWriteTimeoutSecs := dfltServerWriteTimeoutSecs } else conf) = c at h
  have hc' : c.serverWriteTimeoutSecs ≠ 0 ∧
      (conf.serverWriteTimeoutSecs ≠ 0 → c.serverWriteTimeoutSecs = conf.serverWriteTimeoutSecs) ∧
      c.serverInfo = conf.serverInfo ∧ c.timeZone = conf.timeZone ∧
      c.sourcesRootDir = conf.sourcesRootDir ∧ c.assetsURLPath = conf.assetsURLPath := by
    subst hc; split_ifs <;> simp_all [dfltServerWriteTimeoutSecs]
  obtain ⟨hw, hw', hsi, htz, hsrc, hassets⟩ := hc'
  split at h
  · cases h
  · rename_i hv
    split at h
    · cases h
    · split at h
      · cases h
      · rename_i hrl
        cases h
        refine ⟨hw, orDefault_ne_empty (by decide), orDefault_ne_empty (by decide), hsi ▸ hv, htz,
          ((Option.orElse_eq_none _ _).mp hrl).2, hw', fun hne => ?_, fun hne => ?_⟩
        · rw [hsrc, orDefault_of_ne_empty hne]
        · rw [hassets, orDefault_of_ne_empty hne]

/-! ## Loading -/

/-- What `loadResources` and `LoadConfig` call outside `conf.go`: the file system and the
JSON decoder of a corpus setup. -/
structure LoadDeps where
  /-- `os.ReadDir(path)`: the entries' names, in the order it returns them. -/
  readDir : String → Except String (List String)
  /-- `os.ReadFile(path)`. -/
  readFile : String → Except String String
  /-- `filepath.Join(dir, name)`. -/
  join : String → String → String
  /-- `json.Unmarshal(raw, &cs)` into a `corpus.CorpusSetup`. -/
  unmarshalCorpus : String → Except String CorpusSetup

/-- What `json.Unmarshal` makes of the configuration file, as `LoadConfig` reads it: the
configuration, and the `resourcesConfDir` of its `corpora` section, `none` when the
section is missing and `conf.CorporaSetup` is nil. -/
structure ConfFile where
  conf : Conf
  resourcesConfDir : Option String
  deriving Repr, DecidableEq

/-- Lines 183-191: one entry of the resources directory, read and decoded. -/
def loadItem (fs : LoadDeps) (path item : String) : Except String CorpusSetup :=
  match fs.readFile (fs.join path item) with
  | .error err => .error ("failed to list resource conf file " ++ item ++ ": " ++ err)
  | .ok rawConf =>
    match fs.unmarshalCorpus rawConf with
    | .error err => .error ("failed to parse resource conf file " ++ item ++ ": " ++ err)
    | .ok cs => .ok cs

/-- Lines 181-193: the loop over the entries; `ans` holds what was decoded so far and is
returned with the error. -/
def loadItems (fs : LoadDeps) (path : String) : List String → List CorpusSetup →
    List CorpusSetup × Option String
  | [], ans => (ans, none)
  | item :: rest, ans =>
    match loadItem fs path item with
    | .error err => (ans, some err)
    | .ok cs => loadItems fs path rest (ans ++ [cs])

/-- `loadResources(path)` (lines 175-195). -/
def loadResources (fs : LoadDeps) (path : String) : List CorpusSetup × Option String :=
  match fs.readDir path with
  | .error err => ([], some ("failed to list resource conf directory: " ++ err))
  | .ok items => loadItems fs path items []

/-- `LoadConfig(path)` (lines 197-219), with `log.Fatal` as an error. A file without a
`corpora` section stops at the nil dereference of line 211. -/
def loadConfig (fs : LoadDeps) (decode : String → Except String ConfFile) (path : String) :
    Except String Conf :=
  if path = "" then .error "Cannot load config - path not specified" else
  match fs.readFile path with
  | .error err => .error ("Cannot load config: " ++ err)
  | .ok rawData =>
    match decode rawData with
    | .error err => .error ("Cannot load config: " ++ err)
    | .ok f =>
      match f.resourcesConfDir with
      | none => .error "invalid memory address or nil pointer dereference"
      | some dir =>
        if dir = "" then .ok f.conf else
        match loadResources fs dir with
        | (_, some err) => .error ("Cannot load individual resource configs: " ++ err)
        | (rsrcs, none) =>
          .ok { f.conf with corporaSetup := { f.conf.corporaSetup with
            resources := ⟨f.conf.corporaSetup.resources.rscs ++ rsrcs⟩ } }

/-- **The loop is a traversal.** `loadItems` decodes the entries in order and stops at the
first that fails: its error is the one `mapM` returns, and when none fails it returns what
it had followed by the traversal's list. -/
theorem loadItems_eq_mapM (fs : LoadDeps) (path : String) :
    ∀ (items : List String) (ans : List CorpusSetup),
      match items.mapM (loadItem fs path) with
      | .ok css => loadItems fs path items ans = (ans ++ css, none)
      | .error err => (loadItems fs path items ans).2 = some err
  | [], ans => by
    rw [List.mapM_nil]
    exact congrArg (·, none) (List.append_nil ans).symm
  | item :: rest, ans => by
    rw [List.mapM_cons]
    cases hi : loadItem fs path item with
    | error err => simp [loadItems, hi, bind, Except.bind]
    | ok cs =>
      have ih := loadItems_eq_mapM fs path rest (ans ++ [cs])
      cases hr : rest.mapM (loadItem fs path) with
      | error err => rw [hr] at ih; simpa [loadItems, hi, bind, Except.bind] using ih
      | ok css => rw [hr] at ih; simp [loadItems, hi, bind, Except.bind, ih, pure, Except.pure]

/-- `loadResources` returns without an error exactly on a directory whose every entry reads
and decodes, and then returns them decoded, in the directory's order. -/
theorem loadResources_ok {fs : LoadDeps} {dir : String} {rsrcs : List CorpusSetup}
    (h : loadResources fs dir = (rsrcs, none)) :
    ∃ items, fs.readDir dir = .ok items ∧ items.mapM (loadItem fs dir) = .ok rsrcs := by
  unfold loadResources at h
  split at h
  · cases h
  · rename_i items hitems
    refine ⟨items, hitems, ?_⟩
    have hloop := loadItems_eq_mapM fs dir items []
    split at hloop
    · rename_i css hcss
      rw [hloop, List.nil_append] at h
      rw [hcss, (Prod.mk.inj h).1]
    · rw [h] at hloop
      cases hloop

/-- **What a configuration that loads is.** `LoadConfig` returns only for a non-empty path
to a file that reads and decodes and has a `corpora` section. With no resources directory
the configuration is the file's; otherwise every entry of the directory reads and decodes,
and the resources are the file's followed by the directory's, in the directory's order. -/
theorem loadConfig_ok {fs : LoadDeps} {decode : String → Except String ConfFile} {path : String}
    {conf : Conf} (h : loadConfig fs decode path = .ok conf) :
    ∃ raw f, path ≠ "" ∧ fs.readFile path = .ok raw ∧ decode raw = .ok f ∧
      (f.resourcesConfDir = some "" ∧ conf = f.conf ∨
        ∃ dir items css, f.resourcesConfDir = some dir ∧ dir ≠ "" ∧
          fs.readDir dir = .ok items ∧ items.mapM (loadItem fs dir) = .ok css ∧
          conf = { f.conf with corporaSetup := { f.conf.corporaSetup with
            resources := ⟨f.conf.corporaSetup.resources.rscs ++ css⟩ } }) := by
  unfold loadConfig at h
  split at h
  · cases h
  rename_i hpath
  split at h
  · cases h
  rename_i raw hraw
  split at h
  · cases h
  rename_i f hf
  refine ⟨raw, f, hpath, hraw, hf, ?_⟩
  split at h
  · cases h
  rename_i dir hdir
  split at h
  · cases h
    exact .inl ⟨by rw [hdir, ‹dir = ""›], rfl⟩
  split at h
  · cases h
  rename_i rsrcs hload
  cases h
  obtain ⟨items, hitems, hmap⟩ := loadResources_ok hload
  exact .inr ⟨dir, items, rsrcs, hdir, ‹_›, hitems, hmap, rfl⟩

/-- A file with one resource directory of one entry: the configuration gets the entry's
corpus after its own. -/
theorem loadConfig_appends_directory :
    let sm : StructureMapping := ⟨"s", "sp", "p", "sp", "doc", "doc"⟩
    let fs : LoadDeps := ⟨fun _ => .ok ["a.json"], fun p => .ok p, fun d i => d ++ "/" ++ i,
      fun raw => .ok ⟨raw, "", "", [], sm⟩⟩
    let decode : String → Except String ConfFile :=
      fun _ => .ok ⟨⟨0, none, ⟨⟨[]⟩, 10⟩, "", "", ""⟩, some "rsc"⟩
    let conf : Conf := ⟨0, none, ⟨⟨[⟨"rsc/a.json", "", "", [], sm⟩]⟩, 10⟩, "", "", ""⟩
    loadConfig fs decode "conf.json" = .ok conf ∧
      ∃ raw f, "conf.json" ≠ "" ∧ fs.readFile "conf.json" = .ok raw ∧ decode raw = .ok f ∧
        (f.resourcesConfDir = some "" ∧ conf = f.conf ∨
          ∃ dir items css, f.resourcesConfDir = some dir ∧ dir ≠ "" ∧
            fs.readDir dir = .ok items ∧ items.mapM (loadItem fs dir) = .ok css ∧
            conf = { f.conf with corporaSetup := { f.conf.corporaSetup with
              resources := ⟨f.conf.corporaSetup.resources.rscs ++ css⟩ } }) := by
  intro sm fs decode conf
  have h : loadConfig fs decode "conf.json" = .ok conf := rfl
  exact ⟨h, loadConfig_ok h⟩

/-! ## The worker's identity -/

/-- `getEnv(name)` over `os.Environ()`: the value of the first `name=value` entry that
splits on `=` into exactly two parts, or `""`. -/
def getEnv (environ : List String) (name : String) : String :=
  match environ with
  | [] => ""
  | p :: rest =>
    match split p '=' with
    | [k, v] => if k = name then v else getEnv rest name
    | _ => getEnv rest name

/-- `getWorkerID()`: `WORKER_ID`, or `"0"` when it is empty or unset. -/
def getWorkerID (environ : List String) : String :=
  let workerID := getEnv environ "WORKER_ID"
  if workerID = "" then "0" else workerID

/-- **What `getEnv` reads.** The first entry that splits on `=` into exactly `name` and a
value decides, with that value; with no such entry the result is `""`. -/
theorem getEnv_spec (environ : List String) (name : String) :
    (∃ pre rest v, environ = pre ++ (name ++ "=" ++ v) :: rest ∧
      split (name ++ "=" ++ v) '=' = [name, v] ∧
      (∀ q ∈ pre, ∀ w, split q '=' ≠ [name, w]) ∧ getEnv environ name = v) ∨
    ((∀ q ∈ environ, ∀ w, split q '=' ≠ [name, w]) ∧ getEnv environ name = "") := by
  induction environ with
  | nil => exact .inr ⟨fun _ => nofun, rfl⟩
  | cons p rest ih =>
    by_cases hp : ∃ v, split p '=' = [name, v]
    · obtain ⟨v, hv⟩ := hp
      have hpv : p = name ++ "=" ++ v := split_eq_pair hv
      refine .inl ⟨[], rest, v, by rw [hpv]; rfl, hpv ▸ hv, by simp, ?_⟩
      simp [getEnv, hv]
    · push_neg at hp
      have hskip : getEnv (p :: rest) name = getEnv rest name := by
        simp only [getEnv]
        split
        · rename_i k v hkv
          exact if_neg fun (hk : k = name) => hp v (hk ▸ hkv)
        · rfl
      rw [hskip]
      rcases ih with ⟨pre, rest', v, he, hs, hpre, hv⟩ | ⟨hnone, hv⟩
      · exact .inl ⟨p :: pre, rest', v, by rw [he]; rfl, hs, List.forall_mem_cons.mpr ⟨hp, hpre⟩, hv⟩
      · exact .inr ⟨List.forall_mem_cons.mpr ⟨hp, hnone⟩, hv⟩

/-- **The worker's id.** The first environment entry that splits on `=` into exactly
`WORKER_ID` and a value decides: the id is that value, or `"0"` when the value is empty;
with no such entry the id is `"0"`. An entry such as `WORKER_ID=a=b` splits into three
parts and is skipped, and the id is never empty. -/
theorem getWorkerID_spec (environ : List String) :
    getWorkerID environ ≠ "" ∧
    ((∃ pre rest v, environ = pre ++ ("WORKER_ID" ++ "=" ++ v) :: rest ∧
        split ("WORKER_ID" ++ "=" ++ v) '=' = ["WORKER_ID", v] ∧
        (∀ q ∈ pre, ∀ w, split q '=' ≠ ["WORKER_ID", w]) ∧
        getWorkerID environ = if v = "" then "0" else v) ∨
      ((∀ q ∈ environ, ∀ w, split q '=' ≠ ["WORKER_ID", w]) ∧ getWorkerID environ = "0")) := by
  have hne : getWorkerID environ ≠ "" := by
    dsimp only [getWorkerID]
    split
    · decide
    · assumption
  refine ⟨hne, ?_⟩
  rcases getEnv_spec environ "WORKER_ID" with ⟨pre, rest, v, he, hs, hpre, hv⟩ | ⟨hnone, hv⟩
  · exact .inl ⟨pre, rest, v, he, hs, hpre, by simp only [getWorkerID, hv]⟩
  · exact .inr ⟨hnone, by simp only [getWorkerID, hv]; rfl⟩

end MqueryFcs
