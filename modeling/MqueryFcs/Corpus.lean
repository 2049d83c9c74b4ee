import MqueryFcs.General

/-!
# MqueryFcs.Corpus

The resource registry the handler validates and translates against, and the range
planner that gives each selected corpus its window.

Neither the `corpus` package nor `query.CalculatePartialRanges` is among the sources, so
both are modelled from the spec: the registry after §3 (`get`, `listAll`,
`commonPosAttrNames`; immutable after startup, which the model has for free, since the
handler only ever reads it), the planner after §4.3 (every corpus gets `from = S`,
`maxItems = K`). The text of a lookup error is not given anywhere; only its presence is
used.
-/

namespace MqueryFcs

/-- `corpus.PosAttr`: one positional attribute of a corpus (spec §3). -/
structure PosAttr where
  id : String
  name : String
  layer : String
  isLayerDefault : Bool
  deriving Repr, DecidableEq

/-- `corpus.StructureMapping`: the corpus's tag for each abstract structure (spec §3). -/
structure StructureMapping where
  sentenceStruct : String
  utteranceStruct : String
  paragraphStruct : String
  turnStruct : String
  textStruct : String
  sessionStruct : String
  deriving Repr, DecidableEq

/-- Modelled from the spec: `corpus.CorpusSetup`, the §3 CorpusResource. -/
structure CorpusSetup where
  id : String
  registryPath : String
  uri : String
  posAttrs : List PosAttr
  structureMapping : StructureMapping
  deriving Repr, DecidableEq

/-- Modelled from the spec: `Resources`, the §3 ResourceRegistry, in configuration order. -/
structure Resources where
  rscs : List CorpusSetup
  deriving Repr, DecidableEq

namespace Resources

/-- Modelled from the spec: `GetResource(name)`, the first resource of that name, or an
error. -/
def getResource (r : Resources) (name : String) : Except String CorpusSetup :=
  match r.rscs.find? (·.id = name) with
  | some c => .ok c
  | none => .error ("unknown resource " ++ name)

/-- Modelled from the spec: `GetCorpora()`, every corpus name (`listAll`). -/
def getCorpora (r : Resources) : List String :=
  r.rscs.map (·.id)

/-- Modelled from the spec: `GetCommonPosAttrNames(names...)`, the attribute names of the
first corpus that every other named corpus has too, in the first corpus's order; an error
when a name is unknown. -/
def getCommonPosAttrNames (r : Resources) (names : List String) :
    Except String (List String) :=
  match names.mapM r.getResource with
  | .error e => .error e
  | .ok [] => .ok []
  | .ok (c :: cs) =>
    .ok ((c.posAttrs.map (·.name)).filter fun a => cs.all fun c' => c'.posAttrs.any (·.name = a))

/-- Whether `GetResource(name)` succeeds. -/
def Registered (r : Resources) (name : String) : Prop :=
  ∃ c, r.getResource name = .ok c

instance (r : Resources) (name : String) : Decidable (r.Registered name) :=
  match h : r.getResource name with
  | .ok c => isTrue ⟨c, h⟩
  | .error _ => isFalse fun ⟨_, hc⟩ => by rw [h] at hc; cases hc

theorem getResource_id {r : Resources} {name : String} {c : CorpusSetup}
    (h : r.getResource name = .ok c) : c.id = name := by
  unfold getResource at h
  split at h
  · rename_i hf
    cases h
    simpa using List.find?_some hf
  · cases h

/-- Every name `GetCorpora()` lists is found by `GetResource`. -/
theorem registered_of_mem_getCorpora {r : Resources} {name : String}
    (h : name ∈ r.getCorpora) : r.Registered name := by
  obtain ⟨c, hc, rfl⟩ := List.mem_map.mp h
  unfold Registered getResource
  cases hf : r.rscs.find? (·.id = c.id) with
  | some c' => exact ⟨c', rfl⟩
  | none => simpa using List.find?_eq_none.mp hf c hc

/-- Every name of a list that `GetResource` all accepts makes `GetCommonPosAttrNames`
succeed. -/
theorem getCommonPosAttrNames_ok {r : Resources} {names : List String}
    (h : ∀ n ∈ names, r.Registered n) : ∃ attrs, r.getCommonPosAttrNames names = .ok attrs := by
  have hm : ∃ cs, names.mapM r.getResource = .ok cs := by
    induction names with
    | nil => exact ⟨[], rfl⟩
    | cons n ns ih =>
      obtain ⟨c, hc⟩ := h n (List.mem_cons_self _ _)
      obtain ⟨cs, hcs⟩ := ih fun m hm => h m (List.mem_cons_of_mem _ hm)
      exact ⟨c :: cs, by rw [List.mapM_cons, hc, hcs]; rfl⟩
  obtain ⟨cs, hcs⟩ := hm
  unfold getCommonPosAttrNames
  rw [hcs]
  cases cs <;> exact ⟨_, rfl⟩

end Resources

/-- `corporaConf`: the handler's corpora configuration, as `searchRetrieve` reads it. -/
structure CorporaSetup where
  resources : Resources
  maximumRecords : Int
  deriving Repr, DecidableEq

/-- Modelled from the spec: `GetRegistryPath(name)`, the registry path of the named corpus. -/
def CorporaSetup.getRegistryPath (c : CorporaSetup) (name : String) : String :=
  match c.resources.getResource name with
  | .ok r => r.registryPath
  | .error _ => ""

/-! ## The range planner -/

/-- One corpus's window: its name, the first row (0-based) and the number of rows asked
for (`rng.Rsc`, `rng.From`; the Go field `From` is a Lean keyword). -/
structure PartialRange where
  rsc : String
  fromLine : Int
  maxItems : Int
  deriving Repr, DecidableEq

/-- Modelled from the spec: `query.CalculatePartialRanges(corpora, S, K)`, §4.3: the same
window `[S, S+K)` for every corpus, in corpus-list order. -/
def calculatePartialRanges (corpora : List String) (offset limit : Int) : List PartialRange :=
  corpora.map fun c => ⟨c, offset, limit⟩

@[simp] theorem calculatePartialRanges_length (corpora : List String) (offset limit : Int) :
    (calculatePartialRanges corpora offset limit).length = corpora.length := by
  simp [calculatePartialRanges]

end MqueryFcs
