import MqueryFcs.Handler.SearchRetrieve

/-!
# MqueryFcs.Handler.Phases

One inversion lemma per phase of `searchRetrieve`: what a request that got past a phase
is known to satisfy. Every later result reads the handler through these, never through
its definition.

* `readArgs_ok`: a request past the parameter checks has a query and a `startRecord` and a
  `maximumRecords` of at least 1;
* `validateContext_eq_none`: a corpus list passes the check exactly when it is non-empty
  and every corpus is registered; so `GetCorpora()` passes unless the registry is empty
  (`validateContext_getCorpora`), and the `GetCommonPosAttrNames` failure of lines 159-167
  cannot happen after the check (`getCommonPosAttrNames_of_validateContext`);
* `dispatch_ok`: a dispatched request searches `selectCorpora`, a non-empty list of
  registered corpora, and has published one job per corpus, for the corpus's registry
  path and the window `[startRecord - 1, startRecord - 1 + maximumRecords)`;
* `awaitResults_seeded`: the selector handed to the merge loop is a seeded state of a
  selector built from those corpora.
-/

namespace MqueryFcs

section Phases

variable {σ : Type} (deps : Deps) (sel : LineSelector σ) (a : FCSSubHandlerV12)

theorem firstUnsupported_eq_none {keyOrder : List String} :
    firstUnsupported deps keyOrder = none ↔ ∀ k ∈ keyOrder, deps.validate k = none := by
  simp [firstUnsupported, List.findSome?_eq_none_iff]

theorem readArgs_ok {keyOrder : List String} {url : URLQuery} {resp resp' : FCSResponse}
    {args : SearchArgs} (h : readArgs deps a keyOrder url resp = .ok (args, resp')) :
    firstUnsupported deps keyOrder = none ∧ args.fcsQuery = url.query searchRetrArgQuery ∧
      args.fcsQuery ≠ "" ∧ 1 ≤ args.startRecord ∧ 1 ≤ args.maximumRecords := by
  unfold readArgs at h
  split at h
  · cases h
  · rename_i hu
    simp only at h
    split at h
    · cases h
    · rename_i hq
      split at h
      · cases h
      · split at h
        · cases h
        · rename_i hs
          split at h
          · cases h
          · split at h
            · cases h
            · rename_i hm
              cases h
              refine ⟨hu, rfl, hq, ?_, ?_⟩ <;> dsimp only <;> omega

theorem validateContext_eq_none {corpora : List String} :
    validateContext a corpora = none ↔
      corpora ≠ [] ∧ ∀ c ∈ corpora, a.corporaConf.resources.Registered c := by
  unfold validateContext
  split
  · simp_all
  · rename_i hne
    simp only [ne_eq, hne, not_false_eq_true, true_and, List.findSome?_eq_none_iff]
    refine forall₂_congr fun c _ => ?_
    unfold Resources.Registered
    split <;> simp_all

/-- Without `x-fcs-context` the handler searches `GetCorpora()`, which passes the context
check whenever the registry is not empty. -/
theorem validateContext_getCorpora (h : a.corporaConf.resources.getCorpora ≠ []) :
    validateContext a a.corporaConf.resources.getCorpora = none :=
  (validateContext_eq_none a).mpr ⟨h, fun _ hc => Resources.registered_of_mem_getCorpora hc⟩

/-- Lines 159-167 are dead: once the context passes, `GetCommonPosAttrNames` finds every
corpus. -/
theorem getCommonPosAttrNames_of_validateContext {corpora : List String}
    (h : validateContext a corpora = none) :
    ∃ attrs, a.corporaConf.resources.getCommonPosAttrNames corpora = .ok attrs :=
  Resources.getCommonPosAttrNames_ok ((validateContext_eq_none a).mp h).2

/-- A job asks for its range's corpus, from its range's first row, for `maximumRecords`
rows. -/
theorem makeJob_args {fcsQuery : String} {attrs : List String} {k : Int} {rng : PartialRange}
    {q : Query} (h : makeJob deps a fcsQuery attrs k rng = .ok q) :
    (q.args.corpusPath, q.args.startLine, q.args.maxItems) =
      (a.corporaConf.getRegistryPath rng.rsc, rng.fromLine, k) := by
  unfold makeJob at h
  split at h
  · cases h
  · split at h
    · cases h
    · cases h; rfl

/-- The publication loop, run to the end, publishes one job per range, in order. -/
theorem publishSearches_jobs {fcsQuery : String} {attrs : List String} {k : Int} :
    ∀ {ranges : List PartialRange} {published : List Query},
      publishSearches deps a fcsQuery attrs k ranges = (published, none) →
      published.map (fun q => (q.args.corpusPath, q.args.startLine, q.args.maxItems)) =
        ranges.map fun r => (a.corporaConf.getRegistryPath r.rsc, r.fromLine, k)
  | [], _, h => by cases h; rfl
  | rng :: rest, published, h => by
    unfold publishSearches at h
    split at h
    · cases h
    · rename_i q hq
      split at h
      · cases h
      · rcases hr : publishSearches deps a fcsQuery attrs k rest with ⟨qs, r⟩
        rw [hr] at h
        simp only [Prod.mk.injEq] at h
        obtain ⟨rfl, rfl⟩ := h
        simp [publishSearches_jobs hr, makeJob_args deps a hq]

/-- **Inversion of `dispatch`.** -/
theorem dispatch_ok {keyOrder : List String} {url : URLQuery} {resp : FCSResponse}
    {d : Dispatched} (h : dispatch deps a keyOrder url resp = .ok d) :
    readArgs deps a keyOrder url resp = .ok (d.args, d.resp) ∧
      d.corpora = selectCorpora a url ∧ d.corpora ≠ [] ∧
      (∀ c ∈ d.corpora, a.corporaConf.resources.Registered c) ∧
      d.published.map (fun q => (q.args.corpusPath, q.args.startLine, q.args.maxItems)) =
        d.corpora.map fun c =>
          (a.corporaConf.getRegistryPath c, d.args.startRecord - 1, d.args.maximumRecords) := by
  unfold dispatch at h
  split at h
  · cases h
  · rename_i args resp' hargs
    simp only at h
    split at h
    · cases h
    · rename_i hv
      obtain ⟨hne, hreg⟩ := (validateContext_eq_none a).mp hv
      split at h
      · cases h
      · split at h
        · cases h
        · rename_i published hp
          cases h
          exact ⟨hargs, rfl, hne, hreg, by
            simpa [calculatePartialRanges] using publishSearches_jobs deps a hp⟩

/-- The collection loop only seeds: from a seeded state it reaches seeded states. -/
theorem collectResults_seeded {maxLines : Int} {corpora : List String}
    {reply : Nat → WorkerResult} :
    ∀ {i : Nat} {cs : List String} {s s' : σ}, sel.Seeded maxLines corpora s →
      collectResults deps sel reply i cs s = .ok s' → sel.Seeded maxLines corpora s'
  | _, [], _, _, hs, h => by cases h; exact hs
  | i, rsc :: rest, s, s', hs, h => by
    unfold collectResults at h
    split at h
    · cases h
    · rename_i s₁ h₁
      refine collectResults_seeded ?_ h
      unfold collectStep at h₁
      split at h₁
      · cases h₁
      · split at h₁
        · cases h₁; exact .setLines _ _ hs
        · split at h₁
          · cases h₁; exact .setLines _ _ (.setError _ _ hs)
          · cases h₁

/-- The selector the merge loop drains was built from the dispatched corpora. -/
theorem awaitResults_seeded {maximumRecords : Int} {corpora : List String}
    {reply : Nat → WorkerResult} {s : σ}
    (h : awaitResults deps sel maximumRecords corpora reply = .ok s) :
    sel.Seeded maximumRecords corpora s := by
  unfold awaitResults at h
  split at h
  · cases h
  · rename_i s₀ h₀
    have hs₀ := collectResults_seeded deps sel .new h₀
    split at h
    · cases h
    · split at h
      · cases h
      · cases h; exact hs₀

end Phases

end MqueryFcs
