import MqueryFcs.Handler.Phases
import MqueryFcs.Handler.SpecDeps
import MqueryFcs.Result.LineSel

/-!
# MqueryFcs.Handler.Dispatch

Which corpora a request searches, and what the queue holds when the request is refused.

* The corpus list comes from `selectCorpora`, whose test is `Has(ctx.Query("x-fcs-context"))`:
  it asks whether the URL has a key equal to the context's *value*. A context is therefore
  honoured only when its value is itself a key of the URL, which the parameter check then
  requires to be a supported parameter name (`dispatch_corpora`); a request naming real
  corpora searches every configured corpus (`searchRetrieve_ignores_context`).
* Translation and publication share one loop (`publishSearches`), so a query that cannot
  be translated for a corpus is found only after the jobs of the corpora before it have
  been published; the request is then refused and those jobs are never awaited
  (`searchRetrieve_translation_failure`).
-/

namespace MqueryFcs

section Dispatch

variable {σ : Type} (deps : Deps) (sel : LineSelector σ) (a : FCSSubHandlerV12)

/-! ## The corpora of a request -/

/-- A dispatched request searches every configured corpus, or splits the context's value,
and then the URL has that value as a key and it passed the parameter check. -/
theorem dispatch_corpora {keyOrder : List String} {url : URLQuery} {resp : FCSResponse}
    {d : Dispatched} (hkeys : keyOrder.Perm url.keys)
    (hd : dispatch deps a keyOrder url resp = .ok d) :
    d.corpora = a.corporaConf.resources.getCorpora ∨
      (url.has (url.query searchRetrArgFCSContext) = true ∧
        deps.validate (url.query searchRetrArgFCSContext) = none ∧
        d.corpora = split (url.query searchRetrArgFCSContext) ',') := by
  obtain ⟨hargs, hsel, -⟩ := dispatch_ok deps a hd
  have hu := (firstUnsupported_eq_none deps).mp (readArgs_ok deps a hargs).1
  rw [hsel, selectCorpora]
  split
  · rename_i hhas
    exact .inr ⟨hhas, hu _ (hkeys.mem_iff.mpr ((URLQuery.mem_keys _ _).mpr hhas)), rfl⟩
  · exact .inl rfl

/-- A context whose value is the parameter name `query`, on a registry with a corpus of
that name: the one case where the context is honoured. -/
theorem dispatch_corpora_query_context :
    let h := exampleHandler [exampleCorpus "query" true, exampleCorpus "b" true]
    let url : URLQuery :=
      ⟨[(searchRetrArgQuery, "x"), (searchRetrArgFCSContext, searchRetrArgQuery)]⟩
    let keys := [searchRetrArgQuery, searchRetrArgFCSContext]
    let d : Dispatched := ⟨⟨[], "x", 1, []⟩, ⟨"x", 1, 10⟩, ["query"],
      [⟨"concExample", ⟨"/reg/query", "[word=\"x\"]", ["word"], 0, 10⟩⟩]⟩
    keys.Perm url.keys ∧ dispatch specDeps h keys url emptyResponse = .ok d ∧
      (d.corpora = h.corporaConf.resources.getCorpora ∨
        (url.has (url.query searchRetrArgFCSContext) = true ∧
          specDeps.validate (url.query searchRetrArgFCSContext) = none ∧
          d.corpora = split (url.query searchRetrArgFCSContext) ',')) := by
  intro h url keys d
  have hk : keys.Perm url.keys := by decide
  have hd : dispatch specDeps h keys url emptyResponse = .ok d := rfl
  exact ⟨hk, hd, dispatch_corpora specDeps h hk hd⟩

/-- `x-fcs-context=a` on a registry of `a` and `b`: the handler publishes jobs for both
corpora and merges the rows of both. -/
theorem searchRetrieve_ignores_context :
    searchRetrieve specDeps roundRobinLineSel
        (exampleHandler [exampleCorpus "a" true, exampleCorpus "b" true])
        [searchRetrArgQuery, searchRetrArgFCSContext]
        ⟨[(searchRetrArgQuery, "x"), (searchRetrArgFCSContext, "a")]⟩
        (fun _ => .decoded ⟨[⟨[⟨"x", true⟩]⟩], ""⟩) emptyResponse =
      ⟨statusOK, ⟨[], "x", 1,
          [⟨1, "a", "urn:a", [⟨"x", true⟩]⟩, ⟨2, "b", "urn:b", [⟨"x", true⟩]⟩]⟩,
        [⟨"concExample", ⟨"/reg/a", "[word=\"x\"]", ["word"], 0, 10⟩⟩,
          ⟨"concExample", ⟨"/reg/b", "[word=\"x\"]", ["word"], 0, 10⟩⟩], none⟩ := by
  decide

/-! ## Translation failures and the queue -/

/-- The loop publishes the jobs of the ranges before the first one whose query cannot be
translated, and stops there. -/
theorem publishSearches_translation_failure {fcsQuery : String} {attrs : List String} {k : Int}
    {rng : PartialRange} {e : Nat × FCSError}
    (hfail : makeJob deps a fcsQuery attrs k rng = .error e) (pre post : List PartialRange)
    (hpre : ∀ r ∈ pre, ∃ q, makeJob deps a fcsQuery attrs k r = .ok q ∧ deps.publishQuery q = none) :
    publishSearches deps a fcsQuery attrs k (pre ++ rng :: post) =
      (pre.filterMap fun r => (makeJob deps a fcsQuery attrs k r).toOption, some e) := by
  induction pre with
  | nil => simp [publishSearches, hfail]
  | cons r pre ih =>
    obtain ⟨q, hq, hpub⟩ := hpre r (List.mem_cons_self _ _)
    simp [publishSearches, hq, hpub, ih fun r' hr' => hpre r' (List.mem_cons_of_mem _ hr'),
      Except.toOption]

/-- **A request refused for translation.** When the query translates and publishes for
the corpora `pre` and cannot be translated for the next corpus `c`, the request is refused
with that diagnostic and the queue holds one job per corpus of `pre`, in order; the
replies play no part, so none of those jobs is awaited. -/
theorem searchRetrieve_translation_failure {keyOrder : List String} {url : URLQuery}
    {reply : Nat → WorkerResult} {resp resp' : FCSResponse} {args : SearchArgs}
    {attrs pre post : List String} {c : String} {e : Nat × FCSError}
    (hargs : readArgs deps a keyOrder url resp = .ok (args, resp'))
    (hv : validateContext a (selectCorpora a url) = none)
    (hattrs : a.corporaConf.resources.getCommonPosAttrNames (selectCorpora a url) = .ok attrs)
    (hsplit : selectCorpora a url = pre ++ c :: post)
    (hpre : ∀ p ∈ pre, ∃ q, makeJob deps a args.fcsQuery attrs args.maximumRecords
      ⟨p, args.startRecord - 1, args.maximumRecords⟩ = .ok q ∧ deps.publishQuery q = none)
    (hfail : makeJob deps a args.fcsQuery attrs args.maximumRecords
      ⟨c, args.startRecord - 1, args.maximumRecords⟩ = .error e) :
    let published := pre.filterMap fun p => (makeJob deps a args.fcsQuery attrs
      args.maximumRecords ⟨p, args.startRecord - 1, args.maximumRecords⟩).toOption
    searchRetrieve deps sel a keyOrder url reply resp =
        ⟨e.1, resp'.addError e.2, published, none⟩ ∧
      published.length = pre.length := by
  have hpub := publishSearches_translation_failure deps a hfail
    (calculatePartialRanges pre (args.startRecord - 1) args.maximumRecords)
    (calculatePartialRanges post (args.startRecord - 1) args.maximumRecords)
    (by simpa [calculatePartialRanges] using hpre)
  refine ⟨?_, List.filterMap_length_eq_length.mpr fun p hp => ?_⟩
  swap
  · obtain ⟨q, hq, -⟩ := hpre p hp
    simp [hq, Except.toOption]
  simp only [calculatePartialRanges, List.map_append, List.map_cons] at hpub
  rw [hsplit] at hv hattrs
  simp [searchRetrieve, dispatch, hargs, hv, hattrs, hsplit, calculatePartialRanges, hpub,
    List.filterMap_map, Function.comp_def]

end Dispatch

/-- The query `x` on a registry of `a`, with a layer-default attribute, and `c`, without
one: the job for `a` is published before translation fails for `c`. -/
theorem searchRetrieve_translation_failure_after_first :
    let h := exampleHandler [exampleCorpus "a" true, exampleCorpus "c" false]
    let url : URLQuery := ⟨[(searchRetrArgQuery, "x")]⟩
    let job := makeJob specDeps h "x" ["word"] 10
    readArgs specDeps h [searchRetrArgQuery] url emptyResponse =
        .ok (⟨"x", 1, 10⟩, ⟨[], "x", 1, []⟩) ∧
      validateContext h (selectCorpora h url) = none ∧
      h.corporaConf.resources.getCommonPosAttrNames (selectCorpora h url) = .ok ["word"] ∧
      selectCorpora h url = ["a"] ++ "c" :: [] ∧
      (∀ p ∈ ["a"], ∃ q, job ⟨p, 1 - 1, 10⟩ = .ok q ∧ specDeps.publishQuery q = none) ∧
      job ⟨"c", 1 - 1, 10⟩ = .error (conformantUnprocessableEntity,
        ⟨.queryCannotProcess, searchRetrArgQuery, "unknown default attribute"⟩) ∧
      searchRetrieve specDeps roundRobinLineSel h [searchRetrArgQuery] url
          (fun _ => .decoded ⟨[], ""⟩) emptyResponse =
        ⟨conformantUnprocessableEntity,
          ⟨[⟨.queryCannotProcess, searchRetrArgQuery, "unknown default attribute"⟩], "x", 1, []⟩,
          [⟨"concExample", ⟨"/reg/a", "[word=\"x\"]", ["word"], 0, 10⟩⟩], none⟩ := by
  intro h url job
  have hpre : ∀ p ∈ ["a"], ∃ q, job ⟨p, 1 - 1, 10⟩ = .ok q ∧ specDeps.publishQuery q = none := by
    simp only [List.mem_singleton, forall_eq]
    exact ⟨_, rfl, rfl⟩
  refine ⟨?hargs, ?hv, ?hattrs, ?hsplit, hpre, ?hfail,
    (searchRetrieve_translation_failure specDeps roundRobinLineSel h ?hargs ?hv ?hattrs ?hsplit
      hpre ?hfail).1.trans ?_⟩
  all_goals rfl

/-- The same request, evaluated: it is refused with 422 and the job for `a` stays
published. -/
theorem searchRetrieve_publishes_before_translation_failure :
    searchRetrieve specDeps roundRobinLineSel
        (exampleHandler [exampleCorpus "a" true, exampleCorpus "c" false])
        [searchRetrArgQuery] ⟨[(searchRetrArgQuery, "x")]⟩
        (fun _ => .decoded ⟨[], ""⟩) emptyResponse =
      ⟨conformantUnprocessableEntity,
        ⟨[⟨.queryCannotProcess, searchRetrArgQuery, "unknown default attribute"⟩], "x", 1, []⟩,
        [⟨"concExample", ⟨"/reg/a", "[word=\"x\"]", ["word"], 0, 10⟩⟩], none⟩ := by
  decide

end MqueryFcs
