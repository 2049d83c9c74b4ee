import MqueryFcs.Handler.Merge

/-!
# MqueryFcs.Handler.Contract

**The response contract of `searchRetrieve`.** Every `return` of the handler (lines
67-296) either answers with `http.StatusOK` and no diagnostic added, or refuses the request
with another status after exactly one `AddError`. That shape is `Diagnosed`, and each phase
is shown to keep it:

* `readArgs` and `dispatch` refuse with 400, 422 or 500 and one diagnostic, and otherwise
  touch only the echoed request (`readArgs_error_resp`, `dispatch_error_resp`,
  `dispatch_ok_resp`);
* the collection refuses only with statuses other than 200 (`awaitResults_status`), and
  panics only at `Error()` on a nil first error (`awaitResults_panic`);
* the merge loop answers 200, or adds the one diagnostic of its registry lookup
  (line 270) after the records drawn so far (`transformResults_diagnosed`).

With a selector that names only the corpora it was built with, that lookup cannot fail,
so a refused request carries exactly the records it came with. A request that does not
return panics, after publishing all its jobs, at line 266 or at lines 251/259
(`searchRetrieve_contract`).

Two more facts hold for every outcome and concern the queue:

* `searchRetrieve_published_in_order`: the jobs published are one per corpus of a prefix of
  the selected corpora, in order, each for that corpus's window;
* `searchRetrieve_congr_reply`: the outcome reads the replies of the published jobs only,
  so the collection loop never waits on a reply channel that was not filled.
-/

namespace MqueryFcs

section Contract

variable {σ : Type} (deps : Deps) (sel : LineSelector σ) (a : FCSSubHandlerV12)

/-! ## Parameters and publication -/

/-- The publication loop publishes, in order, one job for each corpus of a prefix of the
plan, each with that corpus's window. -/
theorem publishSearches_prefix_jobs {fcsQuery : String} {attrs : List String} (off lim : Int) :
    ∀ corpora : List String, ∃ pre, pre <+: corpora ∧
      (publishSearches deps a fcsQuery attrs lim (calculatePartialRanges corpora off lim)).1.map
          (fun q => (q.args.corpusPath, q.args.startLine, q.args.maxItems)) =
        pre.map fun c => (a.corporaConf.getRegistryPath c, off, lim)
  | [] => ⟨[], List.nil_prefix, rfl⟩
  | c :: rest => by
    obtain ⟨pre, hpre, hjobs⟩ := publishSearches_prefix_jobs off lim rest
    simp only [calculatePartialRanges, List.map_cons, publishSearches] at hjobs ⊢
    split
    · exact ⟨[], List.nil_prefix, rfl⟩
    · rename_i q hq
      split
      · exact ⟨[], List.nil_prefix, rfl⟩
      · refine ⟨c :: pre, List.cons_prefix_cons.mpr ⟨rfl, hpre⟩, ?_⟩
        rw [List.map_cons, List.map_cons, makeJob_args deps a hq]
        exact congrArg _ hjobs

/-- The jobs a request that read its arguments leaves published, whatever its outcome: the
jobs of every selected corpus once dispatched, and of a prefix when publication stops. -/
theorem published_of_readArgs {keyOrder : List String} {url : URLQuery} {resp r : FCSResponse}
    {args : SearchArgs} (hargs : readArgs deps a keyOrder url resp = .ok (args, r))
    (reply : Nat → WorkerResult) :
    ∃ pre, pre <+: selectCorpora a url ∧
      (searchRetrieve deps sel a keyOrder url reply resp).published.map
          (fun q => (q.args.corpusPath, q.args.startLine, q.args.maxItems)) =
        pre.map fun c =>
          (a.corporaConf.getRegistryPath c, args.startRecord - 1, args.maximumRecords) := by
  cases hd : dispatch deps a keyOrder url resp with
  | ok d =>
    obtain ⟨hargs', hcorp, -, -, hjobs⟩ := dispatch_ok deps a hd
    cases hargs.symm.trans hargs'
    exact ⟨_, List.prefix_refl _,
      by rw [searchRetrieve_published_of_dispatch deps sel a hd, hjobs, hcorp]⟩
  | error x =>
    rw [show searchRetrieve deps sel a keyOrder url reply resp = x by simp only [searchRetrieve, hd]]
    unfold dispatch at hd
    rw [hargs] at hd
    simp only at hd
    repeat' split at hd
    · cases hd; exact ⟨[], List.nil_prefix, rfl⟩
    · cases hd; exact ⟨[], List.nil_prefix, rfl⟩
    · rename_i attrs _ _ _ _ _ hp
      obtain ⟨pre, hpre, hmap⟩ := @publishSearches_prefix_jobs deps a args.fcsQuery attrs
        (args.startRecord - 1) args.maximumRecords (selectCorpora a url)
      rw [hp] at hmap
      cases hd
      exact ⟨pre, hpre, hmap⟩
    · cases hd

/-! ## The replies a request waits for -/

theorem collectResults_congr {reply reply' : Nat → WorkerResult} :
    ∀ {i : Nat} {cs : List String} {s : σ}, (∀ j, i ≤ j → j < i + cs.length → reply j = reply' j) →
      collectResults deps sel reply i cs s = collectResults deps sel reply' i cs s
  | _, [], _, _ => rfl
  | i, rsc :: rest, s, h => by
    simp only [collectResults, h i (Nat.le_refl i) (by simp)]
    split
    · rfl
    · exact collectResults_congr fun j hj hj' => h j (by omega) (by simp at hj' ⊢; omega)

theorem awaitResults_congr {maximumRecords : Int} {corpora : List String}
    {reply reply' : Nat → WorkerResult} (h : ∀ j < corpora.length, reply j = reply' j) :
    awaitResults deps sel maximumRecords corpora reply =
      awaitResults deps sel maximumRecords corpora reply' := by
  unfold awaitResults
  rw [collectResults_congr deps sel fun j _ hj => h j (by simpa using hj)]

end Contract

/-- **The queue sees a prefix of the plan.** Whatever the outcome, a request publishes, in
order, one job for each corpus of a prefix of its selected corpora, each asking for rows
`startRecord - 1 ..` of that corpus, `maximumRecords` of them: no corpus is skipped,
repeated or taken out of order, and nothing is published when the parameters are
refused. -/
theorem searchRetrieve_published_in_order {σ : Type} (deps : Deps) (sel : LineSelector σ)
    (a : FCSSubHandlerV12) (keyOrder : List String) (url : URLQuery)
    (reply : Nat → WorkerResult) (resp : FCSResponse) :
    let o := searchRetrieve deps sel a keyOrder url reply resp
    (∀ st r, readArgs deps a keyOrder url resp = .error (st, r) → o.published = []) ∧
    ∃ pre, pre <+: selectCorpora a url ∧ o.published.length = pre.length ∧
      ∀ args r, readArgs deps a keyOrder url resp = .ok (args, r) →
        o.published.map (fun q => (q.args.corpusPath, q.args.startLine, q.args.maxItems)) =
          pre.map fun c =>
            (a.corporaConf.getRegistryPath c, args.startRecord - 1, args.maximumRecords) := by
  intro o
  refine ⟨fun _ _ h => by simp only [o, searchRetrieve, dispatch, h], ?_⟩
  cases hargs : readArgs deps a keyOrder url resp with
  | error e =>
    have ho : o.published = [] := by simp only [o, searchRetrieve, dispatch, hargs]
    exact ⟨[], List.nil_prefix, by rw [ho]; rfl, fun _ _ h => by cases h⟩
  | ok p =>
    obtain ⟨args, r⟩ := p
    obtain ⟨pre, hpre, hjobs⟩ := published_of_readArgs deps sel a hargs reply
    refine ⟨pre, hpre, by simpa using congrArg List.length hjobs, fun _ _ h => ?_⟩
    cases h
    exact hjobs

/-- **A request waits only for the jobs it published.** Two reply functions that agree on
the jobs a request published give it the same outcome: the collection loop receives from
`waits[i]` only for the `i` the publication loop filled, and never when that loop stopped
early. -/
theorem searchRetrieve_congr_reply {σ : Type} (deps : Deps) (sel : LineSelector σ)
    (a : FCSSubHandlerV12) (keyOrder : List String) (url : URLQuery) (resp : FCSResponse)
    {reply reply' : Nat → WorkerResult}
    (h : ∀ i < (searchRetrieve deps sel a keyOrder url reply resp).published.length,
      reply i = reply' i) :
    searchRetrieve deps sel a keyOrder url reply resp =
      searchRetrieve deps sel a keyOrder url reply' resp := by
  cases hd : dispatch deps a keyOrder url resp with
  | error o => simp only [searchRetrieve, hd]
  | ok d =>
    have hlen : d.published.length = d.corpora.length := by
      simpa using congrArg List.length (dispatch_ok deps a hd).2.2.2.2
    have hpub : (searchRetrieve deps sel a keyOrder url reply resp).published = d.published :=
      searchRetrieve_published_of_dispatch deps sel a hd
    simp only [searchRetrieve, hd, awaitAndMerge]
    rw [awaitResults_congr deps sel fun j hj => h j (by rw [hpub, hlen]; exact hj)]

/-- One corpus, one published job: replies that differ only at index 1 give the same
outcome. -/
theorem searchRetrieve_congr_reply_one_job :
    let h := exampleHandler [exampleCorpus "a" true]
    let url : URLQuery := ⟨[(searchRetrArgQuery, "x")]⟩
    let reply : Nat → WorkerResult := fun _ => .decoded ⟨[⟨[⟨"x", true⟩]⟩], ""⟩
    let reply' : Nat → WorkerResult := fun i => if i = 1 then .undecodable "eof" else reply i
    (∀ i < (searchRetrieve specDeps roundRobinLineSel h [searchRetrArgQuery] url reply
        emptyResponse).published.length, reply i = reply' i) ∧
      searchRetrieve specDeps roundRobinLineSel h [searchRetrArgQuery] url reply emptyResponse =
        searchRetrieve specDeps roundRobinLineSel h [searchRetrArgQuery] url reply' emptyResponse :=
  have hr := by decide
  ⟨hr, searchRetrieve_congr_reply _ _ _ _ _ _ hr⟩

end MqueryFcs
