import MqueryFcs.Handler.Phases
import MqueryFcs.Handler.SpecDeps
import Mathlib.Logic.Function.Basic

/-!
# MqueryFcs.Handler.Determinism

What the outcome of a request depends on besides the URL and the replies: the iteration
order of the URL's parameter map, and the order in which the worker replies arrive.

* **Key order.** The parameter loop stops at the first key `Validate` rejects, so the
  order only decides which unsupported key is reported (`searchRetrieve_of_unsupported`).
  Whether one is reported, and with it the status and the jobs published, does not depend
  on the order; the whole outcome does not when the URL has at most one unsupported key
  (`searchRetrieve_keyOrder`).
* **Arrival order.** The replies come back over one-shot channels, one per job, which
  the workers fill in any order while the loop blocks on `waits[i]` in index order. The
  system is a trace of `deliver j` and `recv` events (`Awaiting.run`); every trace that
  lets the loop finish leaves it with the sequential `collectResults` of the replies
  (`Awaiting.acc_of_done`), and every trace can be extended to one that finishes
  (`Awaiting.done_deliverAll`).
-/

namespace MqueryFcs

section KeyOrder

variable {σ : Type} (deps : Deps) (sel : LineSelector σ) (a : FCSSubHandlerV12)

theorem firstUnsupported_eq_some {keyOrder : List String} {k m : String}
    (h : firstUnsupported deps keyOrder = some (k, m)) :
    k ∈ keyOrder ∧ deps.validate k = some m := by
  obtain ⟨k', hk', hv⟩ := List.exists_of_findSome?_eq_some h
  obtain ⟨m', hvk, hkm⟩ := Option.map_eq_some'.mp hv
  cases hkm
  exact ⟨hk', hvk⟩

theorem firstUnsupported_perm_eq_none {ko₁ ko₂ : List String} (h : ko₁.Perm ko₂) :
    firstUnsupported deps ko₁ = none ↔ firstUnsupported deps ko₂ = none := by
  simp only [firstUnsupported_eq_none, h.mem_iff]

/-- With at most one unsupported key, every order reports the same one. -/
theorem firstUnsupported_perm_eq {ko₁ ko₂ : List String} (h : ko₁.Perm ko₂)
    (huniq : ∀ k ∈ ko₁, ∀ k' ∈ ko₁, deps.validate k ≠ none → deps.validate k' ≠ none → k = k') :
    firstUnsupported deps ko₁ = firstUnsupported deps ko₂ := by
  cases h₁ : firstUnsupported deps ko₁ with
  | none => exact ((firstUnsupported_perm_eq_none deps h).mp h₁).symm
  | some p =>
    obtain ⟨k, m⟩ := p
    cases h₂ : firstUnsupported deps ko₂ with
    | none => simp [(firstUnsupported_perm_eq_none deps h).mpr h₂] at h₁
    | some p' =>
      obtain ⟨k', m'⟩ := p'
      obtain ⟨hk, hm⟩ := firstUnsupported_eq_some deps h₁
      obtain ⟨hk', hm'⟩ := firstUnsupported_eq_some deps h₂
      obtain rfl := huniq k hk k' (h.mem_iff.mpr hk') (by simp [hm]) (by simp [hm'])
      rw [Option.some.inj (hm.symm.trans hm')]

/-- The handler reads the key order only through the key it reports. -/
theorem searchRetrieve_congr_keyOrder {ko₁ ko₂ : List String} (url : URLQuery)
    (reply : Nat → WorkerResult) (resp : FCSResponse)
    (h : firstUnsupported deps ko₁ = firstUnsupported deps ko₂) :
    searchRetrieve deps sel a ko₁ url reply resp = searchRetrieve deps sel a ko₂ url reply resp := by
  simp only [searchRetrieve, dispatch, readArgs, h]

/-- A request with an unsupported key is refused with 400 before anything is published. -/
theorem searchRetrieve_of_unsupported {keyOrder : List String} {url : URLQuery}
    (reply : Nat → WorkerResult) (resp : FCSResponse) {k m : String}
    (h : firstUnsupported deps keyOrder = some (k, m)) :
    searchRetrieve deps sel a keyOrder url reply resp =
      ⟨conformantStatusBadRequest, resp.addError ⟨.unsupportedParameter, k, m⟩, [], none⟩ := by
  simp only [searchRetrieve, dispatch, readArgs, h]

/-- **Key order.** Over any two iteration orders of the URL's keys, a request gets the same
status and publishes the same jobs; with at most one unsupported key it gets the same
outcome. -/
theorem searchRetrieve_keyOrder {ko₁ ko₂ : List String} (url : URLQuery)
    (reply : Nat → WorkerResult) (resp : FCSResponse) (h : ko₁.Perm ko₂) :
    let o₁ := searchRetrieve deps sel a ko₁ url reply resp
    let o₂ := searchRetrieve deps sel a ko₂ url reply resp
    o₁.status = o₂.status ∧ o₁.published = o₂.published ∧
      ((∀ k ∈ ko₁, ∀ k' ∈ ko₁, deps.validate k ≠ none → deps.validate k' ≠ none → k = k') →
        o₁ = o₂) := by
  intro o₁ o₂
  have hsp : o₁.status = o₂.status ∧ o₁.published = o₂.published := by
    cases h₁ : firstUnsupported deps ko₁ with
    | none =>
      have heq := searchRetrieve_congr_keyOrder deps sel a url reply resp
        (h₁.trans ((firstUnsupported_perm_eq_none deps h).mp h₁).symm)
      exact ⟨congrArg Outcome.status heq, congrArg Outcome.published heq⟩
    | some p =>
      obtain ⟨k, m⟩ := p
      obtain ⟨⟨k', m'⟩, h₂⟩ := Option.ne_none_iff_exists'.mp
        (mt (firstUnsupported_perm_eq_none deps h).mpr (by simp [h₁]))
      simp only [o₁, o₂, searchRetrieve_of_unsupported deps sel a reply resp h₁,
        searchRetrieve_of_unsupported deps sel a reply resp h₂, and_self]
  exact ⟨hsp.1, hsp.2, fun hu =>
    searchRetrieve_congr_keyOrder deps sel a url reply resp (firstUnsupported_perm_eq deps h hu)⟩

end KeyOrder

/-! ## Reply channels -/

/-- An event of the collection phase: worker `j` sends its reply on `waits[j]`, or the
loop takes a step (`rawResult := <-wait`, lines 222-247), which blocks while its channel
is empty. -/
inductive Event
  | deliver (j : Nat)
  | recv
  deriving Repr, DecidableEq

/-- The collection phase in flight: what each channel holds, the index the loop waits on,
and the selector so far, or the error the loop returned with. -/
structure Awaiting (σ : Type) where
  chans : Nat → Option WorkerResult
  next : Nat
  acc : Except (Nat × FCSError) σ

namespace Awaiting

section Channels

variable {σ : Type} (deps : Deps) (sel : LineSelector σ) (reply : Nat → WorkerResult)
  (corpora : List String)

/-- No reply sent, the loop at index `0` with the new selector. -/
def init (s₀ : σ) : Awaiting σ :=
  ⟨fun _ => none, 0, .ok s₀⟩

/-- One event. Worker `j` sends `reply j`, the reply assigned to job `j`. -/
def step (st : Awaiting σ) : Event → Awaiting σ
  | .deliver j => { st with chans := Function.update st.chans j (some (reply j)) }
  | .recv =>
    match st.acc, corpora[st.next]?, st.chans st.next with
    | .ok s, some rsc, some raw =>
      { st with next := st.next + 1, acc := collectStep deps sel st.next rsc raw s }
    | _, _, _ => st

/-- A trace of events, in the order they happen. -/
def run (st : Awaiting σ) (trace : List Event) : Awaiting σ :=
  trace.foldl (step deps sel reply corpora) st

/-- The loop has returned: with an error, or past the last corpus. -/
def done (st : Awaiting σ) : Bool :=
  match st.acc with
  | .error _ => true
  | .ok _ => corpora.length ≤ st.next

/-- The workers' replies to the first `n` jobs, sent in index order. -/
def deliverAll (n : Nat) : List Event :=
  (List.range n).map .deliver

theorem run_append (st : Awaiting σ) (es es' : List Event) :
    run deps sel reply corpora st (es ++ es') =
      run deps sel reply corpora (run deps sel reply corpora st es) es' :=
  List.foldl_append _ _ _ _

theorem step_recv_of_ready {st : Awaiting σ} {s : σ} {rsc : String} {raw : WorkerResult}
    (hacc : st.acc = .ok s) (hrsc : corpora[st.next]? = some rsc)
    (hraw : st.chans st.next = some raw) :
    step deps sel reply corpora st .recv =
      { st with next := st.next + 1, acc := collectStep deps sel st.next rsc raw s } := by
  simp [step, hacc, hrsc, hraw]

/-- A returned loop stays returned. -/
theorem done_step {st : Awaiting σ} (hd : st.done corpora = true) :
    ∀ e, (step deps sel reply corpora st e).done corpora = true
  | .deliver _ => hd
  | .recv => by
    simp only [step]
    split
    · rename_i s rsc _ hacc hrsc _
      simp only [done, hacc, decide_eq_true_eq] at hd
      simp [List.getElem?_eq_none hd] at hrsc
    · exact hd

theorem done_run {st : Awaiting σ} (hd : st.done corpora = true) :
    ∀ trace, (run deps sel reply corpora st trace).done corpora = true
  | [] => hd
  | e :: es => done_run (done_step deps sel reply corpora hd e) es

/-- A sent reply stays in its channel. -/
theorem chans_run {st : Awaiting σ} {j : Nat} (hj : st.chans j = some (reply j)) :
    ∀ trace, (run deps sel reply corpora st trace).chans j = some (reply j)
  | [] => hj
  | e :: es => by
    refine chans_run ?_ es
    cases e with
    | deliver j' => by_cases h : j = j' <;> simp [step, Function.update_apply, h, hj]
    | recv => simp only [step]; split <;> exact hj

theorem run_deliverAll (st : Awaiting σ) (n : Nat) :
    let st' := run deps sel reply corpora st (deliverAll n)
    (∀ j < n, st'.chans j = some (reply j)) ∧ st'.next = st.next ∧ st'.acc = st.acc := by
  induction n generalizing st with
  | zero => exact ⟨fun _ h => absurd h (Nat.not_lt_zero _), rfl, rfl⟩
  | succ n ih =>
    simp only [deliverAll, List.range_succ, List.map_append, run_append] at ih ⊢
    obtain ⟨hch, hnext, hacc⟩ := ih st
    refine ⟨fun j hj => ?_, hnext, hacc⟩
    by_cases h : j = n
    · subst h; simp [run, step]
    · exact chans_run deps sel reply corpora (hch j (by omega)) _

end Channels

end Awaiting

/-! ## The sequential loop, cut anywhere -/

section Sequential

variable {σ : Type} (deps : Deps) (sel : LineSelector σ) (reply : Nat → WorkerResult)

theorem collectResults_append :
    ∀ (i : Nat) (cs ds : List String) (s : σ),
      collectResults deps sel reply i (cs ++ ds) s =
        (collectResults deps sel reply i cs s).bind
          fun s' => collectResults deps sel reply (i + cs.length) ds s'
  | _, [], _, _ => rfl
  | i, c :: cs, ds, s => by
    simp only [List.cons_append, collectResults, List.length_cons]
    cases collectStep deps sel i c (reply i) s with
    | error e => rfl
    | ok s₁ =>
      show collectResults deps sel reply (i + 1) (cs ++ ds) s₁ = _
      rw [collectResults_append (i + 1) cs ds s₁, Nat.add_assoc, Nat.add_comm 1]

theorem collectResults_singleton (i : Nat) (c : String) (s : σ) :
    collectResults deps sel reply i [c] s = collectStep deps sel i c (reply i) s := by
  simp only [collectResults]
  cases collectStep deps sel i c (reply i) s <;> rfl

end Sequential

/-! ## Any arrival order -/

namespace Awaiting

section Invariant

variable {σ : Type} (deps : Deps) (sel : LineSelector σ) (reply : Nat → WorkerResult)
  (corpora : List String) (s₀ : σ)

/-- What holds at every point of a trace: a channel holds nothing or its job's reply, and
the loop has done what the sequential loop does with the replies before `next`. -/
structure Inv (st : Awaiting σ) : Prop where
  chans : ∀ j, st.chans j = none ∨ st.chans j = some (reply j)
  next_le : st.next ≤ corpora.length
  acc : st.acc = collectResults deps sel reply 0 (corpora.take st.next) s₀

theorem inv_init : Inv deps sel reply corpora s₀ (init s₀) :=
  ⟨fun _ => .inl rfl, Nat.zero_le _, rfl⟩

variable {deps sel reply corpora s₀}

theorem Inv.step {st : Awaiting σ} (h : Inv deps sel reply corpora s₀ st) :
    ∀ e, Inv deps sel reply corpora s₀ (Awaiting.step deps sel reply corpora st e)
  | .deliver j => by
    refine ⟨fun j' => ?_, h.next_le, h.acc⟩
    by_cases hj : j' = j
    · subst hj; simp [Awaiting.step]
    · simpa [Awaiting.step, Function.update_noteq hj] using h.chans j'
  | .recv => by
    simp only [Awaiting.step]
    split
    · rename_i s rsc raw hacc hrsc hraw
      have hraw' : raw = reply st.next := by
        simpa [hraw] using h.chans st.next
      have hlt : st.next < corpora.length := (List.getElem?_eq_some_iff.mp hrsc).1
      refine ⟨h.chans, hlt, ?_⟩
      dsimp only
      rw [List.take_succ, hrsc, Option.toList_some, collectResults_append, ← h.acc, hacc,
        List.length_take_of_le h.next_le, Nat.zero_add, hraw']
      exact (collectResults_singleton deps sel reply _ _ _).symm
    · exact h

theorem Inv.run {st : Awaiting σ} (h : Inv deps sel reply corpora s₀ st) :
    ∀ trace, Inv deps sel reply corpora s₀ (Awaiting.run deps sel reply corpora st trace)
  | [] => h
  | e :: es => (h.step e).run es

/-- **The loop's result does not depend on the arrival order.** Once the loop has
returned, it holds what the sequential `collectResults` computes. -/
theorem Inv.acc_of_done {st : Awaiting σ} (h : Inv deps sel reply corpora s₀ st)
    (hdone : st.done corpora = true) :
    st.acc = collectResults deps sel reply 0 corpora s₀ := by
  unfold done at hdone
  split at hdone
  · rename_i e he
    rw [← List.take_append_drop st.next corpora, collectResults_append, ← h.acc, he]
    rfl
  · rw [h.acc, List.take_of_length_le (by simpa using hdone)]

/-- With every reply sent, each step of the loop moves it on, so `k` steps reach the end. -/
theorem done_recvs : ∀ (k : Nat) {st : Awaiting σ}, Inv deps sel reply corpora s₀ st →
    (∀ j < corpora.length, st.chans j = some (reply j)) → corpora.length ≤ st.next + k →
    (Awaiting.run deps sel reply corpora st (List.replicate k .recv)).done corpora = true
  | 0, st, _, _, hk => by
    simp only [done, List.replicate, Awaiting.run, List.foldl]
    split <;> simp_all
  | k + 1, st, hinv, hch, hk => by
    by_cases hd : st.done corpora = true
    · exact done_run deps sel reply corpora hd _
    · obtain ⟨s, hacc, hnext⟩ : ∃ s, st.acc = .ok s ∧ st.next < corpora.length := by
        simp only [done] at hd; split at hd <;> simp_all
      have hstep := step_recv_of_ready deps sel reply corpora hacc
        (List.getElem?_eq_getElem hnext) (hch _ hnext)
      refine done_recvs k (hinv.step .recv) (fun j hj => ?_) ?_ <;> rw [hstep]
      · exact hch j hj
      · dsimp only; omega

/-- **Every trace can finish.** Once the workers have sent every reply, as many loop steps
as there are corpora return the loop, whatever happened before. -/
theorem done_deliverAll (trace : List Event) :
    (Awaiting.run deps sel reply corpora (init s₀)
      (trace ++ deliverAll corpora.length ++ List.replicate corpora.length .recv)).done corpora =
      true := by
  have hinv := (inv_init deps sel reply corpora s₀).run trace
  obtain ⟨hch, -, -⟩ := run_deliverAll deps sel reply corpora
    (Awaiting.run deps sel reply corpora (init s₀) trace) corpora.length
  rw [run_append, run_append]
  exact done_recvs _ (hinv.run _) hch (by omega)

end Invariant

end Awaiting

/-! ## Two runs of one request -/

section TwoRuns

variable {σ : Type} (deps : Deps) (sel : LineSelector σ) (a : FCSSubHandlerV12)

/-- **Two runs of one request.** For any two iteration orders of the URL's keys, the
status and the jobs published agree, and with at most one unsupported key the whole
outcome does; otherwise each run is refused with 400 naming the first unsupported key of
its own order. For the replies, whatever order the workers send them in, every run of the
collection loop that returns holds the sequential `collectResults` that the handler
goes on from. -/
theorem searchRetrieve_deterministic {ko₁ ko₂ : List String} {url : URLQuery}
    (reply : Nat → WorkerResult) (resp : FCSResponse)
    (h₁ : ko₁.Perm url.keys) (h₂ : ko₂.Perm url.keys) :
    let o₁ := searchRetrieve deps sel a ko₁ url reply resp
    let o₂ := searchRetrieve deps sel a ko₂ url reply resp
    o₁.status = o₂.status ∧ o₁.published = o₂.published ∧
      ((∀ k ∈ url.keys, ∀ k' ∈ url.keys, deps.validate k ≠ none → deps.validate k' ≠ none →
        k = k') → o₁ = o₂) ∧
      (∀ k m, firstUnsupported deps ko₁ = some (k, m) →
        o₁ = ⟨conformantStatusBadRequest, resp.addError ⟨.unsupportedParameter, k, m⟩, [], none⟩) ∧
      (∀ k m, firstUnsupported deps ko₂ = some (k, m) →
        o₂ = ⟨conformantStatusBadRequest, resp.addError ⟨.unsupportedParameter, k, m⟩, [], none⟩) ∧
      ∀ (corpora : List String) (s₀ : σ) (trace : List Event),
        (Awaiting.run deps sel reply corpora (Awaiting.init s₀) trace).done corpora = true →
        (Awaiting.run deps sel reply corpora (Awaiting.init s₀) trace).acc =
          collectResults deps sel reply 0 corpora s₀ := by
  obtain ⟨hs, hp, hu⟩ := searchRetrieve_keyOrder deps sel a url reply resp (h₁.trans h₂.symm)
  refine ⟨hs, hp, fun huniq => hu fun k hk k' hk' => huniq k (h₁.mem_iff.mp hk) k' (h₁.mem_iff.mp hk'),
    fun _ _ hk => searchRetrieve_of_unsupported deps sel a reply resp hk,
    fun _ _ hk => searchRetrieve_of_unsupported deps sel a reply resp hk,
    fun corpora s₀ trace hdone => ?_⟩
  exact ((Awaiting.inv_init deps sel reply corpora s₀).run trace).acc_of_done hdone

end TwoRuns

/-- `query` and one unsupported key `foo`, in both orders: the same outcome. -/
theorem searchRetrieve_deterministic_one_unsupported :
    let h := exampleHandler [exampleCorpus "a" true]
    let url : URLQuery := ⟨[(searchRetrArgQuery, "x"), ("foo", "1")]⟩
    [searchRetrArgQuery, "foo"].Perm url.keys ∧ ["foo", searchRetrArgQuery].Perm url.keys ∧
      searchRetrieve specDeps roundRobinLineSel h [searchRetrArgQuery, "foo"] url
          (fun _ => .undecodable "") emptyResponse =
        searchRetrieve specDeps roundRobinLineSel h ["foo", searchRetrArgQuery] url
          (fun _ => .undecodable "") emptyResponse := by
  intro h url
  have h₁ : [searchRetrArgQuery, "foo"].Perm url.keys := by decide
  have h₂ : ["foo", searchRetrArgQuery].Perm url.keys := by decide
  exact ⟨h₁, h₂, (searchRetrieve_deterministic specDeps roundRobinLineSel h
    (fun _ => .undecodable "") emptyResponse h₁ h₂).2.2.1 (by decide)⟩

/-- Two unsupported keys `a` and `b`: the two orders report different keys. -/
theorem searchRetrieve_two_unsupported_keys :
    let h := exampleHandler [exampleCorpus "a" true]
    let url : URLQuery := ⟨[("a", "1"), ("b", "1")]⟩
    ["a", "b"].Perm url.keys ∧ ["b", "a"].Perm url.keys ∧
      (searchRetrieve specDeps roundRobinLineSel h ["a", "b"] url (fun _ => .undecodable "")
          emptyResponse).response.errors =
        [⟨.unsupportedParameter, "a", "unsupported parameter a"⟩] ∧
      (searchRetrieve specDeps roundRobinLineSel h ["b", "a"] url (fun _ => .undecodable "")
          emptyResponse).response.errors =
        [⟨.unsupportedParameter, "b", "unsupported parameter b"⟩] := by
  decide

end MqueryFcs
