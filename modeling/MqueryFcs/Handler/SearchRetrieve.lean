import MqueryFcs.Url
import MqueryFcs.Corpus
import MqueryFcs.Result.LineSel

/-!
# MqueryFcs.Handler.SearchRetrieve

`FCSSubHandlerV12.translateQuery` and `FCSSubHandlerV12.searchRetrieve` (`handler/v12`):
the SRU searchRetrieve operation, from the URL to the status and the filled-in response.

Go's early `return`s are `Except`, the pointer `fcsResponse` is passed in and handed back,
and the side effect on the queue is the list of jobs published. The handler is cut at its
phase boundaries, one definition each, so that every later proof reads one phase:

* `readArgs` (lines 68-130): the parameter keys, `query`, `startRecord`, `maximumRecords`;
* `selectCorpora`, `validateContext` (lines 132-158): the corpora and their check;
* `makeJob`, `publishSearches` (lines 169-217): translate and publish, corpus by corpus;
* `collectStep`, `collectResults`, `awaitResults` (lines 220-263): the replies, awaited in
  index order, seed the selector; then the out-of-range and fatal checks;
* `awaitAndMerge`, `transformResults` (lines 265-296): room for `maximumRecords` records,
  then the merge loop.

The map iteration order of the parameter loop is an input (`keyOrder`), as is the reply
of each published job (`reply i` for the `i`-th job). What the handler calls outside the
sources is taken as parameters: `Deps` and the selector `LineSelector`.

Two statements can panic instead of returning: `GetFirstError().Error()` (lines 251 and
259) when the selector reports an error condition but holds no error, and
`make([]FCSSearchRow, 0, maximumRecords)` (line 266) beyond `maxSearchRows`. A panic is an
outcome of its own (`Outcome.panic`): gin's `Recovery()` middleware answers it with 500.
-/

namespace MqueryFcs

/-- `compiler.AST` as the handler uses it: the CQL `Generate()` returns, and the errors
`Errors()` holds once it has run (generation never aborts, spec §4.1). -/
structure AST where
  generate : String
  errors : List String
  deriving Repr, DecidableEq

/-- What `searchRetrieve` calls that is not among the sources. -/
structure Deps where
  /-- `SearchRetrArg(key).Validate()`: the error for an unsupported parameter key. -/
  validate : String → Option String
  /-- `DiagnosticCode.AsMessage()`. -/
  asMessage : DiagnosticCode → String
  /-- `basic.ParseQuery(query, posAttrs, structureMapping)`. -/
  parseQuery : String → List PosAttr → StructureMapping → Except String AST
  /-- `radapter.PublishQuery(q)`: a transport error, or `none` once the job is queued. -/
  publishQuery : Query → Option String

/-- `FCSSubHandlerV12`, as far as `searchRetrieve` reads it. -/
structure FCSSubHandlerV12 where
  corporaConf : CorporaSetup
  deriving Repr, DecidableEq

/-- Modelled from the spec: the parameter names the `SearchRetrArg*` constants stand for
(§6). -/
def searchRetrArgQuery : String := "query"

/-- Modelled from the spec: `SearchRetrStartRecord.String()`. -/
def searchRetrStartRecord : String := "startRecord"

/-- Modelled from the spec: `SearchMaximumRecords.String()`. -/
def searchMaximumRecords : String := "maximumRecords"

/-- Modelled from the spec: `SearchRetrArgFCSContext.String()`. -/
def searchRetrArgFCSContext : String := "x-fcs-context"

/-- The arguments `readArgs` hands on. -/
structure SearchArgs where
  fcsQuery : String
  startRecord : Int
  maximumRecords : Int
  deriving Repr, DecidableEq

/-- What a run of `searchRetrieve` produces: the status, the response, the jobs it
published, in order, and the run-time panic that ended it, if one did. The response is
rendered only when `panic = none`. -/
structure Outcome where
  status : Nat
  response : FCSResponse
  published : List Query
  panic : Option String
  deriving Repr, DecidableEq

/-- A run ended by a run-time panic with message `msg`: `gin.Recovery()` (installed by
`runApiServer`) answers `500` and renders nothing. -/
def Outcome.recovered (resp : FCSResponse) (published : List Query) (msg : String) : Outcome :=
  ⟨statusInternalServerError, resp, published, some msg⟩

/-- How the collection phase ends the handler early: a `return` of a status after one
`AddError`, or a run-time panic. -/
inductive Stop where
  | refuse (e : Nat × FCSError)
  | panic (msg : String)
  deriving Repr, DecidableEq

/-- The run-time error of calling a method on a nil interface value, such as `Error()` on a
nil `error`. -/
def errNilDereference : String :=
  "runtime error: invalid memory address or nil pointer dereference"

/-- The run-time error of `make` with a capacity beyond `maxSearchRows`. -/
def errMakeSliceCap : String := "runtime error: makeslice: cap out of range"

/-- The largest capacity `make([]FCSSearchRow, 0, n)` accepts on 64-bit Linux:
`maxAlloc / unsafe.Sizeof(FCSSearchRow{})` = `2^48 / 64` = `2^42`, a record being 64 bytes
(an `int`, two strings and a slice, the fields line 279 fills). -/
def maxSearchRows : Nat := 4398046511104

/-- A request whose jobs are all published (line 219). -/
structure Dispatched where
  resp : FCSResponse
  args : SearchArgs
  corpora : List String
  published : List Query
  deriving Repr, DecidableEq

section Handler

variable {σ : Type} (deps : Deps) (sel : LineSelector σ) (a : FCSSubHandlerV12)

/-! ## Parameters -/

/-- Lines 68-78: the first key, in the map's iteration order, that `Validate` rejects,
with the error. -/
def firstUnsupported (keyOrder : List String) : Option (String × String) :=
  keyOrder.findSome? fun key => (deps.validate key).map (key, ·)

/-- The diagnostic of a bad `startRecord` or `maximumRecords`. -/
def unsupportedValue (ident : String) : FCSError :=
  ⟨.unsupportedParameterValue, ident, deps.asMessage .unsupportedParameterValue⟩

/-- Lines 68-130: the parameter checks, in the order the handler makes them. -/
def readArgs (keyOrder : List String) (url : URLQuery) (resp : FCSResponse) :
    Except (Nat × FCSResponse) (SearchArgs × FCSResponse) :=
  match firstUnsupported deps keyOrder with
  | some (key, msg) =>
    .error (conformantStatusBadRequest, resp.addError ⟨.unsupportedParameter, key, msg⟩)
  | none =>
    let fcsQuery := url.query searchRetrArgQuery
    if fcsQuery = "" then
      .error (conformantStatusBadRequest, resp.addError
        ⟨.mandatoryParameterNotSupplied, "fcs_query", "Mandatory parameter not supplied"⟩)
    else
      let resp := { resp with echoedQuery := fcsQuery }
      match atoi (url.defaultQuery searchRetrStartRecord "1") with
      | none =>
        .error (conformantUnprocessableEntity,
          resp.addError (unsupportedValue deps searchRetrStartRecord))
      | some startRecord =>
        if startRecord < 1 then
          .error (conformantUnprocessableEntity,
            resp.addError (unsupportedValue deps searchRetrStartRecord))
        else
          let resp := { resp with echoedStartRecord := startRecord }
          let xMaximumRecords := url.query searchMaximumRecords
          match (if xMaximumRecords = "" then some a.corporaConf.maximumRecords
              else atoi xMaximumRecords) with
          | none =>
            .error (conformantUnprocessableEntity,
              resp.addError (unsupportedValue deps searchMaximumRecords))
          | some maximumRecords =>
            if maximumRecords < 1 then
              .error (conformantUnprocessableEntity,
                resp.addError (unsupportedValue deps searchMaximumRecords))
            else .ok (⟨fcsQuery, startRecord, maximumRecords⟩, resp)

/-! ## Corpora -/

/-- Lines 132-135: the corpora to search. The test asks whether the URL has a key equal
to the *value* of `x-fcs-context`. -/
def selectCorpora (url : URLQuery) : List String :=
  if url.has (url.query searchRetrArgFCSContext) then
    split (url.query searchRetrArgFCSContext) ','
  else a.corporaConf.resources.getCorpora

/-- Lines 137-158: the diagnostic for an empty corpus list or the first unknown corpus. -/
def validateContext (corpora : List String) : Option FCSError :=
  if corpora = [] then some ⟨.unsupportedParameterValue, searchRetrArgFCSContext, "Empty context"⟩
  else corpora.findSome? fun v =>
    match a.corporaConf.resources.getResource v with
    | .error _ => some ⟨.unsupportedParameterValue, searchRetrArgFCSContext, "Unknown context " ++ v⟩
    | .ok _ => none

/-! ## Translation and publication -/

/-- `translateQuery(corpusName, query)` (lines 39-65). -/
def translateQuery (corpusName query : String) : Except FCSError AST :=
  match a.corporaConf.resources.getResource corpusName with
  | .error err => .error ⟨.generalSystemError, err, deps.asMessage .generalSystemError⟩
  | .ok res =>
    match deps.parseQuery query res.posAttrs res.structureMapping with
    | .error _ => .error ⟨.querySyntaxError, query, "Invalid query syntax"⟩
    | .ok ast => .ok ast

/-- Lines 175-195: the job for one range, or why the query cannot be run on its corpus. -/
def makeJob (fcsQuery : String) (retrieveAttrs : List String) (maximumRecords : Int)
    (rng : PartialRange) : Except (Nat × FCSError) Query :=
  match translateQuery deps a rng.rsc fcsQuery with
  | .error e => .error (conformantUnprocessableEntity, e)
  | .ok ast =>
    match ast.errors with
    | e :: _ => .error (conformantUnprocessableEntity, ⟨.queryCannotProcess, searchRetrArgQuery, e⟩)
    | [] => .ok ⟨"concExample", ⟨a.corporaConf.getRegistryPath rng.rsc, ast.generate,
        retrieveAttrs, rng.fromLine, maximumRecords⟩⟩

/-- Lines 172-217: the jobs published, in order, and the failure that ended the loop. -/
def publishSearches (fcsQuery : String) (retrieveAttrs : List String) (maximumRecords : Int) :
    List PartialRange → List Query × Option (Nat × FCSError)
  | [] => ([], none)
  | rng :: rest =>
    match makeJob deps a fcsQuery retrieveAttrs maximumRecords rng with
    | .error e => ([], some e)
    | .ok q =>
      match deps.publishQuery q with
      | some err => ([], some (statusInternalServerError,
          ⟨.generalSystemError, err, "General system error"⟩))
      | none =>
        let r := publishSearches fcsQuery retrieveAttrs maximumRecords rest
        (q :: r.1, r.2)

/-- Lines 68-217: everything up to and including publication. -/
def dispatch (keyOrder : List String) (url : URLQuery) (resp : FCSResponse) :
    Except Outcome Dispatched :=
  match readArgs deps a keyOrder url resp with
  | .error (st, resp) => .error ⟨st, resp, [], none⟩
  | .ok (args, resp) =>
    let corpora := selectCorpora a url
    match validateContext a corpora with
    | some e => .error ⟨conformantStatusBadRequest, resp.addError e, [], none⟩
    | none =>
      match a.corporaConf.resources.getCommonPosAttrNames corpora with
      | .error err => .error ⟨statusInternalServerError,
          resp.addError ⟨.generalSystemError, err, deps.asMessage .generalSystemError⟩, [], none⟩
      | .ok retrieveAttrs =>
        let ranges := calculatePartialRanges corpora (args.startRecord - 1) args.maximumRecords
        match publishSearches deps a args.fcsQuery retrieveAttrs args.maximumRecords ranges with
        | (published, some (st, e)) => .error ⟨st, resp.addError e, published, none⟩
        | (published, none) => .ok ⟨resp, args, corpora, published⟩

/-! ## Collecting the replies -/

/-- Lines 223-246: the reply awaited for the `i`-th corpus `rsc`. -/
def collectStep (i : Nat) (rsc : String) (raw : WorkerResult) (s : σ) :
    Except (Nat × FCSError) σ :=
  match deserializeConcExampleResult raw with
  | .error err =>
    .error (statusInternalServerError,
      ⟨.generalSystemError, err, deps.asMessage .generalSystemError⟩)
  | .ok result =>
    match result.err with
    | none => .ok (sel.setRscLines rsc result s)
    | some err =>
      if err = errRowsRangeOutOfConc then
        .ok (sel.setRscLines rsc result (sel.rscSetErrorAt i err s))
      else
        .error (statusInternalServerError,
          ⟨.queryCannotProcess, err, deps.asMessage .queryCannotProcess⟩)

/-- Lines 222-247: the replies from the `i`-th on, awaited in index order. -/
def collectResults (reply : Nat → WorkerResult) : Nat → List String → σ →
    Except (Nat × FCSError) σ
  | _, [], s => .ok s
  | i, rsc :: rest, s =>
    match collectStep deps sel i rsc (reply i) s with
    | .error e => .error e
    | .ok s => collectResults reply (i + 1) rest s

/-- Lines 248-262: refuse with `code`, naming `GetFirstError()`; its `Error()` panics
when the selector holds no error. -/
def firstErrorStop (status : Nat) (code : DiagnosticCode) (s : σ) : Stop :=
  match sel.getFirstError s with
  | some err => .refuse (status, ⟨code, err, deps.asMessage code⟩)
  | none => .panic errNilDereference

/-- Lines 220-263: seed a new selector with the replies, then refuse a request every
corpus reported out of range for, or one with a fatal error recorded. -/
def awaitResults (maximumRecords : Int) (corpora : List String) (reply : Nat → WorkerResult) :
    Except Stop σ :=
  match collectResults deps sel reply 0 corpora (sel.newRoundRobinLineSel maximumRecords corpora) with
  | .error e => .error (.refuse e)
  | .ok s =>
    if sel.allHasOutOfRangeError s then
      .error (firstErrorStop deps sel conformantUnprocessableEntity .firstRecordPosOutOfRange s)
    else if sel.hasFatalError s then
      .error (firstErrorStop deps sel conformandGeneralServerError .queryCannotProcess s)
    else .ok s

/-! ## The merge loop -/

/-- Lines 279-293: the record for one line. -/
def searchRow (position : Nat) (pid ref : String) (line : ConcLine) : FCSSearchRow :=
  ⟨position, pid, ref, line.text.map fun t => ⟨t.word, t.strong⟩⟩

/-- Lines 268-295: draw lines while fewer than `maximumRecords` records are collected.
`fuel` bounds the iterations; every fuel from `maximumRecords - len` on gives the same
result (`transformResults_fuel`). -/
def transformResults (maximumRecords : Int) : Nat → FCSResponse → σ → Nat × FCSResponse × σ
  | 0, resp, s => (statusOK, resp, s)
  | fuel + 1, resp, s =>
    if (resp.results.length : Int) < maximumRecords then
      let r := sel.next s
      if r.1 then
        match a.corporaConf.resources.getResource (sel.currRscName r.2) with
        | .error err => (statusInternalServerError,
            resp.addError ⟨.generalSystemError, err, deps.asMessage .generalSystemError⟩, r.2)
        | .ok res =>
          transformResults maximumRecords fuel
            { resp with results := resp.results ++
              [searchRow (resp.results.length + 1) (sel.currRscName r.2) res.uri (sel.currLine r.2)] }
            r.2
      else (statusOK, resp, r.2)
    else (statusOK, resp, s)

/-- Lines 220-296: await the replies, make room for `maximumRecords` records (line 266),
and merge. Past line 266 the loop can run at most `maximumRecords ≤ maxSearchRows` times,
so `maxSearchRows` is fuel enough. -/
def awaitAndMerge (reply : Nat → WorkerResult) (d : Dispatched) : Outcome :=
  match awaitResults deps sel d.args.maximumRecords d.corpora reply with
  | .error (.refuse (st, e)) => ⟨st, d.resp.addError e, d.published, none⟩
  | .error (.panic msg) => .recovered d.resp d.published msg
  | .ok s =>
    if (maxSearchRows : Int) < d.args.maximumRecords then
      .recovered d.resp d.published errMakeSliceCap
    else
      let r := transformResults deps sel a d.args.maximumRecords maxSearchRows
        { d.resp with results := [] } s
      ⟨r.1, r.2.1, d.published, none⟩

/-- `searchRetrieve(ctx, fcsResponse)`. -/
def searchRetrieve (keyOrder : List String) (url : URLQuery) (reply : Nat → WorkerResult)
    (resp : FCSResponse) : Outcome :=
  match dispatch deps a keyOrder url resp with
  | .error o => o
  | .ok d => awaitAndMerge deps sel a reply d

end Handler

end MqueryFcs
