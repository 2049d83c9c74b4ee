import Mathlib.Data.List.Basic

/-!
# MqueryFcs.General

The values the SRU `searchRetrieve` handler (`v12.FCSSubHandlerV12.searchRetrieve`) reads
and writes: the diagnostics it adds to the response (`general.FCSError`), the HTTP statuses
it returns, the parts of `FCSResponse` it fills in, and a worker's reply as the dispatcher
decodes it.

The `general`, `rdb` and `mango` packages are not among the modelled sources. Their
constants are modelled from the spec (§6: the diagnostic codes, the status each maps to,
the job payload and the reply), and each such definition says so.
-/

namespace MqueryFcs

/-! ## Diagnostics and statuses -/

/-- The SRU diagnostics `searchRetrieve` reports (`general.DC*`, spec §6). -/
inductive DiagnosticCode
  | generalSystemError
  | unsupportedParameter
  | unsupportedParameterValue
  | mandatoryParameterNotSupplied
  | querySyntaxError
  | queryCannotProcess
  | firstRecordPosOutOfRange
  deriving Repr, DecidableEq

/-- `general.FCSError`: one diagnostic, with the identifier it is about. -/
structure FCSError where
  code : DiagnosticCode
  ident : String
  message : String
  deriving Repr, DecidableEq

/-- `http.StatusOK`. -/
def statusOK : Nat := 200

/-- `http.StatusInternalServerError`. -/
def statusInternalServerError : Nat := 500

/-- Modelled from the spec: `general.ConformantStatusBadRequest` (the `general` package is
not among the sources); spec §6 maps it to 400. -/
def conformantStatusBadRequest : Nat := 400

/-- Modelled from the spec: `general.ConformantUnprocessableEntity`, 422 by spec §6. -/
def conformantUnprocessableEntity : Nat := 422

/-- Modelled from the spec: `general.ConformandGeneralServerError` (sic), the general server
error of spec §6. -/
def conformandGeneralServerError : Nat := 500

/-! ## The response -/

/-- `Token`: one word of a result row and whether it belongs to the hit. -/
structure Token where
  text : String
  hit : Bool
  deriving Repr, DecidableEq

/-- `FCSSearchRow`: one record of the result page. -/
structure FCSSearchRow where
  position : Nat
  pid : String
  ref : String
  tokens : List Token
  deriving Repr, DecidableEq

/-- The parts of `FCSResponse` that `searchRetrieve` writes: the diagnostics
(`General.Errors`), the echoed request (`SearchRetrieve.EchoedSRRequest`) and the records
(`SearchRetrieve.Results`). The other fields are written by other operations. -/
structure FCSResponse where
  errors : List FCSError
  echoedQuery : String
  echoedStartRecord : Int
  results : List FCSSearchRow
  deriving Repr, DecidableEq

/-- `General.AddError`: append one diagnostic. -/
def FCSResponse.addError (r : FCSResponse) (e : FCSError) : FCSResponse :=
  { r with errors := r.errors ++ [e] }

@[simp] theorem FCSResponse.addError_results (r : FCSResponse) (e : FCSError) :
    (r.addError e).results = r.results := rfl

/-! ## Jobs and worker replies -/

/-- One word of a concordance line as the worker returns it (`Word`, `Strong`). -/
structure LineToken where
  word : String
  strong : Bool
  deriving Repr, DecidableEq

/-- One concordance line (`Text`). -/
structure ConcLine where
  text : List LineToken
  deriving Repr, DecidableEq

/-- Modelled from the spec: the decoded `concExample` reply (`rdb`, not among the sources),
spec §6: `{rows: [{text: [{word, strong}]}], err: string}`. -/
structure ConcExampleResult where
  lines : List ConcLine
  error : String
  deriving Repr, DecidableEq

/-- `Err()`: the worker's error, absent when the error text is empty. -/
def ConcExampleResult.err (r : ConcExampleResult) : Option String :=
  if r.error = "" then none else some r.error

/-- Modelled from the spec: `mango.ErrRowsRangeOutOfConc`, whose text spec §6 gives and
requires to be compared textually. -/
def errRowsRangeOutOfConc : String := "rows range out of conc"

/-- Modelled from the spec: a raw reply (`*rdb.WorkerResult`) as far as decoding sees it:
either it does not decode, with the decoder's error, or it decodes to a result. -/
inductive WorkerResult
  | undecodable (err : String)
  | decoded (res : ConcExampleResult)
  deriving Repr, DecidableEq

/-- Modelled from the spec: `rdb.DeserializeConcExampleResult`. -/
def deserializeConcExampleResult : WorkerResult → Except String ConcExampleResult
  | .undecodable err => .error err
  | .decoded res => .ok res

/-- `rdb.ConcExampleArgs`: the job payload (spec §6). -/
structure ConcExampleArgs where
  corpusPath : String
  query : String
  attrs : List String
  startLine : Int
  maxItems : Int
  deriving Repr, DecidableEq

/-- `rdb.Query`: a job as published to the queue. The arguments are kept as the record
`sonic.Marshal` encodes, which cannot fail on it. -/
structure Query where
  func : String
  args : ConcExampleArgs
  deriving Repr, DecidableEq

end MqueryFcs
