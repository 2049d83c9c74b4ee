import MqueryFcs.Handler.SearchRetrieve

/-!
# MqueryFcs.Handler.SpecDeps

The collaborators of `searchRetrieve` that are not among the sources, as the spec
describes them: the parameter check of §4.6, the basic front-end of §4.1 with the
default-attribute resolution of §4.2, and a queue that accepts every job. Every theorem
about the handler holds for all `Deps`; this instance is the concrete input the runs on
fixed requests use.
-/

namespace MqueryFcs

/-- Modelled from the spec: `DiagnosticCode.AsMessage()`. Spec §6 names the codes but not
their texts, so a code's name stands for its text. -/
def DiagnosticCode.asMessage : DiagnosticCode → String
  | .generalSystemError => "DCGeneralSystemError"
  | .unsupportedParameter => "DCUnsupportedParameter"
  | .unsupportedParameterValue => "DCUnsupportedParameterValue"
  | .mandatoryParameterNotSupplied => "DCMandatoryParameterNotSupplied"
  | .querySyntaxError => "DCQuerySyntaxError"
  | .queryCannotProcess => "DCQueryCannotProcess"
  | .firstRecordPosOutOfRange => "DCFirstRecordPosOutOfRange"

/-- Modelled from the spec: `SearchRetrArg(key).Validate()` (§4.6, §6): the operation and the
four searchRetrieve parameters are known, every other key is refused. -/
def searchRetrArgValidate (key : String) : Option String :=
  if key ∈ ["operation", searchRetrArgQuery, searchRetrStartRecord, searchMaximumRecords,
      searchRetrArgFCSContext] then none
  else some ("unsupported parameter " ++ key)

/-- Modelled from the spec: `basic.ParseQuery` (§4.1): whitespace-separated words, each
matched against the default attribute; an empty query is a syntax error. The default
attribute is the one marked layer-default; a resource without one leaves it unresolved,
which appends an error and generation goes on (§4.2). -/
def basicParseQuery (query : String) (posAttrs : List PosAttr) (_ : StructureMapping) :
    Except String AST :=
  let words := (split query ' ').filter (· ≠ "")
  if words = [] then .error "empty query"
  else
    let token (attr w : String) := "[" ++ attr ++ "=\"" ++ w ++ "\"]"
    match posAttrs.find? (·.isLayerDefault) with
    | some attr => .ok ⟨" ".intercalate (words.map (token attr.name)), []⟩
    | none => .ok ⟨" ".intercalate (words.map (token "word")), ["unknown default attribute"]⟩

/-- The collaborators as the spec describes them, with a queue that accepts every job. -/
def specDeps : Deps :=
  ⟨searchRetrArgValidate, DiagnosticCode.asMessage, basicParseQuery, fun _ => none⟩

/-! ## Example configurations -/

/-- A corpus with registry path `/reg/<name>`, URI `urn:<name>` and a single `word`
attribute, marked layer-default or not. -/
def exampleCorpus (name : String) (hasDefault : Bool) : CorpusSetup :=
  ⟨name, "/reg/" ++ name, "urn:" ++ name, [⟨"1", "word", "text", hasDefault⟩],
    ⟨"s", "sp", "p", "sp", "doc", "doc"⟩⟩

/-- A handler over the given corpora, with ten records per page by default. -/
def exampleHandler (rscs : List CorpusSetup) : FCSSubHandlerV12 :=
  ⟨⟨⟨rscs⟩, 10⟩⟩

/-- A response nothing has been written to. -/
def emptyResponse : FCSResponse :=
  ⟨[], "", 0, []⟩

end MqueryFcs
