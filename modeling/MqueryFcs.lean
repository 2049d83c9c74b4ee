import MqueryFcs.General
import MqueryFcs.Url
import MqueryFcs.Corpus
import MqueryFcs.Config
import MqueryFcs.Result.LineSel
import MqueryFcs.Result.RoundRobin
import MqueryFcs.Handler.SearchRetrieve
import MqueryFcs.Handler.SpecDeps
import MqueryFcs.Handler.Phases
import MqueryFcs.Handler.Collect
import MqueryFcs.Handler.Merge
import MqueryFcs.Handler.Dispatch
import MqueryFcs.Handler.Paging
import MqueryFcs.Handler.Determinism
import MqueryFcs.Handler.Contract
import MqueryFcs.Main.Lifecycle
