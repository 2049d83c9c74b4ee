import Mathlib.Data.List.Basic
import Mathlib.Data.List.Dedup
import MqueryFcs.General

/-!
# MqueryFcs.Url

The request as `searchRetrieve` reads it: gin's query accessors over the URL's decoded
query string, `strconv.Atoi` and `strings.Split`. These are library functions; they are
modelled after their documented Go semantics, since the handler's behaviour on odd URLs
(a repeated key, an empty value, an empty key) is decided by them.

The query string is kept as the list of decoded `key=value` pairs in the order they
appear. `url.Values` groups them by key with the values in that order, so every accessor
below reads the first pair of a key, and the map's key set is `URLQuery.keys`. A `range`
over the map visits each key once in an order Go randomises: such an order is any
permutation of `URLQuery.keys`.
-/

namespace MqueryFcs

/-- The decoded query string of the request URL, in order of appearance. -/
structure URLQuery where
  params : List (String × String)
  deriving Repr, DecidableEq

namespace URLQuery

/-- `c.GetQuery(key)`: the first value given for `key`, if the key is present. -/
def getQuery (q : URLQuery) (key : String) : Option String :=
  (q.params.find? (·.1 = key)).map (·.2)

/-- `c.Query(key)`: the first value of `key`, or `""` when the key is absent. -/
def query (q : URLQuery) (key : String) : String :=
  (q.getQuery key).getD ""

/-- `c.DefaultQuery(key, d)`: the first value of `key`, or `d` when the key is absent (an
empty value is returned as it is). -/
def defaultQuery (q : URLQuery) (key d : String) : String :=
  (q.getQuery key).getD d

/-- `URL.Query().Has(key)`: whether `key` is present. -/
def has (q : URLQuery) (key : String) : Bool :=
  q.params.any (·.1 = key)

/-- The key set of `URL.Query()`, each key once. -/
def keys (q : URLQuery) : List String :=
  (q.params.map (·.1)).dedup

theorem mem_keys (q : URLQuery) (key : String) : key ∈ q.keys ↔ q.has key = true := by
  simp [keys, has]

end URLQuery

/-! ## `strconv.Atoi` and `strings.Split` -/

/-- The value of a run of decimal digits read onto `acc`; `none` at the first non-digit. -/
def decimalValue (acc : Nat) : List Char → Option Nat
  | [] => some acc
  | c :: cs => if c.isDigit then decimalValue (10 * acc + (c.toNat - '0'.toNat)) cs else none

/-- `strconv.Atoi` with a 64-bit `int`: an optional sign and one or more decimal digits,
within the range of `int64`; `none` stands for the syntax and range errors. -/
def atoi (s : String) : Option Int :=
  let (neg, digits) : Bool × List Char := match s.toList with
    | '-' :: ds => (true, ds)
    | '+' :: ds => (false, ds)
    | ds => (false, ds)
  if digits = [] then none
  else match decimalValue 0 digits with
    | none => none
    | some n =>
      let v : Int := if neg then -n else n
      if -9223372036854775808 ≤ v ∧ v ≤ 9223372036854775807 then some v else none

/-- `strings.Split(s, sep)` for a one-character separator: the pieces between the
separators, so `""` splits into `[""]`. -/
def split (s : String) (sep : Char) : List String :=
  (s.toList.splitOn sep).map String.mk

theorem split_ne_nil (s : String) (sep : Char) : split s sep ≠ [] := by
  simp only [split, ne_eq, List.map_eq_nil_iff]
  exact List.splitOnP_ne_nil _ _

/-- A string that splits into two pieces is those pieces joined by the separator. -/
theorem split_eq_pair {s k v : String} {sep : Char} (h : split s sep = [k, v]) :
    s = k ++ sep.toString ++ v := by
  have hround : [sep].intercalate (s.toList.splitOn sep) = s.toList := List.intercalate_splitOn _ sep
  simp only [split] at h
  rcases hs : s.toList.splitOn sep with _ | ⟨a, _ | ⟨b, _ | ⟨c, rest⟩⟩⟩ <;> rw [hs] at h <;>
    simp at h
  obtain ⟨rfl, rfl⟩ := h
  rw [hs] at hround
  cases s
  simp only [List.intercalate, List.intersperse, List.flatten] at hround
  subst hround
  show String.mk _ = String.mk (a ++ [sep] ++ b)
  simp

end MqueryFcs
