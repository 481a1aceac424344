import TestOps.Contracts.Text
import TestOps.Lib.Replace

/-! Three runners take the secrets of a run out of what they report: the longest ones first, each
    replaced by a mask. Secrets of the same length come in the order in which the interpreter goes
    through a set, and that is not the same in every process. -/

namespace TestOps

/-- How an interpreter goes through the set of a list. -/
structure SetOrder where
  list : List Text → List Text
  nodup : ∀ values, (list values).Nodup
  mem_list : ∀ values value, value ∈ list values ↔ value ∈ values

/-- `sorted(set(values), key=len, reverse=True)` -/
def longestFirst (order : SetOrder) (values : List Text) : List Text :=
  (order.list values).insertionSort fun s t => t.length ≤ s.length

def mask : Text := "***".toList

def redactSecret (redacted secret : Text) : Text :=
  if secret = [] then redacted else Replace.replace secret mask redacted

/-- The secrets of a run, as they have been resolved. -/
structure VariableResolver where
  secretValues : List Text

/-- `VariableResolver.__init__`, for secrets that the provider has resolved -/
def VariableResolver.init (order : SetOrder) (secretValues : List Text) : VariableResolver :=
  ⟨longestFirst order secretValues⟩

def VariableResolver.redact (resolver : VariableResolver) (value : Text) : Text :=
  resolver.secretValues.foldl redactSecret value

/-- `_redact` -/
def LegacyPytestAdapter.redact (order : SetOrder) (value : Text) (secrets : List Text) : Text :=
  (longestFirst order secrets).foldl redactSecret value

/-- `_redact` -/
def AndroidAppiumAdapter.redact (order : SetOrder) (value : Text) (secrets : List Text) : Text :=
  (longestFirst order secrets).foldl redactSecret value

end TestOps
