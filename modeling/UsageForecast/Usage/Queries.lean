import UsageForecast.Source
import UsageForecast.Json.Record

/-!
# Query back ends

The configuration of a named query back end: where it answers and which query
it answers for each resource.  Without queries of its own a back end is asked
the standard ones for containers.
-/

namespace UsageForecast

/-- The queries of a back end by resource. -/
abbrev Queries := SortedMap Resource String

/-- The configuration of a named query back end. -/
structure QueryBackend where
  name : String
  endpoint : String
  queries : Queries
  timeoutSeconds : Nat
deriving Inhabited

namespace QueryBackend

/-- The condition that a series belongs to a container. -/
def ofContainers (series : String) : String :=
  String.join [series, "\x7bcontainer!=\"\"\x7d"]

/-- The sum of a value over the series of each container. -/
def byContainer (value : String) : String :=
  String.join ["sum by (namespace, pod, container) (", value, ")"]

/-- The increase of a series for each second of the last five minutes. -/
def rateOf (series : String) : String :=
  String.join ["rate(", ofContainers series, "[5m])"]

def standardQueries : Queries :=
  SortedMap.ofList [
    (.cpu, byContainer (rateOf "container_cpu_usage_seconds_total")),
    (.memory, byContainer (ofContainers "container_memory_working_set_bytes")),
    (.storageRead, byContainer (rateOf "container_fs_reads_bytes_total")),
    (.storageWrite, byContainer (rateOf "container_fs_writes_bytes_total"))]

def effectiveQueries (backend : QueryBackend) : Queries :=
  if backend.queries.isEmpty then standardQueries else backend.queries

def offer (backend : QueryBackend) : Backend :=
  ⟨backend.name, backend.effectiveQueries.keys⟩

/-- How long to wait for an answer where nothing is configured. -/
def standardTimeout : Nat := 30

def reader (text? : Json → Option String) (word? : Json → Option Nat) :
    Json → Option QueryBackend :=
  Json.record do
    let name ← Json.required "name" text?
    let endpoint ← Json.required "endpoint" text?
    let queries ← Json.defaulted "queries" ∅
      (Json.mapOf Resource.ofName? text?)
    let timeoutSeconds ←
      Json.defaulted "timeout_secs" standardTimeout word?
    return ⟨name, endpoint, queries, timeoutSeconds⟩

def ofJson? : Json → Option QueryBackend := reader Json.text? Json.word?

end QueryBackend

end UsageForecast
