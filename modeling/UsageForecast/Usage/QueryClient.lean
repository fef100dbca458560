import UsageForecast.Http.Exchange
import UsageForecast.Json.Reader
import UsageForecast.Usage.BackendFault
import UsageForecast.Usage.Queries
import UsageForecast.Usage.Series

/-!
# Asking query back ends

A back end is asked one query for each of its resources, in their order; the
first failure ends the exchange.
-/

namespace UsageForecast

structure QueryAnswer.Data (α : Type) where
  resultType : String
  series : List (Series α)

structure QueryAnswer (α : Type) where
  status : String
  data : Option (QueryAnswer.Data α)
  error : Option String

namespace QueryAnswer

variable {α : Type} [Scalar α]

def Data.ofJson? : Json → Option (Data α) :=
  Json.record do
    let resultType ← Json.required "resultType" Json.text?
    let series ← Json.defaulted "result" [] (Json.listOf Series.ofJson?)
    return ⟨resultType, series⟩

def ofJson? : Json → Option (QueryAnswer α) :=
  Json.record do
    let status ← Json.required "status" Json.text?
    let data ← Json.optional "data" Data.ofJson?
    let error ← Json.optional "error" Json.text?
    return ⟨status, data, error⟩

/-- The series of an answer that holds a vector. -/
def series (answer : QueryAnswer α) : Except QueryFault (List (Series α)) :=
  if answer.status = "success" then
    match answer.data with
    | none => .error .noData
    | some data =>
        if data.resultType = "vector" then .ok data.series
        else .error (.resultType data.resultType)
  else
    .error (.failed (answer.error.getD answer.status))

def ofResponse (response : Http.Response) :
    Except QueryFault (List (Series α)) :=
  if Http.Status.isSuccess response.status then
    match Json.ofText? response.body >>= QueryAnswer.ofJson? with
    | some answer => answer.series
    | none => .error .unreadable
  else
    .error (.refused response.status response.body)

end QueryAnswer

namespace QueryBackend

def queryPath (backend : QueryBackend) : Except BackendFault String := do
  let url ← (Url.parse backend.endpoint).mapError BackendFault.address
  if url.isBase then return url.below "api/v1/query"
  else throw .queryPath

variable {α : Type} [Scalar α]

def ask (server : Http.Server) (path query : String) :
    Http.Exchange QueryFault (List (Series α)) := do
  match ← Http.Exchange.ask server ⟨.get, path, [("query", query)], none⟩
    with
  | some response => Http.Exchange.ofExcept (QueryAnswer.ofResponse response)
  | none => Http.Exchange.ofExcept (.error .unsent)

/-- Ask all queries of a back end and merge what they answer. -/
def fetch (backend : QueryBackend) (server : Http.Server) (now : Instant) :
    Http.Exchange BackendFault (UsageSnapshot α) := do
  let path ← Http.Exchange.ofExcept backend.queryPath
  backend.effectiveQueries.entries.foldlM
    (fun snapshot (resource, query) => do
      let list ← (ask server path query).mapError fun fault =>
        BackendFault.query backend.name resource fault
      return Series.mergeAll now resource snapshot list)
    ∅

end QueryBackend

end UsageForecast
