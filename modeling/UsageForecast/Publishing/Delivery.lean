import UsageForecast.Cluster.Objects
import UsageForecast.Publishing.Body

/-!
# Delivery of published bodies

A body is delivered by merging it into the status of its owner.  The answer
has to show the changed object.
-/

namespace UsageForecast.Delivery

def statusPath (kind : ApiKind) (owner : Owner) : String :=
  s!"{kind.basePath}/namespaces/{owner.scope}/{kind.plural}/{owner.name}/status"

def isPathLetter (letter : Char) : Bool :=
  0x20 < letter.val && !"<>`".toList.contains letter

/-- Whether an owner can be asked for at all. -/
def isAddressable (kind : ApiKind) (owner : Owner) : Bool :=
  !owner.name.isEmpty && (statusPath kind owner).toList.all isPathLetter

def request (kind : ApiKind) (owner : Owner) (status : Json) :
    Http.Request :=
  .merge (statusPath kind owner) (.object [("status", status)])

def shown? : Json → Option Unit :=
  ApiObject.reading fun value => do
    let _ ← ApiObject.looseMetadata? value

/-- Merge a status into the status of an owner. -/
def deliver (server : Http.Server) (kind : ApiKind) (owner : Owner)
    (status : Json) : Http.Exchange BackendFault Unit := do
  let fault := BackendFault.delivery kind.kind owner
  if isAddressable kind owner then
    let response ← Http.Exchange.ask server (request kind owner status)
    match response >>= ApiObject.body? shown? with
    | some () => return
    | none => Http.Exchange.ofExcept (.error fault)
  else
    Http.Exchange.ofExcept (.error fault)

end UsageForecast.Delivery
