import UsageForecast.Json.Codec

/-!
# Kinds of cluster objects

A kind of object of the cluster's API: the group and version that serve it,
its name and the plural that its paths use.  The core group has no name.
-/

namespace UsageForecast

/-- A kind of object of the cluster's API. -/
structure ApiKind where
  group : String
  version : String
  kind : String
  plural : String
deriving DecidableEq, Repr, Inhabited

namespace ApiKind

def toJson (kind : ApiKind) : Json :=
  .object [
    ("group", .string kind.group),
    ("version", .string kind.version),
    ("kind", .string kind.kind),
    ("plural", .string kind.plural)]

/-- Read a kind from a record of texts; the group may be left out. -/
def reader (text? : Json → Option String) : Json → Option ApiKind :=
  Json.record do
    let group ← Json.defaulted "group" "" text?
    let version ← Json.required "version" text?
    let kind ← Json.required "kind" text?
    let plural ← Json.required "plural" text?
    return ⟨group, version, kind, plural⟩

def ofJson? : Json → Option ApiKind := reader Json.text?

instance : Codec ApiKind := ⟨toJson, ofJson?⟩

def basePath (kind : ApiKind) : String :=
  if kind.group.isEmpty then s!"/api/{kind.version}"
  else s!"/apis/{kind.group}/{kind.version}"

def listPath (kind : ApiKind) : String := s!"{kind.basePath}/{kind.plural}"

end ApiKind

end UsageForecast
