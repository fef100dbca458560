import UsageForecast.Target
import UsageForecast.Profile.Spec
import UsageForecast.Json.Writer

/-!
# Profile keys

A profile is identified by its target, its sources, its kinds of estimators
and its level; the other parts of a spec may change under the same key.
-/

namespace UsageForecast

/-- The identity of a profile. -/
structure ProfileKey where
  target : Target
  sources : List Source
  estimators : List EstimatorKind
  level : Level
deriving DecidableEq, Inhabited

namespace ProfileKey

abbrev order : ProfileKey → ProfileKey → Ordering :=
  compareLex (compareOn target) (compareLex (compareOn sources)
    (compareLex (compareOn estimators) (compareOn level)))

instance : Ord ProfileKey := ⟨order⟩

instance : Std.TransOrd ProfileKey := inferInstanceAs (Std.TransCmp order)

instance : Std.LawfulEqOrd ProfileKey where
  eq_of_compare {left right} same := by
    obtain ⟨targets, rest⟩ := key_eq_and_then same
    obtain ⟨sources, rest⟩ := key_eq_and_then rest
    obtain ⟨estimators, rest⟩ := key_eq_and_then rest
    have levels := key_eq rest
    cases left
    cases right
    simp_all

section

variable {α : Type}

def ofSpec (target : Target) (level : Level) (spec : Spec α) : ProfileKey :=
  ⟨target, spec.sources, spec.kinds, level⟩

/-- Whether a spec has the sources and the kinds of estimators of a key. -/
def agrees (key : ProfileKey) (spec : Spec α) : Bool :=
  key.sources == spec.sources && key.estimators == spec.kinds

end

def display (key : ProfileKey) : String :=
  let sources := String.join (key.sources.map fun source =>
    s!" {source.display}")
  s!"{key.target.display} [{key.level.name}{sources}]"

def toJson (key : ProfileKey) : Json :=
  .object [
    ("target", key.target.toJson),
    ("sources", .array (key.sources.map Source.toJson)),
    ("estimators", .array (key.estimators.map EstimatorKind.toJson)),
    ("hierarchy", key.level.toJson)]

def ofJson? : Json → Option ProfileKey :=
  Json.record do
    let target ← Json.required "target" Target.ofJson?
    let sources ← Json.required "sources" (Json.listOf Source.ofJson?)
    let estimators ←
      Json.required "estimators" (Json.listOf EstimatorKind.ofJson?)
    let level ← Json.required "hierarchy" Level.ofJson?
    return ⟨target, sources, estimators, level⟩

instance : Codec ProfileKey := ⟨toJson, ofJson?⟩

end ProfileKey

end UsageForecast
