/-!
# Why a text is not a checkpoint

Checkpoints are read by a library that says in its own words what stopped it
and where.  Failures repeat these words, and nothing else depends on them.
-/

namespace UsageForecast.Checkpoint

/-- What the reader of checkpoints says of a text that holds none. -/
class Diagnosis where
  explain : String → String

namespace Diagnosis

/-- The members that may be absent and are null then. -/
def optional : List String :=
  ["apiVersion", "firstSampleStart", "lastSampleStart"]

mutual

/-- How many bytes lie before the end of the first null that stands for a
number, after so many bytes and a string. -/
def missingNumber? (name : String) (bytes : Nat) : List Char → Option Nat
  | [] => none
  | '\"' :: rest => missingNumberAfter? [] (bytes + 1) rest
  | 'n' :: rest =>
      if optional.contains name then missingNumber? name (bytes + 1) rest
      else some (bytes + "null".length)
  | letter :: rest => missingNumber? name (bytes + letter.utf8Size) rest

/-- The same inside a string, whose letters so far are given from the last one
on. -/
def missingNumberAfter? (read : List Char) (bytes : Nat) :
    List Char → Option Nat
  | [] => none
  | '\\' :: letter :: rest =>
      missingNumberAfter? (letter :: read) (bytes + 1 + letter.utf8Size) rest
  | '\"' :: rest =>
      missingNumber? (String.ofList read.reverse) (bytes + 1) rest
  | letter :: rest =>
      missingNumberAfter? (letter :: read) (bytes + letter.utf8Size) rest

end

/-- A number that is not finite is written as null, and the reader stops at
the first of these.  Of a text with another defect no more is said here than
that it has one. -/
instance : Diagnosis where
  explain text :=
    match missingNumber? "" 0 text.toList with
    | some column =>
        s!"invalid type: null, expected f64 at line 1 column {column}"
    | none => "invalid checkpoint"

end Diagnosis

end UsageForecast.Checkpoint
