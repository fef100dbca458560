import UsageForecast.Config.Basic
import UsageForecast.Json.Reader

/-!
# Configuration from a file and the environment

A variable whose name starts with the prefix sets a value over the file: the
rest of the name, in lower case, is a path whose parts are separated by double
underscores.  Tables are merged member by member.
-/

namespace UsageForecast.Config

inductive Fault where
  | unreadable
  | invalid
deriving DecidableEq, Repr, Inhabited

def Fault.message : Fault → String
  | .unreadable => "Failed to read configuration"
  | .invalid => "Invalid configuration"

abbrev Table := List (String × Json)

namespace Table

/-- Set a member, in place of an earlier one of its name. -/
def set (table : Table) (name : String) (value : Json) : Table :=
  match table with
  | [] => [(name, value)]
  | (known, former) :: rest =>
      if known = name then (name, value) :: rest
      else (known, former) :: set rest name value

def get? (table : Table) (name : String) : Option Json :=
  (table.find? fun member => member.1 == name).map (·.2)

/-- The table that is the value of a member; any other value is
dropped. -/
def inner (table : Table) (name : String) : Table :=
  match table.get? name with
  | some (.object members) => members
  | _ => []

mutual

/-- Set a member; a table is merged into the table that is there. -/
def put (name : String) (table : Table) : Json → Table
  | .object [] =>
      if (table.get? name).isSome then table else table.set name (.object [])
  | .object (member :: rest) =>
      table.set name (.object (putAll (table.inner name) (member :: rest)))
  | value => table.set name value

def putAll (table : Table) : List (String × Json) → Table
  | [] => table
  | (name, value) :: rest => putAll (put name table value) rest

end

/-- Set the value at a path. -/
def assign (table : Table) (value : Json) : List String → Table
  | [] => table
  | [name] => put name table value
  | name :: next :: rest =>
      table.set name (.object (assign (table.inner name) value (next :: rest)))

end Table

def isPathLetter (letter : Char) : Bool :=
  letter.isAlphanum || letter == '_' || letter == '-' || letter == ' '

/-- The parts of a path; a name that is no path has one part. -/
def pathOf (name : String) : List String :=
  let parts := name.splitOn "."
  if parts.all fun part => !part.isEmpty && part.toList.all isPathLetter
  then parts else [name]

/-- What the names of variables start with, in lower case. -/
def variableStart : List Char := "predictor__".toList

def variablePath? (name : String) : Option (List String) :=
  let lowered := name.toList.map Char.toLower
  if variableStart.isPrefixOf lowered then
    let rest := String.ofList (lowered.drop variableStart.length)
    some (pathOf (".".intercalate (rest.splitOn "__")))
  else
    none

/-- An infinity as a number beyond every range. -/
def beyond (negative : Bool) : Json := .number (.decimal ⟨negative, 1, 400⟩)

/-- The value of a variable: a truth value, an integer, a number or else a
text. -/
def variableValue (text : String) : Json :=
  let numeral : Json :=
    match Numeral.parse? text.toList with
    | some (.decimal value) => .number (.decimal value)
    | some (.infinite negative) => beyond negative
    | some .undefined => .string "NaN"
    | none => .string text
  match Reading.lower text with
  | "true" => .bool true
  | "false" => .bool false
  | _ =>
      match parseInteger? text.toList with
      | some value =>
          if Reading.isSigned value then .number (.integer value) else numeral
      | none => numeral

abbrev Variables := List (String × String)

/-- Set what variables say over a table. -/
def overlay (table : Table) (settings : Variables) : Table :=
  settings.foldl
    (fun table (name, text) =>
      match variablePath? name with
      | some path => table.assign (variableValue text) path
      | none => table)
    table

/-- What is found where a configuration file is looked for. -/
inductive File where
  /-- No file is asked for. -/
  | unnamed
  | missing
  | present (text : String)
deriving DecidableEq, Repr, Inhabited

section

variable (α : Type) [Scalar α]

mutual

/-- Whether all numbers of a value are within the range of scalars. -/
def inRange : Json → Bool
  | .number value =>
      Scalar.isFinite (Scalar.ofDecimal value.toDecimal : α)
  | .array items => inRangeItems items
  | .object members => inRangeMembers members
  | _ => true

def inRangeItems : List Json → Bool
  | [] => true
  | item :: rest => inRange item && inRangeItems rest

def inRangeMembers : List (String × Json) → Bool
  | [] => true
  | (_, value) :: rest => inRange value && inRangeMembers rest

end

def File.table : File → Except Fault Table
  | .unnamed => .ok []
  | .missing => .error .unreadable
  | .present text =>
      match (Json.ofText? text).map Json.lastWins with
      | some (.object members) =>
          if inRangeMembers α members then
            .ok (members.foldl
              (fun table (name, value) => table.assign value (pathOf name))
              ([] : Table))
          else
            .error .unreadable
      | _ => .error .unreadable

end

def load {α : Type} [Scalar α] (file : File) (settings : Variables) :
    Except Fault (Config α) := do
  let table ← file.table α
  match read .loose (.object (overlay table settings)) with
  | some config => return config
  | none => throw .invalid

end UsageForecast.Config
