import UsageForecast.Decimal.Basic

/-!
# Structured data

A value of the structured text format that checkpoints, back ends and
configuration files share.  Objects are lists of members in order, repeated
names included, and numbers keep whether they were written as integers.
-/

namespace UsageForecast

/-- A number: an integer that fits a 64-bit word, or a decimal. -/
inductive Json.Number where
  | integer (value : Int)
  | decimal (value : Decimal)
deriving DecidableEq, Repr, Inhabited

/-- A structured value. -/
inductive Json where
  | null
  | bool (value : Bool)
  | number (value : Json.Number)
  | string (value : String)
  | array (items : List Json)
  | object (members : List (String × Json))
deriving Repr, Inhabited

namespace Json

def ofNat (value : Nat) : Json := .number (.integer value)

def ofInt (value : Int) : Json := .number (.integer value)

def ofStrings (texts : List String) : Json := .array (texts.map .string)

def ofOption {ε : Type} (encode : ε → Json) : Option ε → Json
  | none => .null
  | some value => encode value

/-- The value of the last member of a name. -/
def member? (name : String) : Json → Option Json
  | .object members =>
      (members.reverse.find? fun member => member.1 == name).map (·.2)
  | _ => none

def text? : Json → Option String
  | .string value => some value
  | _ => none

def items? : Json → Option (List Json)
  | .array items => some items
  | _ => none

mutual

/-- How many arrays and objects are open at the deepest place. -/
def depth : Json → Nat
  | .array items => depthOfItems items + 1
  | .object members => depthOfMembers members + 1
  | _ => 0

def depthOfItems : List Json → Nat
  | [] => 0
  | item :: rest => max (depth item) (depthOfItems rest)

def depthOfMembers : List (String × Json) → Nat
  | [] => 0
  | (_, value) :: rest => max (depth value) (depthOfMembers rest)

end

mutual

/-- The same data with one member for each name of an object: the last. -/
def lastWins : Json → Json
  | .array items => .array (lastWinsItems items)
  | .object members => .object (lastWinsMembers members)
  | other => other

def lastWinsItems : List Json → List Json
  | [] => []
  | item :: rest => lastWins item :: lastWinsItems rest

def lastWinsMembers : List (String × Json) → List (String × Json)
  | [] => []
  | (name, value) :: rest =>
      if rest.any fun member => member.1 == name then
        lastWinsMembers rest
      else
        (name, lastWins value) :: lastWinsMembers rest

end

mutual

/-- Change a value from the inside out: the members of objects as a list, and
everything that is no array or object by itself. -/
def adjust (leaf : Json → Json)
    (order : List (String × Json) → List (String × Json)) : Json → Json
  | .array items => .array (adjustItems leaf order items)
  | .object members => .object (order (adjustMembers leaf order members))
  | other => leaf other

def adjustItems (leaf : Json → Json)
    (order : List (String × Json) → List (String × Json)) :
    List Json → List Json
  | [] => []
  | item :: rest => adjust leaf order item :: adjustItems leaf order rest

def adjustMembers (leaf : Json → Json)
    (order : List (String × Json) → List (String × Json)) :
    List (String × Json) → List (String × Json)
  | [] => []
  | (name, value) :: rest =>
      (name, adjust leaf order value) :: adjustMembers leaf order rest

end

/-- The same data with the members of all objects sorted by name. -/
def sortMembers : Json → Json :=
  adjust id fun members => members.mergeSort fun left right =>
    (compare left.1 right.1).isLE

def without (name : String) : Json → Json :=
  adjust id fun members => members.filter fun member => member.1 != name

end Json

end UsageForecast
