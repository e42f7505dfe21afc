import StaticDispatch.Number.DecimalText

/-!
Contract: JSON values whose objects keep the order of their members.

Integers are exact and apart from numbers with a fraction or an exponent. A key
occurs once in an object; a later member of the same key replaces the value and
keeps the place of the first.

Owns: the type, object insertion and the accessors.
Does not own: the text format.
-/

namespace StaticDispatch

inductive Json where
  | null
  | bool (value : Bool)
  | int (value : Int)
  | number (value : Number.Binary64)
  | string (value : String)
  | array (items : List Json)
  | object (members : List (String × Json))

namespace Json

/-- Sets the value of a key: in place if the key is present, else at the end. -/
def insertMember (key : String) (value : Json) :
    List (String × Json) → List (String × Json)
  | [] => [(key, value)]
  | member :: rest =>
      if member.1 = key then (key, value) :: rest else member :: insertMember key value rest

def get? (json : Json) (key : String) : Option Json :=
  match json with
  | .object members => (members.find? (·.1 = key)).map (·.2)
  | _ => none

def string? : Json → Option String
  | .string value => some value
  | _ => none

def bool? : Json → Option Bool
  | .bool value => some value
  | _ => none

def array? : Json → Option (List Json)
  | .array items => some items
  | _ => none

def members? : Json → Option (List (String × Json))
  | .object members => some members
  | _ => none

/-- Numbers of value zero, the empty text, the empty containers, `false` and
`null` hold nothing. -/
def isBlank : Json → Bool
  | .null => true
  | .bool value => !value
  | .int value => value = 0
  | .number value => value.exact = .finite .zero
  | .string value => value = ""
  | .array items => items.isEmpty
  | .object members => members.isEmpty

/-- Whether a value equals zero as a number; `false` counts as zero. -/
def isZero : Json → Bool
  | .bool value => !value
  | .int value => value = 0
  | .number value => value.exact = .finite .zero
  | _ => false

end Json

end StaticDispatch
