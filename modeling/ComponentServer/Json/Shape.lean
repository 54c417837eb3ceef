import ComponentServer.Json.Value

/-!
Shapes: what a JSON value has to look like to be taken for a value of some kind.
-/

namespace ComponentServer

abbrev Shape := Json → Bool

/-- A member of an object, or the item of an array that takes its place. -/
structure Member where
  name : String
  shape : Shape
  /-- Whether an object may do without it. -/
  mayMiss : Bool
  /-- Whether an array may end in front of it. -/
  mayEnd : Bool

namespace Shape

def anything : Shape := fun _ => true

def truth : Shape
  | .bool _ => true
  | _ => false

def text : Shape := fun json => json.text?.isSome

/-- An unsigned word of 32 bits. -/
def word : Shape := fun json => json.word?.isSome

/-- A signed word of 32 bits. -/
def signed : Shape := fun json => json.signed?.isSome

def number : Shape
  | .number _ => true
  | _ => false

/-- One of some texts. -/
def oneOf (texts : List String) : Shape := fun json =>
  json.text?.any fun text => texts.contains (String.ofList text)

def list (item : Shape) : Shape
  | .array items => items.all item
  | _ => false

/-- A value that may be null. -/
def orNull (shape : Shape) : Shape
  | .null => true
  | json => shape json

def either (left right : Shape) : Shape := fun json => left json || right json

/-- An object with the given members; others are passed over. -/
def object (members : List Member) : Shape
  | .object given => members.all fun member =>
    match given.lookup (some member.name.toList) with
    | some value => member.shape value
    | none => member.mayMiss
  | _ => false

/-- An object all of whose members have one shape, but for those with the given names. -/
def mapping (except : List String) (value : Shape) : Shape
  | .object given => given.all fun member =>
    member.1.any (except.contains <| String.ofList ·) || value member.2
  | _ => false

/-- The items of an array, one for each member. -/
def areItems : List Member → List Json → Bool
  | [], items => items.isEmpty
  | members, [] => members.all (·.mayEnd)
  | member :: members, item :: items => member.shape item && areItems members items

/-- An object with the given members, or an array of their values. -/
def record (members : List Member) : Shape
  | .array items => areItems members items
  | json => object members json

end Shape

namespace Member

/-- A member that has to be given. -/
def needed (name : String) (shape : Shape) : Member := ⟨name, shape, false, false⟩

/-- A member that may be left out or null. -/
def optional (name : String) (shape : Shape) : Member := ⟨name, shape.orNull, true, false⟩

/-- A member that may be left out, but is not null. -/
def preset (name : String) (shape : Shape) : Member := ⟨name, shape, true, true⟩

end Member

end ComponentServer
