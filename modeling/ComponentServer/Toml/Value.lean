import ComponentServer.Text.Basic

/-!
TOML values. Numbers and dates are only recognised: no setting uses one.
-/

namespace ComponentServer.Toml

inductive Value where
  | string (text : Text)
  | number
  | bool (value : Bool)
  | date
  | array (items : List Value)
  | table (entries : List (Text × Value))
deriving Repr

namespace Value

def text? : Value → Option Text
  | string text => some text
  | _ => none

def texts? : Value → Option (List Text)
  | array items => items.mapM text?
  | _ => none

end Value

end ComponentServer.Toml
