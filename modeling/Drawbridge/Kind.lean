import Drawbridge.Text.Quoted

/-!
# Kinds of values at the bridge

Four kinds of values may be passed to a host method; it may return one of them or nothing. A host
may declare any other type by its name, which no binding accepts.
-/

namespace Drawbridge

/-- What a method declares of a parameter or of its result. -/
inductive Kind where
  | boolean
  | int32
  | double
  | string
  | void
  | other (name : String)
  deriving DecidableEq, Repr

namespace Kind

/-- The name that messages use. -/
def label : Kind → String
  | boolean => "boolean"
  | int32 => "int"
  | double => "double"
  | string => "string"
  | void => "void"
  | other name => name

/-- The name of the constructor, with the name it carries in quotes. -/
def describe : Kind → String
  | boolean => "Boolean"
  | int32 => "Int32"
  | double => "Double"
  | string => "String"
  | void => "Void"
  | other name => "Other(" ++ quoted name ++ ")"

/-- Whether a method may take an argument of this kind. -/
def isParameter : Kind → Bool
  | boolean | int32 | double | string => true
  | void | other _ => false

/-- Whether a method may return this kind. -/
def isResult : Kind → Bool
  | boolean | int32 | double | string | void => true
  | other _ => false

end Kind

end Drawbridge
