/-!
# Types of parameters and results

The primitive types of the language under test, the families in which they are
resolved, and the types a method can declare.
-/

namespace TestSynth

/-- Primitives of one family are resolved alike; only their width differs. -/
inductive Family
  | integer
  | real
  | boolean
  deriving DecidableEq

def Family.name : Family → String
  | .integer => "integer"
  | .real => "real"
  | .boolean => "boolean"

inductive Primitive
  | byte
  | char
  | short
  | int
  | long
  | float
  | double
  | boolean
  deriving DecidableEq

namespace Primitive

def all : List Primitive :=
  [.byte, .char, .short, .int, .long, .float, .double, .boolean]

def family : Primitive → Family
  | .byte | .char | .short | .int | .long => .integer
  | .float | .double => .real
  | .boolean => .boolean

/-- The keyword that names the primitive in source text. -/
def keyword : Primitive → String
  | .byte => "byte"
  | .char => "char"
  | .short => "short"
  | .int => "int"
  | .long => "long"
  | .float => "float"
  | .double => "double"
  | .boolean => "boolean"

/-- The letter that stands for the primitive in a descriptor. -/
def code : Primitive → Char
  | .byte => 'B'
  | .char => 'C'
  | .short => 'S'
  | .int => 'I'
  | .long => 'J'
  | .float => 'F'
  | .double => 'D'
  | .boolean => 'Z'

def ofCode? (code : Char) : Option Primitive :=
  all.find? (·.code == code)

def ofKeyword? (keyword : String) : Option Primitive :=
  all.find? (·.keyword == keyword)

end Primitive

/-- A declared type. -/
inductive JavaType
  | void
  | primitive (base : Primitive)
  | array (element : JavaType)
  /-- A class or interface, by its dotted name. -/
  | reference (name : String)
  deriving DecidableEq

namespace JavaType

def arrayOf (element : Primitive) : JavaType :=
  .array (.primitive element)

def isVoid : JavaType → Bool
  | .void => true
  | _ => false

def isArray : JavaType → Bool
  | .array _ => true
  | _ => false

/-- Arrays and class types. -/
def isReference : JavaType → Bool
  | .array _ | .reference _ => true
  | _ => false

def primitive? : JavaType → Option Primitive
  | .primitive base => some base
  | _ => none

/-- The element type of a one-dimensional array of primitives. -/
def basicElement? : JavaType → Option Primitive
  | .array element => element.primitive?
  | _ => none

def isBasicArray (type : JavaType) : Bool :=
  type.basicElement?.isSome

/-- The type as source text spells it. -/
def sourceName : JavaType → String
  | .void => "void"
  | .primitive base => base.keyword
  | .array element => element.sourceName ++ "[]"
  | .reference name => name

end JavaType

end TestSynth
