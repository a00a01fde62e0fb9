/-
  Shapes of declared types
  ========================
  **The shape that a type declaration gives the values of the type.**

  Scalars have flat shapes.  An optional type has the shape of its values
  with the mark that a value may be absent, so that nesting options adds
  nothing; a type that is only stored elsewhere has the shape of what is
  stored; sequences and tables of a type are arrays and maps of its shape.
-/
import SchemaCatalog.Shape.Basic

namespace SchemaCatalog

inductive DeclaredType where
  | boolean
  /-- Whole numbers of any width, signed or not. -/
  | integer
  | floating
  | text
  | character
  | anyJson
  /-- Dates, and times with or without a zone. -/
  | dateTime
  /-- The entity that stands for an empty object. -/
  | emptyObject
  | optional (type : DeclaredType)
  | stored (type : DeclaredType)
  | sequence (type : DeclaredType)
  | table (type : DeclaredType)
deriving DecidableEq, Inhabited, Repr

def DeclaredType.shape : DeclaredType → Shape
  | boolean => .boolean
  | integer => .integer
  | floating => .number
  | text | character => .string
  | anyJson => .dynamic
  | dateTime => .timestamp
  | emptyObject => .record []
  | optional type => type.shape.orAbsent
  | stored type => type.shape
  | sequence type => .array type.shape
  | table type => .map type.shape

end SchemaCatalog
