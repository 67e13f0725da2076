
/-!
# TOML values

The values of a TOML document. Of a number with a fraction and of a date only the written form is
kept, since nothing here computes with them.
-/

namespace SealedBuild.Toml

/-- A value of a document. A table keeps its keys in order of appearance. -/
inductive Value
  | string (text : String)
  | integer (number : Int)
  | float (text : String)
  | boolean (value : Bool)
  | datetime (text : String)
  | array (items : List Value)
  | table (entries : List (String × Value))
  deriving Inhabited

/-- Why a text is not a document, or why a document does not have the wanted form. -/
inductive Error
  /-- The text breaks a rule of the grammar. -/
  | malformed (what : String)
  /-- A key or table is defined twice. -/
  | duplicateKey (key : String)
  /-- A key is extended as a table but holds something else. -/
  | notATable (key : String)
  /-- Arrays, inline tables or dotted keys are nested too deeply. -/
  | tooDeep
  /-- A value has the wrong type. -/
  | wrongType (expected : String)
  /-- A required key is missing. -/
  | missingKey (key : String)
  deriving DecidableEq

/-- The sentence that reports an error. -/
def Error.message (error : Error) : String :=
  "TOML parse error: " ++ match error with
    | malformed what => "invalid " ++ what
    | duplicateKey key => "duplicate key `" ++ key ++ "`"
    | notATable key => "key `" ++ key ++ "` is not a table"
    | tooDeep => "nested too deeply"
    | wrongType expected => "expected " ++ expected
    | missingKey key => "missing field `" ++ key ++ "`"

end SealedBuild.Toml
