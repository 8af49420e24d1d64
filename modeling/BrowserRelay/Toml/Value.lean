/-!
# TOML values

Nothing in the settings is a number with a fraction or a date, so these are kept
as they are written.
-/

namespace BrowserRelay

/-- A TOML value.  A moment is a date, a time or both. -/
inductive Toml where
  | string (text : String)
  | integer (value : Int)
  | decimal (text : String)
  | bool (value : Bool)
  | moment (text : String)
  | array (items : List Toml)
  | table (members : List (String × Toml))

namespace Toml

/-- Why a text is not TOML. -/
inductive ReadFault where
  | endOfText
  | unexpectedCharacter
  | controlCharacter
  | invalidEscape
  | invalidNumber
  | numberOutOfRange
  | invalidDate
  | expectedKey
  | expectedValue
  | expectedLineEnd
  | tooDeep
  | duplicateKey (key : String)
  | notTable (key : String)
  deriving DecidableEq

/-- The wording of a fault. -/
def ReadFault.message : ReadFault → String
  | endOfText => "unexpected end of the text"
  | unexpectedCharacter => "unexpected character"
  | controlCharacter => "control character"
  | invalidEscape => "invalid escape sequence"
  | invalidNumber => "invalid number"
  | numberOutOfRange => "number out of range"
  | invalidDate => "invalid date or time"
  | expectedKey => "expected a key"
  | expectedValue => "expected a value"
  | expectedLineEnd => "expected the end of the line"
  | tooDeep => "nested too deeply"
  | duplicateKey key => "duplicate key `" ++ key ++ "`"
  | notTable key => "`" ++ key ++ "` is not a table"

end Toml

end BrowserRelay
