import Chip8.Datum.Number
import Chip8.Fault

/-! Everything that can go wrong outside a running program, as causes, and the text for each. A text may show a number
that is too long for the host to write; then that is what goes wrong. -/

namespace Chip8

/-- What is wrong with a settings document, from the reading of its characters to its references. -/
inductive DocumentError where
  | undecodable
  | unprintable
  | unreadable
  | misplaced
  | several
  | duplicateName
  | unsupportedName
  | unsupportedValue
  | nameless
  | loneScalar
  | wrappedScalar
  | unresolved
  | leftOpen
  | unsuitable
  | circular
  | unknownCall
  | badReference
deriving DecidableEq, Repr

inductive FileError where
  | missing
  | isFolder
  | notFolder
  | longName
  | emptyByte
deriving DecidableEq, Repr

inductive Error where
  | refusal (r : Refusal)
  | number (e : NumberError)
  | unlabelledKey (kind : String)
  | unformattable (kind : String)
  | byteRange
  | byteKind (kind : String)
  | negativeCount
  | wideCount
  | noLength (kind : String)
  | file (e : FileError)
  | seedRange
  | unknownSettings (names : List Datum)
  | slowSpeed (speed : Int)
  | notIterable (kind : String)
  | noAttribute (kind name : String)
  | unhashable (kind : String)
  | nameKind (position : Nat) (kind : String)
  | incomparable (left right : String)
  | entryLength (position length : Nat)
  | entryKind (position : Nat)
  | document (e : DocumentError)
  | mismatched
  | unknownScheme (name : String) (available : List String)
  | smallScale (scale : Int)
  | componentRange (component : Int)
  | wideNumber
  | cellRange (argument : String)
  | unknownExtension (extension : String)
  | unknownLevel (text : String) (available : List String)
  | unlistedLevel
  | twiceNamed (function name : String)
  | twicePlaced (function name : String)
  | unknownNames (entries : List (Datum × Datum))
deriving Repr

namespace DocumentError

def message : DocumentError → String
  | undecodable => "bytes that are no text"
  | unprintable => "a character that no document may hold"
  | unreadable => "characters that form no token"
  | misplaced => "a token out of place"
  | several => "more than one document"
  | duplicateName => "a name given twice"
  | unsupportedName => "a name that is no scalar"
  | unsupportedValue => "a value of no known kind"
  | nameless => "an entry without a name"
  | loneScalar => "a document that is neither a mapping nor a list nor a text"
  | wrappedScalar => "a document that is one text, and the text a lone scalar"
  | unresolved => "a reference to a name that is not there"
  | leftOpen => "a reference to a value left open"
  | unsuitable => "a reference through a value without entries, or named by one that is no text"
  | circular => "a reference that leads back to itself"
  | unknownCall => "a call of an unknown function"
  | badReference => "a reference that cannot be read"

end DocumentError

def FileError.message : FileError → String
  | missing => "No such file or directory"
  | isFolder => "Is a directory"
  | notFolder => "Not a directory"
  | longName => "File name too long"
  | emptyByte => "embedded null byte"

namespace Error

def message : Error → String
  | refusal r => r.message
  | number e => e.message
  | unlabelledKey kind =>
    if kind = "float" || kind = "str" then
      "Unknown format code 'X' for object of type '" ++ kind ++ "'"
    else "unsupported format string passed to " ++ kind ++ ".__format__"
  | unformattable kind => "unsupported format string passed to " ++ kind ++ ".__format__"
  | byteRange => "bytes must be in range(0, 256)"
  | byteKind kind => "'" ++ kind ++ "' object cannot be interpreted as an integer"
  | negativeCount => "negative count"
  | wideCount => "cannot fit 'int' into an index-sized integer"
  | noLength kind => "object of type '" ++ kind ++ "' has no len()"
  | file e => e.message
  | seedRange => "Python int too large to convert to C long"
  | unknownSettings names =>
    "Unknown config key(s): " ++ Text.bracketed (names.map Datum.written)
  | slowSpeed n => "speed must be at least 1, got " ++ toString n
  | notIterable kind => "'" ++ kind ++ "' object is not iterable"
  | noAttribute kind name => "'" ++ kind ++ "' object has no attribute '" ++ name ++ "'"
  | unhashable kind => "unhashable type: '" ++ kind ++ "'"
  | nameKind position kind =>
    "sequence item " ++ toString position ++ ": expected str instance, " ++ kind ++ " found"
  | incomparable left right =>
    "'<' not supported between instances of '" ++ left ++ "' and '" ++ right ++ "'"
  | entryLength position length =>
    "dictionary update sequence element #" ++ toString position ++ " has length " ++
      toString length ++ "; 2 is required"
  | entryKind position =>
    "cannot convert dictionary update sequence element #" ++ toString position ++ " to a sequence"
  | document e => e.message
  | mismatched => "Cannot merge incompatible container types"
  | unknownScheme name available =>
    "Unknown color scheme '" ++ name ++ "'. Available: " ++
      Text.bracketed (available.map Text.quoted)
  | smallScale n => "scale must be at least 1, got " ++ toString n
  | componentRange n => "Python integer " ++ toString n ++ " out of bounds for uint8"
  | wideNumber => "Python int too large to convert to C long"
  | cellRange argument =>
    "An overflow was encountered while parsing an argument to a jitted computation, whose argument " ++
      "path is " ++ argument ++ "."
  | unknownExtension extension => "unknown file extension: " ++ extension
  | unknownLevel text available =>
    "Unknown log level '" ++ text ++ "'. Available: " ++ Text.bracketed (available.map Text.quoted)
  | unlistedLevel => "tuple.index(x): x not in tuple"
  | twiceNamed function name =>
    function ++ "() got multiple values for keyword argument '" ++ name ++ "'"
  | twicePlaced function name =>
    function ++ "() got multiple values for argument '" ++ name ++ "'"
  | unknownNames entries => "Unknown argument(s): " ++ (Datum.map entries).written

/-- The numbers of any size that the message shows. -/
def numbers : Error → List Int
  | refusal (.oversized size capacity) => [size, capacity]
  | refusal (.invalidKey key) => key.number?.toList
  | unknownSettings names => names.filterMap Datum.number?
  | slowSpeed n => [n]
  | smallScale n => [n]
  | _ => []

def unwritten (limit : Option Nat) : Error := number (.unwritable (limit.getD Text.digitLimit))

/-- What an error comes to on a host with a limit on digits. -/
def raised (e : Error) (limit : Option Nat := some Text.digitLimit) : Error :=
  if e.numbers.all (Text.writes limit) then e else unwritten limit

end Error
end Chip8
