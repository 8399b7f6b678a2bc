import RequestFile.Document.Conversion
import RequestFile.Document.Structure
import RequestFile.Document.Types
import RequestFile.FileSystem
import RequestFile.Text.Newline
import RequestFile.Text.Utf8
import RequestFile.Toml

/-!
This module contains the reading of a document from a text or a file. It fails with the first of
these: the file cannot be read, its bytes are not UTF-8, the text is not TOML or a decimal integer in it
has too many digits, the structure has problems, a value has an invalid type.
-/

namespace RequestFile

inductive ParseError where
  | unreadable (path : String) (fault : FileFault)
  | undecodable (e : Text.Utf8.DecodeError)
  | malformed
  | overlong
  | illFormed (problems : List Document.Problem)
  | invalidType (e : Document.InvalidType)

namespace ParseError

def message : ParseError → String
  | unreadable path fault => "cannot read request file: " ++ fault.message path
  | undecodable e => "request file is not valid UTF-8: " ++ e.message
  | malformed => "invalid TOML"
  | overlong =>
    "Exceeds the limit (" ++ toString Decimal.maxDigits ++ " digits) for integer string conversion"
  | illFormed problems => String.intercalate "; " (problems.map Document.Problem.message)
  | invalidType e => e.message

end ParseError

/--
Decide whether two errors, given by the invalid types that they report, count as equal. An error that
reports none is equal to no error, not even to itself.
-/
def Document.InvalidType.agree (a b : Option Document.InvalidType) : Bool :=
  match a, b with
  | some a, some b => a = b
  | _, _ => false

namespace Document

def ofTable (root : Fields Value) : Except ParseError Document :=
  match check root with
  | .error problems => .error (.illFormed problems)
  | .ok d =>
    match d.checkTypes with
    | .error e => .error (.invalidType e)
    | .ok () => .ok d

def ofText (text : String) : Except ParseError Document :=
  match Toml.read text with
  | .error .malformed => .error .malformed
  | .error .overlong => .error .overlong
  | .ok root => ofTable root

def ofBytes (bytes : List UInt8) : Except ParseError Document :=
  match Text.Utf8.decode bytes with
  | .error e => .error (.undecodable e)
  | .ok text => ofText (String.ofList (Text.universalLineEnds text))

def ofFile (files : FileSystem) (path : String) : Except ParseError Document :=
  -- Errors show the normal spelling too.
  let path := Path.normalize path
  match files path with
  | .error fault => .error (.unreadable path fault)
  | .ok bytes => ofBytes bytes

end Document

end RequestFile
