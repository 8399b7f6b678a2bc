/-!
This module contains the upper case letters of words that are made of ASCII letters.
-/

namespace RequestFile.Text

/--
Bring `c` to upper case if its upper case form is made of ASCII letters. Outside of ASCII these are
the dotless i, the long s, the sharp s, and the Latin ligatures. Other characters stay as they are.
-/
def uppercase (c : Char) : List Char :=
  match c.toNat with
  | 0xDF => ['S', 'S']
  | 0x131 => ['I']
  | 0x17F => ['S']
  | 0xFB00 => ['F', 'F']
  | 0xFB01 => ['F', 'I']
  | 0xFB02 => ['F', 'L']
  | 0xFB03 => ['F', 'F', 'I']
  | 0xFB04 => ['F', 'F', 'L']
  | 0xFB05 | 0xFB06 => ['S', 'T']
  | _ => [c.toUpper]

def uppercaseString (s : String) : String :=
  String.ofList (s.toList.flatMap uppercase)

end RequestFile.Text
