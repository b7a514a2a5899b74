/-!
# Files that were read

What comes of reading a file: its text, or the reason why there is none.
-/
namespace CleanSql

inductive ReadFault where
  /-- The system refused, with the words and the number of its error. -/
  | refused (words : String) (code : Nat)
  /-- The octets of the file are no text. -/
  | notText
  deriving DecidableEq, Repr

namespace ReadFault

def missing : ReadFault := refused "No such file or directory" 2

def notDirectory : ReadFault := refused "Not a directory" 20

def isDirectory : ReadFault := refused "Is a directory" 21

def reason : ReadFault → String
  | refused words code => words ++ " (os error " ++ toString code ++ ")"
  | notText => "stream did not contain valid UTF-8"

end ReadFault

abbrev Reading := Except ReadFault String

def Reading.ofBytes (bytes : ByteArray) : Reading :=
  match String.fromUTF8? bytes with
  | some text => .ok text
  | none => .error .notText

end CleanSql
