import FeatureFlags.Operand
import FeatureFlags.Text.DecimalDigit

/-! Versions as texts whose order by code points is the order of the versions. Numeric parts are set flush
right in five columns, and a version of three parts gets a fourth one that sorts after every pre-release. -/

set_option autoImplicit false

namespace FeatureFlags.Version

-- A line feed that ends the text stays.
def dropBuild : List Char → List Char
  | [] => []
  | c :: rest =>
      if c = '+' then match rest.dropWhile (· != '\n') with
        | [] => []
        | ['\n'] => ['\n']
        | _ => c :: dropBuild rest
      else c :: dropBuild rest

def dropPrefix : List Char → List Char
  | 'v' :: rest => rest
  | chars => chars

def isSeparator (c : Char) : Bool := c == '-' || c == '.'

def parts : List Char → List (List Char)
  | [] => [[]]
  | c :: rest =>
      if isSeparator c then [] :: parts rest
      else match parts rest with
        | [] => [[c]]
        | part :: others => (c :: part) :: others

def isNumeric (part : List Char) : Bool :=
  let digits := part.takeWhile Text.isDigit
  !digits.isEmpty && (part.length == digits.length || part == digits ++ ['\n'])

def padPart (part : List Char) : List Char :=
  if isNumeric part then List.replicate (5 - part.length) ' ' ++ part else part

def markRelease (parts : List (List Char)) : List (List Char) :=
  if parts.length = 3 then parts ++ [['~']] else parts

def padded (version : List Char) : List Char :=
  List.intercalate ['-'] ((markRelease (parts (dropBuild (dropPrefix version)))).map padPart)

def source : Operand → String
  | .value (.num number) => number.plainText
  | .value (.str text) => if text.isEmpty then "0" else text
  | _ => "0"

def key (operand : Operand) : String := String.ofList (padded (source operand).toList)

end FeatureFlags.Version
