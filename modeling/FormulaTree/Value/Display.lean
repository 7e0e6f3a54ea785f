import FormulaTree.Decimal.Literal
import FormulaTree.Double.Layout
import FormulaTree.Text.Quoted
import FormulaTree.Value.Basic

set_option autoImplicit false

namespace FormulaTree.Value

def numbers : Double.Layout where
  tie := .up
  positional _ := true
  wholePoint := false

def writePart (x : Float) : String :=
  if x.isNaN then "NaN"
  else if x.isInf then (if 0.0 < x then "inf" else "-inf")
  else numbers.write x

def writeNumber (x : Float) : String :=
  if x.isNaN then "NaN"
  else if x.isInf then (if 0.0 < x then "Infinity" else "-Infinity")
  else numbers.write x

def writeComplex (re im : Float) : String :=
  if im == 0.0 then writePart re
  else if re == 0.0 then writePart im ++ "i"
  else if im < 0.0 then writePart re ++ " - " ++ writePart (-im) ++ "i"
  else writePart re ++ " + " ++ writePart im ++ "i"

def writeUnit : Option Float → String → String
  | none, name => name
  | some x, name => writePart x ++ " " ++ name

mutual

def write : Value → String
  | .null => "null"
  | .bool true => "true"
  | .bool false => "false"
  | .number x => writeNumber x
  | .string text => Text.quoted text
  | .decimal d => d.write
  | .complex re im => writeComplex re im
  | .unit magnitude name => writeUnit magnitude name
  | .matrix items => "[" ++ ", ".intercalate (writeItems items) ++ "]"
  | .object entries => "\x7b" ++ ", ".intercalate (writeEntries entries) ++ "\x7d"
  | .resultSet items => "[" ++ ", ".intercalate (writeItems items) ++ "]"

def writeItems : List Value → List String
  | [] => []
  | item :: rest => write item :: writeItems rest

def writeEntries : List (String × Value) → List String
  | [] => []
  | (key, value) :: rest => (Text.quoted key ++ ": " ++ write value) :: writeEntries rest

end

def display : Value → String
  | .string text => text
  | value => value.write

end FormulaTree.Value
