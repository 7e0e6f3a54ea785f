import FormulaTree.Formula.Kind
import FormulaTree.Text.Numeral
import FormulaTree.Value.Basic

set_option autoImplicit false

namespace FormulaTree

inductive Misuse where
  | target (found : Formula.Kind)
  | emptyBlock
  | operandCount (op : String) (count : Nat)
  | noConditions
  | noBlocks
  | blockCount (conditions blocks : Nat)
  | untaggedRecord
  | notRecord (parent : Formula.Kind) (field : String)
  | notArray (parent : Formula.Kind) (field : String)
  | literal (text : String)
  | parenthesesOption (text : String)
  | other (message : String)
deriving DecidableEq

mutual

/-- Why a record cannot be decoded. The first six concern the shape of any record, the others the
records of values and the value of a constant. -/
inductive RecordFault where
  | missingField (name : String)
  | unexpected (found expected : String)
  | tooShort (length : Nat) (record : String) (fields : Nat)
  | tooLong (length : Nat)
  | unknownVariant (found : String) (known : List String)
  | notSingleKey
  | untaggedValue
  | unknownValue (kind : String)
  | notNumber (field : String)
  | notList (field : String)
  | notText (name : String)
  | notEntries
  | invalidValue (cause : Error)

inductive Error where
  | invalidArgument (cause : Misuse)
  | missingReplacement (parent : Formula.Kind) (position : Formula.Position)
  | noTruthValue (kind : Value.Kind)
  | unregistered (tag : String)
  | malformed (tag : String) (fault : RecordFault)
  | notJson
  | undefinedSymbol (name : String)
  | unknownFunction (name : String)
  | functionFailed (name message : String)
  | notNumber (kind : Value.Kind)

end

deriving instance DecidableEq for RecordFault, Error

def decimalText (n : Nat) : String :=
  String.ofList (Text.writeNatural n)

def Misuse.message : Misuse → String
  | .target found => "AssignmentNode: object must be a SymbolNode, got " ++ found.tag
  | .emptyBlock => "BlockNode: blocks must contain at least one statement"
  | .operandCount op count =>
    "OperatorNode: `" ++ op ++ "` takes 1 or 2 operands, got " ++ decimalText count
  | .noConditions => "IfElseNode: conditions must contain at least one Node"
  | .noBlocks => "IfElseNode: blocks must contain at least one Node"
  | .blockCount conditions blocks =>
    "IfElseNode: expected " ++ decimalText conditions ++ " or " ++ decimalText (conditions + 1)
      ++ " blocks for " ++ decimalText conditions ++ " condition(s), got " ++ decimalText blocks
  | .untaggedRecord => "expected a node record with a \"kind\" tag"
  | .notRecord parent field => parent.tag ++ ": `" ++ field ++ "` must be a Node record"
  | .notArray parent field => parent.tag ++ ": `" ++ field ++ "` must be an array"
  | .literal text => "invalid BigNumber literal \"" ++ text ++ "\""
  | .parenthesesOption text =>
    "unknown parenthesis option \"" ++ text ++ "\" (expected \"keep\" or \"all\")"
  | .other message => message

def fieldCount (fields : Nat) : String :=
  if fields = 1 then "1 element" else decimalText fields ++ " elements"

mutual

def RecordFault.message : RecordFault → String
  | .missingField name => "missing field `" ++ name ++ "`"
  | .unexpected found expected => "invalid type: " ++ found ++ ", expected " ++ expected
  | .tooShort length record fields =>
    "invalid length " ++ decimalText length ++ ", expected struct " ++ record ++ " with "
      ++ fieldCount fields
  | .tooLong length =>
    "invalid length " ++ decimalText length ++ ", expected fewer elements in array"
  | .unknownVariant found known =>
    "unknown variant `" ++ found ++ "`, expected "
      ++ " or ".intercalate (known.map fun name => "`" ++ name ++ "`")
  | .notSingleKey => "invalid value: map, expected map with a single key"
  | .untaggedValue => "missing `kind` tag"
  | .unknownValue kind => "unknown value kind \"" ++ kind ++ "\""
  | .notNumber field => "field `" ++ field ++ "` is not a number"
  | .notList field => "field `" ++ field ++ "` is not an array"
  | .notText name => name ++ " is not a string"
  | .notEntries => "entries is not an object"
  | .invalidValue cause => cause.message

def Error.message : Error → String
  | .invalidArgument cause => "Invalid argument: " ++ cause.message
  | .missingReplacement parent position =>
    "Callback function must return a Node (while rebuilding " ++ parent.tag ++ " at `"
      ++ position.label ++ "`)"
  | .noTruthValue kind => "Unsupported type of condition \"" ++ kind.name ++ "\""
  | .unregistered tag => "Unregistered node type \"" ++ tag ++ "\""
  | .malformed tag fault => "Malformed " ++ tag ++ " record: " ++ fault.message
  | .notJson => "Malformed JSON record"
  | .undefinedSymbol name => "Undefined symbol " ++ name
  | .unknownFunction name => "Unknown function " ++ name
  | .functionFailed name message => "Error in function " ++ name ++ ": " ++ message
  | .notNumber kind => "Type error: expected number, got " ++ kind.name

end

end FormulaTree
