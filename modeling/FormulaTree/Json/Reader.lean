import FormulaTree.Json.Token
import FormulaTree.Json.Writer

/-!
# Reading JSON

A machine takes the tokens of a text one by one. Its stack holds the arrays and objects that are
open, so the height of the stack is the depth of nesting, and a bound on it is a bound on the depth
of the texts that are read.
-/

set_option autoImplicit false

namespace FormulaTree.Json

/-- An array or object that is open, while one of its members is read. Items are held last first. -/
inductive Frame where
  | array (items : List Json)
  | object (fields : List (String × Json)) (key : String)

/-- What the machine waits for, and the frames around it. -/
inductive State where
  | value (stack : List Frame)
  | firstItem (stack : List Frame)
  | firstKey (stack : List Frame)
  | key (stack : List Frame) (fields : List (String × Json))
  | colon (stack : List Frame) (fields : List (String × Json)) (key : String)
  | afterItem (stack : List Frame) (items : List Json)
  | afterField (stack : List Frame) (fields : List (String × Json))
  | complete (value : Json)

def deliver (value : Json) : List Frame → State
  | [] => .complete value
  | .array items :: stack => .afterItem stack (value :: items)
  | .object fields key :: stack => .afterField stack (Bindings.insert key value fields)

/-- Takes the first token of a value. No more than `depth` frames may be open at once. -/
def start (depth : Nat) (stack : List Frame) : Token → Option State
  | .null => some (deliver .null stack)
  | .bool b => some (deliver (.bool b) stack)
  | .number n => some (deliver (.number n) stack)
  | .string s => some (deliver (.string s) stack)
  | .openArray => if stack.length < depth then some (.firstItem stack) else none
  | .openObject => if stack.length < depth then some (.firstKey stack) else none
  | _ => none

def step (depth : Nat) : State → Token → Option State
  | .value stack, token => start depth stack token
  | .firstItem stack, .closeArray => some (deliver (.array []) stack)
  | .firstItem stack, token => start depth (.array [] :: stack) token
  | .firstKey stack, .closeObject => some (deliver (.object []) stack)
  | .firstKey stack, .string key => some (.colon stack [] key)
  | .key stack fields, .string key => some (.colon stack fields key)
  | .colon stack fields key, .colon => some (.value (.object fields key :: stack))
  | .afterItem stack items, .comma => some (.value (.array items :: stack))
  | .afterItem stack items, .closeArray => some (deliver (.array items.reverse) stack)
  | .afterField stack fields, .comma => some (.key stack fields)
  | .afterField stack fields, .closeObject => some (deliver (.object fields) stack)
  | _, _ => none

def ofTokens? (depth : Nat) (tokens : List Token) : Option Json := do
  match ← tokens.foldlM (step depth) (.value []) with
  | .complete value => some value
  | _ => none

def read? (depth : Nat) (text : String) : Option Json := do
  ofTokens? depth (← scan text.toList)

/-- Compact texts, in which a number stands for the double nearest to it. -/
def compact (depth : Nat) : Codec where
  write := write
  read? := read? depth

end FormulaTree.Json
