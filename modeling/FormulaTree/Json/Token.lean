import FormulaTree.Json.Basic
import FormulaTree.Double.Reading
import FormulaTree.Text.Numeral

set_option autoImplicit false

namespace FormulaTree.Json

inductive Token where
  | openArray
  | closeArray
  | openObject
  | closeObject
  | comma
  | colon
  | null
  | bool (value : Bool)
  | number (value : Number)
  | string (text : String)
deriving DecidableEq

def isSpace (c : Char) : Bool :=
  c = ' ' || c = '\n' || c = '\t' || c = '\r'

def hexDigit? (c : Char) : Option Nat :=
  if '0' ≤ c ∧ c ≤ '9' then some (c.toNat - '0'.toNat)
  else if 'a' ≤ c ∧ c ≤ 'f' then some (c.toNat - 'a'.toNat + 10)
  else if 'A' ≤ c ∧ c ≤ 'F' then some (c.toNat - 'A'.toNat + 10)
  else none

def codeUnit? (a b c d : Char) : Option Nat := do
  let a ← hexDigit? a
  let b ← hexDigit? b
  let c ← hexDigit? c
  let d ← hexDigit? d
  return ((a * 16 + b) * 16 + c) * 16 + d

def isHighSurrogate (unit : Nat) : Bool :=
  0xD800 ≤ unit && unit < 0xDC00

def isLowSurrogate (unit : Nat) : Bool :=
  0xDC00 ≤ unit && unit < 0xE000

def shortEscape? (c : Char) : Option Char :=
  if c = '"' ∨ c = '\\' ∨ c = '/' then some c
  else if c = 'b' then some '\x08'
  else if c = 'f' then some '\x0c'
  else if c = 'n' then some '\n'
  else if c = 'r' then some '\r'
  else if c = 't' then some '\t'
  else none

def scanString : List Char → Option (List Char × List Char)
  | [] => none
  | '"' :: rest => some ([], rest)
  | '\\' :: 'u' :: a :: b :: c :: d :: rest =>
    match codeUnit? a b c d with
    | none => none
    | some unit =>
      if isHighSurrogate unit then
        match rest with
        | '\\' :: 'u' :: e :: f :: g :: h :: rest =>
          match codeUnit? e f g h with
          | none => none
          | some low =>
            if isLowSurrogate low then
              (scanString rest).map fun (text, rest) =>
                (Char.ofNat (0x10000 + (unit - 0xD800) * 0x400 + (low - 0xDC00)) :: text, rest)
            else none
        | _ => none
      else if isLowSurrogate unit then none
      else (scanString rest).map fun (text, rest) => (Char.ofNat unit :: text, rest)
  | '\\' :: c :: rest =>
    match shortEscape? c with
    | none => none
    | some c => (scanString rest).map fun (text, rest) => (c :: text, rest)
  | c :: rest =>
    if c = '\\' ∨ c.toNat < 0x20 then none
    else (scanString rest).map fun (text, rest) => (c :: text, rest)

/-- A number by its parts. Whole numbers that fit a machine word stay whole, except that minus zero
is a double; a number that rounds to an infinite double is refused. -/
def numberOf? (negative : Bool) (whole : List Char) (fraction exponent : Option (List Char))
    (exponentNegative : Bool) : Option Number :=
  let rounded (significand : Nat) (exponent : Int) : Option Number :=
    let x := Double.ofDecimal negative significand exponent
    if x.isInf then none else some (.real x)
  match fraction, exponent with
  | none, none =>
    let n := Text.naturalOf whole
    if negative then
      if n = 0 ∨ Nat.pow 2 63 < n then rounded n 0 else some (.integer (-n))
    else if n < Nat.pow 2 64 then some (.integer n) else rounded n 0
  | _, _ =>
    let fraction := fraction.getD []
    let power : Int := Text.naturalOf (exponent.getD [])
    rounded (Text.naturalOf (whole ++ fraction))
      ((if exponentNegative then -power else power) - fraction.length)

def digitsOf (text : List Char) : List Char :=
  text.takeWhile Char.isDigit

def afterDigits (text : List Char) : List Char :=
  text.dropWhile Char.isDigit

def scanFraction : List Char → Option (Option (List Char) × List Char)
  | '.' :: rest =>
    if (digitsOf rest).isEmpty then none else some (some (digitsOf rest), afterDigits rest)
  | text => some (none, text)

def scanSign : List Char → Bool × List Char
  | '-' :: rest => (true, rest)
  | '+' :: rest => (false, rest)
  | text => (false, text)

def scanExponent : List Char → Option (Option (List Char) × Bool × List Char)
  | [] => some (none, false, [])
  | c :: rest =>
    if c = 'e' ∨ c = 'E' then
      let signed := scanSign rest
      if (digitsOf signed.2).isEmpty then none
      else some (some (digitsOf signed.2), signed.1, afterDigits signed.2)
    else some (none, false, c :: rest)

def scanUnsigned (negative : Bool) (text : List Char) : Option (Number × List Char) :=
  let whole := digitsOf text
  if whole.isEmpty || (whole.head? == some '0' && whole.length != 1) then none
  else do
    let (fraction, rest) ← scanFraction (afterDigits text)
    let (exponent, exponentNegative, rest) ← scanExponent rest
    let value ← numberOf? negative whole fraction exponent exponentNegative
    return (value, rest)

def scanNumber : List Char → Option (Number × List Char)
  | '-' :: rest => scanUnsigned true rest
  | text => scanUnsigned false text

def scanToken : List Char → Option (Token × List Char)
  | '[' :: rest => some (.openArray, rest)
  | ']' :: rest => some (.closeArray, rest)
  | '\x7b' :: rest => some (.openObject, rest)
  | '\x7d' :: rest => some (.closeObject, rest)
  | ',' :: rest => some (.comma, rest)
  | ':' :: rest => some (.colon, rest)
  | 'n' :: 'u' :: 'l' :: 'l' :: rest => some (.null, rest)
  | 't' :: 'r' :: 'u' :: 'e' :: rest => some (.bool true, rest)
  | 'f' :: 'a' :: 'l' :: 's' :: 'e' :: rest => some (.bool false, rest)
  | '"' :: rest => (scanString rest).map fun (text, rest) => (.string (String.ofList text), rest)
  | text => (scanNumber text).map fun (value, rest) => (.number value, rest)

theorem length_of_scanString {text contents rest : List Char}
    (h : scanString text = some (contents, rest)) : rest.length < text.length := by
  fun_induction scanString text generalizing contents with
  | case1 | case3 | case4 | case6 | case7 | case8 | case10 | case12 => simp at h
  | case2 tail => simp_all
  | case5 _ _ _ _ _ _ _ _ _ _ _ _ _ _ _ ih | case9 _ _ _ _ _ _ _ _ _ ih
  | case11 _ _ _ _ _ ih | case13 _ _ _ _ _ _ ih =>
    obtain ⟨⟨_, _⟩, scanned, he⟩ := Option.map_eq_some_iff.1 h
    cases he
    have := ih scanned
    simp only [List.length_cons]
    omega

theorem length_afterDigits_le (text : List Char) : (afterDigits text).length ≤ text.length :=
  (List.dropWhile_sublist _).length_le

theorem length_of_scanFraction {text rest : List Char} {fraction : Option (List Char)}
    (h : scanFraction text = some (fraction, rest)) : rest.length ≤ text.length := by
  unfold scanFraction at h
  split at h
  · rename_i tail
    have := length_afterDigits_le tail
    split at h
    · simp at h
    · cases h
      simp only [List.length_cons]
      omega
  · cases h
    exact Nat.le_refl _

theorem length_scanSign_le (text : List Char) : (scanSign text).2.length ≤ text.length := by
  unfold scanSign
  split <;> simp only [List.length_cons] <;> omega

theorem length_of_scanExponent {text rest : List Char} {exponent : Option (List Char)}
    {negative : Bool} (h : scanExponent text = some (exponent, negative, rest)) :
    rest.length ≤ text.length := by
  unfold scanExponent at h
  split at h
  · cases h
    exact Nat.le_refl _
  · rename_i c tail
    have := length_scanSign_le tail
    have := length_afterDigits_le (scanSign tail).2
    split at h
    · dsimp only at h
      split at h
      · contradiction
      · cases h
        simp only [List.length_cons]
        omega
    · cases h
      exact Nat.le_refl _

theorem length_afterDigits_lt {text : List Char} (h : (digitsOf text).isEmpty = false) :
    (afterDigits text).length < text.length := by
  have parts : digitsOf text ++ afterDigits text = text := List.takeWhile_append_dropWhile
  have length := congrArg List.length parts
  have pos : 0 < (digitsOf text).length := by
    cases hd : digitsOf text with
    | nil => simp [hd] at h
    | cons => simp
  simp only [List.length_append] at length
  omega

theorem length_of_scanUnsigned {negative : Bool} {text rest : List Char} {value : Number}
    (h : scanUnsigned negative text = some (value, rest)) : rest.length < text.length := by
  unfold scanUnsigned at h
  dsimp only at h
  split at h
  · contradiction
  · rename_i nonempty
    simp only [Bool.or_eq_true, not_or, Bool.not_eq_true] at nonempty
    have := length_afterDigits_lt nonempty.1
    simp only [Option.bind_eq_bind, Option.bind_eq_some_iff, Prod.exists] at h
    obtain ⟨fraction, r₁, h₁, exponent, sign, r₂, h₂, number, _, h₃⟩ := h
    cases h₃
    have := length_of_scanFraction h₁
    have := length_of_scanExponent h₂
    omega

theorem length_of_scanNumber {text rest : List Char} {value : Number}
    (h : scanNumber text = some (value, rest)) : rest.length < text.length := by
  unfold scanNumber at h
  split at h
  · have := length_of_scanUnsigned h
    simp only [List.length_cons]
    omega
  · exact length_of_scanUnsigned h

theorem length_of_scanToken {text rest : List Char} {token : Token}
    (h : scanToken text = some (token, rest)) : rest.length < text.length := by
  unfold scanToken at h
  split at h
  case h_10 tail =>
    obtain ⟨⟨_, _⟩, scanned, he⟩ := Option.map_eq_some_iff.1 h
    cases he
    have := length_of_scanString scanned
    simp only [List.length_cons]
    omega
  case h_11 =>
    obtain ⟨⟨_, _⟩, scanned, he⟩ := Option.map_eq_some_iff.1 h
    cases he
    exact length_of_scanNumber scanned
  all_goals
    cases h
    simp only [List.length_cons]
    omega

def scan (text : List Char) : Option (List Token) :=
  match text with
  | [] => some []
  | c :: tail =>
    if isSpace c then scan tail
    else
      match _scanned : scanToken (c :: tail) with
      | none => none
      | some (token, rest) => (scan rest).map (token :: ·)
termination_by text.length
decreasing_by
  · simp
  · exact length_of_scanToken _scanned

end FormulaTree.Json
