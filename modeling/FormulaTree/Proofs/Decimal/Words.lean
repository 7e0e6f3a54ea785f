import FormulaTree.Proofs.Decimal.Literal
import FormulaTree.Proofs.Decimal.Quantity

set_option autoImplicit false

namespace FormulaTree.Decimal

open Text

def signed? (bits : Nat) (n : Int) : Option Int :=
  if inWord bits n then some n else none

def size? (n : Int) : Option Nat :=
  if 0 ≤ n ∧ n < 2 ^ 64 then some n.toNat else none

def excess? (n m : Int) : Option Nat := do
  let difference ← signed? 64 (n - m)
  size? difference

def zeros? (count : Nat) : Option (List Char) :=
  if count < 2 ^ 63 then some (List.replicate count '0') else none

def divide? (text : List Char) (place : Nat) : Option (List Char × List Char) :=
  if place ≤ text.length then some (text.take place, text.drop place) else none

/-- The layout of a magnitude, with each number on the way in a word. -/
def magnitudeInWords? (digits : List Char) (scale : Int) : Option (List Char) := do
  let length ← signed? 64 digits.length
  let least ← signed? 64 (-plainZeros)
  let most ← signed? 64 (length + plainZeros)
  if scale < least ∨ most < scale then
    let exponent ← signed? 128 (-scale)
    return digits ++ 'e' :: writeInteger exponent
  else if scale ≤ 0 then
    let count ← size? scale.natAbs
    let zeros ← zeros? count
    return digits ++ zeros
  else if scale < length then
    let place ← excess? length scale
    let (whole, fraction) ← divide? digits place
    return whole ++ '.' :: fraction
  else
    let count ← excess? scale length
    let zeros ← zeros? count
    return '0' :: '.' :: zeros ++ digits

def writeInWords? (d : Decimal) : Option String := do
  let text ← magnitudeInWords? (writeNatural d.mantissa.natAbs) d.scale.toInt
  return String.ofList ((if d.mantissa < 0 then ['-'] else []) ++ text)

theorem signed?_eq {bits : Nat} {n : Int} (low : -2 ^ (bits - 1) ≤ n)
    (high : n < 2 ^ (bits - 1)) : signed? bits n = some n :=
  if_pos (inWord_iff.2 ⟨low, high⟩)

theorem size?_eq {n : Int} (low : 0 ≤ n) (high : n < 2 ^ 64) : size? n = some n.toNat :=
  if_pos ⟨low, high⟩

theorem excess?_eq {n m : Int} (larger : m ≤ n) (near : n - m < 2 ^ 63) :
    excess? n m = some (n - m).toNat := by
  rw [excess?, signed?_eq (by omega) near]
  exact size?_eq (by omega) (by omega)

theorem zeros?_eq {count : Nat} (h : count < 2 ^ 63) :
    zeros? count = some (List.replicate count '0') :=
  if_pos h

theorem divide?_eq {text : List Char} {place : Nat} (h : place ≤ text.length) :
    divide? text place = some (text.take place, text.drop place) :=
  if_pos h

/-- No word on the way is out of range. -/
theorem magnitudeInWords?_eq {digits : List Char} {scale : Int} (short : digits.length < 2 ^ 62)
    (low : -2 ^ 63 ≤ scale) (high : scale < 2 ^ 63) :
    magnitudeInWords? digits scale = some (magnitude digits scale) := by
  have length : signed? 64 digits.length = some (digits.length : Int) :=
    signed?_eq (by omega) (by omega)
  have least : signed? 64 (-plainZeros) = some (-plainZeros : Int) :=
    signed?_eq (by simp only [plainZeros]; omega) (by simp only [plainZeros]; omega)
  have most : signed? 64 (digits.length + plainZeros) = some (digits.length + plainZeros : Int) :=
    signed?_eq (by simp only [plainZeros]; omega) (by simp only [plainZeros]; omega)
  unfold magnitudeInWords? magnitude
  simp only [Option.bind_eq_bind]
  rw [length, Option.bind_some, least, Option.bind_some, most, Option.bind_some]
  split
  · rw [signed?_eq (by omega) (by omega)]
    rfl
  -- In the other layouts the scale is at most 21 away from zero or from the number of digits.
  · rename_i positional
    simp only [plainZeros] at positional
    split
    · rw [size?_eq (by omega) (by omega), Option.bind_some, Int.toNat_natCast,
        zeros?_eq (by omega)]
      rfl
    · split
      · have place : ((digits.length : Int) - scale).toNat = digits.length - scale.toNat := by
          omega
        rw [excess?_eq (by omega) (by omega), Option.bind_some, place, divide?_eq (by omega)]
        rfl
      · have count : (scale - (digits.length : Int)).toNat = scale.toNat - digits.length := by
          omega
        rw [excess?_eq (by omega) (by omega), Option.bind_some, count, zeros?_eq (by omega)]
        rfl

/-- A layout adds the most to the digits when it puts zeros in front of them. -/
theorem length_magnitude_le {digits : List Char} {scale : Int} (low : -2 ^ 63 ≤ scale)
    (high : scale < 2 ^ 63) : (magnitude digits scale).length ≤ digits.length + 23 := by
  unfold magnitude
  split
  · have exponent : (writeInteger (-scale)).length ≤ 19 + 1 :=
      length_writeInteger_le (by decide) (by omega)
    rw [List.length_append, List.length_cons]
    omega
  · rename_i positional
    simp only [plainZeros] at positional
    split
    · rw [List.length_append, List.length_replicate]
      omega
    · split
      · rw [List.length_append, List.length_cons, List.length_take, List.length_drop]
        omega
      · rw [List.length_append, List.length_cons, List.length_cons, List.length_replicate]
        omega

theorem length_write_le (d : Decimal) :
    d.write.length ≤ (writeNatural d.mantissa.natAbs).length + 24 := by
  have layout : (magnitude (writeNatural d.mantissa.natAbs) d.scale.toInt).length
      ≤ (writeNatural d.mantissa.natAbs).length + 23 :=
    length_magnitude_le (Int64.le_toInt d.scale) (Int64.toInt_lt d.scale)
  have sign : (if d.mantissa < 0 then ['-'] else []).length ≤ 1 := by
    split <;> simp
  rw [write, String.length_ofList, List.length_append]
  omega

example : (ofParts (-1) 22).write.length = (writeNatural 1).length + 24 := by decide +kernel

theorem writeInWords?_eq {d : Decimal}
    (short : (writeNatural d.mantissa.natAbs).length < 2 ^ 62) :
    d.writeInWords? = some d.write := by
  rw [writeInWords?, magnitudeInWords?_eq short (Int64.le_toInt d.scale) (Int64.toInt_lt d.scale)]
  rfl

/-- A decimal made from any parts is read back from its text, which is at most 24 characters longer
than the digits of its mantissa, and no word is out of range when it is written. -/
theorem write_readable_compact (m : Int) (s : Int64)
    (short : (writeNatural m.natAbs).length < 2 ^ 62) :
    ofLiteral? (ofParts m s).write = some (ofParts m s) ∧
    (ofParts m s).write.length
      ≤ (writeNatural (ofParts m s).mantissa.natAbs).length + 24 ∧
    (ofParts m s).writeInWords? = some (ofParts m s).write := by
  have fewer := length_writeNatural_mono (natAbs_ofParts_le m s)
  exact ⟨ofLiteral?_write _, length_write_le _, writeInWords?_eq (by omega)⟩

/-- Two of the three zeros go into the scale before it is the least, and the exponent of the text is
beyond the words of the scale. -/
theorem write_readable_compact_least :
    (ofParts (-1000) (Int64.minValue + 2)).scale = Int64.minValue ∧
    ofLiteral? "-10e9223372036854775808" = some (ofParts (-1000) (Int64.minValue + 2)) ∧
    (ofParts (-1000) (Int64.minValue + 2)).writeInWords? = some "-10e9223372036854775808" := by
  have text : (ofParts (-1000) (Int64.minValue + 2)).write = "-10e9223372036854775808" := by
    decide +kernel
  obtain ⟨read, -, words⟩ := write_readable_compact (-1000) (Int64.minValue + 2) (by decide)
  rw [text] at read words
  exact ⟨by decide +kernel, read, words⟩

end FormulaTree.Decimal
