import FormulaTree.Text.Blank
import FormulaTree.Text.Numeral
import Mathlib.Algebra.Group.Nat.Defs
import Mathlib.Data.List.TakeDrop
import Mathlib.Data.List.TakeWhile

set_option autoImplicit false

namespace FormulaTree.Text

theorem naturalOf_writeNatural (n : Nat) : naturalOf (writeNatural n) = n :=
  Nat.ofDigitChars_ten_toDigits

theorem naturalOf_append (first second : List Char) :
    naturalOf (first ++ second) = naturalOf first * 10 ^ second.length + naturalOf second := by
  change Nat.ofDigitChars 10 (first ++ second) 0 =
    Nat.ofDigitChars 10 first 0 * 10 ^ second.length + Nat.ofDigitChars 10 second 0
  rw [Nat.ofDigitChars_append, Nat.ofDigitChars_eq_ofDigitChars_zero (l := second), Nat.mul_comm]

theorem naturalOf_zeros (count : Nat) : naturalOf (List.replicate count '0') = 0 :=
  Nat.ofDigitChars_replicate_zero.trans (Nat.mul_zero _)

theorem isDigit_of_mem_writeNatural {n : Nat} {c : Char} (h : c ∈ writeNatural n) :
    c.isDigit = true :=
  Nat.isDigit_of_mem_toDigits (by decide) (by decide) h

theorem writeNatural_ne_nil (n : Nat) : writeNatural n ≠ [] :=
  Nat.toDigits_ne_nil

theorem length_writeNatural_le_iff {n count : Nat} (some_digit : 0 < count) :
    (writeNatural n).length ≤ count ↔ n < 10 ^ count :=
  Nat.length_toDigits_le_iff (by decide) some_digit

theorem length_writeNatural_pos (n : Nat) : 0 < (writeNatural n).length :=
  List.length_pos_iff.2 (writeNatural_ne_nil n)

theorem length_writeNatural_mono {n m : Nat} (h : n ≤ m) :
    (writeNatural n).length ≤ (writeNatural m).length := by
  have below : m < 10 ^ (writeNatural m).length :=
    (length_writeNatural_le_iff (length_writeNatural_pos m)).1 le_rfl
  exact (length_writeNatural_le_iff (length_writeNatural_pos m)).2 (by omega)

theorem length_writeInteger_le {n : Int} {count : Nat} (some_digit : 0 < count)
    (h : n.natAbs < 10 ^ count) : (writeInteger n).length ≤ count + 1 := by
  have digits := (length_writeNatural_le_iff some_digit).2 h
  unfold writeInteger
  split
  · rw [List.length_cons]
    omega
  · omega

theorem natural?_eq {text : List Char} (nonempty : text ≠ [])
    (digits : ∀ c ∈ text, c.isDigit = true) : natural? text = some (naturalOf text) :=
  if_pos ⟨nonempty, List.all_eq_true.2 digits⟩

theorem ne_of_isDigit {c other : Char} (h : c.isDigit = true) (ho : other.isDigit = false) :
    c ≠ other := by
  rintro rfl
  rw [h] at ho
  cases ho

theorem integer?_of_digits {text : List Char} (nonempty : text ≠ [])
    (digits : ∀ c ∈ text, c.isDigit = true) : integer? text = some (naturalOf text : Int) := by
  have number := natural?_eq nonempty digits
  unfold integer?
  split
  · exact absurd rfl (ne_of_isDigit (digits '-' List.mem_cons_self) rfl)
  · exact absurd rfl (ne_of_isDigit (digits '+' List.mem_cons_self) rfl)
  · rw [number]
    rfl

inductive Sign where
  | none
  | plus
  | minus
deriving DecidableEq

namespace Sign

def chars : Sign → List Char
  | none => []
  | plus => ['+']
  | minus => ['-']

def apply (sign : Sign) (n : Nat) : Int :=
  if sign = minus then -n else n

theorem mem_chars {sign : Sign} {c : Char} (h : c ∈ sign.chars) : c = '+' ∨ c = '-' := by
  cases sign with
  | none => cases h
  | plus => exact .inl (List.mem_singleton.1 h)
  | minus => exact .inr (List.mem_singleton.1 h)

end Sign

theorem natural?_eq_some_iff {text : List Char} {n : Nat} :
    natural? text = some n ↔
      text ≠ [] ∧ (∀ c ∈ text, c.isDigit = true) ∧ n = naturalOf text := by
  constructor
  · intro h
    unfold natural? at h
    split at h
    · rename_i passes
      exact ⟨passes.1, List.all_eq_true.1 passes.2, (Option.some.inj h).symm⟩
    · cases h
  · rintro ⟨nonempty, digits, rfl⟩
    exact natural?_eq nonempty digits

theorem integer?_signed (sign : Sign) {digits : List Char} (nonempty : digits ≠ [])
    (all : ∀ c ∈ digits, c.isDigit = true) :
    integer? (sign.chars ++ digits) = some (sign.apply (naturalOf digits)) := by
  cases sign with
  | none => exact integer?_of_digits nonempty all
  | plus =>
    simp only [Sign.chars, List.singleton_append, integer?, natural?_eq nonempty all]
    rfl
  | minus =>
    simp only [Sign.chars, List.singleton_append, integer?, natural?_eq nonempty all]
    rfl

theorem exists_signed {text : List Char} {n : Int} (h : integer? text = some n) :
    ∃ (sign : Sign) (digits : List Char), text = sign.chars ++ digits ∧ digits ≠ [] ∧
      (∀ c ∈ digits, c.isDigit = true) ∧ n = sign.apply (naturalOf digits) := by
  unfold integer? at h
  split at h
  all_goals
    obtain ⟨m, lifted, rfl⟩ := Option.map_eq_some_iff.1 h
    obtain ⟨k, number, same⟩ := Option.bind_eq_some_iff.1 lifted
    cases same
    obtain ⟨nonempty, digits, rfl⟩ := natural?_eq_some_iff.1 number
  · exact ⟨.minus, _, rfl, nonempty, digits, rfl⟩
  · exact ⟨.plus, _, rfl, nonempty, digits, rfl⟩
  · exact ⟨.none, _, rfl, nonempty, digits, rfl⟩

theorem isBlank_of_isDigit {c : Char} (h : c.isDigit = true) : isBlank c = false := by
  have range : 48 ≤ c.toNat ∧ c.toNat ≤ 57 := by
    simpa [Char.isDigit, UInt32.le_iff_toNat_le] using h
  have below : c.toNat < 0x85 := by omega
  have above : ¬ c.toNat < 0x20 ∧ ¬ c.toNat ≤ 0x20 := by omega
  have above' : ¬ c.toNat < 0x9 ∧ ¬ c.toNat ≤ 0xd := by omega
  simp [isBlank, blankRanges, inRanges, below, above, above']

theorem span_append {p : Char → Bool} {front back : List Char} (all : ∀ c ∈ front, p c = true)
    (stop : ∀ c ∈ back.head?, p c = false) : (front ++ back).span p = (front, back) := by
  rw [List.span_eq_takeWhile_dropWhile, List.takeWhile_append_of_pos all,
    List.dropWhile_append_of_pos all]
  cases back with
  | nil => simp
  | cons c rest =>
    have fails : ¬ p c = true := by simp [stop c rfl]
    rw [List.takeWhile_cons_of_neg fails, List.dropWhile_cons_of_neg fails, List.append_nil]

theorem head_span {p : Char → Bool} {row : List Char} : ∀ c ∈ (row.span p).2.head?, p c = false := by
  intro c head
  rw [List.span_eq_takeWhile_dropWhile] at head
  have found := List.head?_dropWhile_not p row
  simp_all

theorem span_join (p : Char → Bool) (row : List Char) : (row.span p).1 ++ (row.span p).2 = row := by
  rw [List.span_eq_takeWhile_dropWhile]
  exact List.takeWhile_append_dropWhile

theorem exists_padding (text : List Char) :
    ∃ before after, (∀ c ∈ before ++ after, isBlank c = true) ∧
      text = before ++ trim text ++ after := by
  refine ⟨text.takeWhile isBlank, ((text.dropWhile isBlank).reverse.takeWhile isBlank).reverse,
    fun c mem => ?_, ?_⟩
  · rcases List.mem_append.1 mem with mem | mem
    · exact List.mem_takeWhile_imp mem
    · exact List.mem_takeWhile_imp (List.mem_reverse.1 mem)
  · have back : trim text ++ ((text.dropWhile isBlank).reverse.takeWhile isBlank).reverse
        = text.dropWhile isBlank := by
      rw [trim, ← List.reverse_append, List.takeWhile_append_dropWhile, List.reverse_reverse]
    rw [List.append_assoc, back, List.takeWhile_append_dropWhile]

theorem dropWhile_blank {before core : List Char} (blank : ∀ c ∈ before, isBlank c = true)
    (solid : ∀ c ∈ core.head?, isBlank c = false) :
    (before ++ core).dropWhile isBlank = core := by
  have divided := span_append blank solid
  rw [List.span_eq_takeWhile_dropWhile] at divided
  exact congrArg Prod.snd divided

theorem trim_padded {before core after : List Char}
    (blank : ∀ c ∈ before ++ after, isBlank c = true) (nonempty : core ≠ [])
    (solid : ∀ c ∈ core, isBlank c = false) : trim (before ++ core ++ after) = core := by
  have front : (before ++ core ++ after).dropWhile isBlank = core ++ after := by
    rw [List.append_assoc]
    refine dropWhile_blank (fun c mem => blank c (List.mem_append_left _ mem)) fun c head => ?_
    obtain ⟨first, rest, rfl⟩ := List.exists_cons_of_ne_nil nonempty
    obtain rfl : first = c := by simpa using head
    exact solid first List.mem_cons_self
  have back : (core ++ after).reverse.dropWhile isBlank = core.reverse := by
    rw [List.reverse_append]
    refine dropWhile_blank (fun c mem => ?_) fun c head => ?_
    · exact blank c (List.mem_append_right _ (List.mem_reverse.1 mem))
    · exact solid c (List.mem_reverse.1 (List.mem_of_mem_head? head))
  rw [trim, front, back, List.reverse_reverse]

end FormulaTree.Text
