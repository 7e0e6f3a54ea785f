import FormulaTree.Proofs.Json.Depth
import FormulaTree.Proofs.Json.Numbers

/-!
# Reading what was written

Scanning undoes writing: a string is read from its escapes, a number from its own text, and so the
compact text of a value scans as the tokens of the value (`scan_write`). The machine puts these
together as the value again, unless it is too deep (`read?_write`).
-/

set_option autoImplicit false

namespace FormulaTree.Json

section escapes

theorem codeUnit?_control : ∀ n < 0x20,
    codeUnit? '0' '0' (n / 16).digitChar (n % 16).digitChar = some n := by
  decide

theorem hexDigits_control {n : Nat} (control : n < 0x20) :
    (if n < 0x10 then '0' :: Nat.toDigits 16 n else Nat.toDigits 16 n)
      = [(n / 16).digitChar, (n % 16).digitChar] := by
  by_cases short : n < 0x10
  · rw [if_pos short, Nat.toDigits_of_lt_base short, Nat.div_eq_of_lt short, Nat.mod_eq_of_lt short]
    rfl
  · rw [if_neg short, Nat.toDigits_eq_if (by decide), if_neg short,
      Nat.toDigits_of_lt_base (by omega)]
    rfl

theorem scanString_control {c : Char} (control : c.toNat < 0x20) (rest : List Char) :
    scanString (['\\', 'u', '0', '0', (c.toNat / 16).digitChar, (c.toNat % 16).digitChar] ++ rest)
      = (scanString rest).map fun (text, rest) => (c :: text, rest) := by
  have high : isHighSurrogate c.toNat = false := by
    simp only [isHighSurrogate, Bool.and_eq_false_iff, decide_eq_false_iff_not]
    omega
  have low : isLowSurrogate c.toNat = false := by
    simp only [isLowSurrogate, Bool.and_eq_false_iff, decide_eq_false_iff_not]
    omega
  rw [List.cons_append, List.cons_append, List.cons_append, List.cons_append, List.cons_append,
    List.cons_append, List.nil_append, scanString, codeUnit?_control c.toNat control]
  dsimp only
  rw [high, low, Char.ofNat_toNat]
  rfl

theorem scanString_plain {c : Char} (quote : c ≠ '"') (slash : c ≠ '\\')
    (control : ¬ c.toNat < 0x20) (rest : List Char) :
    scanString (c :: rest) = (scanString rest).map fun (text, rest) => (c :: text, rest) := by
  rw [scanString, if_neg (not_or.2 ⟨slash, control⟩)]
  · exact fun same => quote same
  · exact fun _ _ _ _ _ same => absurd same slash
  · exact fun _ _ same => absurd same slash

theorem scanString_escapeChar (c : Char) (rest : List Char) :
    scanString (escapeChar c ++ rest)
      = (scanString rest).map fun (text, rest) => (c :: text, rest) := by
  unfold escapeChar
  split_ifs with quote slash _ _ _ _ _ low control
  -- The seven characters with an escape of their own.
  iterate 7
    subst c
    rfl
  · have digits := hexDigits_control (show c.toNat < 0x20 by omega)
    rw [if_pos low] at digits
    have written : ['\\', 'u', '0', '0', '0'] ++ Nat.toDigits 16 c.toNat
        = ['\\', 'u', '0', '0'] ++ '0' :: Nat.toDigits 16 c.toNat := rfl
    rw [written, digits]
    exact scanString_control (by omega) rest
  · have digits := hexDigits_control control
    rw [if_neg low] at digits
    rw [digits]
    exact scanString_control control rest
  · exact scanString_plain quote slash control rest

theorem scanString_flatMap (text rest : List Char) :
    scanString (text.flatMap escapeChar ++ '"' :: rest) = some (text, rest) := by
  induction text with
  | nil => rfl
  | cons c text ih =>
    rw [List.flatMap_cons, List.append_assoc, scanString_escapeChar, ih]
    rfl

end escapes

section scan

variable {text rest : List Char} {token : Token}

theorem scan_cons {c : Char} (visible : isSpace c = false)
    (first : scanToken (c :: text) = some (token, rest)) :
    scan (c :: text) = (scan rest).map (token :: ·) := by
  rw [scan, if_neg (by simp [visible])]
  split
  · rename_i failed
    rw [first] at failed
    cases failed
  · rename_i found
    rw [first] at found
    cases found
    rfl

/-- In front of `rest`, the characters scan as the tokens. -/
def Lexes (chars : List Char) (tokens : List Token) (rest : List Char) : Prop :=
  scan (chars ++ rest) = (scan rest).map (tokens ++ ·)

theorem Lexes.append {chars later : List Char} {tokens laterTokens : List Token}
    (first : Lexes chars tokens (later ++ rest)) (second : Lexes later laterTokens rest) :
    Lexes (chars ++ later) (tokens ++ laterTokens) rest := by
  unfold Lexes at *
  rw [List.append_assoc, first, second, Option.map_map]
  congr 1
  funext more
  exact (List.append_assoc ..).symm

theorem lexes_writeString (text : String) (rest : List Char) :
    Lexes (writeString text).toList [.string text] rest := by
  have chars : (writeString text).toList ++ rest
      = '"' :: (text.toList.flatMap escapeChar ++ '"' :: rest) := by
    simp [writeString]
  have first : scanToken ('"' :: (text.toList.flatMap escapeChar ++ '"' :: rest))
      = some (.string text, rest) := by
    rw [scanToken, scanString_flatMap, Option.map_some]
    exact congrArg (fun text => some (Token.string text, rest)) String.ofList_toList
  rw [Lexes, chars, scan_cons rfl first]
  rfl

theorem scanToken_number {c : Char} (first : c = '-' ∨ c.isDigit = true) :
    scanToken (c :: text)
      = (scanNumber (c :: text)).map fun (value, rest) => (.number value, rest) := by
  unfold scanToken
  split
  case h_11 => rfl
  all_goals
    rename_i same
    cases same
    simp [Char.isDigit] at first

theorem lexes_writeNumber {value : Number} (fits : Fits value) (ends : Ends rest) :
    Lexes (writeNumber value).toList [.number value] rest := by
  obtain ⟨c, later, chars, first⟩ := exists_head_writeNumber fits
  have read := scanNumber_writeNumber fits ends
  have visible : isSpace c = false := by
    rcases first with rfl | digit
    · rfl
    · simp [isSpace, Text.ne_of_isDigit digit]
  rw [Lexes, chars, List.cons_append] at *
  refine scan_cons visible ?_
  rw [scanToken_number first, read]
  rfl

end scan

inductive Fitting : Json → Prop where
  | null : Fitting .null
  | bool (b : Bool) : Fitting (.bool b)
  | number {n : Number} (fits : Fits n) : Fitting (.number n)
  | string (text : String) : Fitting (.string text)
  | array {items : List Json} (each : ∀ item ∈ items, Fitting item) : Fitting (.array items)
  | object {fields : List (String × Json)} (each : ∀ field ∈ fields, Fitting field.2) :
    Fitting (.object fields)

theorem closed_fitting : Closed Fitting where
  null := .null
  bool := .bool
  real finite := .number finite
  string := .string
  array each := .array each
  ofFields each := .object fun field mem => each field (Bindings.mem_of_mem_ascending mem)

/-- A value that a text can say: its fields ascend and its numbers fit. -/
structure Document (json : Json) : Prop where
  keyed : json.Keyed
  fitting : json.Fitting

/-- The reader undoes the writer on documents in which no more than `limit` arrays and objects are
open at once, and rejects the texts of all others. -/
structure Codec.Bounded (codec : Codec) (limit : Nat) : Prop where
  inverts : ∀ json : Json, json.Document → json.depth ≤ limit →
    codec.read? (codec.write json) = some json
  rejects : ∀ json : Json, json.Document → limit < json.depth →
    codec.read? (codec.write json) = none

section members

variable {α : Type} {text : α → String} {tokens : α → List Token} {close : Char} {token : Token}

def Scans (text : String) (tokens : List Token) : Prop :=
  ∀ rest, Ends rest → Lexes text.toList tokens rest

def laterChars (texts : List String) : List Char :=
  texts.flatMap fun text => ',' :: text.toList

theorem toList_intercalate_cons (text : String) (texts : List String) :
    (",".intercalate (text :: texts)).toList = text.toList ++ laterChars texts := by
  rw [String.toList_intercalate]
  induction texts generalizing text with
  | nil => simp [laterChars]
  | cons next texts ih =>
    rw [List.map_cons, List.map_cons, List.intercalate_cons_cons, ← List.map_cons, ih]
    simp [laterChars]

theorem ends_laterChars (texts : List String) (closes : close = ']' ∨ close = '\x7d')
    (rest : List Char) : Ends (laterChars texts ++ close :: rest) := by
  intro c head
  cases texts with
  | nil =>
    obtain rfl : close = c := by simpa [laterChars] using head
    exact .inr closes
  | cons text texts =>
    obtain rfl : ',' = c := by simpa [laterChars] using head
    exact .inl rfl

theorem lexes_later {members : List α} (closes : close = ']' ∨ close = '\x7d')
    (closing : ∀ rest, Lexes [close] [token] rest)
    (each : ∀ member ∈ members, Scans (text member) (tokens member)) (rest : List Char) :
    Lexes (laterChars (members.map text) ++ [close])
      (members.flatMap (fun member => .comma :: tokens member) ++ [token]) rest := by
  induction members with
  | nil => exact closing rest
  | cons member members ih =>
    obtain ⟨first, later⟩ := List.forall_mem_cons.1 each
    have comma {rest : List Char} : Lexes [','] [.comma] rest := scan_cons rfl rfl
    have ends := ends_laterChars (members.map text) closes rest
    have parted : laterChars ((member :: members).map text) ++ [close]
        = [','] ++ ((text member).toList ++ (laterChars (members.map text) ++ [close])) := by
      simp [laterChars]
    rw [parted, List.flatMap_cons, List.append_assoc]
    -- Behind the member stands the next comma or the closing mark, so a number ends there.
    refine comma.append ((first _ ?_).append (ih later))
    rwa [List.append_assoc]

/-- The members of an array or object, up to the mark that closes it. -/
theorem lexes_members {member : α} {members : List α} (closes : close = ']' ∨ close = '\x7d')
    (closing : ∀ rest, Lexes [close] [token] rest)
    (each : ∀ m ∈ member :: members, Scans (text m) (tokens m)) (rest : List Char) :
    Lexes ((",".intercalate ((member :: members).map text)).toList ++ [close])
      (tokens member ++ (members.flatMap (fun m => .comma :: tokens m) ++ [token])) rest := by
  obtain ⟨first, later⟩ := List.forall_mem_cons.1 each
  have ends := ends_laterChars (members.map text) closes rest
  rw [List.map_cons, toList_intercalate_cons, List.append_assoc]
  refine (first _ ?_).append (lexes_later closes closing later rest)
  rwa [List.append_assoc]

end members

section write

theorem writeItems_eq_map (items : List Json) : writeItems items = items.map write := by
  induction items with
  | nil => rfl
  | cons item items ih => rw [writeItems, ih, List.map_cons]

theorem laterItems_eq_flatMap (items : List Json) :
    laterItems items = items.flatMap (fun item => .comma :: item.tokens) ++ [.closeArray] := by
  induction items with
  | nil => rfl
  | cons item items ih =>
    rw [laterItems, ih, List.flatMap_cons, List.append_assoc]
    rfl

theorem scans_array {items : List Json} (each : ∀ item ∈ items, Scans item.write item.tokens) :
    Scans (Json.array items).write (Json.array items).tokens := by
  intro rest _
  have opening {rest : List Char} : Lexes ['['] [.openArray] rest := scan_cons rfl rfl
  have closing (rest : List Char) : Lexes [']'] [.closeArray] rest := scan_cons rfl rfl
  cases items with
  | nil => exact opening.append (closing rest)
  | cons item items =>
    rw [write, tokens, writeItems_eq_map, laterItems_eq_flatMap, String.toList_append,
      String.toList_append, List.append_assoc]
    exact opening.append (lexes_members (.inl rfl) closing each rest)

def writeField (field : String × Json) : String :=
  writeString field.1 ++ ":" ++ write field.2

def fieldTokens (field : String × Json) : List Token :=
  .string field.1 :: .colon :: field.2.tokens

theorem writeFields_eq_map (fields : List (String × Json)) :
    writeFields fields = fields.map writeField := by
  induction fields with
  | nil => rfl
  | cons field fields ih =>
    obtain ⟨key, value⟩ := field
    rw [writeFields, ih, List.map_cons]
    rfl

theorem laterFields_eq_flatMap (fields : List (String × Json)) :
    laterFields fields = fields.flatMap (fun field => .comma :: fieldTokens field)
      ++ [.closeObject] := by
  induction fields with
  | nil => rfl
  | cons field fields ih =>
    obtain ⟨key, value⟩ := field
    rw [laterFields, ih, List.flatMap_cons, List.append_assoc]
    rfl

theorem scans_field {field : String × Json} (scans : Scans field.2.write field.2.tokens) :
    Scans (writeField field) (fieldTokens field) := by
  intro rest ends
  have colon {rest : List Char} : Lexes [':'] [.colon] rest := scan_cons rfl rfl
  rw [writeField, String.toList_append, String.toList_append, List.append_assoc]
  exact (lexes_writeString field.1 _).append (colon.append (scans rest ends))

theorem scans_object {fields : List (String × Json)}
    (each : ∀ field ∈ fields, Scans field.2.write field.2.tokens) :
    Scans (Json.object fields).write (Json.object fields).tokens := by
  intro rest _
  have opening {rest : List Char} : Lexes ['\x7b'] [.openObject] rest := scan_cons rfl rfl
  have closing (rest : List Char) : Lexes ['\x7d'] [.closeObject] rest := scan_cons rfl rfl
  rcases fields with - | ⟨⟨key, value⟩, fields⟩
  · exact opening.append (closing rest)
  · have fields_scan := fun field mem => scans_field (each field mem)
    rw [write, tokens, writeFields_eq_map, laterFields_eq_flatMap, String.toList_append,
      String.toList_append, List.append_assoc]
    exact opening.append (lexes_members (.inr rfl) closing fields_scan rest)

theorem scans_of_fitting {json : Json} (fitting : json.Fitting) :
    Scans json.write json.tokens := by
  induction fitting with
  | null => exact fun rest _ => scan_cons rfl rfl
  | bool b => cases b <;> exact fun rest _ => scan_cons rfl rfl
  | number fits => exact fun rest ends => lexes_writeNumber fits ends
  | string text => exact fun rest _ => lexes_writeString text rest
  | array _ each => exact scans_array each
  | object _ each => exact scans_object each

theorem scan_write {json : Json} (fitting : json.Fitting) :
    scan json.write.toList = some json.tokens := by
  have ended : Ends [] := nofun
  have whole := scans_of_fitting fitting [] ended
  rwa [Lexes, List.append_nil, scan, Option.map_some, List.append_nil] at whole

theorem read?_write (limit : Nat) {json : Json} (document : json.Document) :
    read? limit json.write = if json.depth ≤ limit then some json else none := by
  rw [read?, scan_write document.fitting]
  exact ofTokens?_tokens limit document.keyed

theorem bounded_compact (limit : Nat) : (compact limit).Bounded limit where
  inverts _ document within := (read?_write limit document).trans (if_pos within)
  rejects _ document deeper := (read?_write limit document).trans (if_neg (Nat.not_le.2 deeper))

end write

end FormulaTree.Json
