/-
Module: MethodForge.Proofs.JsonText.Spelling
Purpose: The spellings of a JSON string. A character may stand for itself, unless it is a quote, a
  backslash or a control; eight characters have a short escape; every character of the basic plane
  may be spelled by its code, in digits of either case, and every other one by the codes of a pair.
  Whichever spelling each character has, and whatever blanks stand before the string, it is read as
  the text and can be passed over.
Main exports: IsHexDigit, SpellsUnit, SpellsChar, Spells, SpellsText, Blanks, readString_of_spells,
  passString_of_spells, expectString_of_spellsText, passValue_of_spellsText
-/
import MethodForge.JsonText.Value

namespace MethodForge.JsonText

open Text (digitValue?)

/-! ### Spellings -/

/-- Whether a character is the hexadecimal digit of a value, be it a small letter or a capital. -/
def IsHexDigit (value : Nat) (digit : Char) : Prop :=
  "0123456789abcdef".toList[value]? = some digit ∨ "0123456789ABCDEF".toList[value]? = some digit

instance (value : Nat) (digit : Char) : Decidable (IsHexDigit value digit) :=
  inferInstanceAs (Decidable (_ ∨ _))

/-- Whether four digits spell a number. -/
def SpellsUnit (unit : Nat) : List Char → Prop
  | [first, second, third, fourth] =>
      IsHexDigit (unit / 0x1000) first ∧ IsHexDigit (unit / 0x100 % 0x10) second ∧
        IsHexDigit (unit / 0x10 % 0x10) third ∧ IsHexDigit (unit % 0x10) fourth
  | _ => False

/-- The short escapes: what stands behind the backslash, and the character that it stands for. -/
def shortEscapes : List (Char × Char) :=
  [('"', '"'), ('\\', '\\'), ('/', '/'), ('b', '\x08'), ('f', '\x0c'), ('n', '\n'), ('r', '\r'),
   ('t', '\t')]

/-- The spellings of a character in a JSON string. -/
inductive SpellsChar (character : Char) : List Char → Prop where
  | itself (notMark : character ≠ '"') (notSlash : character ≠ '\\')
      (notControl : 0x20 ≤ character.toNat) : SpellsChar character [character]
  | short {escape : Char} (known : (escape, character) ∈ shortEscapes) :
      SpellsChar character ['\\', escape]
  | unit {digits : List Char} (spells : SpellsUnit character.toNat digits) :
      SpellsChar character ('\\' :: 'u' :: digits)
  | pair {high low : List Char} (wide : 0x10000 ≤ character.toNat)
      (isHigh : SpellsUnit (0xD800 + (character.toNat - 0x10000) / 0x400) high)
      (isLow : SpellsUnit (0xDC00 + (character.toNat - 0x10000) % 0x400) low) :
      SpellsChar character ('\\' :: 'u' :: (high ++ '\\' :: 'u' :: low))

/-- The spellings of a list of characters. -/
inductive Spells : List Char → List Char → Prop where
  | nil : Spells [] []
  | cons {character : Char} {characters first rest : List Char}
      (here : SpellsChar character first) (later : Spells characters rest) :
      Spells (character :: characters) (first ++ rest)

/-- The spellings of a text as a JSON string, in its quotes. -/
inductive SpellsText (text : String) : List Char → Prop where
  | quoted {body : List Char} (spells : Spells text.toList body) :
      SpellsText text ('"' :: (body ++ ['"']))

/-- Whether no character of a text needs an escape: none is a quote, a backslash or a control. -/
def Plain (characters : List Char) : Prop :=
  ∀ character ∈ characters, character ≠ '"' ∧ character ≠ '\\' ∧ 0x20 ≤ character.toNat

instance (characters : List Char) : Decidable (Plain characters) :=
  List.decidableBAll
    (fun character => character ≠ '"' ∧ character ≠ '\\' ∧ 0x20 ≤ character.toNat) characters

/-- A text that needs no escape is one of its spellings. -/
theorem Spells.itself {characters : List Char} (plain : Plain characters) :
    Spells characters characters := by
  induction characters with
  | nil => exact .nil
  | cons character characters ih =>
      obtain ⟨⟨notMark, notSlash, notControl⟩, later⟩ := List.forall_mem_cons.1 plain
      exact .cons (.itself notMark notSlash notControl) (ih later)

/-! ### Reading a spelling -/

theorem digitValue?_of_isHexDigit {value : Nat} {digit : Char} (isDigit : IsHexDigit value digit) :
    digitValue? 16 digit = some value := by
  have each : ∀ digits ∈ ["0123456789abcdef".toList, "0123456789ABCDEF".toList],
      ∀ value < 16, digits[value]?.all (fun digit => digitValue? 16 digit == some value) = true := by
    decide
  have known {digits : List Char} (member : digits ∈ ["0123456789abcdef".toList,
      "0123456789ABCDEF".toList]) (found : digits[value]? = some digit) :
      digitValue? 16 digit = some value := by
    have sixteen : ∀ digits ∈ ["0123456789abcdef".toList, "0123456789ABCDEF".toList],
        digits.length = 16 := by decide
    have small : value < 16 := by
      rw [← sixteen digits member]
      exact (List.getElem?_eq_some_iff.1 found).1
    simpa [found] using each digits member value small
  rcases isDigit with small | capital
  · exact known (by decide) small
  · exact known (by decide) capital

theorem hexUnit?_of_spellsUnit {unit : Nat} {digits : List Char} (spells : SpellsUnit unit digits) :
    ∃ first second third fourth, digits = [first, second, third, fourth] ∧
      hexUnit? first second third fourth = some unit := by
  unfold SpellsUnit at spells
  split at spells
  · obtain ⟨isFirst, isSecond, isThird, isFourth⟩ := spells
    have spelled : ((unit / 0x1000 * 16 + unit / 0x100 % 0x10) * 16 + unit / 0x10 % 0x10) * 16 +
        unit % 0x10 = unit := by omega
    refine ⟨_, _, _, _, rfl, ?_⟩
    simp only [hexUnit?, digitValue?_of_isHexDigit isFirst, digitValue?_of_isHexDigit isSecond,
      digitValue?_of_isHexDigit isThird, digitValue?_of_isHexDigit isFourth, spelled]
  · cases spells

theorem shortEscape?_of_mem {escape character : Char} (known : (escape, character) ∈ shortEscapes) :
    shortEscape? escape = some character := by
  have each : ∀ pair ∈ shortEscapes, shortEscape? pair.1 = some pair.2 := by decide
  exact each _ known

theorem ne_of_shortEscape? {escaped value : Char} (known : shortEscape? escaped = some value) :
    escaped ≠ 'u' := by
  rintro rfl
  simp [shortEscape?] at known

/-- No character is half of a pair. -/
theorem surrogate_toNat (character : Char) :
    isHighSurrogate character.toNat = false ∧ isLowSurrogate character.toNat = false := by
  rcases character.valid with low | ⟨high, -⟩
  · have below : character.toNat < 0xD800 := low
    simp [isHighSurrogate, isLowSurrogate]
    omega
  · have above : 0xDFFF < character.toNat := high
    simp [isHighSurrogate, isLowSurrogate]
    omega

/-- The codes of a pair are halves, and together they stand for the character. -/
theorem ofSurrogates_pair {character : Char} (wide : 0x10000 ≤ character.toNat) :
    let high := 0xD800 + (character.toNat - 0x10000) / 0x400
    let low := 0xDC00 + (character.toNat - 0x10000) % 0x400
    isLowSurrogate high = false ∧ isHighSurrogate high = true ∧ isLowSurrogate low = true ∧
      ofSurrogates high low = character := by
  have bound : character.toNat < 0x110000 := by
    rcases character.valid with small | ⟨-, small⟩
    · exact Nat.lt_trans small (by decide)
    · exact small
  have code : 0x10000 + (0xD800 + (character.toNat - 0x10000) / 0x400 - 0xD800) * 0x400 +
      (0xDC00 + (character.toNat - 0x10000) % 0x400 - 0xDC00) = character.toNat := by omega
  refine ⟨?_, ?_, ?_, ?_⟩
  · simp [isLowSurrogate]
    omega
  · simp [isHighSurrogate]
    omega
  · simp [isLowSurrogate]
    omega
  · rw [ofSurrogates, code, Char.ofNat_toNat]

/-- A spelled character is read as the character, whatever follows. -/
theorem readString_of_spellsChar {character : Char} {spelled : List Char}
    (spells : SpellsChar character spelled) (rest : List Char) :
    readString (spelled ++ rest) = prepend character (readString rest) := by
  cases spells with
  | itself notMark notSlash notControl =>
      rw [List.singleton_append, readString.eq_def]
      simp only [notMark, notSlash, Nat.not_lt.2 notControl, if_false]
  | short known =>
      have escape := shortEscape?_of_mem known
      have notHex := ne_of_shortEscape? escape
      rw [readString.eq_def]
      simp [escape]
  | unit spells =>
      obtain ⟨first, second, third, fourth, rfl, value⟩ := hexUnit?_of_spellsUnit spells
      rw [readString.eq_def]
      simp [value, surrogate_toNat character]
  | pair wide isHigh isLow =>
      obtain ⟨_, _, _, _, rfl, high⟩ := hexUnit?_of_spellsUnit isHigh
      obtain ⟨_, _, _, _, rfl, low⟩ := hexUnit?_of_spellsUnit isLow
      rw [readString.eq_def]
      obtain ⟨notLow, isHigh, isLow, same⟩ := ofSurrogates_pair wide
      simp [high, low, notLow, isHigh, isLow, same]

/-- A spelled character can be passed over. -/
theorem passString_of_spellsChar {character : Char} {spelled : List Char}
    (spells : SpellsChar character spelled) (rest : List Char) :
    passString (spelled ++ rest) = passString rest := by
  cases spells with
  | itself notMark notSlash notControl =>
      rw [List.singleton_append, passString.eq_def]
      simp only [notMark, notSlash, Nat.not_lt.2 notControl, if_false]
  | short known =>
      have escape := shortEscape?_of_mem known
      have notHex := ne_of_shortEscape? escape
      rw [passString.eq_def]
      simp [escape]
  | unit spells =>
      obtain ⟨first, second, third, fourth, rfl, value⟩ := hexUnit?_of_spellsUnit spells
      rw [passString.eq_def]
      simp [value]
  | pair wide isHigh isLow =>
      obtain ⟨_, _, _, _, rfl, high⟩ := hexUnit?_of_spellsUnit isHigh
      obtain ⟨_, _, _, _, rfl, low⟩ := hexUnit?_of_spellsUnit isLow
      rw [passString.eq_def]
      simp [high]
      rw [passString.eq_def]
      simp [low]

/-- A spelled text is read as the text, up to the quote that ends it. -/
theorem readString_of_spells {characters body : List Char} (spells : Spells characters body)
    (rest : List Char) : readString (body ++ '"' :: rest) = .ok (characters, rest) := by
  induction spells with
  | nil =>
      rw [List.nil_append, readString.eq_def]
      simp
  | cons here _ ih =>
      rw [List.append_assoc, readString_of_spellsChar here, ih]
      rfl

/-- A spelled text can be passed over, up to the quote that ends it. -/
theorem passString_of_spells {characters body : List Char} (spells : Spells characters body)
    (rest : List Char) : passString (body ++ '"' :: rest) = .ok rest := by
  induction spells with
  | nil =>
      rw [List.nil_append, passString.eq_def]
      simp
  | cons here _ ih => rw [List.append_assoc, passString_of_spellsChar here, ih]

/-! ### Blanks between the tokens -/

/-- Whether a text is made of the blanks of JSON, or empty. -/
def Blanks (text : List Char) : Prop :=
  ∀ character ∈ text, isJsonBlank character = true

instance (text : List Char) : Decidable (Blanks text) :=
  List.decidableBAll (fun character => isJsonBlank character = true) text

theorem Blanks.nil : Blanks [] := List.forall_mem_nil _

@[simp] theorem skipBlanks_cons_of_not_blank {character : Char}
    (solid : isJsonBlank character = false) (rest : List Char) :
    skipBlanks (character :: rest) = character :: rest := by
  simp [skipBlanks, solid]

theorem skipBlanks_append {blanks : List Char} (blank : Blanks blanks) (rest : List Char) :
    skipBlanks (blanks ++ rest) = skipBlanks rest :=
  List.dropWhile_append_of_pos blank

theorem skipBlanks_of_blanks {blanks : List Char} (blank : Blanks blanks) :
    skipBlanks blanks = [] := by
  rw [← List.append_nil blanks, skipBlanks_append blank]
  rfl

/-- Blanks are skipped up to the token behind them. -/
theorem skipBlanks_token {blanks : List Char} (blank : Blanks blanks) {token : Char}
    (solid : isJsonBlank token = false) (rest : List Char) :
    skipBlanks (blanks ++ token :: rest) = token :: rest := by
  rw [skipBlanks_append blank, skipBlanks_cons_of_not_blank solid]

variable {text : String} {blanks spelled : List Char}

/-- A spelled text is read where a string is expected. -/
theorem expectString_of_spellsText (blank : Blanks blanks) (spells : SpellsText text spelled)
    (rest : List Char) : expectString (blanks ++ (spelled ++ rest)) = .ok (text, rest) := by
  obtain ⟨spells⟩ := spells
  rw [List.cons_append, List.append_assoc, expectString, skipBlanks_token blank (by decide)]
  simp [readString_of_spells spells, bind, Except.bind, pure, Except.pure]

/-- A spelled text can be passed over where a value is expected. -/
theorem passValue_of_spellsText (blank : Blanks blanks) (spells : SpellsText text spelled)
    (rest : List Char) : passValue (blanks ++ (spelled ++ rest)) = .ok rest := by
  obtain ⟨spells⟩ := spells
  rw [List.cons_append, List.append_assoc, passValue, passFrom, skipBlanks_token blank (by decide)]
  simp [passScalar, passString_of_spells spells, bind, Except.bind, pure, Except.pure]

theorem passColon_blanks (blank : Blanks blanks) (rest : List Char) :
    passColon (blanks ++ ':' :: rest) = .ok rest := by
  simp only [passColon, skipBlanks_token blank (show isJsonBlank ':' = false by decide)]

end MethodForge.JsonText
