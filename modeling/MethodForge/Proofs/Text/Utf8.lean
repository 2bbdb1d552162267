/-
Module: MethodForge.Proofs.Text.Utf8
Purpose: Reading UTF-8 gives back the characters that were written. The first byte of a character
  announces how many follow and which bits they add, so each character is read before those behind
  it, and a text one character after the other. No other bytes can be read: a character has one
  spelling. The bytes keep the order of the code points.
Main exports: decodeFrom_encodeChar, decodeChars_encodeChars, decode_encode, encodeChars_of_ascii,
  lead_pending_cases, encodeChar_of_finishes, decode_eq_ok_iff, encode_lt
-/
import Mathlib.Tactic.SplitIfs
import MethodForge.Proofs.Fallible
import MethodForge.Proofs.Text.Words
import MethodForge.Text.Utf8

namespace MethodForge.Text.Utf8

theorem toNat_ofNat_of_lt {code : Nat} (small : code < 256) : (UInt8.ofNat code).toNat = code :=
  Nat.mod_eq_of_lt small

/-- The code points of characters leave out the surrogates. -/
theorem toNat_bounds (character : Char) :
    character.toNat < 0xD800 ∨ 0xDFFF < character.toNat ∧ character.toNat < 0x110000 :=
  character.valid

/-! ### What the bytes of a character announce -/

theorem lead_two {code : Nat} (low : 0x80 ≤ code) (high : code < 0x800) :
    lead (UInt8.ofNat (0xC0 + code / 0x40)) = .pending ⟨1, 1, 0x80, 0xBF, code / 0x40⟩ := by
  have byte : (UInt8.ofNat (0xC0 + code / 0x40)).toNat = 0xC0 + code / 0x40 :=
    toNat_ofNat_of_lt (by omega)
  simp only [lead, byte]
  have bits : 0xC0 + code / 0x40 - 0xC0 = code / 0x40 := by omega
  rw [if_neg (by omega), if_neg (by omega), if_pos (by omega), bits]

theorem lead_three {code : Nat} (low : 0x800 ≤ code) (high : code < 0x10000)
    (valid : code < 0xD800 ∨ 0xDFFF < code) :
    ∃ least greatest,
      lead (UInt8.ofNat (0xE0 + code / 0x1000)) =
        .pending ⟨1, 2, least, greatest, code / 0x1000⟩ ∧
      least ≤ 0x80 + code / 0x40 % 0x40 ∧ 0x80 + code / 0x40 % 0x40 ≤ greatest := by
  have byte : (UInt8.ofNat (0xE0 + code / 0x1000)).toNat = 0xE0 + code / 0x1000 :=
    toNat_ofNat_of_lt (by omega)
  simp only [lead, byte]
  rw [if_neg (by omega), if_neg (by omega), if_neg (by omega)]
  by_cases first : 0xE0 + code / 0x1000 = 0xE0
  · rw [if_pos first]
    have bits : code / 0x1000 = 0 := by omega
    exact ⟨0xA0, 0xBF, by rw [bits], by omega, by omega⟩
  · rw [if_neg first]
    by_cases last : 0xE0 + code / 0x1000 = 0xED
    · rw [if_pos last]
      have bits : code / 0x1000 = 0xD := by omega
      exact ⟨0x80, 0x9F, by rw [bits], by omega, by omega⟩
    · rw [if_neg last, if_pos (by omega)]
      have bits : 0xE0 + code / 0x1000 - 0xE0 = code / 0x1000 := by omega
      exact ⟨0x80, 0xBF, by rw [bits], by omega, by omega⟩

theorem lead_four {code : Nat} (low : 0x10000 ≤ code) (high : code < 0x110000) :
    ∃ least greatest,
      lead (UInt8.ofNat (0xF0 + code / 0x40000)) =
        .pending ⟨1, 3, least, greatest, code / 0x40000⟩ ∧
      least ≤ 0x80 + code / 0x1000 % 0x40 ∧ 0x80 + code / 0x1000 % 0x40 ≤ greatest := by
  have byte : (UInt8.ofNat (0xF0 + code / 0x40000)).toNat = 0xF0 + code / 0x40000 :=
    toNat_ofNat_of_lt (by omega)
  simp only [lead, byte]
  rw [if_neg (by omega), if_neg (by omega), if_neg (by omega), if_neg (by omega),
    if_neg (by omega), if_neg (by omega)]
  by_cases first : 0xF0 + code / 0x40000 = 0xF0
  · rw [if_pos first]
    have bits : code / 0x40000 = 0 := by omega
    exact ⟨0x90, 0xBF, by rw [bits], by omega, by omega⟩
  · rw [if_neg first]
    by_cases middle : 0xF0 + code / 0x40000 < 0xF4
    · rw [if_pos middle]
      have bits : 0xF0 + code / 0x40000 - 0xF0 = code / 0x40000 := by omega
      exact ⟨0x80, 0xBF, by rw [bits], by omega, by omega⟩
    · rw [if_neg middle, if_pos (by omega)]
      have bits : code / 0x40000 = 4 := by omega
      exact ⟨0x80, 0x8F, by rw [bits], by omega, by omega⟩

/-! ### Reading what was written -/

theorem decodeFrom_of_lead {byte : UInt8} {state : Pending} (announced : lead byte = .pending state)
    (index : Nat) (rest : Bytes) :
    decodeFrom index none (byte :: rest) = decodeFrom index (some state) rest := by
  simp [decodeFrom, announced]

/-- A byte in range that is not the last one is collected. -/
theorem decodeFrom_advance {state : Pending} {code : Nat} (small : code < 256)
    (low : state.low ≤ code) (high : code ≤ state.high) (more : state.owed ≠ 1) (index : Nat)
    (rest : Bytes) :
    decodeFrom index (some state) (UInt8.ofNat code :: rest) =
      decodeFrom index
        (some ⟨state.seen + 1, state.owed - 1, 0x80, 0xBF, state.bits * 0x40 + code % 0x40⟩)
        rest := by
  simp [decodeFrom, Pending.admits, Pending.advance, Pending.collect, toNat_ofNat_of_lt small, low,
    high, more]

/-- A byte in range that is the last one ends the character. -/
theorem decodeFrom_finish {state : Pending} {code : Nat} (small : code < 256)
    (low : state.low ≤ code) (high : code ≤ state.high) (last : state.owed = 1) (index : Nat)
    (rest : Bytes) :
    decodeFrom index (some state) (UInt8.ofNat code :: rest) =
      (Char.ofNat (state.bits * 0x40 + code % 0x40) :: ·) <$>
        decodeFrom (index + state.seen + 1) none rest := by
  simp [decodeFrom, Pending.admits, Pending.collect, toNat_ofNat_of_lt small, low, high, last]

/-- The bytes of a character are read as that character, whatever follows. -/
theorem decodeFrom_encodeChar (character : Char) (index : Nat) (rest : Bytes) :
    decodeFrom index none (encodeChar character ++ rest) =
      (character :: ·) <$> decodeFrom (index + (encodeChar character).length) none rest := by
  have bounds := toNat_bounds character
  have same : Char.ofNat character.toNat = character := Char.ofNat_toNat character
  unfold encodeChar
  generalize character.toNat = code at bounds same
  by_cases one : code < 0x80
  · have byte : (UInt8.ofNat code).toNat = code := toNat_ofNat_of_lt (by omega)
    have announced : lead (UInt8.ofNat code) = .character character := by
      simp [lead, byte, one, same]
    simp [one, decodeFrom, announced]
  · by_cases two : code < 0x800
    · have bits : code / 0x40 * 0x40 + (0x80 + code % 0x40) % 0x40 = code := by omega
      simp only [one, two, if_true, if_false, List.cons_append, List.nil_append]
      rw [decodeFrom_of_lead (lead_two (by omega) two),
        decodeFrom_finish (by omega) (by simp) (by simp; omega) rfl]
      dsimp only
      rw [bits, same]
      rfl
    · by_cases three : code < 0x10000
      · obtain ⟨least, greatest, announced, low, high⟩ :=
          lead_three (show 0x800 ≤ code by omega) three (by omega)
        have bits : (code / 0x1000 * 0x40 + (0x80 + code / 0x40 % 0x40) % 0x40) * 0x40 +
            (0x80 + code % 0x40) % 0x40 = code := by omega
        simp only [one, two, three, if_true, if_false, List.cons_append, List.nil_append]
        rw [decodeFrom_of_lead announced, decodeFrom_advance (by omega) low high (by simp),
          decodeFrom_finish (by omega) (by simp) (by simp; omega) rfl]
        dsimp only
        rw [bits, same]
        rfl
      · obtain ⟨least, greatest, announced, low, high⟩ :=
          lead_four (show 0x10000 ≤ code by omega) (by omega)
        have bits : ((code / 0x40000 * 0x40 + (0x80 + code / 0x1000 % 0x40) % 0x40) * 0x40 +
            (0x80 + code / 0x40 % 0x40) % 0x40) * 0x40 + (0x80 + code % 0x40) % 0x40 = code := by
          omega
        simp only [one, two, three, if_false, List.cons_append, List.nil_append]
        rw [decodeFrom_of_lead announced, decodeFrom_advance (by omega) low high (by simp),
          decodeFrom_advance (by omega) (by simp) (by simp; omega) (by simp),
          decodeFrom_finish (by omega) (by simp) (by simp; omega) rfl]
        dsimp only
        rw [bits, same]
        rfl

/-- Characters are read back from their bytes. -/
theorem decodeFrom_encodeChars (characters : List Char) (index : Nat) :
    decodeFrom index none (encodeChars characters) = .ok characters := by
  induction characters generalizing index with
  | nil => rfl
  | cons character rest ih =>
      have step : encodeChars (character :: rest) = encodeChar character ++ encodeChars rest := rfl
      rw [step, decodeFrom_encodeChar, ih]
      rfl

theorem decodeChars_encodeChars (characters : List Char) :
    decodeChars (encodeChars characters) = .ok characters :=
  decodeFrom_encodeChars characters 0

/-- A text is read back from its bytes. -/
theorem decode_encode (text : String) : decode (encode text) = .ok text := by
  rw [decode, encode, decodeChars_encodeChars]
  exact congrArg Except.ok (String.ofList_toList)

/-- A text of ASCII characters has one byte for each. -/
theorem encodeChars_of_ascii {characters : List Char}
    (ascii : ∀ character ∈ characters, character.toNat < 0x80) :
    encodeChars characters = characters.map fun character => UInt8.ofNat character.toNat := by
  induction characters with
  | nil => rfl
  | cons character rest ih =>
      have first : encodeChar character = [UInt8.ofNat character.toNat] := by
        simp [encodeChar, ascii character List.mem_cons_self]
      have later := ih fun other member => ascii other (List.mem_cons_of_mem _ member)
      rw [encodeChars, List.flatMap_cons, first, List.map_cons, ← later]
      rfl

/-! ### Only what is written is read -/

/-- The bytes that finish a character which is being read, and the code point that they give it. -/
inductive Pending.Finishes : Pending → Bytes → Nat → Prop where
  | last {state : Pending} {byte : UInt8} (fits : state.admits byte = true) (owed : state.owed = 1) :
      Finishes state [byte] (state.collect byte)
  | more {state : Pending} {byte : UInt8} {bytes : Bytes} {code : Nat}
      (fits : state.admits byte = true) (owed : state.owed ≠ 1)
      (later : Finishes (state.advance byte) bytes code) : Finishes state (byte :: bytes) code

/-- Inside a character, reading succeeds where the character is finished and the rest can be read. -/
theorem finishes_of_decodeFrom {state : Pending} {index : Nat} {bytes : Bytes}
    {characters : List Char} (read : decodeFrom index (some state) bytes = .ok characters) :
    ∃ front rest code later next, bytes = front ++ rest ∧ state.Finishes front code ∧
      decodeFrom next none rest = .ok later ∧ characters = Char.ofNat code :: later := by
  induction bytes generalizing state index with
  | nil => cases read
  | cons byte rest ih =>
      rw [decodeFrom] at read
      split at read
      · rename_i fits
        split at read
        · rename_i owed
          obtain ⟨later, tail, rfl⟩ := Fallible.map_eq_ok_iff.1 read
          exact ⟨[byte], rest, _, later, _, rfl, .last fits owed, tail, rfl⟩
        · rename_i owed
          obtain ⟨front, after, code, later, next, rfl, finished, tail, order⟩ := ih read
          exact ⟨byte :: front, after, code, later, next, rfl, .more fits owed finished, tail, order⟩
      · cases read

section

variable {state : Pending} {bytes : Bytes} {code : Nat}

theorem Pending.Finishes.one (finished : state.Finishes bytes code) (owed : state.owed = 1) :
    ∃ byte, bytes = [byte] ∧ state.low ≤ byte.toNat ∧ byte.toNat ≤ state.high ∧
      code = state.bits * 0x40 + byte.toNat % 0x40 := by
  cases finished with
  | @last _ byte fits =>
      obtain ⟨low, high⟩ : state.low ≤ byte.toNat ∧ byte.toNat ≤ state.high := by
        simpa [admits] using fits
      exact ⟨byte, rfl, low, high, rfl⟩
  | more _ more => exact absurd owed more

theorem Pending.Finishes.succ (finished : state.Finishes bytes code) {owed : Nat}
    (several : state.owed = owed + 2) :
    ∃ byte rest, bytes = byte :: rest ∧ state.low ≤ byte.toNat ∧ byte.toNat ≤ state.high ∧
      Finishes ⟨state.seen + 1, owed + 1, 0x80, 0xBF, state.bits * 0x40 + byte.toNat % 0x40⟩
        rest code := by
  cases finished with
  | last _ one => omega
  | @more _ byte rest _ fits _ later =>
      obtain ⟨low, high⟩ : state.low ≤ byte.toNat ∧ byte.toNat ≤ state.high := by
        simpa [admits] using fits
      rw [advance, several] at later
      exact ⟨byte, rest, rfl, low, high, later⟩

end

/-- What the first byte of a longer character announces: the bytes owed, the bits of its own, and for
the second byte a range that leaves out longer spellings, surrogates and what is no code point. -/
theorem lead_pending_cases {byte : UInt8} {state : Pending} (announced : lead byte = .pending state) :
    (0xC2 ≤ byte.toNat ∧ byte.toNat < 0xE0 ∧
        state = ⟨1, 1, 0x80, 0xBF, byte.toNat - 0xC0⟩) ∨
      (∃ low high, 0xE0 ≤ byte.toNat ∧ byte.toNat < 0xF0 ∧
        state = ⟨1, 2, low, high, byte.toNat - 0xE0⟩ ∧ 0x80 ≤ low ∧ high ≤ 0xBF ∧
        (byte.toNat = 0xE0 → 0xA0 ≤ low) ∧ (byte.toNat = 0xED → high ≤ 0x9F)) ∨
      ∃ low high, 0xF0 ≤ byte.toNat ∧ byte.toNat < 0xF5 ∧
        state = ⟨1, 3, low, high, byte.toNat - 0xF0⟩ ∧ 0x80 ≤ low ∧ high ≤ 0xBF ∧
        (byte.toNat = 0xF0 → 0x90 ≤ low) ∧ (byte.toNat = 0xF4 → high ≤ 0x8F) := by
  rw [lead] at announced
  by_cases ascii : byte.toNat < 0x80
  · rw [if_pos ascii] at announced
    cases announced
  rw [if_neg ascii] at announced
  by_cases stray : byte.toNat < 0xC2
  · rw [if_pos stray] at announced
    cases announced
  rw [if_neg stray] at announced
  by_cases two : byte.toNat < 0xE0
  · rw [if_pos two] at announced
    cases announced
    exact .inl ⟨by omega, by omega, rfl⟩
  rw [if_neg two] at announced
  by_cases firstOfThree : byte.toNat = 0xE0
  · rw [if_pos firstOfThree] at announced
    cases announced
    have bits : 0 = byte.toNat - 0xE0 := by omega
    exact .inr (.inl ⟨0xA0, 0xBF, by omega, by omega, by rw [← bits], by omega, by omega,
      by omega, by omega⟩)
  rw [if_neg firstOfThree] at announced
  by_cases surrogates : byte.toNat = 0xED
  · rw [if_pos surrogates] at announced
    cases announced
    have bits : 0xD = byte.toNat - 0xE0 := by omega
    exact .inr (.inl ⟨0x80, 0x9F, by omega, by omega, by rw [← bits], by omega, by omega,
      by omega, by omega⟩)
  rw [if_neg surrogates] at announced
  by_cases three : byte.toNat < 0xF0
  · rw [if_pos three] at announced
    cases announced
    exact .inr (.inl ⟨0x80, 0xBF, by omega, by omega, rfl, by omega, by omega, by omega,
      by omega⟩)
  rw [if_neg three] at announced
  by_cases firstOfFour : byte.toNat = 0xF0
  · rw [if_pos firstOfFour] at announced
    cases announced
    have bits : 0 = byte.toNat - 0xF0 := by omega
    exact .inr (.inr ⟨0x90, 0xBF, by omega, by omega, by rw [← bits], by omega, by omega,
      by omega, by omega⟩)
  rw [if_neg firstOfFour] at announced
  by_cases four : byte.toNat < 0xF4
  · rw [if_pos four] at announced
    cases announced
    exact .inr (.inr ⟨0x80, 0xBF, by omega, by omega, rfl, by omega, by omega, by omega,
      by omega⟩)
  rw [if_neg four] at announced
  by_cases lastOfFour : byte.toNat = 0xF4
  · rw [if_pos lastOfFour] at announced
    cases announced
    have bits : 4 = byte.toNat - 0xF0 := by omega
    exact .inr (.inr ⟨0x80, 0x8F, by omega, by omega, by rw [← bits], by omega, by omega,
      by omega, by omega⟩)
  rw [if_neg lastOfFour] at announced
  cases announced

theorem ofNat_eq (byte : UInt8) {code : Nat} (same : code = byte.toNat) :
    UInt8.ofNat code = byte := by
  rw [same, UInt8.ofNat_toNat]

/-- A longer character that was read is written with the bytes that it was read from. -/
theorem encodeChar_of_finishes {byte : UInt8} {state : Pending} (announced : lead byte = .pending state)
    {bytes : Bytes} {code : Nat} (finished : state.Finishes bytes code) :
    encodeChar (Char.ofNat code) = byte :: bytes := by
  rcases lead_pending_cases announced with
    ⟨least, greatest, rfl⟩ | ⟨low, high, least, greatest, rfl, above, below, short, surrogate⟩ |
      ⟨low, high, least, greatest, rfl, above, below, short, beyond⟩
  · obtain ⟨second, rfl, fits, fits', rfl⟩ := finished.one rfl
    dsimp only at fits fits' ⊢
    rw [encodeChar, toNat_ofNat_of_valid (.inl (by omega)), if_neg (by omega), if_pos (by omega),
      ofNat_eq byte (by omega), ofNat_eq second (by omega)]
  · obtain ⟨second, rest, rfl, fits, fits', finished⟩ := finished.succ rfl
    obtain ⟨third, rfl, fits₃, fits₃', rfl⟩ := finished.one rfl
    dsimp only at fits fits' fits₃ fits₃' ⊢
    have valid : Nat.isValidChar
        (((byte.toNat - 0xE0) * 0x40 + second.toNat % 0x40) * 0x40 + third.toNat % 0x40) := by
      simp only [Nat.isValidChar]
      omega
    rw [encodeChar, toNat_ofNat_of_valid valid, if_neg (by omega), if_neg (by omega),
      if_pos (by omega), ofNat_eq byte (by omega), ofNat_eq second (by omega),
      ofNat_eq third (by omega)]
  · obtain ⟨second, rest, rfl, fits, fits', finished⟩ := finished.succ rfl
    obtain ⟨third, rest, rfl, fits₃, fits₃', finished⟩ := finished.succ rfl
    obtain ⟨fourth, rfl, fits₄, fits₄', rfl⟩ := finished.one rfl
    dsimp only at fits fits' fits₃ fits₃' fits₄ fits₄' ⊢
    rw [encodeChar, toNat_ofNat_of_valid (.inr (by omega)), if_neg (by omega), if_neg (by omega),
      if_neg (by omega), ofNat_eq byte (by omega), ofNat_eq second (by omega),
      ofNat_eq third (by omega), ofNat_eq fourth (by omega)]

theorem lead_character {byte : UInt8} {value : Char} (announced : lead byte = .character value) :
    encodeChar value = [byte] := by
  by_cases ascii : byte.toNat < 0x80
  · rw [lead, if_pos ascii] at announced
    cases announced
    rw [encodeChar, toNat_ofNat_of_valid (.inl (by omega)), if_pos ascii, UInt8.ofNat_toNat]
  · rw [lead, if_neg ascii] at announced
    repeat' split at announced
    all_goals cases announced

/-- Reading succeeds at the end, and where a character and the rest behind it can be read. -/
theorem decodeFrom_ok_cases {index : Nat} {bytes : Bytes} {characters : List Char}
    (read : decodeFrom index none bytes = .ok characters) :
    bytes = [] ∧ characters = [] ∨
      ∃ character later rest next, characters = character :: later ∧
        bytes = encodeChar character ++ rest ∧ decodeFrom next none rest = .ok later := by
  cases bytes with
  | nil =>
      cases read
      exact .inl ⟨rfl, rfl⟩
  | cons byte rest =>
      right
      rw [decodeFrom] at read
      split at read
      · rename_i value announced
        obtain ⟨later, tail, rfl⟩ := Fallible.map_eq_ok_iff.1 read
        exact ⟨value, later, rest, _, rfl, by rw [lead_character announced]; rfl, tail⟩
      · rename_i state announced
        obtain ⟨front, after, code, later, next, rfl, finished, tail, order⟩ :=
          finishes_of_decodeFrom read
        exact ⟨_, later, after, next, order, by rw [encodeChar_of_finishes announced finished]; rfl,
          tail⟩
      · cases read

/-- Bytes that can be read are the bytes of the characters that are read. -/
theorem eq_encodeChars_of_decodeFrom {index : Nat} {bytes : Bytes} {characters : List Char}
    (read : decodeFrom index none bytes = .ok characters) : bytes = encodeChars characters := by
  induction characters generalizing index bytes with
  | nil =>
      rcases decodeFrom_ok_cases read with ⟨rfl, -⟩ | ⟨_, _, _, _, order, -, -⟩
      · rfl
      · cases order
  | cons character rest ih =>
      rcases decodeFrom_ok_cases read with ⟨-, order⟩ | ⟨_, _, after, _, order, rfl, tail⟩
      · cases order
      · cases order
        rw [ih tail]
        rfl

/-- Bytes spell a text exactly when they are the bytes of the text. -/
theorem decode_eq_ok_iff (bytes : Bytes) (text : String) :
    decode bytes = .ok text ↔ bytes = encode text := by
  constructor
  · intro read
    obtain ⟨characters, found, rfl⟩ := Fallible.map_eq_ok_iff.1 read
    rw [encode, String.toList_ofList]
    exact eq_encodeChars_of_decodeFrom found
  · rintro rfl
    exact decode_encode text

/-! ### The order of the bytes -/

theorem cons_ofNat_lt {first second : Nat} (small : first < 256) (small' : second < 256)
    (tail tail' : Bytes) :
    UInt8.ofNat first :: tail < UInt8.ofNat second :: tail' ↔
      first < second ∨ first = second ∧ tail < tail' := by
  rw [List.cons_lt_cons_iff, UInt8.lt_iff_toNat_lt, ← UInt8.toNat_inj, toNat_ofNat_of_lt small,
    toNat_ofNat_of_lt small']

/-- The bytes of a smaller character come first, whatever follows. -/
theorem encodeChar_append_lt {smaller greater : Char} (less : smaller < greater)
    (rest rest' : Bytes) : encodeChar smaller ++ rest < encodeChar greater ++ rest' := by
  have below : smaller.toNat < greater.toNat := less
  have bounds := toNat_bounds greater
  simp only [encodeChar]
  generalize smaller.toNat = code at below
  generalize greater.toNat = code' at below bounds
  -- A longer spelling has a greater first byte; two of one length differ at some byte.
  split_ifs <;> (try omega) <;>
    simp (disch := omega) only [List.cons_append, List.nil_append, cons_ofNat_lt] <;>
    omega

theorem encodeChars_lt {smaller greater : List Char} (less : smaller < greater) :
    encodeChars smaller < encodeChars greater := by
  induction smaller generalizing greater with
  | nil =>
      have nonempty : encodeChars greater ≠ [] := by
        intro same
        have read := decodeChars_encodeChars greater
        rw [same] at read
        cases read
        cases less
      obtain ⟨byte, bytes, spelled⟩ := List.exists_cons_of_ne_nil nonempty
      rw [spelled]
      exact List.nil_lt_cons ..
  | cons first rest ih =>
      cases greater with
      | nil => cases less
      | cons other later =>
          rw [encodeChars, encodeChars, List.flatMap_cons, List.flatMap_cons]
          rcases List.cons_lt_cons_iff.1 less with below | ⟨rfl, same⟩
          · exact encodeChar_append_lt below _ _
          · exact List.append_left_lt (ih same)

/-- A text that comes before another does so by its bytes. -/
theorem encode_lt {smaller greater : String} (less : smaller < greater) :
    encode smaller < encode greater :=
  encodeChars_lt less

end MethodForge.Text.Utf8
