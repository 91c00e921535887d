import Exposure.Proofs.Loose

/-!
String literals lose nothing: a literal denotes the text that it was made of, it does not break its line, and it can be
told from what follows it.
-/

namespace Exposure

namespace Literal

/-! Code points -/

theorem hexText_isHexDigit {value : Nat} (small : value < 128) : ∀ char ∈ hexText value, Lexeme.isHexDigit char = true := by
  have every : ∀ value < 128, (hexText value).all Lexeme.isHexDigit = true := by decide
  simpa using every value small

theorem ofHexDigits_hexText {value : Nat} (small : value < 128) : ofHexDigits (hexText value) = value := by
  have every : ∀ value < 128, ofHexDigits (hexText value) = value := by decide
  exact every value small

theorem hexText_ne_nil {value : Nat} (small : value < 128) : hexText value ≠ [] := by
  have every : ∀ value < 128, hexText value ≠ [] := by decide
  exact every value small

/-- The digits of an escaped code point are found in front of the brace that ends them. -/
theorem codePointDigits?_of_isHexDigit {digits : List Char} (each : ∀ char ∈ digits, Lexeme.isHexDigit char = true)
    (nonempty : digits ≠ []) (rest : List Char) :
    codePointDigits? ('u' :: '\x7b' :: (digits ++ '\x7d' :: rest)) = some digits := by
  have found : (digits ++ '\x7d' :: rest).takeWhile Lexeme.isHexDigit = digits := by
    rw [List.takeWhile_append_of_pos each, List.takeWhile_cons_of_neg (by decide), List.append_nil]
  have proper : digits.isEmpty = false := List.isEmpty_eq_false_iff.mpr nonempty
  simp [codePointDigits?, found, proper]

/-! Decoding -/

/-- Characters of an escape that is already read are skipped. -/
theorem decodeFrom_skip (inside rest : List Char) : decodeFrom inside.length (inside ++ rest) = decodeFrom 0 rest := by
  induction inside with
  | nil => rfl
  | cons first others step => exact step

theorem decodeFrom_plain {char : Char} (plain : char ≠ '\\') (rest : List Char) :
    decodeFrom 0 (char :: rest) = (char :: ·) <$> decodeFrom 0 rest := by
  simp only [decodeFrom, if_neg plain]
  rfl

/-- An escape of no code point denotes what its letter does. -/
theorem decodeFrom_escaped {letter : Char} {rest : List Char} (noFeed : letter ≠ '\n')
    (noCode : codePointDigits? (letter :: rest) = none) :
    decodeFrom 0 ('\\' :: letter :: rest) = (escapedChar letter :: ·) <$> decodeFrom 0 rest := by
  simp only [decodeFrom, if_true, noCode, if_neg noFeed]
  rfl

/-- An escape of one letter denotes one character. -/
theorem decodeFrom_letter {letter : Char} (noFeed : letter ≠ '\n') (noCode : letter ≠ 'u') (rest : List Char) :
    decodeFrom 0 ('\\' :: letter :: rest) = (escapedChar letter :: ·) <$> decodeFrom 0 rest := by
  refine decodeFrom_escaped noFeed ?_
  unfold codePointDigits?
  split
  · rename_i same
    exact absurd (List.cons.inj same).1 noCode
  · rfl

/-- An escaped code point denotes one character. -/
theorem decodeFrom_codePoint {digits : List Char} (each : ∀ char ∈ digits, Lexeme.isHexDigit char = true)
    (nonempty : digits ≠ []) {denoted : Char} (denotes : ofCodePoint (ofHexDigits digits) = .ok denoted) (rest : List Char) :
    decodeFrom 0 ('\\' :: 'u' :: '\x7b' :: (digits ++ '\x7d' :: rest)) = (denoted :: ·) <$> decodeFrom 0 rest := by
  have skipped := decodeFrom_skip (digits ++ ['\x7d']) rest
  rw [List.length_append, List.append_assoc] at skipped
  simp only [List.length_singleton, List.singleton_append] at skipped
  simp only [decodeFrom, if_true, codePointDigits?_of_isHexDigit each nonempty, denotes, skipped]
  rfl

/-- What a character is written as denotes that character. -/
theorem decodeFrom_encodeChar (char : Char) (rest : List Char) :
    decodeFrom 0 (encodeChar char ++ rest) = (char :: ·) <$> decodeFrom 0 rest := by
  have letter {letter : Char} (noFeed : letter ≠ '\n') (noCode : letter ≠ 'u') (denotes : escapedChar letter = char) :
      decodeFrom 0 (['\\', letter] ++ rest) = (char :: ·) <$> decodeFrom 0 rest :=
    denotes ▸ decodeFrom_letter noFeed noCode rest
  unfold encodeChar
  split
  · exact letter (by decide) (by decide) (Eq.symm ‹_›)
  split
  · exact letter (by decide) (by decide) (Eq.symm ‹_›)
  split
  · exact letter (by decide) (by decide) (Eq.symm ‹_›)
  split
  · exact letter (by decide) (by decide) (Eq.symm ‹_›)
  split
  · exact letter (by decide) (by decide) (Eq.symm ‹_›)
  split
  · rename_i zero
    have same : Char.ofNat 0 = char := zero ▸ Char.ofNat_toNat char
    exact letter (by decide) (by decide) same
  split
  · rename_i control
    have small : char.toNat < 128 := by
      simp only [Bool.or_eq_true, decide_eq_true_eq] at control
      omega
    have denoted : ofCodePoint (ofHexDigits (hexText char.toNat)) = .ok char := by
      have valid : char.toNat.isValidChar := char.valid
      rw [ofHexDigits_hexText small, ofCodePoint, if_pos valid, Char.ofNat_toNat]
    simp only [List.cons_append, List.append_assoc, List.nil_append]
    exact decodeFrom_codePoint (hexText_isHexDigit small) (hexText_ne_nil small) denoted rest
  · rename_i noEscape _ _ _ _ _ _
    exact decodeFrom_plain noEscape rest

/-- The literal of a text denotes that text. -/
theorem decode_encode (text : String) : decode (encode text) = .ok text := by
  have body (chars : List Char) : decodeFrom 0 (chars.flatMap encodeChar) = .ok chars := by
    induction chars with
    | nil => rfl
    | cons first rest step =>
      rw [List.flatMap_cons, decodeFrom_encodeChar, step]
      rfl
  have ends : dropEnds ('"' :: (text.toList.flatMap encodeChar ++ ['"'])) = text.toList.flatMap encodeChar := by
    rw [dropEnds, List.drop_one, List.tail_cons, List.dropLast_concat]
  have literal : decode (encode text) =
      String.ofList <$> decodeFrom 0 (dropEnds ('"' :: (text.toList.flatMap encodeChar ++ ['"']))) := by
    rw [decode, Lexeme.toList_encode]
    rfl
  rw [literal, ends, body]
  exact congrArg Except.ok String.ofList_toList

theorem encode_injective : Function.Injective encode := by
  intro one two same
  have decoded := decode_encode two
  rw [← same, decode_encode] at decoded
  exact Except.ok.inj decoded

theorem encodeOption_injective : Function.Injective encodeOption := by
  intro one two same
  have other (text : String) : "None" ≠ "Some(" ++ encode text ++ ")" := by
    intro same
    have firsts := congrArg (·.toList.head?) same
    rw [String.toList_append, String.toList_append] at firsts
    cases firsts
  cases one with
  | none =>
    cases two with
    | none => rfl
    | some text => exact absurd same (other text)
  | some text =>
    cases two with
    | none => exact absurd same.symm (other text)
    | some text' =>
      have literals := (String.append_right_inj _).mp ((String.append_left_inj _).mp same)
      rw [encode_injective literals]

/-! Literals in front of other text -/

/-- A literal can be told from what follows it. -/
theorem encode_append {one two : String} {rest rest' : List Char}
    (same : (encode one).toList ++ rest = (encode two).toList ++ rest') : one = two ∧ rest = rest' := by
  have found := Lexeme.first?_encode one rest
  rw [same, Lexeme.first?_encode two rest'] at found
  have length : (encode two).toList.length = (encode one).toList.length := by simpa using found
  obtain ⟨literals, rests⟩ := List.append_inj same length.symm
  exact ⟨encode_injective (String.toList_inj.mp literals), rests⟩

/-- The characters of literals behind commas: those of the first, and the others behind a comma each. -/
theorem toList_commaList (first : String) (rest : List String) :
    (", ".intercalate ((first :: rest).map encode)).toList =
      (encode first).toList ++ rest.flatMap fun text => ',' :: ' ' :: (encode text).toList := by
  induction rest generalizing first with
  | nil => simp
  | cons second others step =>
    have separator : ", ".toList = [',', ' '] := rfl
    rw [List.map_cons, List.map_cons, String.intercalate_cons_cons, String.toList_append, String.toList_append,
      ← List.map_cons, step, separator, List.flatMap_cons]
    simp

/-- Literals behind commas can be told from each other. -/
theorem commaList_injective : Function.Injective fun texts : List String => ", ".intercalate (texts.map encode) := by
  have proper (first : String) (rest : List String) : (", ".intercalate ((first :: rest).map encode)).toList ≠ [] := by
    rw [toList_commaList, Lexeme.toList_encode]
    exact List.cons_ne_nil _ _
  have behind (one two : List String)
      (same : (one.flatMap fun text => ',' :: ' ' :: (encode text).toList) =
        two.flatMap fun text => ',' :: ' ' :: (encode text).toList) : one = two := by
    induction one generalizing two with
    | nil =>
      cases two with
      | nil => rfl
      | cons first rest => cases same
    | cons first rest step =>
      cases two with
      | nil => cases same
      | cons first' rest' =>
        rw [List.flatMap_cons, List.flatMap_cons] at same
        obtain ⟨firsts, rests⟩ := encode_append (List.cons.inj (List.cons.inj same).2).2
        rw [firsts, step rest' rests]
  intro one two same
  have chars := congrArg String.toList same
  cases one with
  | nil =>
    cases two with
    | nil => rfl
    | cons first rest => exact absurd chars.symm (proper first rest)
  | cons first rest =>
    cases two with
    | nil => exact absurd chars (proper first rest)
    | cons first' rest' =>
      simp only [toList_commaList] at chars
      obtain ⟨firsts, rests⟩ := encode_append chars
      rw [firsts, behind rest rest' rests]

/-! Lines -/

/-- No character is written as a line feed. -/
theorem encodeChar_noFeed (char : Char) : '\n' ∉ encodeChar char := by
  unfold encodeChar
  split
  · decide
  split
  · decide
  split
  · decide
  split
  · decide
  split
  · decide
  split
  · decide
  split
  · rename_i control
    have small : char.toNat < 128 := by
      simp only [Bool.or_eq_true, decide_eq_true_eq] at control
      omega
    have digits : '\n' ∉ hexText char.toNat := fun member => absurd (hexText_isHexDigit small _ member) (by decide)
    simp [digits]
  · rename_i noFeed _ _ _ _
    simpa using Ne.symm noFeed

theorem encode_noFeed (text : String) : '\n' ∉ (encode text).toList := by
  rw [Lexeme.toList_encode]
  simp only [List.mem_cons, List.mem_append, List.mem_flatMap, List.not_mem_nil, or_false, not_or]
  refine ⟨by decide, ?_, by decide⟩
  rintro ⟨char, -, member⟩
  exact encodeChar_noFeed char member

end Literal

end Exposure
