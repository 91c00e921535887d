import Exposure.Proofs.IntegerLiteral
import Exposure.Proofs.Literals

/-!
# Quoted texts

A text is quoted by escaping it, or raw, between quotes and hashes that it does not hold. Either way the literal is one token
and denotes the text again. A literal that somebody else has written is a sequence of plain characters and escapes; two of the
escapes that the language has are not known to the reader, which takes them for a letter and plain characters.
-/

namespace Exposure

/-- A text is one token, whatever follows it. -/
def Lexing.IsToken (terminal : Terminal) (text : String) : Prop :=
  ∀ position rest, scan 0 position (text.toList ++ rest) =
    (scan 0 (position.past text.toList) rest).cons ⟨some terminal, text.toList, position⟩

namespace Lexeme

theorem isToken_of_first? {terminal : Terminal} {text : String} {length : Nat} (size : text.toList.length = length + 1)
    (first : ∀ rest, first? (text.toList ++ rest) = some (some terminal, length + 1)) : Lexing.IsToken terminal text := by
  intro position rest
  obtain ⟨char, others, written⟩ := List.exists_cons_of_length_eq_add_one size
  have covered : others.length = length := by simpa [written] using size
  have read := first rest
  rw [written, List.cons_append] at read ⊢
  rw [Lexing.scan, read, ← covered]
  simp only [scan_inside others.length, List.take_succ_cons, List.take_left, List.drop_left]
  rfl

/-- The first occurrence of two characters is found behind a text that does not hold it. -/
theorem through?_append {first second : Char} (distinct : first ≠ second) {text : List Char}
    (lacks : ¬ [first, second] <:+: text) (rest : List Char) :
    through? first second (text ++ first :: second :: rest) = some (text.length + 2) := by
  induction text with
  | nil => simp [through?]
  | cons one others step =>
    have further := step fun found => lacks (found.trans (List.suffix_cons one others).isInfix)
    cases others with
    | nil =>
      have apart : ¬(one = first && first = second) = true := by simp [distinct]
      rw [List.singleton_append, through?, if_neg apart]
      exact congrArg (Option.map (· + 1)) further
    | cons two others =>
      have apart : ¬(one = first && two = second) = true := by
        intro same
        obtain ⟨rfl, rfl⟩ : one = first ∧ two = second := by simpa using same
        exact lacks (List.prefix_append [one, two] others).isInfix
      rw [List.cons_append, List.cons_append, through?, if_neg apart, ← List.cons_append, further]
      rfl

theorem rawString?_quote (behind : List Char) :
    rawString? ('r' :: '"' :: behind) =
      if run (· ≠ '"') behind < behind.length then some (2 + run (· ≠ '"') behind + 1) else none := by
  simp [rawString?, afterByteMark]

theorem rawString?_hash (behind : List Char) :
    rawString? ('r' :: '#' :: '"' :: behind) = (through? '"' '#' behind).map (3 + ·) := by
  simp [rawString?, afterByteMark]

theorem first?_raw {length : Nat} {behind : List Char} (raw : rawString? ('r' :: behind) = some length) :
    first? ('r' :: behind) = some (some .rawString, length) := by
  simp [first?, classes, docComment?, raw]

end Lexeme

namespace Literal

/-- The raw literal of a text, without hashes. -/
def raw (text : String) : String := String.ofList ('r' :: '"' :: text.toList ++ ['"'])

/-- The raw literal of a text, with a hash at both ends. -/
def rawHashed (text : String) : String := String.ofList ('r' :: '#' :: '"' :: text.toList ++ ['"', '#'])

theorem dropEnds_quoted (body : List Char) : dropEnds ('"' :: (body ++ ['"'])) = body := by
  rw [dropEnds, List.drop_one, List.tail_cons, List.dropLast_concat]

/-- Hashes outside the quotes are trimmed, those between the quotes are not. -/
theorem trimEnds_quoted (before after body : List Char) (hashes : ∀ char ∈ before ++ after, char = '#') :
    Text.trimEnds (· = '#') (before ++ '"' :: (body ++ '"' :: after)) = '"' :: (body ++ ['"']) := by
  have front (outside inside : List Char) (each : ∀ char ∈ outside, char = '#') :
      (outside ++ '"' :: inside).dropWhile (· = '#') = '"' :: inside := by
    rw [List.dropWhile_append_of_pos (by simpa using each), List.dropWhile_cons_of_neg (by decide)]
  obtain ⟨ofBefore, ofAfter⟩ := List.forall_mem_append.mp hashes
  have back : ('"' :: (body ++ '"' :: after)).reverse = after.reverse ++ '"' :: ('"' :: body).reverse := by simp
  rw [Text.trimEnds, Text.dropTail, front before _ ofBefore, back,
    front after.reverse _ fun char written => ofAfter char (List.mem_reverse.mp written)]
  simp

theorem decode_raw (text : String) : decode (raw text) = .ok text := by
  have quoted := trimEnds_quoted [] [] text.toList (by simp)
  have written : (raw text).toList = 'r' :: '"' :: (text.toList ++ ['"']) := by simp [raw]
  rw [decode, written]
  change Except.ok (String.ofList (dropEnds (Text.trimEnds _ ('"' :: (text.toList ++ ['"']))))) = _
  rw [← List.nil_append ('"' :: _), quoted, dropEnds_quoted, String.ofList_toList]

theorem decode_rawHashed (text : String) : decode (rawHashed text) = .ok text := by
  have quoted := trimEnds_quoted ['#'] ['#'] text.toList (by simp)
  have written : (rawHashed text).toList = 'r' :: '#' :: '"' :: (text.toList ++ ['"', '#']) := by simp [rawHashed]
  rw [decode, written]
  change Except.ok (String.ofList (dropEnds (Text.trimEnds _ (['#'] ++ '"' :: (text.toList ++ ['"', '#']))))) = _
  rw [quoted, dropEnds_quoted, String.ofList_toList]

theorem encode_isToken (text : String) : Lexing.IsToken .string (encode text) := by
  have size : (encode text).toList.length = (text.toList.flatMap encodeChar ++ ['"']).length + 1 := by
    rw [Lexeme.toList_encode, List.length_cons]
  exact Lexeme.isToken_of_first? size fun rest => size ▸ Lexeme.first?_encode text rest

/-- A raw literal without hashes ends at the first quote. -/
theorem raw_isToken {text : String} (lacks : '"' ∉ text.toList) : Lexing.IsToken .rawString (raw text) := by
  have written : (raw text).toList = 'r' :: '"' :: (text.toList ++ ['"']) := by simp [raw]
  have size : (raw text).toList.length = text.toList.length + 2 + 1 := by simp [written]
  refine Lexeme.isToken_of_first? size fun rest => ?_
  have inside : Lexeme.run (· ≠ '"') (text.toList ++ '"' :: rest) = text.toList.length := by
    have plain : ∀ char ∈ text.toList, decide (char ≠ '"') = true := fun char member =>
      decide_eq_true fun same => lacks (same ▸ member)
    rw [Lexeme.run_append_of_forall plain]
    rfl
  rw [written, List.cons_append]
  refine Lexeme.first?_raw ?_
  rw [List.cons_append, List.append_assoc, List.singleton_append, Lexeme.rawString?_quote, inside, if_pos (by simp)]
  exact congrArg some (by omega)

/-- A raw literal with a hash ends at the first quote that a hash follows. -/
theorem rawHashed_isToken {text : String} (lacks : ¬ ['"', '#'] <:+: text.toList) :
    Lexing.IsToken .rawString (rawHashed text) := by
  have written : (rawHashed text).toList = 'r' :: '#' :: '"' :: (text.toList ++ ['"', '#']) := by simp [rawHashed]
  have size : (rawHashed text).toList.length = text.toList.length + 4 + 1 := by simp [written]
  refine Lexeme.isToken_of_first? size fun rest => ?_
  rw [written, List.cons_append]
  refine Lexeme.first?_raw ?_
  rw [List.cons_append, List.cons_append, List.append_assoc, List.cons_append, List.singleton_append, Lexeme.rawString?_hash,
    Lexeme.through?_append (by decide : '"' ≠ '#') lacks rest, Option.map_some]
  exact congrArg some (by omega)

/-- Quoting loses nothing: the literal of a text is one token, whatever follows it, and denotes the text. So does a raw
literal, as long as the text does not hold what ends the literal. -/
theorem quoting_roundTrips (text : String) :
    (decode (encode text) = .ok text ∧ Lexing.IsToken .string (encode text)) ∧
      ('"' ∉ text.toList → decode (raw text) = .ok text ∧ Lexing.IsToken .rawString (raw text)) ∧
      (¬ ['"', '#'] <:+: text.toList → decode (rawHashed text) = .ok text ∧ Lexing.IsToken .rawString (rawHashed text)) :=
  ⟨⟨decode_encode text, encode_isToken text⟩, fun lacks => ⟨decode_raw text, raw_isToken lacks⟩,
    fun lacks => ⟨decode_rawHashed text, rawHashed_isToken lacks⟩⟩

theorem quoting_roundTrips_backslashes :
    (decode (raw "br\\#\\n") = .ok "br\\#\\n" ∧ Lexing.IsToken .rawString (raw "br\\#\\n")) ∧
      decode (rawHashed "\\\"\\") = .ok "\\\"\\" ∧ Lexing.IsToken .rawString (rawHashed "\\\"\\") :=
  ⟨(quoting_roundTrips "br\\#\\n").2.1 (by decide), (quoting_roundTrips "\\\"\\").2.2 (by decide)⟩

/-! Literals of somebody else -/

/-- The escapes of one letter, each with the character that it denotes. -/
def letterEscapes : List (Char × Char) :=
  [('n', '\n'), ('r', '\r'), ('t', '\t'), ('0', '\x00'), ('\\', '\\'), ('\'', '\''), ('"', '"')]

/-- The inside of a code point escape: one to six hexadecimal digits that denote a character, with underscores anywhere but in
front of them. -/
structure CodePoint where
  digits : List Char
  digits_mem : ∀ char ∈ digits, char = '_' ∨ char ∈ Radix.hexadecimal.digits
  digits_ne_nil : digits ≠ []
  head_ne : digits.head? ≠ some '_'
  few : (digits.filter (· ≠ '_')).length ≤ 6
  valid : (Radix.hexadecimal.valueOf (digits.filter (· ≠ '_'))).isValidChar

/-- What stands between the quotes of a literal. -/
inductive Element where
  | plain (char : Char) (proper : char ≠ '"' ∧ char ≠ '\\' ∧ char ≠ '\r')
  | letter (escape : Char × Char) (known : escape ∈ letterEscapes)
  | byte (high low : Char) (isHigh : high ∈ Radix.octal.digits) (isLow : low ∈ Radix.hexadecimal.digits)
  | codePoint (escape : CodePoint)

namespace Element

def written : Element → List Char
  | plain char _ => [char]
  | letter escape _ => ['\\', escape.1]
  | byte high low _ _ => ['\\', 'x', high, low]
  | codePoint escape => '\\' :: 'u' :: '\x7b' :: (escape.digits ++ ['\x7d'])

/-- The character that an element denotes in the language. -/
def denoted : Element → Char
  | plain char _ => char
  | letter escape _ => escape.2
  | byte high low _ _ => Char.ofNat (Radix.hexadecimal.valueOf [high, low])
  | codePoint escape => Char.ofNat (Radix.hexadecimal.valueOf (escape.digits.filter (· ≠ '_')))

/-- The reader knows neither bytes nor underscores in code points. -/
def IsKnown : Element → Prop
  | byte _ _ _ _ => False
  | codePoint escape => '_' ∉ escape.digits
  | _ => True

/-- The characters that an element is read as; an unknown escape is read as what stands behind its backslash. -/
def reading : Element → List Char
  | byte high low _ _ => ['x', high, low]
  | codePoint escape =>
    if '_' ∈ escape.digits then 'u' :: '\x7b' :: (escape.digits ++ ['\x7d'])
    else [denoted (codePoint escape)]
  | element => [denoted element]

end Element

/-- The literal that some elements are written as. -/
def literal (elements : List Element) : String :=
  String.ofList ('"' :: elements.flatMap Element.written ++ ['"'])

theorem ofHexDigits_eq_valueOf {digits : List Char} (each : ∀ char ∈ digits, char ∈ Radix.hexadecimal.digits) :
    ofHexDigits digits = Radix.hexadecimal.valueOf digits := by
  have valueOfEach : ∀ char ∈ Radix.hexadecimal.digits, hexValue char = Radix.digitValue char :=
    List.all_iff_forall_prop.mp (by decide)
  induction digits using List.reverseRecOn with
  | nil => rfl
  | append_singleton before digit again =>
    rw [List.forall_mem_append, List.forall_mem_singleton] at each
    rw [Radix.valueOf_append_singleton, ← again each.1, ← valueOfEach digit each.2, ofHexDigits, List.foldl_concat]
    rfl

/-- Characters that are no backslashes are read as they stand. -/
theorem decodeFrom_append {front : List Char} (plain : ∀ char ∈ front, char ≠ '\\') (rest : List Char) :
    decodeFrom 0 (front ++ rest) = (front ++ ·) <$> decodeFrom 0 rest := by
  induction front with
  | nil => exact (id_map _).symm
  | cons first others step =>
    obtain ⟨ofFirst, ofOthers⟩ := List.forall_mem_cons.mp plain
    rw [List.cons_append, decodeFrom_plain ofFirst, step ofOthers, Functor.map_map]
    rfl

namespace CodePoint

variable (escape : CodePoint)

theorem digits_plain : ∀ char ∈ '\x7b' :: (escape.digits ++ ['\x7d']), char ≠ '"' ∧ char ≠ '\\' := by
  have digit : ∀ char ∈ Radix.hexadecimal.digits, char ≠ '"' ∧ char ≠ '\\' := List.all_iff_forall_prop.mp (by decide)
  intro char written
  simp only [List.mem_cons, List.mem_append, List.not_mem_nil, or_false] at written
  rcases written with rfl | written | rfl
  · decide
  · rcases escape.digits_mem char written with rfl | isDigit
    · decide
    · exact digit char isDigit
  · decide

/-- Digits up to an underscore are not those of a code point escape. -/
theorem codePointDigits?_eq_none (separated : '_' ∈ escape.digits) (rest : List Char) :
    codePointDigits? ('u' :: '\x7b' :: (escape.digits ++ rest)) = none := by
  obtain ⟨front, behind, split, unseparated⟩ := List.eq_append_cons_of_mem separated
  have isDigit : ∀ char ∈ Radix.hexadecimal.digits, Lexeme.isHexDigit char = true := List.all_eq_true.mp (by decide)
  have each : ∀ char ∈ front, Lexeme.isHexDigit char = true := by
    intro char written
    refine isDigit char ((escape.digits_mem char (by simp [split, written])).resolve_left ?_)
    exact fun same => unseparated (same ▸ written)
  have found : (escape.digits ++ rest).takeWhile Lexeme.isHexDigit = front := by
    rw [split, List.append_assoc, List.takeWhile_append_of_pos each, List.cons_append,
      List.takeWhile_cons_of_neg (by decide), List.append_nil]
  have next : ((escape.digits ++ rest).drop front.length).head? = some '_' := by simp [split]
  simp only [codePointDigits?, found, next]
  simp

theorem decodeFrom_written (rest : List Char) :
    decodeFrom 0 ((Element.codePoint escape).written ++ rest) =
      ((Element.codePoint escape).reading ++ ·) <$> decodeFrom 0 rest := by
  have spelled : (Element.codePoint escape).written ++ rest =
      '\\' :: 'u' :: '\x7b' :: (escape.digits ++ '\x7d' :: rest) := by simp [Element.written]
  rw [spelled]
  by_cases separated : '_' ∈ escape.digits
  · have plain : ∀ char ∈ '\x7b' :: (escape.digits ++ ['\x7d']), char ≠ '\\' := fun char written =>
      (escape.digits_plain char written).2
    rw [decodeFrom_escaped (by decide) (escape.codePointDigits?_eq_none separated _)]
    have behind := decodeFrom_append plain rest
    simp only [List.cons_append, List.append_assoc, List.nil_append] at behind
    rw [behind, Functor.map_map, Element.reading, if_pos separated]
    simp only [List.cons_append, List.append_assoc, List.nil_append]
    rfl
  · have significant : escape.digits.filter (· ≠ '_') = escape.digits := by
      refine List.filter_eq_self.mpr fun char written => decide_eq_true fun same => separated (same ▸ written)
    have each : ∀ char ∈ escape.digits, char ∈ Radix.hexadecimal.digits := fun char written =>
      (escape.digits_mem char written).resolve_left fun same => separated (same ▸ written)
    have isDigit : ∀ char ∈ Radix.hexadecimal.digits, Lexeme.isHexDigit char = true := List.all_eq_true.mp (by decide)
    have denotes : ofCodePoint (ofHexDigits escape.digits) = .ok (Element.codePoint escape).denoted := by
      have valid := escape.valid
      rw [significant] at valid
      rw [ofHexDigits_eq_valueOf each, ofCodePoint, if_pos valid, Element.denoted, significant]
    rw [decodeFrom_codePoint (fun char written => isDigit char (each char written)) escape.digits_ne_nil denotes,
      Element.reading, if_neg separated]
    rfl

end CodePoint

namespace Element

/-- An element is read as its reading, whatever follows it. -/
theorem decodeFrom_written (element : Element) (rest : List Char) :
    decodeFrom 0 (element.written ++ rest) = (element.reading ++ ·) <$> decodeFrom 0 rest := by
  cases element with
  | plain char proper => exact decodeFrom_plain proper.2.1 rest
  | letter escape known =>
    have known : escape.1 ≠ '\n' ∧ escape.1 ≠ 'u' ∧ escapedChar escape.1 = escape.2 := by
      have every : ∀ escape ∈ letterEscapes, escape.1 ≠ '\n' ∧ escape.1 ≠ 'u' ∧ escapedChar escape.1 = escape.2 := by decide
      exact every escape known
    have read := decodeFrom_letter known.1 known.2.1 rest
    rw [known.2.2] at read
    exact read
  | byte high low isHigh isLow =>
    have octal : ∀ char ∈ Radix.octal.digits, char ≠ '\\' := List.all_iff_forall_prop.mp (by decide)
    have hexadecimal : ∀ char ∈ Radix.hexadecimal.digits, char ≠ '\\' := List.all_iff_forall_prop.mp (by decide)
    change decodeFrom 0 ('\\' :: 'x' :: high :: low :: rest) = _
    rw [decodeFrom_letter (by decide) (by decide), decodeFrom_plain (octal high isHigh),
      decodeFrom_plain (hexadecimal low isLow), Functor.map_map, Functor.map_map]
    rfl
  | codePoint escape => exact escape.decodeFrom_written rest

/-- No element ends the literal. -/
theorem stringBody?_written (element : Element) (rest : List Char) :
    Lexeme.stringBody? (element.written ++ rest) = (Lexeme.stringBody? rest).map (· + element.written.length) := by
  cases element with
  | plain char proper =>
    have stands : ∀ other ∈ [char], other ≠ '"' ∧ other ≠ '\\' := by simp [proper.1, proper.2.1]
    exact Lexeme.stringBody?_append stands rest
  | letter escape known =>
    have noFeed : ∀ escape ∈ letterEscapes, escape.1 ≠ '\n' := by decide
    exact Lexeme.stringBody?_escape (noFeed escape known) rest
  | byte high low isHigh isLow =>
    have octal : ∀ char ∈ Radix.octal.digits, char ≠ '"' ∧ char ≠ '\\' := List.all_iff_forall_prop.mp (by decide)
    have hexadecimal : ∀ char ∈ Radix.hexadecimal.digits, char ≠ '"' ∧ char ≠ '\\' :=
      List.all_iff_forall_prop.mp (by decide)
    have plain : ∀ char ∈ [high, low], char ≠ '"' ∧ char ≠ '\\' := by
      simpa using ⟨octal high isHigh, hexadecimal low isLow⟩
    change Lexeme.stringBody? ('\\' :: 'x' :: ([high, low] ++ rest)) = _
    rw [Lexeme.stringBody?_escape (by decide), Lexeme.stringBody?_append plain, Option.map_map]
    rfl
  | codePoint escape =>
    have behind := Lexeme.stringBody?_append escape.digits_plain rest
    change Lexeme.stringBody? ('\\' :: 'u' :: ('\x7b' :: (escape.digits ++ ['\x7d']) ++ rest)) = _
    rw [Lexeme.stringBody?_escape (by decide), behind, Option.map_map]
    rfl

theorem reading_eq_singleton_iff (element : Element) : element.reading = [element.denoted] ↔ element.IsKnown := by
  cases element with
  | plain char proper => exact iff_of_true rfl trivial
  | letter escape known => exact iff_of_true rfl trivial
  | byte high low isHigh isLow => exact iff_of_false (by simp [reading]) id
  | codePoint escape =>
    by_cases separated : '_' ∈ escape.digits
    · simp [reading, IsKnown, separated]
    · simp [reading, IsKnown, separated]

theorem one_le_length_reading (element : Element) : 1 ≤ element.reading.length := by
  cases element with
  | codePoint escape =>
    rw [reading]
    split <;> simp
  | _ => simp [reading]

end Element

theorem toList_literal (elements : List Element) :
    (literal elements).toList = '"' :: (elements.flatMap Element.written ++ ['"']) := by
  simp [literal]

theorem stringBody?_elements (elements : List Element) (rest : List Char) :
    Lexeme.stringBody? (elements.flatMap Element.written ++ '"' :: rest) =
      some ((elements.flatMap Element.written).length + 1) := by
  induction elements with
  | nil => simp [Lexeme.stringBody?]
  | cons first others step =>
    rw [List.flatMap_cons, List.append_assoc, Element.stringBody?_written, step, Option.map_some, List.length_append]
    exact congrArg some (by omega)

theorem literal_isToken (elements : List Element) : Lexing.IsToken .string (literal elements) := by
  have size : (literal elements).toList.length = (elements.flatMap Element.written).length + 1 + 1 := by
    simp [toList_literal]
  refine Lexeme.isToken_of_first? size fun rest => ?_
  rw [toList_literal, List.cons_append, List.append_assoc, List.singleton_append, Lexeme.first?_quote, stringBody?_elements,
    Option.map_some, Nat.add_comm 1]

theorem decode_literal_eq (elements : List Element) :
    decode (literal elements) = .ok (String.ofList (elements.flatMap Element.reading)) := by
  have body : decodeFrom 0 (elements.flatMap Element.written) = .ok (elements.flatMap Element.reading) := by
    induction elements with
    | nil => rfl
    | cons first others step =>
      rw [List.flatMap_cons, Element.decodeFrom_written, step]
      rfl
  have opened : decode (literal elements) =
      String.ofList <$> decodeFrom 0 (dropEnds ('"' :: (elements.flatMap Element.written ++ ['"']))) := by
    rw [decode, toList_literal]
    rfl
  rw [opened, dropEnds_quoted, body]
  rfl

theorem length_le_length_reading (elements : List Element) :
    elements.length ≤ (elements.flatMap Element.reading).length := by
  induction elements with
  | nil => exact Nat.zero_le _
  | cons first others step =>
    have ofFirst := first.one_le_length_reading
    rw [List.flatMap_cons, List.length_append, List.length_cons]
    omega

/-- Readings amount to what is denoted only if each of them does, as none of them is empty. -/
theorem flatMap_reading_eq_iff (elements : List Element) :
    elements.flatMap Element.reading = elements.map Element.denoted ↔ ∀ element ∈ elements, element.IsKnown := by
  induction elements with
  | nil => simp
  | cons first others step =>
    rw [List.flatMap_cons, List.map_cons, List.forall_mem_cons, ← step, ← Element.reading_eq_singleton_iff]
    constructor
    · intro same
      have sizes := congrArg List.length same
      rw [List.length_append, List.length_cons, List.length_map] at sizes
      have ofFirst := first.one_le_length_reading
      have ofOthers := length_le_length_reading others
      have single : first.reading.length = [first.denoted].length := by
        rw [List.length_singleton]
        omega
      exact List.append_inj same single
    · rintro ⟨ofFirst, ofOthers⟩
      rw [ofFirst, ofOthers, List.singleton_append]

/-- A literal is one token and is read as the readings of its elements. That is what it denotes if and only if all its escapes
are known. -/
theorem decode_literal (elements : List Element) :
    Lexing.IsToken .string (literal elements) ∧
      decode (literal elements) = .ok (String.ofList (elements.flatMap Element.reading)) ∧
      (decode (literal elements) = .ok (String.ofList (elements.map Element.denoted)) ↔
        ∀ element ∈ elements, element.IsKnown) := by
  refine ⟨literal_isToken elements, decode_literal_eq elements, ?_⟩
  rw [decode_literal_eq, ← flatMap_reading_eq_iff, Except.ok.injEq, String.ofList_inj]

/-- A literal with a byte escape denotes a letter and is read as another text. -/
theorem decode_byteEscape :
    ∃ element : Element, literal [element] = "\"\\x41\"" ∧ element.denoted = 'A' ∧ decode "\"\\x41\"" = .ok "x41" :=
  ⟨.byte '4' '1' (by decide) (by decide), by decide, by decide, by decide⟩

end Literal

end Exposure
