import Exposure.Expansion
import Exposure.Proofs.Origin
import Exposure.Proofs.Outcome

/-!
What a fault rests on: a diagnostic points at a token, and quotes it where it is about a word of the text; the other faults
come from escapes and numbers that the text holds. Here this is shown of the option lists of attributes.
-/

namespace Exposure

/-- A cause that is about a word of the text, which its diagnostic points at. -/
def Cause.isQuoted : Cause → Bool
  | unexpectedCharacter _ => true
  | unexpectedToken _ => true
  | unknownOption _ => true
  | signature .missingParameter _ => true
  | signature .defaultOrderingViolation _ => true
  | enumeration .payloadVariant _ => true
  | enumeration .emptyEnum _ => true
  | method .conflictingMarkers _ => true
  | _ => false

/-- A literal holds the escape of a code point. -/
def Literal.Escapes (literal : List Char) (value : Nat) : Prop :=
  ∃ digits, '\\' :: 'u' :: '{' :: digits ++ ['}'] <:+: literal ∧ (∀ digit ∈ digits, Lexeme.isHexDigit digit = true) ∧
    digits ≠ [] ∧ ofHexDigits digits = value

/-- The values of the variants of an enumeration, given the value that the first would have. -/
def EnumDescriptor.values (expected : Option Int) : List Variant → List (Option Int)
  | [] => []
  | variant :: rest =>
    let value := valueOf expected variant
    value :: values (value.map (· + 1)) rest

/-- What a fault rests on in the tokens and the items of a text. -/
inductive Fault.RestsOn (tokens : List Token) (items : List Item) : Fault → Prop
  | pointed {cause : Cause} {token : Token} (member : token ∈ tokens)
      (quoted : cause.isQuoted = true → token.text = cause.ident) :
      RestsOn tokens items (.diagnostic ⟨cause, .point token.start⟩)
  | unknownRule (rule : String) : RestsOn tokens items (.diagnostic ⟨.unknownRule rule, .unknown⟩)
  | unnamed {item : StructItem} {field : Field} (inside : .structItem item ∈ items) (member : field ∈ item.fields)
      (isUnnamed : field.IsUnnamed) (fault : MemberFault) (name : String) :
      RestsOn tokens items (.diagnostic ⟨.member fault name, field.outset⟩)
  | codePoint {token : Token} {value : Nat} (member : token ∈ tokens)
      (isString : LeafKind.ofTerminal token.terminal = .string) (escapes : Literal.Escapes token.text.toList value)
      (invalid : ¬value.isValidChar) : RestsOn tokens items (.codePoint value)
  | numeral {item : EnumItem} {value : Int} (inside : .enumItem item ∈ items)
      (member : some value ∈ EnumDescriptor.values (some 0) item.variants)
      (long : Numeral.maxDigits < (toString value.natAbs).length) : RestsOn tokens items .numeral

/-- The faults of an outcome rest on the tokens and the items of a text, and its results have a property. -/
abbrev Outcome.RestsOn {value : Type} (outcome : Outcome value) (tokens : List Token) (items : List Item)
    (gives : value → Prop) : Prop :=
  outcome.Meets (Fault.RestsOn tokens items) gives

section Reports

variable {tokens : List Token} {items : List Item} {value : Type} {gives : value → Prop}

theorem restsOn_report {position : Position} (begins : position.IsIn tokens) {cause : Cause}
    (free : cause.isQuoted = false) : (Outcome.report (.point position) cause).RestsOn tokens items gives := by
  obtain ⟨token, member, rfl⟩ := begins
  exact .pointed member (by simp [free])

theorem restsOn_report_word {position : Position} {cause : Cause} (spells : position.Spells tokens cause.ident) :
    (Outcome.report (.point position) cause).RestsOn tokens items gives := by
  obtain ⟨token, member, same, rfl⟩ := spells
  exact .pointed member fun _ => same

end Reports

/-! Literals and documentation -/

namespace Literal

theorem Escapes.mono {part whole : List Char} {value : Nat} (escapes : Escapes part value) (inside : part <:+: whole) :
    Escapes whole value := by
  obtain ⟨digits, within, hexadecimal, proper, same⟩ := escapes
  exact ⟨digits, within.trans inside, hexadecimal, proper, same⟩

theorem escapes_of_codePointDigits? {rest digits : List Char} (found : codePointDigits? rest = some digits) :
    Escapes ('\\' :: rest) (ofHexDigits digits) := by
  unfold codePointDigits? at found
  split at found
  · rename_i body
    simp only at found
    split at found
    · rename_i closed
      simp only [Bool.and_eq_true, Bool.not_eq_true', List.isEmpty_eq_false_iff, decide_eq_true_eq] at closed
      obtain ⟨proper, close⟩ := closed
      obtain rfl := Option.some.inj found
      refine ⟨_, ?_, fun digit member => List.mem_takeWhile_imp member, proper, rfl⟩
      obtain ⟨after, rest⟩ := List.head?_eq_some_iff.mp close
      have whole := List.take_append_drop (body.takeWhile Lexeme.isHexDigit).length body
      rw [rest, List.prefix_iff_eq_take.mp (List.takeWhile_prefix _) |>.symm] at whole
      exact ⟨[], after, by simpa using whole⟩
    · cases found
  · cases found

variable {blames : Fault → Prop}

/-- Reading the body of a literal fails only for an escape in it that denotes no character. -/
theorem decodeFrom_meets {chars : List Char}
    (blamed : ∀ value, Escapes chars value → ¬value.isValidChar → blames (.codePoint value)) (inside : Nat) :
    (decodeFrom inside chars).Meets blames fun _ => True := by
  have ofRest {first : Char} {rest : List Char}
      (blamed : ∀ value, Escapes (first :: rest) value → ¬value.isValidChar → blames (.codePoint value)) (value : Nat)
      (escapes : Escapes rest value) : ¬value.isValidChar → blames (.codePoint value) :=
    blamed value (escapes.mono (List.suffix_cons ..).isInfix)
  fun_induction decodeFrom inside chars with
  | case1 => trivial
  | case2 inside first rest again => exact again (ofRest blamed)
  | case3 rest digits found again =>
    simp only [found]
    have denoted : (ofCodePoint (ofHexDigits digits)).Meets blames fun _ => True := by
      rw [ofCodePoint]
      split
      · trivial
      · rename_i invalid
        exact blamed _ (escapes_of_codePointDigits? found) invalid
    exact denoted.bind fun _ _ => (again (ofRest blamed)).bind fun _ _ => trivial
  | case4 rest noDigits again =>
    simp only [noDigits]
    exact (again (ofRest blamed)).bind fun _ _ => trivial
  | case5 letter rest other noDigits again =>
    simp only [noDigits, if_neg other]
    exact (again (ofRest blamed)).bind fun _ _ => trivial
  | case6 => trivial
  | case7 first rest other again => exact (again (ofRest blamed)).bind fun _ _ => trivial

theorem decode_meets {literal : String}
    (blamed : ∀ value, Escapes literal.toList value → ¬value.isValidChar → blames (.codePoint value)) :
    (decode literal).Meets blames fun _ => True := by
  have cut (body : List Char) (isSuffix : body <:+ literal.toList) :
      (decodeFrom 0 (dropEnds body)).Meets blames fun _ => True := by
    have inside : dropEnds body <:+: literal.toList :=
      (List.dropLast_prefix _).isInfix.trans ((List.drop_suffix 1 body).trans isSuffix).isInfix
    exact decodeFrom_meets (fun value escapes => blamed value (escapes.mono inside)) 0
  unfold decode
  split
  · rename_i rest same
    simp only
    split
    · trivial
    · exact (cut rest ⟨['b'], same.symm⟩).bind fun _ _ => trivial
  · simp only
    split
    · trivial
    · exact (cut _ List.suffix_rfl).bind fun _ _ => trivial

end Literal

section Attributes

variable {tokens : List Token} {items : List Item}

theorem decode_restsOn {leaf : Leaf} (isIn : leaf.IsIn tokens) (isString : leaf.kind = .string) :
    (Literal.decode leaf.text).RestsOn tokens items fun _ => True := by
  cases isIn with
  | ofToken member => exact Literal.decode_meets fun value escapes invalid => .codePoint member isString escapes invalid
  | ofComment => cases isString

theorem documentation_restsOn {attributes : List Attribute} (isIn : ∀ attr ∈ attributes, attr.IsIn tokens) :
    (Documentation.ofAttributes attributes).RestsOn tokens items fun _ => True := by
  have ofOne : ∀ attr ∈ attributes, (Documentation.linesOf attr).RestsOn tokens items fun _ => True := by
    intro attr member
    have input := (isIn attr member).input
    unfold Documentation.linesOf Attribute.value?
    cases given : attr.input with
    | value tree =>
      rw [given] at input
      cases tree with
      | leaf leaf =>
        simp only
        split_ifs with _ _ isString
        · trivial
        · trivial
        · exact (decode_restsOn input isString).bind fun _ _ => trivial
        · trivial
      | group => trivial
    | _ => trivial
  exact (Outcome.meets_mapM ofOne).bind fun _ _ => trivial

/-! Elements of signatures -/

/-- The pieces between commas are not empty, and they hold the trees that are split. -/
theorem TokenTree.mem_splitAtCommas {trees piece : List TokenTree} (member : piece ∈ splitAtCommas trees) :
    piece ≠ [] ∧ ∀ tree ∈ piece, tree ∈ trees := by
  obtain ⟨isPiece, proper⟩ := List.mem_filter.mp member
  refine ⟨by simpa using proper, ?_⟩
  clear member proper
  induction trees generalizing piece with
  | nil =>
    obtain rfl : piece = [] := by simpa using isPiece
    exact nofun
  | cons first rest again =>
    rw [List.splitOnP_cons_eq_if_modifyHead] at isPiece
    split at isPiece
    · rcases List.mem_cons.mp isPiece with rfl | later
      · exact nofun
      · exact fun tree member => List.mem_cons_of_mem _ (again later tree member)
    · cases pieces : rest.splitOnP isComma with
      | nil => simp [pieces] at isPiece
      | cons head others =>
        rw [pieces, List.modifyHead_cons] at isPiece
        rcases List.mem_cons.mp isPiece with rfl | later
        · exact fun tree member => (List.mem_cons.mp member).elim (· ▸ List.mem_cons_self) fun inside =>
            List.mem_cons_of_mem _ (again (pieces ▸ List.mem_cons_self) tree inside)
        · exact fun tree member =>
            List.mem_cons_of_mem _ (again (pieces ▸ List.mem_cons_of_mem _ later) tree member)

theorem splitAtCommas_isIn {trees piece : List TokenTree} (isIn : ∀ tree ∈ trees, tree.IsIn tokens)
    (member : piece ∈ TokenTree.splitAtCommas trees) : piece ≠ [] ∧ ∀ tree ∈ piece, tree.IsIn tokens := by
  obtain ⟨proper, inside⟩ := TokenTree.mem_splitAtCommas member
  exact ⟨proper, fun tree member => isIn tree (inside tree member)⟩

/-- Every element of a signature begins with a token. -/
abbrev EntriesIn (tokens : List Token) (entries : List SignatureEntry) : Prop :=
  ∀ entry ∈ entries, entry.position.IsIn tokens

theorem ofTree_restsOn {tree : TokenTree} (isIn : tree.IsIn tokens) (key : String) :
    (SignatureEntry.ofTree key tree).RestsOn tokens items (EntriesIn tokens) := by
  unfold SignatureEntry.ofTree
  split
  · rename_i inside position
    refine Outcome.meets_mapM fun piece member => ?_
    obtain ⟨proper, ofPiece⟩ := splitAtCommas_isIn (TokenTree.allIn_iff.mp isIn.2) member
    obtain ⟨first, rest, rfl⟩ := List.exists_cons_of_ne_nil proper
    have begins := (ofPiece first List.mem_cons_self).position
    unfold SignatureEntry.ofPiece
    simp only
    split
    · exact begins
    · exact restsOn_report begins rfl
  · exact restsOn_report isIn.position rfl

/-! Option lists -/

/-- The signature among some options begins with tokens, element by element. -/
def OptionPairs.IsIn (tokens : List Token) (pairs : OptionPairs) : Prop :=
  ∀ pair ∈ pairs, ∀ entries, pair.2 = .entries entries → EntriesIn tokens entries

/-- The signature that options give begins with tokens, element by element. -/
def Options.IsIn (tokens : List Token) (options : Options) : Prop :=
  ∀ entries, options.signature = some entries → EntriesIn tokens entries

theorem ident?_spells {tree : TokenTree} (isIn : tree.IsIn tokens) {leaf : Leaf}
    (found : SignatureEntry.ident? tree = some leaf) : leaf.position.Spells tokens leaf.text := by
  obtain ⟨isLeaf, isIdent⟩ := Option.filter_eq_some_iff.mp found
  cases tree with
  | group => cases isLeaf
  | leaf other =>
    obtain rfl := Option.some.inj isLeaf
    have ofLeaf : other.IsIn tokens := isIn
    cases ofLeaf with
    | ofToken member => exact ⟨_, member, rfl, rfl⟩
    | ofComment => cases isIdent

theorem keyOfPiece_restsOn (vocabulary : Vocabulary) {first : TokenTree} (isIn : first.IsIn tokens) (piece : List TokenTree) :
    (OptionPairs.keyOfPiece vocabulary first piece).RestsOn tokens items fun found => found.2.position.IsIn tokens := by
  unfold OptionPairs.keyOfPiece
  split
  · exact restsOn_report isIn.position rfl
  · rename_i leaf found
    have spells := ident?_spells isIn found
    split
    · exact restsOn_report_word spells
    · exact spells.isIn

theorem stringLiteral?_restsOn {trees : List TokenTree} (isIn : ∀ tree ∈ trees, tree.IsIn tokens) {literal : String}
    (found : OptionPairs.stringLiteral? trees = some literal) :
    (Literal.decode literal).RestsOn tokens items fun _ => True := by
  unfold OptionPairs.stringLiteral? at found
  split at found
  · rename_i leaf
    split at found
    · rename_i isString
      obtain rfl := Option.some.inj found
      exact decode_restsOn (isIn _ List.mem_cons_self) isString
    · cases found
  · cases found

theorem valueOfPiece_restsOn (key : OptionKey) {leaf : Leaf} (begins : leaf.position.IsIn tokens) {rest : List TokenTree}
    (isIn : ∀ tree ∈ rest, tree.IsIn tokens) :
    (OptionPairs.valueOfPiece key leaf rest).RestsOn tokens items fun found =>
      ∀ entries, found = .entries entries → EntriesIn tokens entries := by
  have report (cause : Cause) (free : cause.isQuoted = false) :
      (Outcome.report (.point leaf.position) cause).RestsOn tokens items fun found : OptionValue =>
        ∀ entries, found = .entries entries → EntriesIn tokens entries :=
    restsOn_report begins free
  unfold OptionPairs.valueOfPiece
  simp only
  split
  · exact nofun
  · exact report _ rfl
  · rename_i equals first others _
    obtain ⟨-, ofValue⟩ := List.forall_mem_cons.mp isIn
    split
    · split
      · split
        · exact (ofTree_restsOn (ofValue first List.mem_cons_self) _).map fun _ ofEntries _ same =>
            OptionValue.entries.inj same ▸ ofEntries
        · exact report _ rfl
      · exact nofun
      · exact (stringLiteral?_restsOn ofValue ‹_›).map fun _ _ => nofun
      · exact report _ rfl
    · exact report _ rfl
  · exact report _ rfl

theorem addPiece_restsOn (vocabulary : Vocabulary) {pairs : OptionPairs} (ofPairs : pairs.IsIn tokens)
    {piece : List TokenTree} (isIn : ∀ tree ∈ piece, tree.IsIn tokens) :
    (OptionPairs.addPiece vocabulary pairs piece).RestsOn tokens items (OptionPairs.IsIn tokens) := by
  cases piece with
  | nil => exact ofPairs
  | cons first rest =>
    obtain ⟨ofFirst, ofRest⟩ := List.forall_mem_cons.mp isIn
    refine (keyOfPiece_restsOn vocabulary ofFirst (first :: rest)).bind ?_
    rintro ⟨key, leaf⟩ begins
    simp only
    split
    · exact restsOn_report begins rfl
    · refine (valueOfPiece_restsOn key begins ofRest).bind fun value ofValue pair member => ?_
      rcases List.mem_append.mp member with earlier | last
      · exact ofPairs pair earlier
      · exact List.mem_singleton.mp last ▸ ofValue

theorem ofLists_restsOn (vocabulary : Vocabulary) {lists : List (List TokenTree)}
    (isIn : ∀ trees ∈ lists, ∀ tree ∈ trees, tree.IsIn tokens) :
    (OptionPairs.ofLists vocabulary lists).RestsOn tokens items (OptionPairs.IsIn tokens) :=
  Outcome.meets_foldlM (fun _ trees member ofPairs => Outcome.meets_foldlM (fun _ _ inside ofPairs =>
    addPiece_restsOn vocabulary ofPairs (splitAtCommas_isIn (isIn trees member) inside).2) ofPairs) nofun

theorem build_restsOn {pairs : OptionPairs} (ofPairs : pairs.IsIn tokens) :
    pairs.build.RestsOn tokens items (Options.IsIn tokens) := by
  have entries : ∀ entries, pairs.entries? = some entries → EntriesIn tokens entries := by
    intro entries found
    unfold OptionPairs.entries? at found
    split at found
    · rename_i listed
      obtain ⟨before, after, split, -⟩ := List.lookup_eq_some_iff.mp listed
      obtain rfl := Option.some.inj found
      exact ofPairs _ (split ▸ List.mem_append_right _ List.mem_cons_self) _ rfl
    · cases found
  unfold OptionPairs.build
  split
  · exact entries
  · split
    · exact entries
    · exact .unknownRule _

theorem options_restsOn (vocabulary : Vocabulary) {lists : List (List TokenTree)}
    (isIn : ∀ trees ∈ lists, ∀ tree ∈ trees, tree.IsIn tokens) :
    (Options.ofLists vocabulary lists).RestsOn tokens items (Options.IsIn tokens) :=
  (ofLists_restsOn vocabulary isIn).bind fun _ => build_restsOn

/-- The argument lists of the attributes of a name are made of tokens. -/
theorem arguments_isIn {attributes : List Attribute} (isIn : ∀ attr ∈ attributes, attr.IsIn tokens) (name : String) :
    ∀ trees ∈ (Attribute.withName name attributes).map Attribute.arguments, ∀ tree ∈ trees, tree.IsIn tokens := by
  intro trees member
  obtain ⟨attr, chosen, rfl⟩ := List.mem_map.mp member
  exact (isIn attr (List.mem_of_mem_filter chosen)).arguments

theorem ofAttributes_restsOn (vocabulary : Vocabulary) (name : String) {attributes : List Attribute}
    (isIn : ∀ attr ∈ attributes, attr.IsIn tokens) {further : List (List TokenTree)}
    (ofFurther : ∀ trees ∈ further, ∀ tree ∈ trees, tree.IsIn tokens) :
    (Options.ofAttributes vocabulary name attributes further).RestsOn tokens items (Options.IsIn tokens) :=
  options_restsOn vocabulary fun trees member => (List.mem_append.mp member).elim (ofFurther trees)
    (arguments_isIn isIn name trees)

theorem markerArgument_restsOn {marker : Attribute} (isIn : marker.IsIn tokens) :
    (Options.markerArgument marker).RestsOn tokens items fun _ => True := by
  unfold Options.markerArgument
  split
  · trivial
  · split
    · rename_i leaf alone
      have ofLeaf := (splitAtCommas_isIn isIn.arguments (alone ▸ List.mem_cons_self)).2 _ List.mem_cons_self
      split
      · rename_i isString
        exact (decode_restsOn ofLeaf isString).map fun _ _ => trivial
      · trivial
    · exact restsOn_report isIn.position rfl

theorem stubDefaults_restsOn {parameters : List Parameter} (isIn : ∀ parameter ∈ parameters, parameter.IsIn tokens) :
    (Options.stubDefaults parameters).RestsOn tokens items fun _ => True := by
  have stub : ∀ parameter ∈ parameters, (Options.stubDefault? parameter.attributes).RestsOn tokens items fun _ => True :=
    fun parameter member => (ofLists_restsOn _ (arguments_isIn (isIn parameter member).attributes _)).bind fun _ _ => trivial
  refine Outcome.Meets.bind (Outcome.meets_mapM fun parameter member =>
    show Outcome.Meets _ (fun _ => True) _ from ?_) fun _ _ => trivial
  exact (stub parameter member).bind fun _ _ => trivial

end Attributes

end Exposure
