import Exposure.Command
import Exposure.Proofs.Faults
import Exposure.Proofs.Parsing
import Exposure.Proofs.Provenance

/-!
What the program says about a text that it refuses: every diagnostic but two kinds points into the text, it quotes the
text there where it is about a word of it, and only literals that nothing can be written for break the program off.
-/

namespace Exposure

namespace Expansion

section Items

variable {tokens : List Token} {items : List Item}

theorem reportMisplaced_restsOn {value : Type} {gives : value → Prop} {item : Item} (isIn : item.IsIn tokens)
    (tag : String) : (reportMisplaced tag item).RestsOn tokens items gives :=
  restsOn_report isIn.header.position rfl

theorem ofClassTag_restsOn {tag : Attribute} (ofTag : tag.IsIn tokens) {item : Item} (inside : item ∈ items)
    (isIn : item.IsIn tokens) {associated : List FunctionItem}
    (ofAssociated : ∀ function ∈ associated, function.IsIn tokens) :
    (ofClassTag tag item associated).RestsOn tokens items fun _ => True := by
  have further : ∀ trees ∈ [tag.arguments], ∀ tree ∈ trees, tree.IsIn tokens := by simpa using ofTag.arguments
  unfold ofClassTag
  refine (ofAttributes_restsOn _ _ isIn.header.attributes further).bind fun options _ => ?_
  cases item with
  | structItem declared =>
    exact (ClassDescriptor.ofStruct_restsOn inside isIn ofAssociated options).map fun _ _ => trivial
  | enumItem declared => exact (EnumDescriptor.ofEnum_restsOn inside isIn options).map fun _ _ => trivial
  | _ => exact reportMisplaced_restsOn isIn _

theorem ofMethodsTag_restsOn {tag : Attribute} (ofTag : tag.IsIn tokens) {item : Item} (isIn : item.IsIn tokens) :
    (ofMethodsTag tag item).RestsOn tokens items fun _ => True := by
  have lists : ∀ trees ∈ [tag.arguments], ∀ tree ∈ trees, tree.IsIn tokens := by simpa using ofTag.arguments
  unfold ofMethodsTag
  refine (options_restsOn _ lists).bind fun _ _ => ?_
  split
  · rename_i block isBlock
    have begins : block.header.position.IsIn tokens := by
      cases item <;> cases isBlock
      exact isIn.header.position
    exact (MethodsDescriptor.ofImpl_restsOn begins (ImplItem.functions_isIn isIn isBlock)).map fun _ _ => trivial
  · exact reportMisplaced_restsOn isIn _

theorem ofFunctionTag_restsOn {tag : Attribute} (ofTag : tag.IsIn tokens) {item : Item} (isIn : item.IsIn tokens) :
    (ofFunctionTag tag item).RestsOn tokens items fun _ => True := by
  have lists : ∀ trees ∈ [tag.arguments], ∀ tree ∈ trees, tree.IsIn tokens := by simpa using ofTag.arguments
  unfold ofFunctionTag
  refine (options_restsOn _ lists).bind fun options ofOptions => ?_
  split
  · rename_i function isFunction
    have ofFunction : function.IsIn tokens := by
      cases item <;> cases isFunction
      exact isIn
    exact (FunctionDescriptor.ofFunction_restsOn ofFunction ofOptions).map fun _ _ => trivial
  · exact reportMisplaced_restsOn isIn _

theorem tag_restsOn {item : Item} (isIn : item.IsIn tokens) :
    (tag? item).RestsOn tokens items fun found => ∀ tag, found = some tag → tag.IsIn tokens := by
  have ofAttributes := isIn.header.attributes
  unfold tag?
  split
  · exact nofun
  · rename_i only alone
    rintro _ ⟨⟩
    exact ofAttributes only (List.mem_of_mem_filter (alone ▸ List.mem_singleton_self only))
  · rename_i first second others several
    have ofSecond := ofAttributes second (List.mem_of_mem_filter (several ▸ List.mem_cons_of_mem _ List.mem_cons_self))
    exact restsOn_report ofSecond.position rfl

theorem describe_restsOn {item : Item} (inside : item ∈ items) (isIn : item.IsIn tokens)
    {associated : List FunctionItem} (ofAssociated : ∀ function ∈ associated, function.IsIn tokens) :
    (describe? associated item).RestsOn tokens items fun _ => True := by
  unfold describe?
  refine (tag_restsOn isIn).bind fun found ofFound => ?_
  cases found with
  | none => trivial
  | some tag =>
    have ofTag := ofFound tag rfl
    simp only
    split_ifs
    · exact (ofClassTag_restsOn ofTag inside isIn ofAssociated).map fun _ _ => trivial
    · exact (ofMethodsTag_restsOn ofTag isIn).map fun _ _ => trivial
    · exact (ofFunctionTag_restsOn ofTag isIn).map fun _ _ => trivial

theorem associated_isIn (isIn : ∀ item ∈ items, item.IsIn tokens) (item : Item) :
    ∀ function ∈ associated items item, function.IsIn tokens := by
  intro function member
  unfold associated at member
  split at member
  · obtain ⟨holder, inside, member⟩ := List.mem_flatMap.mp member
    split at member
    · rename_i block isBlock
      split at member
      · exact ImplItem.functions_isIn (isIn holder inside) isBlock function member
      · cases member
    · cases member
  · cases member

/-- The faults of a list of items rest on these items and on the tokens that they are made of. -/
theorem ofItems_restsOn (text : String) (isIn : ∀ item ∈ items, item.IsIn tokens) :
    (ofItems text items).RestsOn tokens items fun _ => True := by
  have each : ∀ item ∈ items, (ofItem? text items item).RestsOn tokens items fun _ => True := fun item inside =>
    (describe_restsOn inside (isIn item inside) (associated_isIn isIn item)).bind fun _ _ => trivial
  exact (Outcome.meets_mapM each).bind fun _ _ => trivial

end Items

/-- A text is refused for what its tokens stop at, or the fault rests on its items and their tokens. -/
theorem ofText_cases {text : String} {fault : Fault} (failed : ofText text = .error fault) :
    (∃ found, fault = .diagnostic found ∧ (Lexing.ofText text).Stops found) ∨
      ∃ items, parse text = .ok items ∧ fault.RestsOn (Lexing.ofText text).tokens (Item.flattenAll items) := by
  rcases parse_cases text with ⟨items, parsed, -⟩ | ⟨found, refused, stops⟩
  · have rests := ofItems_restsOn text (isIn_of_parse parsed)
    have same : ofText text = ofItems text (Item.flattenAll items) := by simp only [ofText, parsed]; rfl
    rw [← same, failed] at rests
    exact .inr ⟨items, parsed, rests⟩
  · have same : ofText text = .error (.diagnostic found) := by simp only [ofText, refused]; rfl
    cases failed.symm.trans same
    exact .inl ⟨found, rfl, stops⟩

/-- The fault that a text is refused for. -/
def fault? (text : String) : Option Fault :=
  match ofText text with
  | .ok _ => none
  | .error fault => some fault

theorem fault?_eq_some {text : String} {fault : Fault} : fault? text = some fault ↔ ofText text = .error fault := by
  unfold fault?
  cases ofText text <;> simp

end Expansion

/-! Where diagnostics point -/

/-- A diagnostic is about a field without a name in a structure of a text, on the line of its first attribute if it has
any, and nowhere else. -/
def Diagnostic.IsOfUnnamedField (text : String) (diagnostic : Diagnostic) : Prop :=
  ∃ items item, parse text = .ok items ∧ .structItem item ∈ Item.flattenAll items ∧
    ∃ field ∈ item.fields, field.IsUnnamed ∧ ∃ fault name, diagnostic = ⟨.member fault name, field.outset⟩

/-- A diagnostic points at a word of the text, which it quotes if it is about one; or it points nowhere. -/
inductive Diagnostic.Points (text : String) : Diagnostic → Prop
  | atWord {cause : Cause} {position : Position} {word : String}
      (stands : Text.StandsAt text.toList word.toList position) (quoted : cause.isQuoted = true → word = cause.ident) :
      Points text ⟨cause, .point position⟩
  | nowhere (rule : String) : Points text ⟨.unknownRule rule, .unknown⟩
  | atNoColumn {diagnostic : Diagnostic} (unnamed : diagnostic.IsOfUnnamedField text) : Points text diagnostic
  | atEnd : Points text ⟨.unexpectedEnd, .unknown⟩

section Diagnostics

variable {text : String} {diagnostic : Diagnostic}

theorem Lexing.Stops.points (stops : (Lexing.ofText text).Stops diagnostic) : diagnostic.Points text := by
  cases stops with
  | token split =>
    exact .atWord (Lexing.standsAt_of_mem (split ▸ List.mem_append_right _ List.mem_cons_self)) fun _ => rfl
  | @character char position bad =>
    have stands : Text.StandsAt text.toList (String.ofList [char]).toList position := by
      simpa using Lexing.standsAt_of_failure (Position.Faces.start _) bad
    exact .atWord stands fun _ => rfl
  | ending => exact .atEnd

theorem Expansion.points (failed : Expansion.ofText text = .error (.diagnostic diagnostic)) : diagnostic.Points text := by
  rcases Expansion.ofText_cases failed with ⟨found, same, stops⟩ | ⟨items, parsed, rests⟩
  · obtain rfl := Fault.diagnostic.inj same
    exact stops.points
  · cases rests with
    | pointed member quoted => exact .atWord (Lexing.standsAt_of_mem member) quoted
    | unknownRule rule => exact .nowhere rule
    | @unnamed item field inside member isUnnamed fault name =>
      exact .atNoColumn ⟨items, item, parsed, inside, field, member, isUnnamed, fault, name, rfl⟩

/-- A field without a name is found on no column. -/
theorem Field.columnNumber_outset (field : Field) : field.outset.columnNumber = 0 := by
  unfold outset
  cases field.attributes.head? <;> rfl

/-- Every diagnostic but that of an unexpected end has a line and a column of the text, unless it is about a rule that
does not exist or about a field without a name. -/
theorem Expansion.hasPlace_iff (failed : Expansion.ofText text = .error (.diagnostic diagnostic))
    (inside : diagnostic.cause ≠ .unexpectedEnd) :
    Text.HasPlace text.toList diagnostic.place.lineNumber diagnostic.place.columnNumber ↔
      ¬ ((∃ rule, diagnostic = ⟨.unknownRule rule, .unknown⟩) ∨ diagnostic.IsOfUnnamedField text) := by
  constructor
  · rintro place (⟨rule, rfl⟩ | ⟨items, item, -, -, field, -, -, fault, name, rfl⟩)
    · exact absurd place.line_pos (by simp [Place.lineNumber])
    · have column := place.column_pos
      rw [Field.columnNumber_outset] at column
      exact absurd column (by decide)
  · intro other
    cases Expansion.points failed with
    | atWord stands => exact stands.hasPlace
    | nowhere rule => exact absurd (.inl ⟨rule, rfl⟩) other
    | atNoColumn unnamed => exact absurd (.inr unnamed) other
    | atEnd => exact absurd rfl inside

/-- The place of an unknown option is that of its key. -/
theorem Expansion.hasPlace_iff_unknownOption :
    ∃ diagnostic, Expansion.ofText "#[pyclass]\nstruct A \x7b #[pyo3(got)] a: u8 \x7d" = .error (.diagnostic diagnostic) ∧
      diagnostic.cause ≠ .unexpectedEnd ∧
      (Text.HasPlace "#[pyclass]\nstruct A \x7b #[pyo3(got)] a: u8 \x7d".toList diagnostic.place.lineNumber
          diagnostic.place.columnNumber ↔
        ¬ ((∃ rule, diagnostic = ⟨.unknownRule rule, .unknown⟩) ∨
          diagnostic.IsOfUnnamedField "#[pyclass]\nstruct A \x7b #[pyo3(got)] a: u8 \x7d")) := by
  have found : Expansion.fault? "#[pyclass]\nstruct A \x7b #[pyo3(got)] a: u8 \x7d" =
      some (.diagnostic ⟨.unknownOption "got", .point ⟨29, 2, 19⟩⟩) := by
    decide +kernel
  have failed := Expansion.fault?_eq_some.mp found
  exact ⟨_, failed, nofun, Expansion.hasPlace_iff failed nofun⟩

/-- A rule that does not exist is reported nowhere, although its key has a place. -/
theorem Expansion.unknownRule_noPlace :
    ∃ diagnostic, Expansion.ofText "#[pyclass(rename_all = \"bad\")] struct A;" = .error (.diagnostic diagnostic) ∧
      diagnostic.cause ≠ .unexpectedEnd ∧
      ¬ Text.HasPlace "#[pyclass(rename_all = \"bad\")] struct A;".toList diagnostic.place.lineNumber
        diagnostic.place.columnNumber := by
  have found : Expansion.fault? "#[pyclass(rename_all = \"bad\")] struct A;" =
      some (.diagnostic ⟨.unknownRule "bad", .unknown⟩) := by
    decide +kernel
  exact ⟨_, Expansion.fault?_eq_some.mp found, nofun, by decide⟩

/-- A diagnostic about a word of the text points at a place where the text goes on with that word. -/
theorem Expansion.ident_isPrefix (failed : Expansion.ofText text = .error (.diagnostic diagnostic))
    (quoted : diagnostic.cause.isQuoted = true) :
    Text.HasPlace text.toList diagnostic.place.lineNumber diagnostic.place.columnNumber ∧
      diagnostic.cause.ident.toList <+:
        Text.fromPlace text.toList diagnostic.place.lineNumber diagnostic.place.columnNumber := by
  cases Expansion.points failed with
  | atWord stands same => exact ⟨stands.hasPlace, same quoted ▸ stands.isPrefix⟩
  | nowhere => cases quoted
  | atNoColumn unnamed =>
    obtain ⟨items, item, -, -, field, -, -, fault, name, rfl⟩ := unnamed
    cases quoted
  | atEnd => cases quoted

/-- A parameter that no signature names is found on the second line. -/
theorem Expansion.ident_isPrefix_missingParameter :
    ∃ diagnostic, Expansion.ofText "#[pyfunction(signature = (a))]\nfn f(a: u8, /* */ b: u8);" =
        .error (.diagnostic diagnostic) ∧ diagnostic.cause.isQuoted = true ∧
      Text.HasPlace "#[pyfunction(signature = (a))]\nfn f(a: u8, /* */ b: u8);".toList diagnostic.place.lineNumber
        diagnostic.place.columnNumber ∧
      diagnostic.cause.ident.toList <+: Text.fromPlace "#[pyfunction(signature = (a))]\nfn f(a: u8, /* */ b: u8);".toList
        diagnostic.place.lineNumber diagnostic.place.columnNumber := by
  have found : Expansion.fault? "#[pyfunction(signature = (a))]\nfn f(a: u8, /* */ b: u8);" =
      some (.diagnostic ⟨.signature .missingParameter "b", .point ⟨49, 2, 19⟩⟩) := by
    decide +kernel
  have failed := Expansion.fault?_eq_some.mp found
  exact ⟨_, failed, rfl, Expansion.ident_isPrefix failed rfl⟩

end Diagnostics

/-! What breaks the program off -/

/-- A literal of a text stands for nothing that can be written: a string has an escape of no character, or the value of a
variant has too many digits. -/
def Fault.IsUnwritable (text : String) : Fault → Prop
  | diagnostic _ => False
  | codePoint value => ¬ value.isValidChar ∧ ∃ token ∈ (Lexing.ofText text).tokens,
      LeafKind.ofTerminal token.terminal = .string ∧ Literal.Escapes token.text.toList value
  | numeral => ∃ items item value, parse text = .ok items ∧ .enumItem item ∈ Item.flattenAll items ∧
      some value ∈ EnumDescriptor.values (some 0) item.variants ∧ Numeral.maxDigits < (toString value.natAbs).length

/-- A text has expansions, or it is refused with a diagnostic, or a literal in it stands for nothing. -/
theorem Expansion.ofText_explained (text : String) :
    (∃ expansions, ofText text = .ok expansions) ∨ (∃ diagnostic, ofText text = .error (.diagnostic diagnostic)) ∨
      ∃ fault, ofText text = .error fault ∧ fault.IsUnwritable text := by
  cases failed : ofText text with
  | ok expansions => exact .inl ⟨expansions, rfl⟩
  | error fault =>
    rcases ofText_cases failed with ⟨found, rfl, -⟩ | ⟨items, parsed, rests⟩
    · exact .inr (.inl ⟨found, rfl⟩)
    · cases rests with
      | codePoint member isString escapes invalid =>
        exact .inr (.inr ⟨_, rfl, invalid, _, member, isString, escapes⟩)
      | numeral inside member long => exact .inr (.inr ⟨_, rfl, items, _, _, parsed, inside, member, long⟩)
      | _ => exact .inr (.inl ⟨_, rfl⟩)

/-- The texts of a summary that may hold markup. -/
def Report.Summary.texts (summary : Report.Summary) : List String := summary.title :: summary.rows.flatten

/-- What a command about a text ends with: an answer, a line that reports a diagnostic, or nothing because of a literal
of the text or of markup in a plain summary. -/
inductive Command.Ends (command : Command) (file text : String) : Except Interruption Reply → Prop
  | answered {expansions : List Expansion} {reply : Reply} (accepted : Expansion.ofText text = .ok expansions)
      (exit : reply.exitCode = 0) (silent : reply.errors = "") : Ends command file text (.ok reply)
  | refused {diagnostic : Diagnostic} (failed : Expansion.ofText text = .error (.diagnostic diagnostic)) :
      Ends command file text (.ok ⟨1, "", file ++ ":" ++ toString diagnostic.place.lineNumber ++ ":" ++
        toString diagnostic.place.columnNumber ++ ": error: " ++ diagnostic.message ++ "\n", none⟩)
  | unwritable {fault : Fault} (failed : Expansion.ofText text = .error fault) (isUnwritable : fault.IsUnwritable text) :
      Ends command file text (.error (.fault fault))
  | unshown {expansions : List Expansion} {expansion : Expansion} {part : String} {failure : Report.Markup.Failure}
      (accepted : Expansion.ofText text = .ok expansions) (plain : command = .info false)
      (member : expansion ∈ expansions) (inside : part ∈ (Report.Summary.ofDescriptor expansion.descriptor).texts)
      (failed : Report.Markup.shown part = .error failure) : Ends command file text (.error (.markup failure))

/-- A list of results fails with one of its elements. -/
theorem exists_error_of_mapM {element value error : Type} {transform : element → Except error value}
    {elements : List element} {failure : error} (failed : elements.mapM transform = .error failure) :
    ∃ given ∈ elements, transform given = .error failure := by
  induction elements with
  | nil => cases failed
  | cons first rest again =>
    rw [List.mapM_cons] at failed
    cases ofFirst : transform first with
    | error other =>
      rw [ofFirst] at failed
      cases failed
      exact ⟨first, List.mem_cons_self, ofFirst⟩
    | ok found =>
      rw [ofFirst] at failed
      cases ofRest : rest.mapM transform with
      | error other =>
        rw [ofRest] at failed
        cases failed
        obtain ⟨given, inside, ofGiven⟩ := again ofRest
        exact ⟨given, List.mem_cons_of_mem _ inside, ofGiven⟩
      | ok others =>
        rw [ofRest] at failed
        cases failed

/-- A summary is not written for one of its texts that cannot be shown. -/
theorem Report.Summary.exists_of_text {summary : Report.Summary} {failure : Report.Markup.Failure}
    (failed : summary.text = .error failure) : ∃ part ∈ summary.texts, Report.Markup.shown part = .error failure := by
  unfold Report.Summary.text at failed
  cases title : Report.Markup.shown summary.title with
  | error other =>
    rw [title] at failed
    cases failed
    exact ⟨summary.title, List.mem_cons_self, title⟩
  | ok shown =>
    rw [title] at failed
    cases rows : summary.rows.mapM fun row => row.mapM Report.Markup.shown with
    | error other =>
      rw [rows] at failed
      cases failed
      obtain ⟨row, inside, ofRow⟩ := exists_error_of_mapM rows
      obtain ⟨part, member, ofPart⟩ := exists_error_of_mapM ofRow
      exact ⟨part, List.mem_cons_of_mem _ (List.mem_flatten_of_mem inside member), ofPart⟩
    | ok cells =>
      rw [rows] at failed
      cases failed

theorem Command.answer_ends {command : Command} {file text : String} {expansions : List Expansion}
    (accepted : Expansion.ofText text = .ok expansions) : command.Ends file text (answer expansions command) := by
  cases command with
  | expand runtime => exact .answered accepted rfl rfl
  | info asJson =>
    cases asJson with
    | true => exact .answered accepted rfl rfl
    | false =>
      rw [answer]
      cases summarized : summaryText (expansions.map (·.descriptor)) with
      | ok summary => exact .answered accepted rfl rfl
      | error failure =>
        have failed : ((expansions.map (·.descriptor)).mapM fun descriptor =>
            (Report.Summary.ofDescriptor descriptor).text) = .error failure := by
          unfold summaryText at summarized
          cases written : (expansions.map (·.descriptor)).mapM fun descriptor =>
              (Report.Summary.ofDescriptor descriptor).text with
          | ok texts => simp [written, bind, Except.bind, pure, Except.pure] at summarized
          | error other =>
            rw [written] at summarized
            cases summarized
            rfl
        obtain ⟨descriptor, listed, ofDescriptor⟩ := exists_error_of_mapM failed
        obtain ⟨expansion, member, rfl⟩ := List.mem_map.mp listed
        obtain ⟨part, inside, ofPart⟩ := Report.Summary.exists_of_text ofDescriptor
        exact .unshown accepted rfl member inside ofPart

end Exposure
