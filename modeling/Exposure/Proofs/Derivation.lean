import Exposure.Proofs.Phrase
import Exposure.Syntax.Rules

/-!
The rules of the declaration language describe what its productions derive, one rule for every kind of phrase.
-/

namespace Exposure

open Computability

namespace Form

theorem language_andThen (first second : Form) : (first >> second).language = first.language * second.language :=
  language_sequence first second

theorem language_orElse (first second : Form) : (first <|> second).language = first.language + second.language :=
  language_choice first second

theorem language_optional (body : Form) : body.optional.language = body.language + 1 := by
  rw [optional, language_orElse, language_empty]

theorem language_several (body : Form) : body.several.language = body.language * body.language∗ := by
  rw [several, language_andThen, language_repeated]

theorem language_joined (separator : Punctuation) (body : Form) :
    (joined separator body).language = body.language * ((mark separator).language * body.language)∗ := by
  rw [joined, language_andThen, language_repeated, language_andThen]

theorem language_commaSeries (body : Form) :
    (commaSeries body).language =
      body.language * (((mark .comma).language * body.language)∗ * ((mark .comma).language + 1)) := by
  rw [commaSeries, language_andThen, language_joined, language_optional, mul_assoc]

theorem language_commaList (body : Form) :
    (commaList body).language =
      body.language * (((mark .comma).language * body.language)∗ * ((mark .comma).language + 1)) + 1 := by
  rw [commaList, language_optional, language_commaSeries]

end Form

namespace Rule

open Form (phrase)

/-- The token lists that each recursive rule stands for. -/
def named : RuleName → Language Token
  | .tree => (phrase .tree).language
  | .type => (phrase .type).language
  | .item => (phrase .item).language

/-- The token lists that a rule describes. -/
abbrev language {value : Type} (rule : Rule value) : Language Token := Grammar.language named rule

variable {value other : Type}

theorem language_functorMap (transform : value → other) (rule : Rule value) :
    language (transform <$> rule) = language rule := Grammar.language_map transform rule

theorem language_seq (transform : Rule (value → other)) (argument : Rule value) :
    language (transform <*> argument) = language transform * language argument := rfl

theorem language_seqLeft (kept : Rule value) (dropped : Rule other) :
    language (kept <* dropped) = language kept * language dropped := rfl

theorem language_seqRight (dropped : Rule value) (kept : Rule other) :
    language (dropped *> kept) = language dropped * language kept := rfl

theorem language_orElse (first second : Rule value) :
    language (first <|> second) = language first + language second := rfl

theorem language_skip (rule : Rule value) : language (skip rule) = language rule := language_functorMap _ rule

theorem language_many (rule : Rule value) : language (Grammar.many rule) = (language rule)∗ := rfl

theorem language_optional (rule : Rule value) : language (Grammar.optional rule) = language rule + 1 := by
  rw [Grammar.optional, language_orElse, language_functorMap]
  rfl

theorem language_several (rule : Rule value) :
    language (Grammar.several rule) = language rule * (language rule)∗ := by
  rw [Grammar.several, language_seq, language_functorMap, language_many]

theorem language_joined (separator : Rule other) (rule : Rule value) :
    language (Grammar.joined separator rule) = language rule * (language separator * language rule)∗ := by
  rw [Grammar.joined, language_seq, language_functorMap, language_many, language_seqRight]

theorem language_satisfying (wanted : Terminal → Bool) {classes : List Terminal}
    (same : ∀ terminal, wanted terminal = classes.contains terminal) :
    language (satisfying wanted) = (Form.anyOf classes).language := by
  rw [Form.language_anyOf]
  simp only [language, satisfying, Grammar.language, same, List.contains_iff_mem]

theorem language_terminal (wanted : Terminal) : language (terminal wanted) = (Form.terminal wanted).language := by
  rw [Form.terminal, Form.language_anyOf]
  simp only [language, terminal, Grammar.language, List.mem_singleton, decide_eq_true_eq]

theorem language_commaList (rule : Rule value) :
    language (commaList rule) =
      language rule * (((Form.mark .comma).language * language rule)∗ * ((Form.mark .comma).language + 1)) + 1 := by
  rw [commaList, Grammar.separated, language_orElse, language_seqLeft, language_seq, language_functorMap, language_many,
    language_seqRight, language_optional, mark, language_terminal, mul_assoc]
  rfl

theorem language_within (delimiter : Delimiter) (rule : Rule value) :
    language (within delimiter rule) =
      (Form.mark delimiter.opening).language * (language rule * (Form.mark delimiter.closing).language) := by
  rw [within, language_seqLeft, language_seqRight, mark, mark, language_terminal, language_terminal, mul_assoc]
  rfl

theorem language_word (keyword : Keyword) : language (word keyword) = (Form.word keyword).language :=
  language_terminal (.word keyword)

theorem language_mark (punctuation : Punctuation) : language (mark punctuation) = (Form.mark punctuation).language :=
  language_terminal (.mark punctuation)

theorem language_ident : language ident = Form.ident.language := language_terminal .ident

attribute [simp] Form.language_andThen Form.language_orElse Form.language_optional Form.language_several
  Form.language_joined Form.language_commaSeries Form.language_commaList Form.language_repeated
  language_functorMap language_seq language_seqLeft language_seqRight language_orElse language_skip language_many
  language_optional language_several language_joined language_terminal language_commaList language_within language_word
  language_mark language_ident

/-! Token trees -/

@[simp] theorem language_tree : language tree = (phrase .tree).language := rfl

@[simp] theorem language_trees : language trees = (phrase .tree).language∗ := rfl

@[simp] theorem language_group (delimiter : Delimiter) :
    language (group delimiter) =
      (Form.mark delimiter.opening).language *
        ((phrase .tree).language∗ * (Form.mark delimiter.closing).language) := by
  simp [group]

@[simp] theorem language_anyGroup : language anyGroup = (phrase .group).language := by
  simp [anyGroup, Form.language_phrase .group, Form.inParens, Form.inBrackets, Form.inBraces, Phrase.trees,
    Delimiter.opening, Delimiter.closing]

@[simp] theorem language_plainLeaf : language plainLeaf = (phrase .leaf).language := by
  have same : ∀ terminal, isPlainLeaf terminal = Phrase.leafClasses.contains terminal := by
    intro terminal
    cases terminal with
    | word keyword => cases keyword <;> rfl
    | mark punctuation => cases punctuation <;> rfl
    | _ => rfl
  rw [plainLeaf, language_functorMap, language_satisfying _ same, Form.language_phrase, Phrase.production]

theorem language_treeRule : language treeRule = (phrase .tree).language := by
  simp [treeRule, Form.language_phrase .tree, Form.language_phrase .semicolon]

@[simp] theorem language_treeInStatement : language treeInStatement = (phrase .treeInStatement).language := by
  simp [treeInStatement, Form.language_phrase .treeInStatement]

/-! Attributes -/

@[simp] theorem language_identPath : language identPath = (phrase .path).language := by
  simp [identPath, Form.language_phrase .path]

@[simp] theorem language_attributeInput : language attributeInput = (phrase .attributeInput).language := by
  simp [attributeInput, Form.language_phrase .attributeInput, Form.inParens, Phrase.trees,
    Delimiter.opening, Delimiter.closing]

@[simp] theorem language_bracketAttribute : language bracketAttribute = (phrase .bracketAttribute).language := by
  simp [bracketAttribute, Form.language_phrase .bracketAttribute, Form.inBrackets, mul_assoc,
    Delimiter.opening, Delimiter.closing]

@[simp] theorem language_outerAttribute : language outerAttribute = (phrase .outerAttribute).language := by
  simp [outerAttribute, Form.language_phrase .outerAttribute]

@[simp] theorem language_outerAttributes : language outerAttributes = (phrase .outerAttribute).language∗ := by
  simp [outerAttributes]

@[simp] theorem language_innerAttribute : language innerAttribute = (phrase .innerAttribute).language := by
  simp [innerAttribute, Form.language_phrase .innerAttribute, Form.inBrackets, Phrase.trees,
    mul_assoc, Delimiter.opening, Delimiter.closing]

@[simp] theorem language_isVisible : language isVisible = (phrase .visibility).language + 1 := by
  simp [isVisible, visibility, Form.language_phrase .visibility, Form.inParens, Phrase.trees,
    Delimiter.opening, Delimiter.closing]

/-! Types -/

@[simp] theorem language_openType : language openType = (phrase .type).language := rfl

@[simp] theorem language_typeExpr : language typeExpr = (phrase .type).language := by
  simp [typeExpr]

@[simp] theorem language_output : language output = (phrase .output).language := by
  simp [output, Form.language_phrase .output]

@[simp] theorem language_typeArgument : language typeArgument = (phrase .typeArgument).language := by
  simp [typeArgument, lifetimeExpr, Form.language_phrase .typeArgument, Form.inBraces, Phrase.trees,
    Delimiter.opening, Delimiter.closing]

@[simp] theorem language_typeArguments : language typeArguments = (phrase .typeArguments).language := by
  simp [typeArguments, Form.language_phrase .typeArguments, Form.inAngles, mul_assoc]

@[simp] theorem language_pathSegment : language pathSegment = (phrase .pathSegment).language := by
  simp [pathSegment, Form.language_phrase .pathSegment, Form.inParens, mul_assoc,
    Delimiter.opening, Delimiter.closing]

@[simp] theorem language_pathType : language pathType = (phrase .pathType).language := by
  simp [pathType, Form.language_phrase .pathType]

@[simp] theorem language_bound : language bound = (phrase .bound).language := by
  simp [bound, lifetimeExpr, Form.language_phrase .bound, Form.inParens,
    Delimiter.opening, Delimiter.closing]

@[simp] theorem language_bounds : language bounds = (phrase .bounds).language := by
  simp [bounds, Form.language_phrase .bounds]

theorem language_sequenceType :
    language sequenceType = (phrase .sliceType).language + (phrase .arrayType).language := by
  simp [-add_eq_sup, sequenceType, Form.language_phrase .sliceType, Form.language_phrase .arrayType,
    Form.inBrackets, Delimiter.opening, Delimiter.closing, mul_assoc, mul_add, add_mul, add_comm]

theorem language_typeRule : language typeRule = (phrase .type).language := by
  rw [Form.language_phrase .type]
  simp [-add_eq_sup, typeRule, boundedType, referenceType, pointerType, language_sequenceType,
    Form.language_phrase .referenceType, Form.language_phrase .pointerType, Form.language_phrase .tupleType,
    Form.language_phrase .implType, Form.language_phrase .dynType, Form.language_phrase .neverType,
    Form.inParens, Delimiter.opening, Delimiter.closing, mul_assoc, mul_add, add_mul, add_assoc]

/-! Generics -/

theorem language_outlives :
    language outlives = (Form.mark .colon).language * (Form.joined .plus (.terminal .lifetime)).language := by
  simp [outlives]

theorem language_genericParameter : language genericParameter = (phrase .genericParameter).language := by
  simp [-add_eq_sup, genericParameter, language_outlives, Form.language_phrase .genericParameter, mul_assoc,
    mul_add, add_mul, add_assoc]

@[simp] theorem language_maybeGenerics : language maybeGenerics = (phrase .generics).language + 1 := by
  simp [maybeGenerics, generics, language_genericParameter, Form.language_phrase .generics,
    Form.inAngles, mul_assoc]

theorem language_whereCondition : language whereCondition = (phrase .whereCondition).language := by
  simp [whereCondition, language_outlives, Form.language_phrase .whereCondition, mul_assoc]

@[simp] theorem language_maybeWhere : language maybeWhere = (phrase .whereClause).language + 1 := by
  simp [maybeWhere, language_whereCondition, Form.language_phrase .whereClause]

/-! Structures and enumerations -/

@[simp] theorem language_namedFields : language namedFields = (phrase .namedFields).language := by
  simp [namedFields, namedField, Form.language_phrase .namedFields, Form.language_phrase .namedField,
    Form.inBraces, Delimiter.opening, Delimiter.closing, mul_assoc]

@[simp] theorem language_tupleFields : language tupleFields = (phrase .tupleFields).language := by
  simp [tupleFields, tupleField, Form.language_phrase .tupleFields, Form.language_phrase .tupleField,
    Form.inParens, Delimiter.opening, Delimiter.closing, mul_assoc]

@[simp] theorem language_structDeclaration : language structDeclaration = (phrase .structDeclaration).language := by
  simp [-add_eq_sup, structDeclaration, Form.language_phrase .structDeclaration, mul_assoc]
  -- the part that both forms begin with is taken out of every summand, and only then the summands are put in order
  simp only [mul_add, add_assoc, add_comm, add_left_comm]

@[simp] theorem language_discriminant : language discriminant = (phrase .discriminant).language := by
  have same : ∀ terminal, isDiscriminantLeaf terminal = Phrase.discriminantClasses.contains terminal := by
    intro terminal
    cases terminal with
    | word keyword => cases keyword <;> rfl
    | mark punctuation => cases punctuation <;> rfl
    | _ => rfl
  simp [discriminant, language_satisfying _ same, Form.language_phrase .discriminant,
    Form.language_phrase .discriminantTree, Form.language_phrase .discriminantLeaf]

@[simp] theorem language_enumDeclaration : language enumDeclaration = (phrase .enumDeclaration).language := by
  simp [enumDeclaration, variant, Form.language_phrase .enumDeclaration, Form.language_phrase .variant,
    Form.inBraces, Delimiter.opening, Delimiter.closing, mul_assoc]

/-! Functions and blocks of functions -/

theorem language_functionQualifier : language functionQualifier = (phrase .functionQualifier).language := by
  simp [functionQualifier, Form.language_phrase .functionQualifier]

theorem language_parameter : language parameter = (phrase .parameter).language := by
  simp [-add_eq_sup, parameter, Form.language_phrase .parameter, mul_assoc, mul_add,
    add_mul]

@[simp] theorem language_functionDeclaration :
    language functionDeclaration = (phrase .functionDeclaration).language := by
  simp [functionDeclaration, language_functionQualifier, language_parameter, Form.language_phrase .functionDeclaration,
    Form.language_phrase .parameters, Form.language_phrase .output, Form.language_phrase .block,
    Form.inParens, Form.inBraces, Phrase.trees, Delimiter.opening, Delimiter.closing, mul_assoc]

@[simp] theorem language_item : language item = (phrase .item).language := rfl

@[simp] theorem language_items : language items = (phrase .item).language∗ := by
  simp [items]

theorem language_implHead : language implHead = (phrase .implHead).language := by
  simp [-add_eq_sup, implHead, Form.language_phrase .implHead, mul_assoc, mul_add, add_mul, add_comm,
    add_assoc]

@[simp] theorem language_implDeclaration : language implDeclaration = (phrase .implDeclaration).language := by
  simp [implDeclaration, language_implHead, Form.language_phrase .implDeclaration, Form.inBraces,
    Delimiter.opening, Delimiter.closing, mul_assoc]

/-! Modules and the other items -/

theorem language_moduleItems : language moduleItems = (phrase .moduleItem).language∗ := by
  simp [moduleItems, Form.language_phrase .moduleItem]

@[simp] theorem language_moduleDeclaration : language moduleDeclaration = (phrase .moduleDeclaration).language := by
  simp [-add_eq_sup, moduleDeclaration, language_moduleItems, Form.language_phrase .moduleDeclaration,
    Form.inBraces, Delimiter.opening, Delimiter.closing, mul_assoc, mul_add]

@[simp] theorem language_importDeclaration : language importDeclaration = (phrase .importDeclaration).language := by
  have same : ∀ terminal, isImportToken terminal = Phrase.importClasses.contains terminal := by
    intro terminal
    cases terminal with
    | word keyword => cases keyword <;> rfl
    | mark punctuation => cases punctuation <;> rfl
    | _ => rfl
  simp [importDeclaration, language_satisfying _ same, Form.language_phrase .importDeclaration,
    Form.language_phrase .importToken, mul_assoc]

@[simp] theorem language_constantDeclaration :
    language constantDeclaration = (phrase .constantDeclaration).language := by
  simp [-add_eq_sup, constantDeclaration, Form.language_phrase .constantDeclaration, mul_assoc,
    mul_add, add_mul]

@[simp] theorem language_aliasDeclaration : language aliasDeclaration = (phrase .aliasDeclaration).language := by
  simp [aliasDeclaration, Form.language_phrase .aliasDeclaration, mul_assoc]

@[simp] theorem language_traitDeclaration : language traitDeclaration = (phrase .traitDeclaration).language := by
  simp [traitDeclaration, Form.language_phrase .traitDeclaration, Form.language_phrase .traitHeadTree,
    Form.inParens, Form.inBrackets, Form.inBraces, Phrase.trees, Delimiter.opening,
    Delimiter.closing, mul_assoc]

@[simp] theorem language_invocation : language invocation = (phrase .invocation).language := by
  simp [-add_eq_sup, invocation, Form.language_phrase .invocation, Form.inParens, Form.inBrackets,
    Form.inBraces, Phrase.trees, Delimiter.opening, Delimiter.closing, mul_assoc, mul_add]

@[simp] theorem language_externDeclaration : language externDeclaration = (phrase .externDeclaration).language := by
  simp [externDeclaration, Form.language_phrase .externDeclaration, mul_assoc]

theorem language_declaration : language declaration = (phrase .declaration).language := by
  simp [-add_eq_sup, declaration, Form.language_phrase .declaration]

theorem language_itemRule : language itemRule = (phrase .item).language := by
  rw [Form.language_phrase .item]
  simp [itemRule, Grammar.language, language_declaration, mul_assoc]

end Rule

end Exposure
