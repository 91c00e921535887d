import Exposure.Proofs.Agreement
import Exposure.Proofs.Description

/-!
What is described does not depend on where it stands: without its positions an item is described as before, or is at
fault as before.
-/

namespace Exposure

open Outcome (Carries carries_report carries_id carries_foldlM carries_mapM)

section Lists

variable {value : Type} [Placed value]

@[simp] theorem unplaced_nil : unplaced ([] : List value) = [] := rfl

@[simp] theorem unplaced_cons (first : value) (rest : List value) :
    unplaced (first :: rest) = unplaced first :: unplaced rest := rfl

theorem unplaced_append (one two : List value) : unplaced (one ++ two) = unplaced one ++ unplaced two := List.map_append

/-- A choice that ignores positions chooses the same. -/
theorem filter_unplaced {keeps : value → Bool} (ignores : ∀ one, keeps (unplaced one) = keeps one) (values : List value) :
    (unplaced values).filter keeps = unplaced (values.filter keeps) := by
  have same : keeps ∘ unplaced = keeps := funext ignores
  show (values.map unplaced).filter keeps = (values.filter keeps).map unplaced
  rw [List.filter_map, same]

theorem isEmpty_unplaced (values : List value) : (unplaced values).isEmpty = values.isEmpty := List.isEmpty_map

end Lists

/-! Token trees -/

namespace TokenTree

@[simp] theorem unplaced_leaf (token : Leaf) : unplaced (leaf token) = leaf (unplaced token) := rfl

@[simp] theorem unplaced_group (delimiter : Delimiter) (trees : List TokenTree) (position : Position) :
    unplaced (group delimiter trees position) = group delimiter (unplaced trees) .start := by
  rw [← withoutPlacesAll_eq]
  rfl

@[simp] theorem isMark_unplaced (tree : TokenTree) (mark : Punctuation) :
    (unplaced tree).isMark mark = tree.isMark mark := by
  cases tree <;> rfl

theorem splitAtCommas_unplaced (trees : List TokenTree) :
    splitAtCommas (unplaced trees) = unplaced (splitAtCommas trees) := by
  have split : List.splitOnP isComma (unplaced trees) = unplaced (List.splitOnP isComma trees) := by
    induction trees with
    | nil => rfl
    | cons first rest step =>
      have same : isComma (unplaced first) = isComma first := isComma_withoutPlaces first
      rw [unplaced_cons, List.splitOnP_cons_eq_if_modifyHead, List.splitOnP_cons_eq_if_modifyHead, same, step]
      split
      · rfl
      · cases List.splitOnP isComma rest <;> rfl
  have ignores (piece : List TokenTree) : (!(unplaced piece).isEmpty) = !piece.isEmpty :=
    congrArg not (isEmpty_unplaced piece)
  rw [splitAtCommas, split, splitAtCommas]
  exact filter_unplaced ignores _

end TokenTree

namespace Leaf

@[simp] theorem text_unplaced (leaf : Leaf) : (unplaced leaf).text = leaf.text := rfl

@[simp] theorem kind_unplaced (leaf : Leaf) : (unplaced leaf).kind = leaf.kind := rfl

end Leaf

namespace DefaultValue

theorem renderLeaf_unplaced (leaf : Leaf) : renderLeaf (unplaced leaf) = renderLeaf leaf := rfl

theorem render_unplaced (trees : List TokenTree) : render (unplaced trees) = render trees := by
  fun_induction render trees with
  | case1 leaf => simp [render, renderLeaf_unplaced]
  | case2 before inside place isSome step => simp [render, isSome, step]
  | case3 before inside place isOther => simp [render, isOther]
  | case4 before number isNegative => simp_all [render]
  | case5 before number isOther => simp_all [render]
  | case6 trees noLeaf noSome noNegative =>
    rcases trees with _ | ⟨first, _ | ⟨second, _ | ⟨third, rest⟩⟩⟩
    · simp [render]
    · cases first with
      | leaf leaf => exact absurd rfl (noLeaf leaf)
      | group delimiter inside place => simp [render]
    · cases first with
      | group delimiter inside place => simp [render]
      | leaf before =>
        cases second with
        | leaf number => exact absurd rfl (noNegative before number)
        | group delimiter inside place =>
          cases delimiter with
          | paren => exact absurd rfl (noSome before inside place)
          | bracket => simp [render]
          | brace => simp [render]
    · cases first <;> cases second <;> simp [render]

theorem integer?_unplaced (trees : List TokenTree) : integer? (unplaced trees) = integer? trees := by
  rw [integer?, render_unplaced, integer?]

end DefaultValue

/-! Attributes -/

namespace Attribute

theorem arguments_unplaced (attr : Attribute) : (unplaced attr).arguments = unplaced attr.arguments := by
  rcases attr with ⟨path, _ | trees | tree, position⟩ <;> rfl

theorem arguments_singleton_unplaced (attr : Attribute) : [(unplaced attr).arguments] = unplaced [attr.arguments] :=
  congrArg (· :: []) attr.arguments_unplaced

theorem withName_unplaced (name : String) (attributes : List Attribute) :
    withName name (unplaced attributes) = unplaced (withName name attributes) := filter_unplaced (fun _ => rfl) _

end Attribute

namespace Documentation

theorem linesOf_unplaced (attr : Attribute) : linesOf (unplaced attr) = linesOf attr := by
  rcases attr with ⟨path, _ | trees | (leaf | ⟨delimiter, inside, place⟩), position⟩ <;> rfl

theorem mapM_linesOf_unplaced (attributes : List Attribute) :
    (unplaced attributes).mapM linesOf = attributes.mapM linesOf := by
  show (attributes.map unplaced).mapM linesOf = attributes.mapM linesOf
  rw [List.mapM_map]
  exact congrArg attributes.mapM (funext linesOf_unplaced)

theorem ofAttributes_unplaced (attributes : List Attribute) :
    ofAttributes (unplaced attributes) = ofAttributes attributes := by
  rw [ofAttributes, mapM_linesOf_unplaced, ofAttributes]

end Documentation

/-! Options -/

instance : Placed EntryForm where
  unplaced
    | .named name default => .named name (unplaced default)
    | other => other

instance : Placed SignatureEntry := ⟨fun entry => ⟨unplaced entry.form, .start⟩⟩

instance : Placed OptionKey := ⟨id⟩

instance : Placed OptionValue where
  unplaced
    | .entries entries => .entries (unplaced entries)
    | other => other

instance : Placed Options := ⟨fun options => { options with signature := unplaced options.signature }⟩

namespace SignatureEntry

theorem ident?_unplaced (tree : TokenTree) : ident? (unplaced tree) = (ident? tree).map unplaced := by
  cases tree with
  | leaf leaf =>
    show Option.filter _ (some (unplaced leaf)) = (Option.filter _ (some leaf)).map unplaced
    simp only [Option.filter_some, Leaf.kind_unplaced]
    split <;> rfl
  | group delimiter inside place => simp [ident?, TokenTree.leaf?]

theorem form?_unplaced (piece : List TokenTree) : form? (unplaced piece) = (form? piece).map unplaced := by
  have named (tree : TokenTree) {form : String → EntryForm} (still : ∀ name, unplaced (form name) = form name) :
      ((ident? (unplaced tree)).map fun leaf => form leaf.text) =
        ((ident? tree).map fun leaf => form leaf.text).map unplaced := by
    rw [ident?_unplaced]
    cases ident? tree with
    | none => rfl
    | some leaf => exact congrArg some (still leaf.text).symm
  rcases piece with _ | ⟨first, _ | ⟨second, _ | ⟨third, rest⟩⟩⟩
  · rfl
  · simp only [unplaced_cons, unplaced_nil, form?, TokenTree.isMark_unplaced]
    split
    · rfl
    split
    · rfl
    · exact @named first (.named · none) fun _ => rfl
  · simp only [unplaced_cons, unplaced_nil, form?, TokenTree.isMark_unplaced]
    split
    · exact @named second .variadicPositional fun _ => rfl
    · rfl
  · simp only [unplaced_cons, form?, TokenTree.isMark_unplaced, isEmpty_unplaced]
    split
    · exact @named third .variadicKeyword fun _ => rfl
    split
    · rw [ident?_unplaced]
      cases ident? first <;> rfl
    · rfl

theorem ofPiece_carries (key : String) (piece : List TokenTree) :
    Carries unplaced (ofPiece key piece) (ofPiece key (unplaced piece)) := by
  have atStart : ((unplaced piece).head?.map TokenTree.position).getD .start = .start := by
    rcases piece with _ | ⟨(leaf | ⟨delimiter, inside, place⟩), rest⟩ <;> rfl
  simp only [ofPiece, form?_unplaced, atStart]
  cases form? piece with
  | none =>
    rw [TokenTree.renderAll_unplaced]
    rfl
  | some form => rfl

theorem ofTree_carries (key : String) (tree : TokenTree) :
    Carries unplaced (ofTree key tree) (ofTree key (unplaced tree)) := by
  cases tree with
  | leaf leaf => exact rfl
  | group delimiter inside place =>
    cases delimiter with
    | paren =>
      rw [TokenTree.unplaced_group, ofTree, ofTree, TokenTree.splitAtCommas_unplaced]
      exact carries_mapM (ofPiece_carries key) _
    | bracket => exact rfl
    | brace => exact rfl

end SignatureEntry

namespace OptionPairs

open SignatureEntry

theorem keyOfPiece_carries (vocabulary : Vocabulary) (first : TokenTree) (piece : List TokenTree) :
    Carries (Prod.map id unplaced) (keyOfPiece vocabulary first piece)
      (keyOfPiece vocabulary (unplaced first) (unplaced piece)) := by
  simp only [keyOfPiece, ident?_unplaced]
  cases ident? first with
  | none =>
    rw [TokenTree.renderAll_unplaced]
    rfl
  | some leaf =>
    simp only [Option.map_some, Leaf.text_unplaced]
    cases vocabulary.find? leaf.text with
    | none => exact rfl
    | some key => rfl

theorem stringLiteral?_unplaced (trees : List TokenTree) : stringLiteral? (unplaced trees) = stringLiteral? trees := by
  rcases trees with _ | ⟨(leaf | ⟨delimiter, inside, place⟩), _ | ⟨second, rest⟩⟩ <;> rfl

theorem valueOfPiece_carries (key : OptionKey) (leaf : Leaf) (rest : List TokenTree) :
    Carries unplaced (valueOfPiece key leaf rest) (valueOfPiece key (unplaced leaf) (unplaced rest)) := by
  rcases rest with _ | ⟨equals, _ | ⟨first, others⟩⟩
  · cases key <;> exact rfl
  · cases key <;> exact rfl
  · have literal : stringLiteral? (unplaced first :: unplaced others) = stringLiteral? (first :: others) :=
      stringLiteral?_unplaced (first :: others)
    have decoded (literal : String) :
        Carries unplaced (OptionValue.text <$> Literal.decode literal) (OptionValue.text <$> Literal.decode literal) :=
      (carries_id _).map fun _ => rfl
    simp only [unplaced_cons]
    cases key with
    | flag flag => exact rfl
    | signature =>
      simp only [valueOfPiece, TokenTree.isMark_unplaced, isEmpty_unplaced, Leaf.text_unplaced]
      split
      · split
        · exact (ofTree_carries leaf.text first).map fun _ => rfl
        · exact rfl
      · exact rfl
    | base =>
      simp only [valueOfPiece, TokenTree.isMark_unplaced, literal]
      split
      · cases stringLiteral? (first :: others) with
        | none => exact congrArg OptionValue.text (TokenTree.renderAll_unplaced (first :: others))
        | some text => exact decoded text
      · exact rfl
    | _ =>
      simp only [valueOfPiece, TokenTree.isMark_unplaced, literal]
      split
      · cases stringLiteral? (first :: others) with
        | none => exact rfl
        | some text => exact decoded text
      · exact rfl

theorem any_fst_unplaced (pairs : OptionPairs) (wanted : OptionKey → Bool) :
    ((unplaced pairs).any fun pair => wanted pair.1) = pairs.any fun pair => wanted pair.1 := List.any_map

theorem addPiece_carries (vocabulary : Vocabulary) (pairs : OptionPairs) (piece : List TokenTree) :
    Carries unplaced (addPiece vocabulary pairs piece) (addPiece vocabulary (unplaced pairs) (unplaced piece)) := by
  cases piece with
  | nil => exact rfl
  | cons first rest =>
    refine (keyOfPiece_carries vocabulary first (first :: rest)).bind fun ⟨key, leaf⟩ => ?_
    have same := any_fst_unplaced pairs fun other => other = key
    simp only [Prod.map, id]
    rw [same]
    split
    · exact rfl
    · exact (valueOfPiece_carries key leaf rest).bind fun value => (unplaced_append pairs [(key, value)]).symm

theorem addList_carries (vocabulary : Vocabulary) (pairs : OptionPairs) (trees : List TokenTree) :
    Carries unplaced (addList vocabulary pairs trees) (addList vocabulary (unplaced pairs) (unplaced trees)) := by
  rw [addList, addList, TokenTree.splitAtCommas_unplaced]
  exact carries_foldlM (addPiece_carries vocabulary) _ pairs

theorem ofLists_carries (vocabulary : Vocabulary) (lists : List (List TokenTree)) :
    Carries unplaced (ofLists vocabulary lists) (ofLists vocabulary (unplaced lists)) :=
  carries_foldlM (addList_carries vocabulary) lists []

theorem lookup_unplaced (pairs : OptionPairs) (key : OptionKey) :
    (unplaced pairs).lookup key = (pairs.lookup key).map unplaced := by
  induction pairs with
  | nil => rfl
  | cons first rest step =>
    have same : (unplaced first).1 = first.1 := rfl
    rw [unplaced_cons, List.lookup_cons, List.lookup_cons, step, same]
    cases key == first.1 <;> rfl

theorem text?_unplaced (pairs : OptionPairs) (key : OptionKey) : (unplaced pairs).text? key = pairs.text? key := by
  rw [text?, lookup_unplaced, text?]
  rcases pairs.lookup key with _ | (_ | text | entries) <;> rfl

theorem entries?_unplaced (pairs : OptionPairs) : (unplaced pairs).entries? = unplaced pairs.entries? := by
  rw [entries?, lookup_unplaced, entries?]
  generalize List.lookup OptionKey.signature pairs = found
  rcases found with _ | (_ | text | entries) <;> rfl

theorem flags_unplaced (pairs : OptionPairs) : (unplaced pairs).flags = pairs.flags :=
  List.filter_congr fun flag _ => any_fst_unplaced pairs fun key => key = .flag flag

theorem build_carries (pairs : OptionPairs) : Carries unplaced pairs.build (unplaced pairs).build := by
  rw [build, build]
  simp only [text?_unplaced, entries?_unplaced, flags_unplaced]
  cases pairs.text? .renameAll with
  | none => rfl
  | some text =>
    dsimp only
    cases RenameRule.ofText? text with
    | none => exact rfl
    | some rule => rfl

end OptionPairs

namespace Options

theorem ofLists_carries (vocabulary : Vocabulary) (lists : List (List TokenTree)) :
    Carries unplaced (ofLists vocabulary lists) (ofLists vocabulary (unplaced lists)) :=
  (OptionPairs.ofLists_carries vocabulary lists).bind OptionPairs.build_carries

theorem arguments_unplaced (name : String) (attributes : List Attribute) :
    (Attribute.withName name (unplaced attributes)).map Attribute.arguments =
      unplaced ((Attribute.withName name attributes).map Attribute.arguments) := by
  rw [Attribute.withName_unplaced]
  show List.map _ (List.map unplaced _) = List.map unplaced (List.map _ _)
  rw [List.map_map, List.map_map]
  exact List.map_congr_left fun attr _ => Attribute.arguments_unplaced attr

theorem ofAttributes_carries (vocabulary : Vocabulary) (name : String) (attributes : List Attribute)
    (further : List (List TokenTree)) :
    Carries unplaced (ofAttributes vocabulary name attributes further)
      (ofAttributes vocabulary name (unplaced attributes) (unplaced further)) := by
  have same : unplaced further ++ (Attribute.withName name (unplaced attributes)).map Attribute.arguments =
      unplaced (further ++ (Attribute.withName name attributes).map Attribute.arguments) := by
    rw [arguments_unplaced, unplaced_append]
  rw [ofAttributes, ofAttributes, same]
  exact ofLists_carries vocabulary _

/-- The name in a marker is found without positions, or there is a fault as before. -/
theorem markerArgument_carries (marker : Attribute) :
    Carries id (markerArgument marker) (markerArgument (unplaced marker)) := by
  rw [markerArgument, markerArgument, Attribute.arguments_unplaced, isEmpty_unplaced, TokenTree.splitAtCommas_unplaced]
  split
  · rfl
  · rcases TokenTree.splitAtCommas marker.arguments with
      _ | ⟨_ | ⟨(leaf | ⟨delimiter, inside, place⟩), _ | ⟨second, rest⟩⟩, _ | ⟨other, others⟩⟩ <;> try exact rfl
    show Carries id (if leaf.kind = .string then some <$> Literal.decode leaf.text else .ok (some leaf.text))
      (if leaf.kind = .string then some <$> Literal.decode leaf.text else .ok (some leaf.text))
    exact carries_id _

theorem stubDefault?_carries (attributes : List Attribute) :
    Carries id (stubDefault? attributes) (stubDefault? (unplaced attributes)) := by
  rw [stubDefault?, stubDefault?]
  simp only [arguments_unplaced]
  exact (OptionPairs.ofLists_carries _ _).bind fun pairs => OptionPairs.text?_unplaced pairs .default

theorem stubDefaults_carries (parameters : List Parameter) :
    Carries id (stubDefaults parameters) (stubDefaults (unplaced parameters)) := by
  have each (parameter : Parameter) : Carries id
      (do return (← stubDefault? parameter.attributes).map (parameter.name, ·) : Outcome (Option (String × String)))
      (do return (← stubDefault? (unplaced parameter).attributes).map ((unplaced parameter).name, ·)) :=
    (stubDefault?_carries parameter.attributes).bind fun _ => rfl
  refine (carries_mapM each parameters).bind fun found => ?_
  rw [List.map_id]
  rfl

end Options

/-! Signatures -/

instance : Placed Signature.Progress := ⟨fun progress => { progress with star := unplaced progress.star }⟩

namespace Signature

variable (owner : Option String)

theorem visible_unplaced (parameters : List Parameter) : visible (unplaced parameters) = unplaced (visible parameters) :=
  filter_unplaced (fun _ => rfl) parameters

theorem checkDistinct_carries (seen : List String) (parameters : List Parameter) :
    Carries id (checkDistinct seen parameters) (checkDistinct seen (unplaced parameters)) := by
  induction parameters generalizing seen with
  | nil => rfl
  | cons parameter rest step =>
    have same : (unplaced parameter).name = parameter.name := rfl
    rw [unplaced_cons, checkDistinct, checkDistinct, same]
    split
    · exact rfl
    · exact step _

theorem requiredCount_unplaced (parameters : List Parameter) :
    requiredCount (unplaced parameters) = requiredCount parameters := by
  have optional : isOptional ∘ unplaced = isOptional := rfl
  show (parameters.map unplaced).length - ((parameters.map unplaced).reverse.takeWhile isOptional).length =
    parameters.length - (parameters.reverse.takeWhile isOptional).length
  rw [List.length_map, ← List.map_reverse, List.takeWhile_map, List.length_map, optional]

theorem implicitParameters_unplaced (parameters : List Parameter) (options : Options) :
    implicitParameters (unplaced parameters) (unplaced options) owner = implicitParameters parameters options owner := by
  rw [implicitParameters, implicitParameters, requiredCount_unplaced]
  show (parameters.map unplaced).mapIdx _ = _
  rw [List.mapIdx_eq_zipIdx_map, List.zipIdx_map, List.map_map, List.mapIdx_eq_zipIdx_map]
  rfl

namespace Progress

theorem checkBareStar_carries (progress : Progress) :
    Carries id progress.checkBareStar (unplaced progress).checkBareStar := by
  have same : (unplaced progress).bareStar? = unplaced progress.bareStar? := by
    show Option.filter _ (progress.star.map unplaced) = (Option.filter _ progress.star).map unplaced
    rw [Option.filter_map]
    refine congrArg (Option.map unplaced) (congrArg (Option.filter · progress.star) (funext fun entry => ?_))
    rcases entry with ⟨_ | _ | _ | _ | _, position⟩ <;> rfl
  rw [checkBareStar, checkBareStar, same]
  cases progress.bareStar? with
  | none => rfl
  | some entry =>
    exact .ite (fun _ => rfl) fun _ => rfl

theorem locate_carries (declared : List Parameter) (progress : Progress) (entry : SignatureEntry) (name : String) :
    Carries (Prod.map id unplaced) (locate declared progress entry name)
      (locate (unplaced declared) (unplaced progress) (unplaced entry) name) := by
  have found : (unplaced declared).zipIdx.find? (fun found => found.1.name = name) =
      (declared.zipIdx.find? fun found => found.1.name = name).map (Prod.map unplaced id) := by
    show (declared.map unplaced).zipIdx.find? _ = _
    rw [List.zipIdx_map, List.find?_map]
    rfl
  rw [locate, locate, found]
  refine .ite (fun _ => rfl) fun _ => ?_
  cases declared.zipIdx.find? fun found => found.1.name = name with
  | none => exact rfl
  | some found => exact .ite (fun _ => rfl) fun _ => rfl

theorem read_carries (declared : List Parameter) (options : Options) (progress : Progress) (entry : SignatureEntry) :
    Carries unplaced (progress.read declared options owner entry)
      ((unplaced progress).read (unplaced declared) (unplaced options) owner (unplaced entry)) := by
  have star : (unplaced progress).star.isSome = progress.star.isSome := Option.isSome_map
  have labelled : (unplaced entry).label = entry.label := by
    rcases entry with ⟨_ | _ | _ | _ | _, position⟩ <;> rfl
  have isOpen : Carries id (progress.checkOpen entry) ((unplaced progress).checkOpen (unplaced entry)) := by
    rw [checkOpen, checkOpen, labelled]
    exact .ite (fun _ => rfl) fun _ => rfl
  have noStar : Carries id (progress.checkNoStar entry) ((unplaced progress).checkNoStar (unplaced entry)) := by
    rw [checkNoStar, checkNoStar, star, labelled]
    exact .ite (fun _ => rfl) fun _ => rfl
  obtain ⟨form, position⟩ := entry
  cases form with
  | positionalMarker =>
    refine isOpen.bind fun _ => ?_
    dsimp only
    rw [star]
    exact .ite (fun _ => rfl) fun _ => .ite (fun _ => rfl) fun _ => rfl
  | keywordMarker =>
    exact isOpen.bind fun _ => noStar.bind fun _ => rfl
  | variadicPositional name =>
    exact (locate_carries declared progress _ name).bind fun _ => isOpen.bind fun _ => noStar.bind fun _ => rfl
  | variadicKeyword name =>
    exact (locate_carries declared progress _ name).bind fun _ => isOpen.bind fun _ =>
      (checkBareStar_carries progress).bind fun _ => rfl
  | named name expression =>
    have default : defaultOf (unplaced options) name (expression.map unplaced) = defaultOf options name expression := by
      cases expression with
      | none => rfl
      | some trees =>
        rw [Option.map_some, defaultOf, DefaultValue.render_unplaced]
        rfl
    refine (locate_carries declared progress _ name).bind fun _ => isOpen.bind fun _ => ?_
    rw [← default, ← star]
    rfl

end Progress

theorem checkComplete_carries (seen : List String) (parameters : List Parameter) :
    Carries id (checkComplete seen parameters) (checkComplete seen (unplaced parameters)) := by
  induction parameters with
  | nil => rfl
  | cons parameter rest step => exact .ite (fun _ => step) fun _ => rfl

theorem explicitParameters_carries (parameters : List Parameter) (entries : List SignatureEntry) (options : Options) :
    Carries id (explicitParameters parameters entries options owner)
      (explicitParameters (unplaced parameters) (unplaced entries) (unplaced options) owner) := by
  refine (carries_foldlM (Progress.read_carries owner parameters options) entries .start).bind fun progress => ?_
  have finish : Carries id
      (do checkComplete progress.seen parameters; return progress.described)
      (do checkComplete progress.seen (unplaced parameters); return progress.described) :=
    (checkComplete_carries progress.seen parameters).bind fun _ => rfl
  exact .ite (fun _ => finish) fun _ => progress.checkBareStar_carries.bind fun _ => finish

theorem sameButPlaces_placeOf (declared : List Parameter) (name : String) :
    SameButPlaces (placeOf declared name) (placeOf (unplaced declared) name) := by
  have found : (unplaced declared).reverse.find? (fun parameter => parameter.name = name) =
      unplaced (declared.reverse.find? fun parameter => parameter.name = name) := by
    show (declared.map unplaced).reverse.find? _ = _
    rw [← List.map_reverse, List.find?_map]
    rfl
  rw [placeOf, placeOf, found]
  cases declared.reverse.find? fun parameter => parameter.name = name <;> rfl

theorem checkDefaultOrder_carries (declared : List Parameter) (described : List ParameterDescriptor) :
    ∀ positional keyword, Carries id (checkDefaultOrder declared positional keyword described)
      (checkDefaultOrder (unplaced declared) positional keyword described) := by
  induction described with
  | nil => exact fun _ _ => rfl
  | cons parameter rest step =>
    intro positional keyword
    have violation : Carries id
        (Outcome.report (placeOf declared parameter.name) (.signature .defaultOrderingViolation parameter.name))
        (Outcome.report (placeOf (unplaced declared) parameter.name)
          (.signature .defaultOrderingViolation parameter.name) : Outcome Unit) :=
      carries_report (sameButPlaces_placeOf declared parameter.name) _
    exact .ite (fun _ => .ite (fun _ => step _ _) fun _ => .ite (fun _ => violation) fun _ => step _ _) fun _ =>
      .ite (fun _ => .ite (fun _ => step _ _) fun _ => .ite (fun _ => violation) fun _ => step _ _) fun _ => step _ _

theorem withStubDefaults_carries (options : Options) (parameters : List Parameter) :
    Carries unplaced (withStubDefaults options parameters)
      (withStubDefaults (unplaced options) (unplaced parameters)) := by
  refine (Options.stubDefaults_carries parameters).bind fun found => ?_
  rfl

theorem analyze_carries (parameters : List Parameter) (options : Options) :
    Carries id (analyze parameters options owner) (analyze (unplaced parameters) (unplaced options) owner) := by
  rw [analyze, analyze]
  simp only [visible_unplaced]
  refine (withStubDefaults_carries options (visible parameters)).bind fun options => ?_
  refine (checkDistinct_carries [] (visible parameters)).bind fun _ => ?_
  have finish (described : List ParameterDescriptor) : Carries id
      (do checkDefaultOrder (visible parameters) false false described; return ⟨described, .ofParameters described⟩)
      (do checkDefaultOrder (unplaced (visible parameters)) false false described
          return ⟨described, .ofParameters described⟩ : Outcome Signature) :=
    (checkDefaultOrder_carries _ described false false).bind fun _ => rfl
  obtain ⟨name, module, flags, signature, base, renameAll, defaults⟩ := options
  cases signature with
  | none =>
    refine Carries.bind (?_ : Carries id (pure _) (pure _)) finish
    exact implicitParameters_unplaced owner (visible parameters) ⟨name, module, flags, none, base, renameAll, defaults⟩
  | some entries =>
    exact (explicitParameters_carries owner (visible parameters) entries _).bind finish

end Signature

/-! Callables and members -/

namespace CallableDescriptor

theorem hasReceiver_unplaced (function : FunctionItem) : hasReceiver (unplaced function) = hasReceiver function := by
  rcases function with ⟨header, name, _ | ⟨first, rest⟩, returnType⟩ <;> rfl

theorem dropFirstVisible_unplaced (parameters : List Parameter) :
    dropFirstVisible (unplaced parameters) = unplaced (dropFirstVisible parameters) := by
  induction parameters with
  | nil => rfl
  | cons first rest step =>
    have same : (Signature.visible [unplaced first]).isEmpty = (Signature.visible [first]).isEmpty :=
      (congrArg List.isEmpty (Signature.visible_unplaced [first])).trans (isEmpty_unplaced _)
    rw [unplaced_cons, dropFirstVisible, dropFirstVisible, same, step]
    split <;> rfl

theorem ownParameters_unplaced (function : FunctionItem) (kind : MethodKind) :
    ownParameters (unplaced function) kind = unplaced (ownParameters function kind) := by
  rw [ownParameters, ownParameters, hasReceiver_unplaced]
  split
  · exact List.map_tail.symm
  split
  · exact dropFirstVisible_unplaced function.parameters
  · rfl

theorem optionsOf_carries (function : FunctionItem) : Carries unplaced (optionsOf function) (optionsOf (unplaced function)) :=
  Options.ofAttributes_carries _ _ _ []

theorem documentation_carries (attributes : List Attribute) :
    Carries id (Documentation.ofAttributes attributes) (Documentation.ofAttributes (unplaced attributes)) := by
  rw [Documentation.ofAttributes_unplaced]
  exact carries_id _

theorem ofMethodWith_carries (options : Options) (owner : String) (kind : MethodKind) (function : FunctionItem) :
    Carries id (ofMethodWith options owner kind function) (ofMethodWith (unplaced options) owner kind (unplaced function)) := by
  rw [ofMethodWith, ofMethodWith, ownParameters_unplaced]
  refine (Signature.analyze_carries _ _ options).bind fun signature => ?_
  exact (documentation_carries function.header.attributes).bind fun doc => .ite (fun _ => rfl) fun _ => rfl

theorem ofMethod_carries (owner : String) (kind : MethodKind) (function : FunctionItem) :
    Carries id (ofMethod owner kind function) (ofMethod owner kind (unplaced function)) :=
  (optionsOf_carries function).bind fun options => ofMethodWith_carries options owner kind function

theorem ofConstructor?_carries (owner : String) (functions : List FunctionItem) :
    Carries id (ofConstructor? owner functions) (ofConstructor? owner (unplaced functions)) := by
  have marked (function : FunctionItem) :
      (!(Attribute.withName "new" (unplaced function).header.attributes).isEmpty) =
        !(Attribute.withName "new" function.header.attributes).isEmpty := by
    show (!(Attribute.withName "new" (unplaced function.header.attributes)).isEmpty) = _
    rw [Attribute.withName_unplaced, isEmpty_unplaced]
  rw [ofConstructor?, ofConstructor?, filter_unplaced marked]
  rcases functions.filter _ with _ | ⟨only, _ | ⟨second, rest⟩⟩
  · rfl
  · exact (ofMethod_carries owner .constructor only).map fun _ => rfl
  · exact rfl

end CallableDescriptor

namespace MemberDescriptor

open CallableDescriptor (documentation_carries)

/-- The place of a field agrees with itself at the start of a text. -/
theorem report_carries {value : Type} (field : Field) (fault : MemberFault) (name : String) :
    Carries (id : value → value) (report field fault name) (report (unplaced field) fault name) := by
  refine carries_report ?_ _
  rcases field with ⟨name, type, attributes, _ | position | position⟩ <;> rfl

theorem ofField?_carries (options : Options) (owner : String) (field : Field) :
    Carries id (ofField? options owner field) (ofField? (unplaced options) owner (unplaced field)) := by
  refine (Options.ofAttributes_carries _ _ field.attributes []).bind fun own => ?_
  refine .ite (fun _ => rfl) fun _ => .ite (fun _ => report_carries field _ _) fun _ => ?_
  obtain ⟨name, type, attributes, place⟩ := field
  cases type with
  | some type => exact (documentation_carries attributes).bind fun _ => rfl
  | none =>
    refine .ite (fun _ => ?_) fun _ => ?_
    · exact (documentation_carries attributes).bind fun _ => rfl
    · exact (report_carries ⟨name, none, attributes, place⟩ _ _).bind fun _ =>
        (documentation_carries attributes).bind fun _ => rfl

theorem addField_carries (options : Options) (owner : String) (members : List MemberDescriptor) (field : Field) :
    Carries id (addField options owner members field) (addField (unplaced options) owner members (unplaced field)) := by
  refine (ofField?_carries options owner field).bind fun found => ?_
  cases found with
  | none => rfl
  | some member => exact .ite (fun _ => report_carries field _ _) fun _ => rfl

theorem ofFields_carries (options : Options) (owner : String) (fields : List Field) :
    Carries id (ofFields options owner fields) (ofFields (unplaced options) owner (unplaced fields)) :=
  carries_foldlM (addField_carries options owner) fields []

end MemberDescriptor

/-! Items -/

theorem ClassDescriptor.ofStruct_carries (item : StructItem) (options : Options) (associated : List FunctionItem) :
    Carries id (ofStruct item options associated) (ofStruct (unplaced item) (unplaced options) (unplaced associated)) :=
  (MemberDescriptor.ofFields_carries options item.name item.fields).bind fun _ =>
    (CallableDescriptor.ofConstructor?_carries item.name associated).bind fun _ =>
      (CallableDescriptor.documentation_carries item.header.attributes).bind fun _ => rfl

namespace EnumDescriptor

theorem ofVariants_carries (renameAll : Option RenameRule) (variants : List Variant) :
    ∀ described expected, Carries id (ofVariants renameAll described expected variants)
      (ofVariants renameAll described expected (unplaced variants)) := by
  induction variants with
  | nil => exact fun _ _ => rfl
  | cons variant rest step =>
    intro described expected
    obtain ⟨name, payload, discriminant, attributes, position⟩ := variant
    cases payload with
    | tuple fields => exact rfl
    | record fields => exact rfl
    | absent =>
      have value : valueOf expected (unplaced ⟨name, .absent, discriminant, attributes, position⟩ : Variant) =
          valueOf expected ⟨name, .absent, discriminant, attributes, position⟩ := by
        cases discriminant with
        | none => rfl
        | some trees => exact DefaultValue.integer?_unplaced trees
      rw [unplaced_cons, ofVariants, ofVariants]
      refine (Options.ofAttributes_carries _ _ attributes []).bind fun options => ?_
      refine .ite (fun _ => rfl) fun _ => ?_
      rw [value]
      exact (carries_id (valueText _)).bind fun text =>
        (CallableDescriptor.documentation_carries attributes).bind fun doc => step _ _

theorem ofEnum_carries (item : EnumItem) (options : Options) :
    Carries id (ofEnum item options) (ofEnum (unplaced item) (unplaced options)) := by
  rw [ofEnum, ofEnum]
  have same : (unplaced item).variants.isEmpty = item.variants.isEmpty := isEmpty_unplaced item.variants
  rw [same]
  exact .ite (fun _ => rfl) fun _ => (ofVariants_carries options.renameAll item.variants _ _).bind fun _ =>
    (CallableDescriptor.documentation_carries item.header.attributes).bind fun _ => rfl

end EnumDescriptor

namespace FunctionDescriptor

theorem ofDeclaration_carries (item : FunctionItem) (signature : Option (List SignatureEntry)) :
    Carries id (ofDeclaration item signature) (ofDeclaration (unplaced item) (unplaced signature)) := by
  refine (CallableDescriptor.optionsOf_carries item).bind fun own => ?_
  have given : (unplaced signature).isSome = signature.isSome := Option.isSome_map
  have owned : (unplaced own).signature.isSome = own.signature.isSome := Option.isSome_map
  rw [given, owned]
  refine .ite (fun _ => rfl) fun _ => ?_
  have combined : (unplaced signature).or (unplaced own).signature = unplaced (signature.or own.signature) := by
    cases signature <;> rfl
  have passed :
      (if own.has .passModule then CallableDescriptor.dropFirstVisible (unplaced item.parameters)
        else unplaced item.parameters) =
      unplaced (if own.has .passModule then CallableDescriptor.dropFirstVisible item.parameters else item.parameters) := by
    split
    · exact CallableDescriptor.dropFirstVisible_unplaced item.parameters
    · rfl
  rw [combined]
  show Carries id (Signature.analyze _ _ none >>= _)
    (Signature.analyze (if own.has .passModule then CallableDescriptor.dropFirstVisible (unplaced item.parameters)
      else unplaced item.parameters) (unplaced { own with signature := signature.or own.signature }) none >>= _)
  rw [passed]
  exact (Signature.analyze_carries none _ _).bind fun _ =>
    (CallableDescriptor.documentation_carries item.header.attributes).bind fun _ => rfl

theorem ofFunction_carries (item : FunctionItem) (options : Options) :
    Carries id (ofFunction item options) (ofFunction (unplaced item) (unplaced options)) :=
  (CallableDescriptor.optionsOf_carries item).bind fun _ => .ite (fun _ => rfl) fun _ =>
    (ofDeclaration_carries item options.signature).bind fun _ => rfl

end FunctionDescriptor

/-! Blocks of methods -/

theorem MethodKind.ofFunction_carries (function : FunctionItem) :
    Carries id (ofFunction function) (ofFunction (unplaced function)) := by
  have marked (name : String) : Attribute.withName name (unplaced function).header.attributes =
      unplaced (Attribute.withName name function.header.attributes) := Attribute.withName_unplaced _ _
  simp only [ofFunction, marked, isEmpty_unplaced, CallableDescriptor.hasReceiver_unplaced]
  generalize markers.filter _ = found
  rcases found with _ | ⟨first, _ | ⟨second, rest⟩⟩ <;> exact rfl

instance : Placed Accessor := ⟨fun accessor => { accessor with function := unplaced accessor.function }⟩

namespace Accessor

theorem propertyName_carries (function : FunctionItem) (marker beginning : String) (options : Options) :
    Carries id (propertyName function marker beginning options)
      (propertyName (unplaced function) marker beginning (unplaced options)) := by
  have named : (Attribute.withName marker (unplaced function).header.attributes) =
      unplaced (Attribute.withName marker function.header.attributes) := Attribute.withName_unplaced _ _
  rw [propertyName, propertyName, named]
  cases Attribute.withName marker function.header.attributes with
  | nil => rfl
  | cons first rest =>
    refine (Options.markerArgument_carries first).bind fun given => ?_
    cases given with
    | none => rfl
    | some name => exact .ite (fun _ => rfl) fun _ => rfl

theorem valueType?_unplaced (function : FunctionItem) : valueType? (unplaced function) = valueType? function := by
  rw [valueType?, CallableDescriptor.ownParameters_unplaced, Signature.visible_unplaced, valueType?]
  cases Signature.visible (CallableDescriptor.ownParameters function .setter) <;> rfl

theorem ofGetter_carries (owner : String) (function : FunctionItem) :
    Carries unplaced (ofGetter owner function) (ofGetter owner (unplaced function)) :=
  (CallableDescriptor.optionsOf_carries function).bind fun options =>
    (propertyName_carries function _ _ options).bind fun _ =>
      (CallableDescriptor.documentation_carries function.header.attributes).bind fun _ => rfl

theorem ofSetter_carries (owner : String) (function : FunctionItem) :
    Carries unplaced (ofSetter owner function) (ofSetter owner (unplaced function)) := by
  rw [ofSetter, ofSetter, valueType?_unplaced]
  exact (CallableDescriptor.optionsOf_carries function).bind fun options =>
    (propertyName_carries function _ _ options).bind fun _ =>
      (CallableDescriptor.documentation_carries function.header.attributes).bind fun _ => rfl

theorem settable_unplaced (owner : String) (getter setter : Accessor) :
    settable owner (unplaced getter) (unplaced setter) = settable owner getter setter := by
  have same : valueType? (unplaced setter).function = valueType? setter.function := valueType?_unplaced setter.function
  rw [settable, same]
  rfl

end Accessor

instance : Placed MethodsProgress :=
  ⟨fun progress => { progress with getters := unplaced progress.getters, setters := unplaced progress.setters }⟩

namespace MethodsProgress

theorem find?_unplaced (accessors : List Accessor) (name : String) :
    find? (unplaced accessors) name = unplaced (find? accessors name) := List.find?_map

theorem claim_carries (progress : MethodsProgress) (name : String) (function : FunctionItem) :
    Carries unplaced (progress.claim name function) ((unplaced progress).claim name (unplaced function)) :=
  .ite (fun _ => rfl) fun _ => rfl

theorem noteProperty_unplaced (progress : MethodsProgress) (name : String) :
    (unplaced progress).noteProperty name = unplaced (progress.noteProperty name) := by
  show (if progress.properties.contains name then _ else _) = unplaced (if _ then _ else _)
  split <;> rfl

theorem readKind_carries (owner : String) (progress : MethodsProgress) (function : FunctionItem) (kind : MethodKind) :
    Carries unplaced (readKind owner progress function kind)
      (readKind owner (unplaced progress) (unplaced function) kind) := by
  have known (accessors : List Accessor) (name : String) :
      (find? (unplaced accessors) name).isSome = (find? accessors name).isSome := by
    rw [find?_unplaced]
    exact Option.isSome_map
  have method (kind : MethodKind) : Carries unplaced
      (do
        let callable ← CallableDescriptor.ofMethod owner kind function
        let claimed ← progress.claim callable.name function
        return { claimed with methods := claimed.methods ++ [⟨kind, callable⟩] } : Outcome MethodsProgress)
      (do
        let callable ← CallableDescriptor.ofMethod owner kind (unplaced function)
        let claimed ← (unplaced progress).claim callable.name (unplaced function)
        return { claimed with methods := claimed.methods ++ [⟨kind, callable⟩] }) :=
    (CallableDescriptor.ofMethod_carries owner kind function).bind fun _ =>
      (claim_carries progress _ function).bind fun _ => rfl
  cases kind with
  | getter =>
    refine (Accessor.ofGetter_carries owner function).bind fun getter => ?_
    have taken : (find? (unplaced progress).getters (unplaced getter).name).isSome =
        (find? progress.getters getter.name).isSome := known progress.getters getter.name
    rw [taken]
    refine .ite (fun _ => rfl) fun _ => ?_
    have noted := noteProperty_unplaced { progress with getters := progress.getters ++ [getter] } getter.name
    exact (congrArg (fun getters => noteProperty { unplaced progress with getters } getter.name)
      (unplaced_append progress.getters [getter]).symm).trans noted
  | setter =>
    refine (Accessor.ofSetter_carries owner function).bind fun setter => ?_
    have taken : (find? (unplaced progress).setters (unplaced setter).name).isSome =
        (find? progress.setters setter.name).isSome := known progress.setters setter.name
    rw [taken]
    refine .ite (fun _ => rfl) fun _ => ?_
    have noted := noteProperty_unplaced { progress with setters := progress.setters ++ [setter] } setter.name
    exact (congrArg (fun setters => noteProperty { unplaced progress with setters } setter.name)
      (unplaced_append progress.setters [setter]).symm).trans noted
  | classAttribute =>
    exact (CallableDescriptor.optionsOf_carries function).bind fun _ => (claim_carries progress _ function).bind fun _ =>
      (CallableDescriptor.documentation_carries function.header.attributes).bind fun _ => rfl
  | _ => exact method _

theorem read_carries (owner : String) (progress : MethodsProgress) (function : FunctionItem) :
    Carries unplaced (read owner progress function) (read owner (unplaced progress) (unplaced function)) :=
  (Options.ofAttributes_carries _ _ function.header.attributes []).bind fun _ => .ite (fun _ => rfl) fun _ =>
    (MethodKind.ofFunction_carries function).bind fun kind => readKind_carries owner progress function kind

theorem addProperty_carries (owner : String) (state : MethodsProgress × List MemberDescriptor) (name : String) :
    Carries (Prod.map unplaced id) (addProperty owner state name) (addProperty owner (state.map unplaced id) name) := by
  obtain ⟨progress, members⟩ := state
  have getters : find? (unplaced progress).getters name = unplaced (find? progress.getters name) := find?_unplaced _ _
  have setters : find? (unplaced progress).setters name = unplaced (find? progress.setters name) := find?_unplaced _ _
  simp only [addProperty, Prod.map_apply, getters, setters]
  cases find? progress.getters name with
  | none => cases find? progress.setters name <;> exact rfl
  | some getter =>
    cases find? progress.setters name with
    | none => exact (claim_carries progress name getter.function).bind fun _ => rfl
    | some setter =>
      dsimp only
      rw [← Accessor.settable_unplaced]
      exact .ite (fun _ => (claim_carries progress name getter.function).bind fun _ => rfl) fun _ => rfl

end MethodsProgress

instance : Placed ImplItem :=
  ⟨fun block => ⟨unplaced block.header, block.selfType, block.trait, unplaced block.functions⟩⟩

theorem MethodsDescriptor.ofImpl_carries (block : ImplItem) : Carries id (ofImpl block) (ofImpl (unplaced block)) := by
  obtain ⟨header, selfType, trait, functions⟩ := block
  cases trait with
  | some trait => exact rfl
  | none =>
    refine (carries_foldlM (MethodsProgress.read_carries _) functions .start).bind fun progress => ?_
    have properties (owner : String) : Carries (Prod.map unplaced id)
        (progress.properties.foldlM (MethodsProgress.addProperty owner) (progress, []))
        ((progress.properties.map id).foldlM (MethodsProgress.addProperty owner) (unplaced progress, [])) :=
      carries_foldlM (MethodsProgress.addProperty_carries owner) progress.properties (progress, [])
    simp only [List.map_id] at properties
    exact (properties _).bind fun _ => rfl

/-! Exposed items -/

namespace Item

theorem function?_unplaced (item : Item) : (unplaced item).function? = unplaced item.function? := by
  cases item <;> rfl

theorem impl?_unplaced (item : Item) : (unplaced item).impl? = unplaced item.impl? := by
  cases item with
  | implItem header selfType trait items =>
    have functions : (withoutPlacesAll items).filterMap function? = unplaced (items.filterMap function?) := by
      rw [withoutPlacesAll_eq]
      show (items.map unplaced).filterMap function? = (items.filterMap function?).map unplaced
      rw [List.filterMap_map, List.map_filterMap]
      exact List.filterMap_congr fun item _ => function?_unplaced item
    exact congrArg (fun functions => some (ImplItem.mk (unplaced header) selfType trait functions)) functions
  | _ => rfl

theorem attributes_unplaced (item : Item) : (unplaced item).attributes = unplaced item.attributes := by
  cases item <;> rfl

end Item

namespace Expansion

theorem tag?_carries (item : Item) : Carries unplaced (tag? item) (tag? (unplaced item)) := by
  rw [tag?, tag?, Item.attributes_unplaced, filter_unplaced fun _ => rfl]
  generalize item.attributes.filter _ = found
  rcases found with _ | ⟨first, _ | ⟨second, rest⟩⟩ <;> exact rfl

theorem reportMisplaced_carries {value : Type} (tag : String) (item : Item) :
    Carries (id : value → value) (reportMisplaced tag item) (reportMisplaced tag (unplaced item)) := by
  cases item <;> rfl

theorem ofClassTag_carries (tag : Attribute) (item : Item) (associated : List FunctionItem) :
    Carries id (ofClassTag tag item associated) (ofClassTag (unplaced tag) (unplaced item) (unplaced associated)) := by
  rw [ofClassTag, ofClassTag, tag.arguments_singleton_unplaced, Item.attributes_unplaced]
  refine (Options.ofAttributes_carries _ _ item.attributes _).bind fun options => ?_
  cases item with
  | structItem declared => exact (ClassDescriptor.ofStruct_carries declared options associated).map fun _ => rfl
  | enumItem declared => exact (EnumDescriptor.ofEnum_carries declared options).map fun _ => rfl
  | _ => exact rfl

theorem ofMethodsTag_carries (tag : Attribute) (item : Item) :
    Carries id (ofMethodsTag tag item) (ofMethodsTag (unplaced tag) (unplaced item)) := by
  rw [ofMethodsTag, ofMethodsTag, tag.arguments_singleton_unplaced, Item.impl?_unplaced]
  refine (Options.ofLists_carries _ _).bind fun _ => ?_
  cases item.impl? with
  | none => exact reportMisplaced_carries _ item
  | some block => exact (MethodsDescriptor.ofImpl_carries block).map fun _ => rfl

theorem ofFunctionTag_carries (tag : Attribute) (item : Item) :
    Carries id (ofFunctionTag tag item) (ofFunctionTag (unplaced tag) (unplaced item)) := by
  rw [ofFunctionTag, ofFunctionTag, tag.arguments_singleton_unplaced, Item.function?_unplaced]
  refine (Options.ofLists_carries _ _).bind fun options => ?_
  cases item.function? with
  | none => exact reportMisplaced_carries _ item
  | some function => exact (FunctionDescriptor.ofFunction_carries function options).map fun _ => rfl

/-- Without positions an item is described as before, or is at fault as before. -/
theorem describe?_carries (associated : List FunctionItem) (item : Item) :
    Carries id (describe? associated item) (describe? (unplaced associated) (unplaced item)) := by
  refine (tag?_carries item).bind fun found => ?_
  cases found with
  | none => rfl
  | some tag =>
    exact .ite (fun _ => (ofClassTag_carries tag item associated).map fun _ => rfl) fun _ =>
      .ite (fun _ => (ofMethodsTag_carries tag item).map fun _ => rfl) fun _ =>
        (ofFunctionTag_carries tag item).map fun _ => rfl

theorem functionsFor_unplaced (items : List Item) (name : String) :
    functionsFor (unplaced items) name = unplaced (functionsFor items name) := by
  induction items with
  | nil => rfl
  | cons first rest step =>
    have tagged (block : ImplItem) : ((unplaced block).header.attributes.any fun attr => attr.name = "pymethods") =
        block.header.attributes.any fun attr => attr.name = "pymethods" := List.any_map
    have ofFirst : functionsFor [unplaced first] name = unplaced (functionsFor [first] name) := by
      simp only [functionsFor, List.flatMap_singleton, Item.impl?_unplaced]
      cases first.impl? with
      | none => rfl
      | some block =>
        show (if block.targetName = name && (unplaced block).header.attributes.any _ then unplaced block.functions else []) =
          unplaced (if block.targetName = name && block.header.attributes.any _ then block.functions else [])
        rw [tagged]
        split <;> rfl
    rw [unplaced_cons, functionsFor_cons, step, ofFirst, functionsFor_cons first rest, unplaced_append]

theorem associated_unplaced (items : List Item) (item : Item) :
    associated (unplaced items) (unplaced item) = unplaced (associated items item) := by
  cases item with
  | structItem declared => exact functionsFor_unplaced items declared.name
  | _ => rfl

end Expansion

end Exposure
