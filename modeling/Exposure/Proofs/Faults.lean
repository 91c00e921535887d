import Exposure.Proofs.Blame
import Exposure.Proofs.Description

/-!
What the faults of exposed items rest on: every check of a signature, a field, a variant, a method and a tag reports at a
token of the text, apart from those about fields without a name and about rules that do not exist.
-/

namespace Exposure

variable {tokens : List Token} {items : List Item}

namespace Signature

/-- Every described parameter has the name of a declared one. -/
abbrev Named (declared : List Parameter) (described : List ParameterDescriptor) : Prop :=
  ∀ descriptor ∈ described, ∃ parameter ∈ declared, parameter.name = descriptor.name

theorem checkDistinct_restsOn {parameters : List Parameter} (isIn : ∀ parameter ∈ parameters, parameter.IsIn tokens)
    (seen : List String) : (checkDistinct seen parameters).RestsOn tokens items fun _ => True := by
  induction parameters generalizing seen with
  | nil => trivial
  | cons first rest again =>
    obtain ⟨ofFirst, ofRest⟩ := List.forall_mem_cons.mp isIn
    rw [checkDistinct]
    split
    · exact restsOn_report ofFirst.name.isIn rfl
    · exact again ofRest _

namespace Progress

/-- The star that has been read begins with a token, and the parameters read so far are declared. -/
structure IsIn (tokens : List Token) (declared : List Parameter) (progress : Progress) : Prop where
  star : ∀ entry, progress.star = some entry → entry.position.IsIn tokens
  described : Named declared progress.described

variable {declared : List Parameter} {progress : Progress} {entry : SignatureEntry}

theorem checkBareStar_restsOn (isIn : progress.IsIn tokens declared) :
    progress.checkBareStar.RestsOn tokens items fun _ => True := by
  unfold checkBareStar
  split
  · trivial
  · rename_i star found
    split
    · trivial
    · exact restsOn_report (isIn.star star (Option.filter_eq_some_iff.mp found).1) rfl

theorem checkOpen_restsOn (begins : entry.position.IsIn tokens) :
    (progress.checkOpen entry).RestsOn tokens items fun _ => True := by
  unfold checkOpen
  split
  · exact restsOn_report begins rfl
  · trivial

theorem checkNoStar_restsOn (begins : entry.position.IsIn tokens) :
    (progress.checkNoStar entry).RestsOn tokens items fun _ => True := by
  unfold checkNoStar
  split
  · exact restsOn_report begins rfl
  · trivial

theorem locate_restsOn (begins : entry.position.IsIn tokens) (name : String) :
    (progress.locate declared entry name).RestsOn tokens items fun found => found.2 ∈ declared := by
  unfold locate
  split
  · exact restsOn_report begins rfl
  · split
    · exact restsOn_report begins rfl
    · rename_i parameter index search
      split
      · exact restsOn_report begins rfl
      · exact List.fst_mem_of_mem_zipIdx (List.mem_of_find?_eq_some search)

/-- Another declared parameter may be described. -/
theorem IsIn.adding (isIn : progress.IsIn tokens declared) {owner : Option String} {parameter : Parameter}
    (listed : parameter ∈ declared) (passing : PassingKind) (default : Option String) :
    Named declared (progress.described ++ [describe owner parameter passing default]) := by
  intro descriptor member
  rcases List.mem_append.mp member with earlier | last
  · exact isIn.described descriptor earlier
  · exact ⟨parameter, listed, List.mem_singleton.mp last ▸ rfl⟩

theorem read_restsOn (isIn : progress.IsIn tokens declared) (begins : entry.position.IsIn tokens) (options : Options)
    (owner : Option String) :
    (progress.read declared options owner entry).RestsOn tokens items (IsIn tokens declared) := by
  have noted : ∀ other, some entry = some other → other.position.IsIn tokens := by
    rintro _ ⟨⟩
    exact begins
  unfold read
  cases entry.form with
  | positionalMarker =>
    refine (checkOpen_restsOn begins).bind fun _ _ => ?_
    split
    · exact restsOn_report begins rfl
    · split
      · exact restsOn_report begins rfl
      · refine ⟨isIn.star, fun descriptor member => ?_⟩
        obtain ⟨earlier, inside, rfl⟩ := List.mem_map.mp member
        exact isIn.described earlier inside
  | keywordMarker =>
    exact (checkOpen_restsOn begins).bind fun _ _ => (checkNoStar_restsOn begins).bind fun _ _ =>
      ⟨noted, isIn.described⟩
  | variadicPositional name =>
    exact (locate_restsOn begins name).bind fun _ listed => (checkOpen_restsOn begins).bind fun _ _ =>
      (checkNoStar_restsOn begins).bind fun _ _ => ⟨noted, isIn.adding listed _ _⟩
  | variadicKeyword name =>
    exact (locate_restsOn begins name).bind fun _ listed => (checkOpen_restsOn begins).bind fun _ _ =>
      (checkBareStar_restsOn isIn).bind fun _ _ => ⟨isIn.star, isIn.adding listed _ _⟩
  | named name expression =>
    exact (locate_restsOn begins name).bind fun _ listed => (checkOpen_restsOn begins).bind fun _ _ =>
      ⟨isIn.star, isIn.adding listed _ _⟩

end Progress

theorem checkComplete_restsOn {parameters : List Parameter} (isIn : ∀ parameter ∈ parameters, parameter.IsIn tokens)
    (seen : List String) : (checkComplete seen parameters).RestsOn tokens items fun _ => True := by
  induction parameters with
  | nil => trivial
  | cons first rest again =>
    obtain ⟨ofFirst, ofRest⟩ := List.forall_mem_cons.mp isIn
    rw [checkComplete]
    split
    · exact again ofRest
    · exact restsOn_report_word ofFirst.name

theorem explicitParameters_restsOn {parameters : List Parameter} (isIn : ∀ parameter ∈ parameters, parameter.IsIn tokens)
    {entries : List SignatureEntry} (begin : EntriesIn tokens entries) (options : Options) (owner : Option String) :
    (explicitParameters parameters entries options owner).RestsOn tokens items (Named parameters) := by
  have atStart : Progress.start.IsIn tokens parameters := ⟨nofun, nofun⟩
  unfold explicitParameters
  refine (Outcome.meets_foldlM (fun _ entry member before =>
    Progress.read_restsOn before (begin entry member) options owner) atStart).bind fun progress ofProgress => ?_
  have complete : (do checkComplete progress.seen parameters; return progress.described : Outcome _).RestsOn tokens items
      (Named parameters) :=
    (checkComplete_restsOn isIn _).bind fun _ _ => ofProgress.described
  simp only
  split
  · exact complete
  · exact (Progress.checkBareStar_restsOn ofProgress).bind fun _ _ => complete

/-- The place of a parameter that is described by its name is where a token spells the name. -/
theorem placeOf_spells {declared : List Parameter} (isIn : ∀ parameter ∈ declared, parameter.IsIn tokens) {name : String}
    (named : ∃ parameter ∈ declared, parameter.name = name) :
    ∃ position, placeOf declared name = .point position ∧ position.Spells tokens name := by
  obtain ⟨parameter, listed, same⟩ := named
  unfold placeOf
  cases found : declared.reverse.find? fun parameter => parameter.name = name with
  | none =>
    have none := List.find?_eq_none.mp found parameter (List.mem_reverse.mpr listed)
    exact absurd same (by simpa using none)
  | some last =>
    have spelled : last.name = name := by simpa using List.find?_some found
    have member := List.mem_reverse.mp (List.mem_of_find?_eq_some found)
    exact ⟨_, rfl, spelled ▸ (isIn last member).name⟩

theorem checkDefaultOrder_restsOn {declared : List Parameter} (isIn : ∀ parameter ∈ declared, parameter.IsIn tokens)
    {described : List ParameterDescriptor} (named : Named declared described) (positional keyword : Bool) :
    (checkDefaultOrder declared positional keyword described).RestsOn tokens items fun _ => True := by
  induction described generalizing positional keyword with
  | nil => trivial
  | cons first rest again =>
    obtain ⟨ofFirst, ofRest⟩ := List.forall_mem_cons.mp named
    obtain ⟨position, place, spells⟩ := placeOf_spells isIn ofFirst
    have violation : (Outcome.report (placeOf declared first.name)
        (.signature .defaultOrderingViolation first.name) : Outcome Unit).RestsOn tokens items fun _ => True :=
      place ▸ restsOn_report_word spells
    have others (positional keyword : Bool) := again ofRest positional keyword
    unfold checkDefaultOrder
    simp only
    split_ifs
    all_goals first | exact violation | exact others _ _

theorem withStubDefaults_restsOn {parameters : List Parameter} (isIn : ∀ parameter ∈ parameters, parameter.IsIn tokens)
    {options : Options} (ofOptions : options.IsIn tokens) :
    (withStubDefaults options parameters).RestsOn tokens items (Options.IsIn tokens) :=
  (stubDefaults_restsOn isIn).bind fun _ _ => ofOptions

theorem analyze_restsOn {parameters : List Parameter} (isIn : ∀ parameter ∈ parameters, parameter.IsIn tokens)
    {options : Options} (ofOptions : options.IsIn tokens) (owner : Option String) :
    (analyze parameters options owner).RestsOn tokens items fun _ => True := by
  have ofPassed : ∀ parameter ∈ visible parameters, parameter.IsIn tokens := fun parameter member =>
    isIn parameter (List.mem_of_mem_filter member)
  unfold analyze
  refine (withStubDefaults_restsOn ofPassed ofOptions).bind fun options ofOptions =>
    (checkDistinct_restsOn ofPassed _).bind fun _ _ => ?_
  have ordered {described : List ParameterDescriptor} (named : Named (visible parameters) described) :
      (do checkDefaultOrder (visible parameters) false false described
          return ⟨described, .ofParameters described⟩ : Outcome Signature).RestsOn tokens items fun _ => True :=
    (checkDefaultOrder_restsOn ofPassed named _ _).bind fun _ _ => trivial
  split
  · refine ordered fun descriptor member => ?_
    obtain ⟨index, bound, rfl⟩ := List.mem_mapIdx.mp member
    exact ⟨_, List.getElem_mem bound, rfl⟩
  · rename_i entries given
    exact (explicitParameters_restsOn ofPassed (ofOptions entries given) _ _).bind fun _ => ordered

end Signature

/-! Callables -/

namespace CallableDescriptor

variable {function : FunctionItem}

theorem optionsOf_restsOn (isIn : function.IsIn tokens) :
    (optionsOf function).RestsOn tokens items (Options.IsIn tokens) :=
  ofAttributes_restsOn _ _ isIn.header.attributes nofun

theorem ofMethodWith_restsOn (isIn : function.IsIn tokens) {options : Options} (ofOptions : options.IsIn tokens)
    (owner : String) (kind : MethodKind) :
    (ofMethodWith options owner kind function).RestsOn tokens items fun _ => True := by
  have ofOwn : ∀ parameter ∈ ownParameters function kind, parameter.IsIn tokens := fun parameter member =>
    isIn.parameters parameter (ownParameters_subset function kind member)
  unfold ofMethodWith
  refine (Signature.analyze_restsOn ofOwn ofOptions _).bind fun _ _ =>
    (documentation_restsOn isIn.header.attributes).bind fun _ _ => ?_
  split <;> trivial

theorem ofMethod_restsOn (isIn : function.IsIn tokens) (owner : String) (kind : MethodKind) :
    (ofMethod owner kind function).RestsOn tokens items fun _ => True :=
  (optionsOf_restsOn isIn).bind fun _ ofOptions => ofMethodWith_restsOn isIn ofOptions owner kind

theorem ofConstructor_restsOn {functions : List FunctionItem} (isIn : ∀ function ∈ functions, function.IsIn tokens)
    (owner : String) : (ofConstructor? owner functions).RestsOn tokens items fun _ => True := by
  unfold ofConstructor?
  split
  · trivial
  · rename_i only alone
    have ofOnly := isIn only (List.mem_of_mem_filter (alone ▸ List.mem_singleton_self only))
    exact (ofMethod_restsOn ofOnly owner .constructor).map fun _ _ => trivial
  · rename_i first second others several
    have ofSecond := isIn second (List.mem_of_mem_filter (several ▸ List.mem_cons_of_mem _ List.mem_cons_self))
    exact restsOn_report ofSecond.header.position rfl

end CallableDescriptor

/-! Structures and enumerations -/

namespace MemberDescriptor

variable {item : StructItem} {field : Field} {options : Options} {owner : String}

/-- A fault in a field is reported at the field. -/
theorem report_restsOn {value : Type} {gives : value → Prop} (inside : .structItem item ∈ items)
    (member : field ∈ item.fields) (isIn : field.IsIn tokens) (fault : MemberFault) (name : String) :
    (report field fault name).RestsOn tokens items gives := by
  unfold report
  rcases isIn.place with ⟨position, place, spells⟩ | ⟨isUnnamed, place⟩
  · exact place ▸ restsOn_report spells.isIn rfl
  · exact place ▸ .unnamed inside member isUnnamed fault name

theorem ofField_restsOn (inside : .structItem item ∈ items) (member : field ∈ item.fields) (isIn : field.IsIn tokens) :
    (ofField? options owner field).RestsOn tokens items fun _ => True := by
  have documented {signature : String} {own : Options} {readable writable : Bool} :
      (do let doc ← Documentation.ofAttributes field.attributes
          return some ⟨own.nameOr (RenameRule.rename options.renameAll field.name), signature, readable, writable, doc⟩ :
        Outcome (Option MemberDescriptor)).RestsOn tokens items fun _ => True :=
    (documentation_restsOn isIn.attributes).bind fun _ _ => trivial
  have reported (fault : MemberFault) (name : String) :
      (report field fault name : Outcome (Option MemberDescriptor)).RestsOn tokens items fun _ => True :=
    report_restsOn inside member isIn fault name
  unfold ofField?
  refine (ofAttributes_restsOn _ _ isIn.attributes (List.forall_mem_nil _)).bind fun own _ => ?_
  simp only
  split
  · trivial
  · split
    · exact reported _ _
    · split
      · exact documented
      · split
        · exact documented
        · exact reported _ _

theorem ofFields_restsOn (inside : .structItem item ∈ items) (isIn : ∀ field ∈ item.fields, field.IsIn tokens) :
    (ofFields options owner item.fields).RestsOn tokens items fun _ => True := by
  refine Outcome.meets_foldlM (fun members field member _ => ?_) trivial
  unfold addField
  refine (ofField_restsOn inside member (isIn field member)).bind fun found _ => ?_
  split
  · trivial
  · split
    · exact report_restsOn inside member (isIn field member) _ _
    · trivial

end MemberDescriptor

theorem ClassDescriptor.ofStruct_restsOn {item : StructItem} (inside : .structItem item ∈ items) (isIn : item.IsIn tokens)
    {associated : List FunctionItem} (ofAssociated : ∀ function ∈ associated, function.IsIn tokens) (options : Options) :
    (ofStruct item options associated).RestsOn tokens items fun _ => True :=
  (MemberDescriptor.ofFields_restsOn inside isIn.fields).bind fun _ _ =>
    (CallableDescriptor.ofConstructor_restsOn ofAssociated _).bind fun _ _ =>
      (documentation_restsOn isIn.header.attributes).bind fun _ _ => trivial

namespace EnumDescriptor

/-- A value is written unless it is one of those that have too many digits. -/
theorem valueText_restsOn {item : EnumItem} (inside : .enumItem item ∈ items) {value : Option Int}
    (member : value ∈ values (some 0) item.variants) : (valueText value).RestsOn tokens items fun _ => True := by
  cases value with
  | none => trivial
  | some value =>
    rw [valueText, Numeral.decimal]
    split
    · trivial
    · rename_i long
      exact Fault.RestsOn.numeral inside member (Nat.lt_of_not_le long)

theorem ofVariants_restsOn {item : EnumItem} (inside : .enumItem item ∈ items) (renameAll : Option RenameRule)
    {variants : List Variant} (isIn : ∀ variant ∈ variants, variant.IsIn tokens) (described : List VariantDescriptor)
    {expected : Option Int} (member : ∀ value ∈ values expected variants, value ∈ values (some 0) item.variants) :
    (ofVariants renameAll described expected variants).RestsOn tokens items fun _ => True := by
  induction variants generalizing described expected with
  | nil => trivial
  | cons first rest again =>
    obtain ⟨ofFirst, ofRest⟩ := List.forall_mem_cons.mp isIn
    obtain ⟨ofValue, ofValues⟩ := List.forall_mem_cons.mp member
    unfold ofVariants
    split
    · refine (ofAttributes_restsOn _ _ ofFirst.attributes (List.forall_mem_nil _)).bind fun options _ => ?_
      simp only
      split
      · exact restsOn_report ofFirst.name.isIn rfl
      · exact (valueText_restsOn inside ofValue).bind fun _ _ => (documentation_restsOn ofFirst.attributes).bind
          fun _ _ => again ofRest _ ofValues
    · exact restsOn_report_word ofFirst.name

theorem ofEnum_restsOn {item : EnumItem} (inside : .enumItem item ∈ items) (isIn : item.IsIn tokens) (options : Options) :
    (ofEnum item options).RestsOn tokens items fun _ => True := by
  unfold ofEnum
  split
  · exact restsOn_report_word isIn.name
  · exact (ofVariants_restsOn inside _ isIn.variants _ fun _ member => member).bind fun _ _ =>
      (documentation_restsOn isIn.header.attributes).bind fun _ _ => trivial

end EnumDescriptor

/-! Functions and blocks of functions -/

namespace FunctionDescriptor

variable {item : FunctionItem}

theorem ofDeclaration_restsOn (isIn : item.IsIn tokens) {signature : Option (List SignatureEntry)}
    (begin : ∀ entries, signature = some entries → EntriesIn tokens entries) :
    (ofDeclaration item signature).RestsOn tokens items fun _ => True := by
  unfold ofDeclaration
  refine (CallableDescriptor.optionsOf_restsOn isIn).bind fun own ofOwn => ?_
  split
  · exact restsOn_report isIn.header.position rfl
  · have ofOptions : Options.IsIn tokens { own with signature := signature.or own.signature } := by
      intro entries given
      rcases Option.or_eq_some_iff.mp given with ofTag | ⟨-, beside⟩
      · exact begin entries ofTag
      · exact ofOwn entries beside
    refine (Signature.analyze_restsOn (fun parameter member => isIn.parameters parameter ?_) ofOptions _).bind fun _ _ =>
      (documentation_restsOn isIn.header.attributes).bind fun _ _ => trivial
    split at member
    · exact CallableDescriptor.dropFirstVisible_subset _ member
    · exact member

theorem ofFunction_restsOn (isIn : item.IsIn tokens) {options : Options} (ofOptions : options.IsIn tokens) :
    (ofFunction item options).RestsOn tokens items fun _ => True := by
  unfold ofFunction
  refine (CallableDescriptor.optionsOf_restsOn isIn).bind fun own _ => ?_
  split
  · exact restsOn_report isIn.header.position rfl
  · exact (ofDeclaration_restsOn isIn ofOptions).bind fun _ _ => trivial

end FunctionDescriptor

theorem MethodKind.ofFunction_restsOn {function : FunctionItem} (isIn : function.IsIn tokens) :
    (ofFunction function).RestsOn tokens items fun _ => True := by
  unfold ofFunction
  split
  · trivial
  · trivial
  · exact restsOn_report_word isIn.name

namespace Accessor

variable {function : FunctionItem}

theorem propertyName_restsOn (isIn : function.IsIn tokens) (marker beginning : String) (options : Options) :
    (propertyName function marker beginning options).RestsOn tokens items fun _ => True := by
  unfold propertyName
  split
  · trivial
  · rename_i first others chosen
    have ofFirst := isIn.header.attributes first (List.mem_of_mem_filter (chosen ▸ List.mem_cons_self))
    refine (markerArgument_restsOn ofFirst).bind fun given _ => ?_
    dsimp only
    split
    · split <;> trivial
    · trivial

theorem ofGetter_restsOn (isIn : function.IsIn tokens) (owner : String) :
    (ofGetter owner function).RestsOn tokens items fun found => found.function.IsIn tokens :=
  (CallableDescriptor.optionsOf_restsOn isIn).bind fun options _ =>
    (propertyName_restsOn isIn _ _ options).bind fun _ _ =>
      (documentation_restsOn isIn.header.attributes).bind fun _ _ => isIn

theorem ofSetter_restsOn (isIn : function.IsIn tokens) (owner : String) :
    (ofSetter owner function).RestsOn tokens items fun found => found.function.IsIn tokens :=
  (CallableDescriptor.optionsOf_restsOn isIn).bind fun options _ =>
    (propertyName_restsOn isIn _ _ options).bind fun _ _ =>
      (documentation_restsOn isIn.header.attributes).bind fun _ _ => isIn

end Accessor

namespace MethodsProgress

/-- The accessors that have been read are made of tokens. -/
structure IsIn (tokens : List Token) (progress : MethodsProgress) : Prop where
  getters : ∀ accessor ∈ progress.getters, accessor.function.IsIn tokens
  setters : ∀ accessor ∈ progress.setters, accessor.function.IsIn tokens

variable {progress : MethodsProgress} {function : FunctionItem}

theorem claim_restsOn (before : progress.IsIn tokens) (isIn : function.IsIn tokens) (name : String) :
    (progress.claim name function).RestsOn tokens items (IsIn tokens) := by
  unfold claim
  split
  · exact restsOn_report isIn.header.position rfl
  · exact ⟨before.getters, before.setters⟩

theorem IsIn.noteProperty (before : progress.IsIn tokens) (name : String) : (progress.noteProperty name).IsIn tokens := by
  unfold MethodsProgress.noteProperty
  split <;> exact ⟨before.getters, before.setters⟩

theorem readKind_restsOn (before : progress.IsIn tokens) (isIn : function.IsIn tokens) (owner : String)
    (kind : MethodKind) : (readKind owner progress function kind).RestsOn tokens items (IsIn tokens) := by
  have ofMethod (kind : MethodKind) : (do
      let callable ← CallableDescriptor.ofMethod owner kind function
      let claimed ← progress.claim callable.name function
      return { claimed with methods := claimed.methods ++ [⟨kind, callable⟩] } : Outcome _).RestsOn tokens items
        (IsIn tokens) :=
    (CallableDescriptor.ofMethod_restsOn isIn owner kind).bind fun _ _ => (claim_restsOn before isIn _).bind
      fun _ claimed => ⟨claimed.getters, claimed.setters⟩
  cases kind with
  | getter =>
    refine (Accessor.ofGetter_restsOn isIn owner).bind fun getter ofGetter => ?_
    split
    · exact restsOn_report isIn.header.position rfl
    · have added : IsIn tokens { progress with getters := progress.getters ++ [getter] } :=
        ⟨List.forall_mem_append.mpr ⟨before.getters, by simpa using ofGetter⟩, before.setters⟩
      exact added.noteProperty _
  | setter =>
    refine (Accessor.ofSetter_restsOn isIn owner).bind fun setter ofSetter => ?_
    split
    · exact restsOn_report isIn.header.position rfl
    · have added : IsIn tokens { progress with setters := progress.setters ++ [setter] } :=
        ⟨before.getters, List.forall_mem_append.mpr ⟨before.setters, by simpa using ofSetter⟩⟩
      exact added.noteProperty _
  | classAttribute =>
    exact (CallableDescriptor.optionsOf_restsOn isIn).bind fun _ _ => (claim_restsOn before isIn _).bind
      fun _ claimed => (documentation_restsOn isIn.header.attributes).bind fun _ _ =>
        ⟨claimed.getters, claimed.setters⟩
  | _ => exact ofMethod _

theorem read_restsOn (before : progress.IsIn tokens) (isIn : function.IsIn tokens) (owner : String) :
    (read owner progress function).RestsOn tokens items (IsIn tokens) := by
  unfold read
  refine (ofAttributes_restsOn _ _ isIn.header.attributes (List.forall_mem_nil _)).bind fun stub _ => ?_
  split
  · exact before
  · exact (MethodKind.ofFunction_restsOn isIn).bind fun kind _ => readKind_restsOn before isIn owner kind

theorem find_isIn {accessors : List Accessor} (isIn : ∀ accessor ∈ accessors, accessor.function.IsIn tokens)
    {name : String} {accessor : Accessor} (found : find? accessors name = some accessor) :
    accessor.function.IsIn tokens :=
  isIn accessor (List.mem_of_find?_eq_some found)

theorem addProperty_restsOn {state : MethodsProgress × List MemberDescriptor} (before : state.1.IsIn tokens)
    (owner name : String) :
    (addProperty owner state name).RestsOn tokens items fun after => after.1.IsIn tokens := by
  obtain ⟨progress, members⟩ := state
  unfold addProperty
  simp only
  split
  · exact before
  · rename_i setter _ found
    exact restsOn_report (find_isIn before.setters found).header.position rfl
  · rename_i getter found _
    exact (claim_restsOn before (find_isIn before.getters found) name).bind fun _ claimed => claimed
  · rename_i getter setter found found'
    split
    · exact (claim_restsOn before (find_isIn before.getters found) name).bind fun _ claimed => claimed
    · exact restsOn_report (find_isIn before.setters found').header.position rfl

end MethodsProgress

theorem MethodsDescriptor.ofImpl_restsOn {block : ImplItem} (begins : block.header.position.IsIn tokens)
    (isIn : ∀ function ∈ block.functions, function.IsIn tokens) :
    (ofImpl block).RestsOn tokens items fun _ => True := by
  have atStart : MethodsProgress.start.IsIn tokens := ⟨nofun, nofun⟩
  unfold ofImpl
  split
  · exact restsOn_report begins rfl
  · refine (Outcome.meets_foldlM (fun _ function member before =>
      MethodsProgress.read_restsOn before (isIn function member) _) atStart).bind fun progress ofProgress => ?_
    exact Outcome.Meets.bind (Outcome.meets_foldlM (fun _ name _ before =>
      MethodsProgress.addProperty_restsOn before _ name) ofProgress) fun _ _ => trivial

end Exposure
