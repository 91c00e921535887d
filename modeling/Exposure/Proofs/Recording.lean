import Exposure.Proofs.OptionPieces
import Exposure.Signature

/-!
# Recorded default texts

The default text of a parameter is recorded by the options of its function or by the stub attributes of the parameter.
`StubText` says what stub attributes may hold, and `Signature.Records` which text is recorded for a name.
-/

namespace Exposure

/-- The pieces of all stub attributes. -/
def Attribute.stubPieces (attributes : List Attribute) : List (List TokenTree) :=
  (withName "gen_stub" attributes).flatMap fun stub => TokenTree.splitAtCommas stub.arguments

/-- The pieces of stub attributes hold nothing, or together one default text. -/
inductive StubText : List (List TokenTree) → Option String → Prop
  | absent : StubText [] none
  | default {key value : Leaf} {equals : TokenTree} {text : String} (isKey : key.kind = .ident)
      (named : key.text = OptionKey.default.text) (isEquals : equals.isMark .equals = true)
      (isLiteral : value.kind = .string) (decoded : Literal.decode value.text = .ok text) :
      StubText [[.leaf key, equals, .leaf value]] (some text)

/-- The options of stub attributes are default texts. -/
theorem OptionPairs.reads_stub_iff {piece : List TokenTree} {key : OptionKey} {value : OptionValue} :
    Reads .ofStubParameter piece key value ↔
      ∃ text, StubText [piece] (some text) ∧ key = .default ∧ value = .text text := by
  constructor
  · rintro ⟨isIdent, known, takes⟩
    obtain ⟨rfl, named⟩ : .default = key ∧ OptionKey.default.text = _ := by
      simpa [Vocabulary.find?, Vocabulary.ofStubParameter, List.find?_singleton, and_comm] using known
    cases takes with
    | literal isText isEquals isLiteral decoded =>
      exact ⟨_, .default isIdent named.symm isEquals isLiteral decoded, rfl, rfl⟩
    | flag isFlag => cases isFlag
    | path isPath => cases isPath
    | signature isSignature => cases isSignature
  · rintro ⟨text, stub, rfl, rfl⟩
    cases stub with
    | @default name _ _ _ isKey named isEquals isLiteral decoded =>
      have known : Vocabulary.ofStubParameter.find? name.text = some .default := by
        rw [named]
        rfl
      exact .intro isKey known (.literal (.inl rfl) isEquals isLiteral decoded)

namespace Options

/-- The default text of a parameter is what the pieces of its stub attributes hold. -/
theorem stubDefault?_eq_ok_iff {attributes : List Attribute} {found : Option String} :
    stubDefault? attributes = .ok found ↔ StubText (Attribute.stubPieces attributes) found := by
  have whole : ((Attribute.withName "gen_stub" attributes).map Attribute.arguments).flatMap TokenTree.splitAtCommas =
      Attribute.stubPieces attributes := List.flatMap_map ..
  simp only [stubDefault?, Outcome.bind_eq_ok, OptionPairs.ofLists_eq_ok_iff, whole, Outcome.pure_eq_ok]
  generalize Attribute.stubPieces attributes = pieces
  constructor
  · rintro ⟨pairs, ⟨reads, distinct⟩, rfl⟩
    cases reads with
    | nil => exact .absent
    | @cons _ pair _ _ first others =>
      obtain ⟨key, value⟩ := pair
      obtain ⟨text, stub, rfl, rfl⟩ := OptionPairs.reads_stub_iff.mp first
      cases others with
      | nil => exact stub
      | cons second _ =>
        obtain ⟨_, -, again, -⟩ := OptionPairs.reads_stub_iff.mp second
        simp [again] at distinct
  · intro stub
    cases stub with
    | absent => exact ⟨[], ⟨.nil, List.nodup_nil⟩, rfl⟩
    | default isKey named isEquals isLiteral decoded =>
      have reads := OptionPairs.reads_stub_iff.mpr ⟨_, .default isKey named isEquals isLiteral decoded, rfl, rfl⟩
      exact ⟨[(.default, .text _)], ⟨.cons reads .nil, List.nodup_singleton _⟩, rfl⟩

end Options

theorem StubText.unique {attributes : List Attribute} {one other : Option String}
    (ofOne : StubText (Attribute.stubPieces attributes) one) (ofOther : StubText (Attribute.stubPieces attributes) other) :
    one = other := by
  rw [← Options.stubDefault?_eq_ok_iff] at ofOne ofOther
  exact Except.ok.inj (ofOne.symm.trans ofOther)

namespace Signature

/-- A text is recorded for a parameter of a name: by the options, or else by the stub attributes of the parameter. -/
inductive Records (options : Options) (parameters : List Parameter) (name text : String) : Prop
  | options (given : options.defaultFor? name = some text)
  | stub {parameter : Parameter} (silent : options.defaultFor? name = none) (member : parameter ∈ parameters)
      (named : parameter.name = name) (given : StubText (Attribute.stubPieces parameter.attributes) (some text))

/-- A text is recorded for a parameter of a name. -/
def IsRecorded (options : Options) (parameters : List Parameter) (name : String) : Prop :=
  ∃ text, Records options parameters name text

/-- The stub attributes of every parameter can be read. -/
def ReadsStubs (parameters : List Parameter) : Prop :=
  ∀ parameter ∈ parameters, ∃ found, StubText (Attribute.stubPieces parameter.attributes) found

theorem exists_withStubDefaults_iff {options : Options} {parameters : List Parameter} :
    (∃ recorded, withStubDefaults options parameters = .ok recorded) ↔ ReadsStubs parameters := by
  have found : (∃ recorded, withStubDefaults options parameters = .ok recorded) ↔
      ∃ texts, parameters.mapM (fun parameter => do
        return (← Options.stubDefault? parameter.attributes).map (parameter.name, ·)) = .ok texts := by
    simp [withStubDefaults, Options.stubDefaults]
  rw [found, Outcome.exists_mapM_eq_ok_iff]
  simp [ReadsStubs, Options.stubDefault?_eq_ok_iff]

/-- The texts of stub attributes stand under the names of their parameters, in order. -/
theorem mem_stubDefaults {parameters : List Parameter} {found : List (String × String)}
    (run : Options.stubDefaults parameters = .ok found) :
    (found.map Prod.fst).Sublist (parameters.map (·.name)) ∧
      ∀ name text, (name, text) ∈ found ↔
        ∃ parameter ∈ parameters, parameter.name = name ∧
          StubText (Attribute.stubPieces parameter.attributes) (some text) := by
  simp only [Options.stubDefaults, Outcome.bind_eq_ok, Outcome.pure_eq_ok] at run
  obtain ⟨texts, read, rfl⟩ := run
  have each := Outcome.mapM_eq_ok_iff.mp read
  clear read
  induction each with
  | nil => simp
  | @cons first text rest others here _ step =>
    simp only [Outcome.bind_eq_ok, Outcome.pure_eq_ok, Options.stubDefault?_eq_ok_iff] at here
    obtain ⟨sublist, members⟩ := step
    obtain ⟨given, stub, rfl⟩ := here
    have ofFirst (text : String) :
        StubText (Attribute.stubPieces first.attributes) (some text) ↔ given = some text :=
      ⟨stub.unique, fun same => same ▸ stub⟩
    cases given with
    | none =>
      refine ⟨sublist.cons _, fun name text => ?_⟩
      simpa [ofFirst] using members name text
    | some given =>
      refine ⟨sublist.cons_cons _, fun name text => ?_⟩
      have apart : (name, text) = (first.name, given) ↔ first.name = name ∧ given = text := by
        rw [Prod.mk.injEq, eq_comm, @eq_comm _ text]
      rw [Option.map_some, List.filterMap_cons_some (f := id) rfl, List.mem_cons, members, apart]
      simp only [List.mem_cons, exists_eq_or_imp, ofFirst, Option.some.injEq]

variable {options recorded : Options} {parameters : List Parameter}

theorem withStubDefaults_signature (run : withStubDefaults options parameters = .ok recorded) :
    recorded.signature = options.signature := by
  simp only [withStubDefaults, Outcome.bind_eq_ok, Outcome.pure_eq_ok] at run
  obtain ⟨found, -, rfl⟩ := run
  rfl

/-- With the default texts of stub attributes, options give what is recorded by either. -/
theorem defaultFor?_eq_some_iff (distinct : (parameters.map (·.name)).Nodup)
    (run : withStubDefaults options parameters = .ok recorded) {name text : String} :
    recorded.defaultFor? name = some text ↔ Records options parameters name text := by
  simp only [withStubDefaults, Outcome.bind_eq_ok, Outcome.pure_eq_ok] at run
  obtain ⟨found, read, rfl⟩ := run
  obtain ⟨sublist, members⟩ := mem_stubDefaults read
  have further : (found.filter fun pair => !options.defaults.any fun known => known.1 = pair.1).lookup name = some text ↔
      (name, text) ∈ found ∧ options.defaultFor? name = none := by
    rw [lookup_eq_some_iff_of_nodup ((List.filter_sublist.map Prod.fst).trans sublist |>.nodup distinct),
      List.mem_filter, Options.defaultFor?, List.lookup_eq_none_iff]
    simp only [Bool.not_eq_true', List.any_eq_false, decide_eq_true_eq, bne_iff_ne, ne_eq, @eq_comm _ name]
  rw [Options.defaultFor?, List.lookup_append, Option.or_eq_some_iff, further, members]
  constructor
  · rintro (given | ⟨silent, ⟨parameter, member, named, stub⟩, -⟩)
    · exact .options given
    · exact .stub silent member named stub
  · intro records
    cases records with
    | options given => exact .inl given
    | stub silent member named stub => exact .inr ⟨silent, ⟨_, member, named, stub⟩, silent⟩

theorem isSome_defaultFor?_iff (distinct : (parameters.map (·.name)).Nodup)
    (run : withStubDefaults options parameters = .ok recorded) (name : String) :
    (recorded.defaultFor? name).isSome = true ↔ IsRecorded options parameters name := by
  rw [Option.isSome_iff_exists]
  exact exists_congr fun text => defaultFor?_eq_some_iff distinct run

end Signature

end Exposure
