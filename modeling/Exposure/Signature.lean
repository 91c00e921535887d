import Exposure.Descriptor
import Exposure.Options
import Exposure.Syntax.DefaultValue
import Exposure.Syntax.TypeExpr.Signature

namespace Exposure

/-- The analysed parameters of a callable and its calling convention. -/
structure Signature where
  parameters : List ParameterDescriptor
  shape : CallShape
  deriving DecidableEq, Repr

namespace CallShape

/-- The calling convention that a list of parameters has. -/
def ofParameters (parameters : List ParameterDescriptor) : CallShape :=
  if parameters.isEmpty then .noArguments
  else if parameters.any (·.passing.isVariadic) then .variadic
  else if parameters.all (·.passing = .positionalOnly) then .positional
  else
    match parameters with
    | [only] => if only.hasDefault then .keywords else .single
    | _ => .keywords

end CallShape

namespace Signature

/-- The text of a default that cannot be written as it stands. -/
def placeholder : String := "..."

/-- Report a fault in a signature. -/
def report {value : Type} (position : Position) (fault : SignatureFault) (name : String) : Outcome value :=
  Outcome.report (.point position) (.signature fault name)

/-- The parameters that callers pass, which are neither receivers nor interpreter tokens. -/
def visible (parameters : List Parameter) : List Parameter :=
  parameters.filter fun parameter => !parameter.isReceiver && !parameter.type.any (·.isInterpreterToken)

/-- Two parameters may not share a name; the second of them is reported. -/
def checkDistinct (seen : List String) : List Parameter → Outcome Unit
  | [] => .ok ()
  | parameter :: rest =>
    if seen.contains parameter.name then report parameter.position .duplicateName parameter.name
    else checkDistinct (parameter.name :: seen) rest

/-- The descriptor of a parameter with a default or without one. -/
def describe (owner : Option String) (parameter : Parameter) (passing : PassingKind) (default : Option String) :
    ParameterDescriptor :=
  ⟨parameter.name, TypeExpr.signatureOf owner parameter.type, passing, default.isSome, default⟩

/-- A parameter of optional type. -/
def isOptional (parameter : Parameter) : Bool := (parameter.type.bind TypeExpr.optionInner?).isSome

/-- The number of parameters before the trailing run of optional ones. -/
def requiredCount (parameters : List Parameter) : Nat :=
  parameters.length - (parameters.reverse.takeWhile isOptional).length

/-- Without an override every parameter is passed by position or by name, and trailing optional ones have a default. -/
def implicitParameters (parameters : List Parameter) (options : Options) (owner : Option String) :
    List ParameterDescriptor :=
  let required := requiredCount parameters
  parameters.mapIdx fun index parameter =>
    let fallback := if required ≤ index then some "None" else none
    describe owner parameter .positionalOrKeyword ((options.defaultFor? parameter.name).or fallback)

/-- What the elements of an override read so far amount to. -/
structure Progress where
  described : List ParameterDescriptor
  seen : List String
  star : Option SignatureEntry
  afterSlash : Bool
  afterKeywords : Bool
  last : Nat

namespace Progress

/-- Nothing has been read. -/
def start : Progress := ⟨[], [], none, false, false, 0⟩

/-- The star that has no parameter of its own, if it has been read. -/
def bareStar? (progress : Progress) : Option SignatureEntry :=
  progress.star.filter fun entry => entry.name?.isNone

/-- A bare star needs a parameter behind it that is passed by name. -/
def checkBareStar (progress : Progress) : Outcome Unit :=
  match progress.bareStar? with
  | none => .ok ()
  | some entry =>
    if progress.described.any (·.passing = .keywordOnly) then .ok ()
    else report entry.position .orderingViolation "*"

/-- Find the parameter that an element names; it must be new, declared, and declared behind those before it. -/
def locate (declared : List Parameter) (progress : Progress) (entry : SignatureEntry) (name : String) :
    Outcome (Nat × Parameter) :=
  if progress.seen.contains name then report entry.position .duplicateName name
  else
    match declared.zipIdx.find? fun found => found.1.name = name with
    | none => report entry.position .unknownParameter name
    | some (parameter, index) =>
      if index < progress.last then report entry.position .orderingViolation name else .ok (index, parameter)

/-- Note that an element has named a parameter. -/
def noting (progress : Progress) (name : String) (index : Nat) : Progress :=
  { progress with seen := name :: progress.seen, last := index }

/-- Append a descriptor. -/
def adding (progress : Progress) (descriptor : ParameterDescriptor) : Progress :=
  { progress with described := progress.described ++ [descriptor] }

/-- Nothing may stand behind the parameter that takes any keywords. -/
def checkOpen (progress : Progress) (entry : SignatureEntry) : Outcome Unit :=
  if progress.afterKeywords then report entry.position .orderingViolation entry.label else .ok ()

/-- There is one star at most. -/
def checkNoStar (progress : Progress) (entry : SignatureEntry) : Outcome Unit :=
  if progress.star.isSome then report entry.position .orderingViolation entry.label else .ok ()

/-- The default text of a named element: the recorded text, or the expression as it stands, or the placeholder. -/
def defaultOf (options : Options) (name : String) (expression : Option (List TokenTree)) : Option String :=
  match expression with
  | none => options.defaultFor? name
  | some trees =>
    let recorded := (options.defaultFor? name).filter (!·.isEmpty)
    let written := (DefaultValue.render trees).filter (!·.isEmpty)
    some ((recorded.or written).getD placeholder)

/-- Read one more element. -/
def read (declared : List Parameter) (options : Options) (owner : Option String) (progress : Progress)
    (entry : SignatureEntry) : Outcome Progress := do
  match entry.form with
  | .positionalMarker =>
    progress.checkOpen entry
    if progress.star.isSome then
      report entry.position .positionalOnlyConflict ((progress.described.getLast?.map (·.name)).getD "/")
    else if progress.afterSlash || progress.described.isEmpty then report entry.position .orderingViolation "/"
    else
      let described := progress.described.map fun descriptor => { descriptor with passing := .positionalOnly }
      return { progress with described := described, afterSlash := true }
  | .keywordMarker =>
    progress.checkOpen entry
    progress.checkNoStar entry
    return { progress with star := some entry }
  | .variadicPositional name =>
    let (index, parameter) ← progress.locate declared entry name
    progress.checkOpen entry
    progress.checkNoStar entry
    return { (progress.noting name index).adding (describe owner parameter .variadicPositional none) with
      star := some entry }
  | .variadicKeyword name =>
    let (index, parameter) ← progress.locate declared entry name
    progress.checkOpen entry
    progress.checkBareStar
    return { (progress.noting name index).adding (describe owner parameter .variadicKeyword none) with
      afterKeywords := true }
  | .named name expression =>
    let (index, parameter) ← progress.locate declared entry name
    progress.checkOpen entry
    let passing := if progress.star.isSome then .keywordOnly else .positionalOrKeyword
    return (progress.noting name index).adding (describe owner parameter passing (defaultOf options name expression))

end Progress

/-- Every declared parameter must be named; the first that is not is reported. -/
def checkComplete (seen : List String) : List Parameter → Outcome Unit
  | [] => .ok ()
  | parameter :: rest =>
    if seen.contains parameter.name then checkComplete seen rest
    else report parameter.position .missingParameter parameter.name

/-- The parameters of a callable whose signature is overridden. -/
def explicitParameters (parameters : List Parameter) (entries : List SignatureEntry) (options : Options)
    (owner : Option String) : Outcome (List ParameterDescriptor) := do
  let progress ← entries.foldlM (Progress.read parameters options owner) .start
  unless progress.afterKeywords do progress.checkBareStar
  checkComplete progress.seen parameters
  return progress.described

/-- Where a declared parameter stands; of two of one name the later counts. -/
def placeOf (declared : List Parameter) (name : String) : Place :=
  match declared.reverse.find? fun parameter => parameter.name = name with
  | some parameter => .point parameter.position
  | none => .unknown

/-- No required parameter may stand behind one of its group that has a default, given the groups that have had one. -/
def checkDefaultOrder (declared : List Parameter) (positional keyword : Bool) :
    List ParameterDescriptor → Outcome Unit
  | [] => .ok ()
  | parameter :: rest =>
    let violation : Outcome Unit :=
      Outcome.report (placeOf declared parameter.name) (.signature .defaultOrderingViolation parameter.name)
    if parameter.passing.isPositional then
      if parameter.hasDefault then checkDefaultOrder declared true keyword rest
      else if positional then violation
      else checkDefaultOrder declared positional keyword rest
    else if parameter.passing = .keywordOnly then
      if parameter.hasDefault then checkDefaultOrder declared positional true rest
      else if keyword then violation
      else checkDefaultOrder declared positional keyword rest
    else checkDefaultOrder declared positional keyword rest

/-- Add the default texts that stub attributes record; those already recorded win. -/
def withStubDefaults (options : Options) (parameters : List Parameter) : Outcome Options := do
  let found ← Options.stubDefaults parameters
  let further := found.filter fun (name, _) => !options.defaults.any fun (known, _) => known = name
  return { options with defaults := options.defaults ++ further }

/-- Analyse the declared parameters of a callable. -/
def analyze (parameters : List Parameter) (options : Options) (owner : Option String) : Outcome Signature := do
  let passed := visible parameters
  let options ← withStubDefaults options passed
  checkDistinct [] passed
  let described ← match options.signature with
    | none => pure (implicitParameters passed options owner)
    | some entries => explicitParameters passed entries options owner
  checkDefaultOrder passed false false described
  return ⟨described, .ofParameters described⟩

end Signature

end Exposure
