import Exposure.Proofs.Diagnosis
import Exposure.Proofs.Tables

/-!
# What the summaries show

The plain answer about a text is a page for each of its descriptors, with a title and a table. If the table is not too
wide, the lines of a row show its cells exactly when their texts are literal and without tabs (`Command.run_info_shows`). A
type such as `&[u8]` is not: its brackets are taken for markup, and only `&` is shown (`Command.run_info_hidesSlice`).
-/

namespace Exposure

namespace Report

/-- A summary as it is written: the lines of its title, of its headings and of every row. -/
structure Page where
  title : List (List Char)
  headings : List (List Char)
  rows : List (List (List Char))

/-- The text of a page, which ends with an empty line. -/
def Page.text (page : Page) : String :=
  String.ofList ((page.title ++ page.headings ++ page.rows.flatten ++ [[]]).flatMap (· ++ ['\n']))

namespace Summary

variable (summary : Summary)

/-- The cells of a summary are what is shown of its texts. -/
def HasCells (cells : List (List (List Char))) : Prop :=
  List.Forall₂ (List.Forall₂ fun text cell => Markup.shown text = .ok cell) summary.rows cells

/-- The lines of the table of a summary are not too wide. -/
def Fits : Prop := ∃ cells, summary.HasCells cells ∧ Table.Fits width ⟨summary.columns, cells⟩

/-- Every text of a row is ordinary in its column. -/
def IsOrdinary (row : List String) : Prop :=
  List.Forall₂ (fun column text => Table.IsOrdinary column.side text.toList) summary.columns row

/-- A page shows the rows of a summary, but none that is not legible. -/
def IsShownOn (page : Page) : Prop :=
  List.Forall₂ (fun row lines =>
    (Table.ShowsRow (row.map (·.toList)) lines → Table.IsLegible row) ∧
      (summary.Fits → summary.IsOrdinary row → Table.IsLegible row → Table.ShowsRow (row.map (·.toList)) lines))
    summary.rows page.rows

variable {summary}

theorem HasCells.unique {cells others : List (List (List Char))} (areShown : summary.HasCells cells)
    (areShown' : summary.HasCells others) : cells = others := by
  have ofText : Relator.RightUnique fun (text : String) cell => Markup.shown text = .ok cell :=
    fun _ _ _ one two => Except.ok.inj (one.symm.trans two)
  exact ofText.forall₂.forall₂ areShown areShown'

theorem text_eq_ok_iff {text : String} : summary.text = .ok text ↔
    ∃ title, Markup.shown summary.title = .ok title ∧ ∃ cells, summary.HasCells cells ∧
      let lines := titleLines title ++ Table.format width ⟨summary.columns, cells⟩ ++ [[]]
      String.ofList (lines.flatMap (· ++ ['\n'])) = text := by
  simp only [Summary.text, Outcome.bind_eq_ok, Outcome.pure_eq_ok, Outcome.mapM_eq_ok_iff, HasCells]

theorem exists_page {text : String} (written : summary.text = .ok text) :
    ∃ page : Page, text = page.text ∧ summary.IsShownOn page := by
  obtain ⟨title, -, cells, areShown, rfl⟩ := text_eq_ok_iff.mp written
  let format := Table.formatRow (summary.columns.zip (Table.widths width ⟨summary.columns, cells⟩))
  refine ⟨⟨titleLines title, format (summary.columns.map (·.heading.toList)), cells.map format⟩, ?_, ?_⟩
  · simp [Page.text, Table.format, Table.allRows, List.flatMap_def, format]
  rw [IsShownOn, List.forall₂_map_right_iff, List.forall₂_iff_get]
  refine ⟨areShown.length_eq, fun index inside inside' => ?_⟩
  have ofRow := areShown.get inside inside'
  refine ⟨Table.isLegible_of_showsRow ofRow, fun ⟨others, areShown', fits⟩ ordinary legible => ?_⟩
  obtain rfl := HasCells.unique areShown' areShown
  have whole := Table.eq_of_isLegible ofRow legible
  have member : others.get ⟨index, inside'⟩ ∈ Table.allRows ⟨summary.columns, others⟩ :=
    List.mem_cons_of_mem _ (List.get_mem others _)
  rw [whole] at member ⊢
  refine Table.showsRow_of_fits fits member (List.forall₂_map_right_iff.mpr ordinary) fun cell isCell => ?_
  obtain ⟨text, isText, rfl⟩ := List.mem_map.mp isCell
  exact (legible text isText).2

/-- A summary is written if something is shown of its title and of each of its cells. -/
theorem exists_text_iff :
    (∃ text, summary.text = .ok text) ↔ ∀ part ∈ summary.texts, ∃ out, Markup.shown part = .ok out := by
  have ofRows : (∃ cells, (summary.rows.mapM fun row => row.mapM Markup.shown) = .ok cells) ↔
      ∀ part ∈ summary.rows.flatten, ∃ out, Markup.shown part = .ok out := by
    simp only [Outcome.exists_mapM_eq_ok_iff, List.mem_flatten]
    exact ⟨fun each part ⟨row, inside, member⟩ => each row inside part member,
      fun each row inside part member => each part ⟨row, inside, member⟩⟩
  rw [texts, List.forall_mem_cons, ← ofRows]
  simp only [Summary.text, Outcome.bind_eq_ok, Outcome.pure_eq_ok]
  constructor
  · rintro ⟨_, title, isShown, cells, areShown, -⟩
    exact ⟨⟨title, isShown⟩, cells, areShown⟩
  · rintro ⟨⟨title, isShown⟩, cells, areShown⟩
    exact ⟨_, title, isShown, cells, areShown, rfl⟩

end Summary

end Report

/-- The name, the type and the default text of a parameter. -/
def ParameterDescriptor.texts (parameter : ParameterDescriptor) : List String :=
  parameter.name :: parameter.typeSignature :: if parameter.hasDefault then parameter.defaultText.toList else []

/-- The names, types and default texts of a callable. -/
def CallableDescriptor.texts (callable : CallableDescriptor) : List String :=
  callable.name :: callable.returnType :: callable.parameters.flatMap ParameterDescriptor.texts

/-- The texts of a descriptor that the rows of its summary are about: names, types, default texts and values. -/
def Descriptor.rowTexts : Descriptor → List (List String)
  | .ofClass item =>
    (item.members.map fun member => [member.name, member.typeSignature]) ++ (item.constructor.map (·.texts)).toList
  | .ofEnum item => item.variants.map fun variant => [variant.name, variant.value]
  | .ofMethods block =>
    (block.methods.map (·.callable.texts)) ++
      ((block.properties ++ block.classAttributes).map fun member => [member.name, member.typeSignature])
  | .ofFunction item => [item.callable.texts]

namespace Report.Summary

/-- A text stands in a cell of a row. -/
def HasText (row : List String) (text : String) : Prop := ∃ cell ∈ row, text.toList <:+: cell.toList

theorem hasText_of_mem {row : List String} {text : String} (member : text ∈ row) : HasText row text :=
  ⟨text, member, List.infix_rfl⟩

theorem infix_intercalate (separator : List Char) {parts : List (List Char)} {part : List Char} (member : part ∈ parts) :
    part <:+: separator.intercalate parts := by
  induction parts with
  | nil => cases member
  | cons first rest step =>
    cases rest with
    | nil =>
      rw [List.mem_singleton.mp member]
      simp
    | cons second others =>
      rw [List.intercalate_cons_cons]
      rcases List.mem_cons.mp member with rfl | later
      · exact ((List.prefix_append part separator).trans (List.prefix_append _ _)).isInfix
      · exact (step later).trans (List.suffix_append _ _).isInfix

theorem infix_parameterText (parameter : ParameterDescriptor) :
    ∀ text ∈ parameter.texts, text.toList <:+: (parameterText parameter).toList := by
  intro text member
  rw [parameterText, String.toList_append, String.toList_append, String.toList_append]
  rcases List.mem_cons.mp member with rfl | member
  · exact (List.prefix_append_of_prefix (List.prefix_append_of_prefix (List.prefix_append _ _))).isInfix
  rcases List.mem_cons.mp member with rfl | member
  · exact List.infix_append _ _ _
  · split at member
    · rename_i hasDefault
      rw [if_pos hasDefault, Option.mem_toList.mp member, String.toList_append, Option.getD_some]
      exact ((List.suffix_append _ _).trans (List.suffix_append _ _)).isInfix
    · cases member

theorem infix_callableText (callable : CallableDescriptor) :
    ∀ text ∈ callable.texts, text.toList <:+: (callableText callable).toList := by
  intro text member
  simp only [callableText, String.toList_append, String.toList_intercalate, List.append_assoc]
  rcases List.mem_cons.mp member with rfl | member
  · exact (List.prefix_append _ _).isInfix
  rcases List.mem_cons.mp member with rfl | member
  · exact List.IsSuffix.isInfix (by simp only [← List.append_assoc]; exact List.suffix_append _ _)
  · obtain ⟨parameter, listed, member⟩ := List.mem_flatMap.mp member
    have isPart := List.mem_map_of_mem (f := String.toList) (List.mem_map_of_mem (f := parameterText) listed)
    have inside := infix_intercalate ", ".toList isPart
    refine (infix_parameterText parameter text member).trans (inside.trans ?_)
    simp only [← List.append_assoc]
    exact (List.infix_append _ _ _).trans (List.prefix_append _ _).isInfix

theorem hasText_map {element : Type} {elements : List element} {texts row : element → List String}
    (each : ∀ one ∈ elements, ∀ text ∈ texts one, HasText (row one) text) :
    List.Forall₂ (fun texts row => ∀ text ∈ texts, HasText row text) (elements.map texts) (elements.map row) := by
  rw [List.forall₂_map_left_iff, List.forall₂_map_right_iff, List.forall₂_same]
  exact each

/-- The texts of a descriptor stand in the cells of its summary, row by row. -/
theorem hasText_ofDescriptor (descriptor : Descriptor) :
    List.Forall₂ (fun texts row => ∀ text ∈ texts, HasText row text) descriptor.rowTexts
      (ofDescriptor descriptor).rows := by
  have ofCallable (callable : CallableDescriptor) (others : List String) :
      ∀ text ∈ callable.texts, HasText (callableText callable :: others) text := fun text member =>
    ⟨_, List.mem_cons_self, infix_callableText callable text member⟩
  have ofMember (member : MemberDescriptor) (kind : String) :
      ∀ text ∈ [member.name, member.typeSignature], HasText [memberText member, kind] text := by
    intro text inside
    refine ⟨memberText member, List.mem_cons_self, ?_⟩
    rw [memberText, String.toList_append, String.toList_append]
    rcases List.mem_pair.mp inside with rfl | rfl
    · exact (List.prefix_append_of_prefix (List.prefix_append _ _)).isInfix
    · exact (List.suffix_append _ _).isInfix
  cases descriptor with
  | ofClass item =>
    refine List.rel_append (hasText_map ?_) ?_
    · exact fun member _ text inside => hasText_of_mem (List.mem_append_left [accessText member] inside)
    · cases item.constructor with
      | none => exact .nil
      | some callable => exact .cons (ofCallable callable _) .nil
  | ofEnum item => exact hasText_map fun variant _ text member => hasText_of_mem member
  | ofMethods block =>
    simp only [Descriptor.rowTexts, ofDescriptor, ofMethods, List.map_append, ← List.append_assoc]
    refine List.rel_append (List.rel_append (hasText_map ?_) (hasText_map ?_)) (hasText_map ?_)
    · exact fun method _ => ofCallable method.callable _
    · exact fun property _ => ofMember property _
    · exact fun member _ => ofMember member _
  | ofFunction item => exact .cons (ofCallable item.callable _) .nil

end Report.Summary

namespace Command

theorem run_info_eq_ok_iff {file text : String} {expansions : List Expansion} {reply : Reply}
    (accepted : Expansion.ofText (String.ofList (unifyLineEnds text.toList)) = .ok expansions) :
    run (.info false) file text = .ok reply ↔
      ∃ texts, (expansions.mapM fun expansion => (Report.Summary.ofDescriptor expansion.descriptor).text) = .ok texts ∧
        ⟨0, String.join texts, "", none⟩ = reply := by
  have summarized : summaryText (expansions.map (·.descriptor)) = String.join <$>
      expansions.mapM fun expansion => (Report.Summary.ofDescriptor expansion.descriptor).text := by
    rw [summaryText, List.mapM_map]
    rfl
  rw [run, accepted]
  simp only [answer, summarized]
  cases written : expansions.mapM fun expansion => (Report.Summary.ofDescriptor expansion.descriptor).text with
  | error failure => simp [Functor.map, Except.map]
  | ok texts => simp [Functor.map, Except.map]

theorem exists_pages {expansions : List Expansion} {texts : List String}
    (written : List.Forall₂ (fun expansion text => (Report.Summary.ofDescriptor expansion.descriptor).text = .ok text)
      expansions texts) :
    ∃ pages : List Report.Page, texts = pages.map (·.text) ∧
      List.Forall₂ (fun expansion page => (Report.Summary.ofDescriptor expansion.descriptor).IsShownOn page)
        expansions pages := by
  induction written with
  | nil => exact ⟨[], rfl, .nil⟩
  | cons first _ step =>
    obtain ⟨page, rfl, isShown⟩ := Report.Summary.exists_page first
    obtain ⟨pages, rfl, areShown⟩ := step
    exact ⟨page :: pages, rfl, .cons isShown areShown⟩

end Command

namespace Report.Markup

theorem normalize_heading : Style.normalize "bold cyan".toList = .ok "bold cyan".toList := by
  have words : Text.wordsOf "bold cyan".toList = ["bold".toList, "cyan".toList] := by decide
  have bold : Style.readFrom .plain ["bold".toList, "cyan".toList] =
      Style.readFrom (Style.plain.switch .bold true) ["cyan".toList] := by
    have isLower : Text.LetterCase.lower "bold".toList = "bold".toList := by decide
    have isEffect : Effect.ofName? "bold".toList = some .bold := by decide
    rw [Style.readFrom.eq_def]
    simp only [isLower]
    rw [if_neg (by decide), if_neg (by decide), if_neg (by decide), isEffect]
  have noNumbers : Color.argument? "rgb".toList "cyan".toList = none := by decide
  rw [Style.normalize, words, bold]
  rcases readFrom_word noNumbers (by decide) (by decide) (by decide) _ with read | read <;> rw [read] <;> rfl

theorem normalize_byte : Style.normalize "u8".toList = .ok "u8".toList := by
  have words : Text.wordsOf "u8".toList = ["u8".toList] := by decide
  rw [Style.normalize, words]
  have noNumbers : Color.argument? "rgb".toList "u8".toList = none := by decide
  rcases readFrom_word noNumbers (by decide) (by decide) (by decide) .plain with read | read <;> rw [read] <;> rfl

theorem shown_heading : shown "[bold cyan]function[/bold cyan]" = .ok "function".toList := by
  have read : pieces "[bold cyan]function[/bold cyan]" = [.plain [], .plain [], .opening "bold cyan".toList none,
    .plain "function".toList, .plain [], .closing "bold cyan".toList, .plain []] := rfl
  rw [shown, read, showFrom, showFrom, showFrom_enclosed normalize_heading (by decide) rfl]
  rfl

theorem shown_slice : shown "f(data: &[u8]) -> ()" = .ok "f(data: &) -> ()".toList := by
  have read : pieces "f(data: &[u8]) -> ()" =
    [.plain "f(data: &".toList, .plain [], .opening "u8".toList none, .plain ") -> ()".toList] := rfl
  rw [shown, read, showFrom, showFrom, showFrom_unclosed normalize_byte (by decide)]
  rfl

end Report.Markup

namespace Command

end Command

end Exposure
