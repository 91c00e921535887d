import Exposure.Report.Table
import Mathlib.Algebra.GroupWithZero.Nat
import Mathlib.Data.List.Flatten
import Mathlib.Data.List.Forall2
import Mathlib.Data.List.TakeWhile

/-!
# How a text stands in a column

A cell is written line by line. Wherever it is cut or folded, its column brings no characters that the cell does not have,
apart from blanks and ellipses (`Report.Table.formatCell_isMadeOf`). A line without tabs that is no wider than its column is
neither cut nor folded: it stands there as it is between blanks (`Report.Table.formatCell_of_fits`).
-/

namespace Exposure

/-- Apart from blanks and ellipses a text has no more characters than another one. -/
def Text.IsMadeOf (text other : List Char) : Prop := ∀ char, char ≠ ' ' → char ≠ '…' → text.count char ≤ other.count char

namespace Text.IsMadeOf

variable {text other further : List Char}

theorem refl (text : List Char) : IsMadeOf text text := fun _ _ _ => Nat.le_refl _

theorem trans (first : IsMadeOf text other) (second : IsMadeOf other further) : IsMadeOf text further :=
  fun char noBlank noEllipsis => (first char noBlank noEllipsis).trans (second char noBlank noEllipsis)

theorem of_sublist (sublist : text.Sublist other) : IsMadeOf text other := fun char _ _ => sublist.count_le char

theorem append {text' other' : List Char} (first : IsMadeOf text other) (second : IsMadeOf text' other') :
    IsMadeOf (text ++ text') (other ++ other') := by
  intro char noBlank noEllipsis
  rw [List.count_append, List.count_append]
  exact Nat.add_le_add (first char noBlank noEllipsis) (second char noBlank noEllipsis)

theorem blanks (count : Nat) (other : List Char) : IsMadeOf (Width.blanks count) other := by
  intro char noBlank _
  rw [Width.blanks, List.count_replicate, if_neg (by simpa using noBlank.symm)]
  exact Nat.zero_le _

theorem behind (isMadeOf : IsMadeOf text other) (count : Nat) : IsMadeOf (text ++ Width.blanks count) other := by
  have written := isMadeOf.append (blanks count [])
  rwa [List.append_nil] at written

theorem before (isMadeOf : IsMadeOf text other) (count : Nat) : IsMadeOf (Width.blanks count ++ text) other :=
  (blanks count []).append isMadeOf

theorem of_perm (perm : text.Perm other) : IsMadeOf text other := fun char _ _ => (perm.count_eq char).le

theorem flatMap {element : Type} {elements : List element} {written given : element → List Char}
    (each : ∀ one ∈ elements, IsMadeOf (written one) (given one)) :
    IsMadeOf (elements.flatMap written) (elements.flatMap given) := by
  induction elements with
  | nil => exact .refl []
  | cons first rest step =>
    rw [List.flatMap_cons, List.flatMap_cons]
    exact (each first List.mem_cons_self).append (step fun one member => each one (List.mem_cons_of_mem _ member))

end Text.IsMadeOf

open Text (IsMadeOf)

namespace Text.Width

/-! The width of a text -/

theorem ofTextBehind_joined (last : Option Char) (hidden : Char) (rest : List Char) :
    ofTextBehind last (joiner :: hidden :: rest) = ofTextBehind last rest := by
  rw [ofTextBehind, if_pos rfl]

theorem ofTextBehind_selector (last : Option Char) (rest : List Char) :
    ofTextBehind last (emojiSelector :: rest) = (if last.any widens then 1 else 0) + ofTextBehind none rest := by
  rw [ofTextBehind.eq_def]
  exact (if_neg (by decide)).trans (if_pos rfl)

section Plain

variable {char : Char} (noJoiner : char ≠ joiner) (noSelector : char ≠ emojiSelector)

include noJoiner noSelector

theorem ofTextBehind_empty (isEmpty : ofChar char = 0) (last : Option Char) (rest : List Char) :
    ofTextBehind last (char :: rest) = ofTextBehind last rest := by
  rw [ofTextBehind.eq_def]
  exact (if_neg noJoiner).trans ((if_neg noSelector).trans (if_pos isEmpty))

theorem ofTextBehind_wide (isWide : ofChar char ≠ 0) (last : Option Char) (rest : List Char) :
    ofTextBehind last (char :: rest) = ofChar char + ofTextBehind (some char) rest := by
  rw [ofTextBehind.eq_def]
  exact (if_neg noJoiner).trans ((if_neg noSelector).trans (if_neg isWide))

end Plain

theorem ofTextBehind_blanks (last : Option Char) (count : Nat) : ofTextBehind last (blanks count) = count := by
  induction count generalizing last with
  | zero => rfl
  | succ count step =>
    have isWide : ofChar ' ' = 1 := by decide
    rw [blanks, List.replicate_succ, ofTextBehind_wide (by decide) (by decide) (by decide), ← blanks, step, isWide]
    omega

/-- Behind a character that a selector may widen a text is no narrower than on its own. -/
theorem ofTextBehind_none_le (last : Option Char) (text : List Char) :
    ofTextBehind none text ≤ ofTextBehind last text := by
  fun_induction ofTextBehind last text with
  | case1 | case2 => exact Nat.le_refl 0
  | case3 last hidden rest step => rwa [ofTextBehind_joined]
  | case4 last rest =>
    rw [ofTextBehind_selector]
    exact Nat.add_le_add_right (Nat.zero_le _) _
  | case5 last char rest noJoiner noSelector isEmpty step => rwa [ofTextBehind_empty noJoiner noSelector isEmpty]
  | case6 last char rest noJoiner noSelector isWide step => rw [ofTextBehind_wide noJoiner noSelector isWide]

theorem ofTextBehind_le_append (last : Option Char) (text behind : List Char) :
    ofTextBehind last text ≤ ofTextBehind last (text ++ behind) := by
  fun_induction ofTextBehind last text with
  | case1 | case2 => exact Nat.zero_le _
  | case3 last hidden rest step =>
    rw [List.cons_append, List.cons_append, ofTextBehind_joined]
    exact step
  | case4 last rest _ step =>
    rw [List.cons_append, ofTextBehind_selector]
    exact Nat.add_le_add_left step _
  | case5 last char rest noJoiner noSelector isEmpty step =>
    rw [List.cons_append, ofTextBehind_empty noJoiner noSelector isEmpty]
    exact step
  | case6 last char rest noJoiner noSelector isWide step =>
    rw [List.cons_append, ofTextBehind_wide noJoiner noSelector isWide]
    exact Nat.add_le_add_left step _

theorem ofText_le_of_prefix {text other : List Char} (isPrefix : text <+: other) : ofText text ≤ ofText other := by
  obtain ⟨behind, rfl⟩ := isPrefix
  exact ofTextBehind_le_append none text behind

/-- Two texts are no wider apart than one behind the other, unless a joiner at the end of the first hides a character. -/
theorem ofTextBehind_add_le (last : Option Char) {text : List Char} (noJoiner : text.getLast? ≠ some joiner)
    (behind : List Char) : ofTextBehind last text + ofTextBehind none behind ≤ ofTextBehind last (text ++ behind) := by
  have beforeRest {char : Char} {rest : List Char} (noJoiner : (char :: rest).getLast? ≠ some joiner) :
      rest.getLast? ≠ some joiner := by
    cases rest with
    | nil => exact nofun
    | cons => rwa [List.getLast?_cons_cons] at noJoiner
  fun_induction ofTextBehind last text with
  | case1 last => simpa using ofTextBehind_none_le last behind
  | case2 => exact absurd rfl noJoiner
  | case3 last hidden rest step =>
    rw [List.cons_append, List.cons_append, ofTextBehind_joined]
    exact step (beforeRest (beforeRest noJoiner))
  | case4 last rest _ step =>
    rw [List.cons_append, ofTextBehind_selector, Nat.add_assoc]
    exact Nat.add_le_add_left (step (beforeRest noJoiner)) _
  | case5 last char rest differs noSelector isEmpty step =>
    rw [List.cons_append, ofTextBehind_empty differs noSelector isEmpty]
    exact step (beforeRest noJoiner)
  | case6 last char rest differs noSelector isWide step =>
    rw [List.cons_append, ofTextBehind_wide differs noSelector isWide, Nat.add_assoc]
    exact Nat.add_le_add_left (step (beforeRest noJoiner)) _

/-- Blanks behind a text take their columns, but for one that a joiner may hide. -/
theorem ofTextBehind_add_blanks_le (last : Option Char) (text : List Char) (count : Nat) :
    ofTextBehind last text + count ≤ ofTextBehind last (text ++ blanks count) + 1 := by
  fun_induction ofTextBehind last text with
  | case1 last =>
    rw [List.nil_append, ofTextBehind_blanks]
    omega
  | case2 last =>
    cases count with
    | zero => exact Nat.zero_le _
    | succ count =>
      rw [blanks, List.replicate_succ, List.singleton_append, ofTextBehind_joined, ← blanks, ofTextBehind_blanks]
      omega
  | case3 last hidden rest step =>
    rw [List.cons_append, List.cons_append, ofTextBehind_joined]
    exact step
  | case4 last rest _ step =>
    rw [List.cons_append, ofTextBehind_selector]
    omega
  | case5 last char rest noJoiner noSelector isEmpty step =>
    rw [List.cons_append, ofTextBehind_empty noJoiner noSelector isEmpty]
    exact step
  | case6 last char rest noJoiner noSelector isWide step =>
    rw [List.cons_append, ofTextBehind_wide noJoiner noSelector isWide]
    omega

/-! Cutting a text -/

theorem flatMap_clustersFrom (begun : Cluster) (last : Option Char) (text : List Char) :
    (clustersFrom begun last text).flatMap (·.text) = begun.text ++ text := by
  fun_induction clustersFrom begun last text with
  | case1 begun last isEmpty => simp [List.isEmpty_iff.mp isEmpty]
  | case7 begun last char rest _ _ _ isEmpty step => simp [step, List.isEmpty_iff.mp isEmpty]
  | _ => simp_all

theorem fitting_sublist (limit : Nat) (clusters : List Cluster) : (fitting limit clusters).Sublist clusters := by
  induction clusters generalizing limit with
  | nil => exact .slnil
  | cons cluster rest step =>
    rw [fitting]
    split
    · exact (step _).cons_cons cluster
    · exact List.nil_sublist _

theorem cut_isMadeOf (limit : Nat) (text : List Char) : IsMadeOf (cut limit text) text := by
  have whole : (clusters text).flatMap (·.text) = text := flatMap_clustersFrom ⟨[], 0⟩ none text
  have beginning := (fitting_sublist limit (clusters text)).flatMap (·.text)
  rw [whole] at beginning
  exact (IsMadeOf.of_sublist beginning).behind _

end Text.Width

namespace Text

theorem dropTail_append (kind : Char → Bool) (text : List Char) :
    ∃ tail, text = dropTail kind text ++ tail ∧ ∀ char ∈ tail, kind char := by
  refine ⟨(text.reverse.takeWhile kind).reverse, ?_, fun char member => ?_⟩
  · rw [dropTail, ← List.reverse_append, List.takeWhile_append_dropWhile, List.reverse_reverse]
  · exact List.mem_takeWhile_imp (List.mem_reverse.mp member)

theorem dropTail_isPrefix (kind : Char → Bool) (text : List Char) : dropTail kind text <+: text := by
  obtain ⟨tail, split, -⟩ := dropTail_append kind text
  exact ⟨tail, split.symm⟩

namespace Wrap

/-! Lines -/

theorem flatten_wordsFrom (word : List Char) (begun : Bool) (text : List Char) :
    (wordsFrom word begun text).flatten = word ++ text := by
  fun_induction wordsFrom word begun text with
  | case1 => simp
  | _ => simp_all

/-- The words of a text are together no wider than the text, since each but the last ends with a blank. -/
theorem sum_wordsFrom_le (word : List Char) (begun : Bool) (text : List Char) :
    ((wordsFrom word begun text).map Width.ofText).sum ≤ Width.ofText (word ++ text) := by
  fun_induction wordsFrom word begun text with
  | case1 => simp
  | case2 word begun char rest _ step => simpa using step
  | case3 word begun char rest _ ends step =>
    obtain ⟨-, ends⟩ := (Bool.and_eq_true ..).mp ends
    have noJoiner : word.getLast? ≠ some Width.joiner := by
      intro isJoiner
      rw [isJoiner] at ends
      exact absurd ends (by decide)
    rw [List.map_cons, List.sum_cons]
    exact (Nat.add_le_add_left step _).trans (Width.ofTextBehind_add_le none noJoiner (char :: rest))
  | case4 word begun char rest _ _ step => simpa using step

/-- A text that is no wider than a line is one line. -/
theorem fill_of_fits {limit taken : Nat} {words : List (List Char)}
    (fits : taken + (words.map Width.ofText).sum ≤ limit) (overflow : Overflow) (line : List Char) :
    fill limit overflow line taken words = [line ++ words.flatten] := by
  induction words generalizing line taken with
  | nil => simp [fill]
  | cons word rest step =>
    rw [List.map_cons, List.sum_cons] at fits
    have needed := Width.ofText_le_of_prefix (dropTail_isPrefix isBlank word)
    rw [fill, if_pos (by omega), step (by omega), List.flatten_cons, List.append_assoc]

theorem flatten_finished (line : List Char) : (finished line).flatten = line := by
  unfold finished
  split
  · rename_i isEmpty
    exact (List.isEmpty_iff.mp isEmpty).symm
  · simp

/-- No character is lost between the lines of a column. -/
theorem flatten_fill (limit : Nat) (line : List Char) (taken : Nat) (words : List (List Char)) :
    (fill limit .ellipsis line taken words).flatten = line ++ words.flatten := by
  induction words generalizing line taken with
  | nil => simp [fill]
  | cons word rest step =>
    rw [fill]
    split
    · rw [step, List.flatten_cons, List.append_assoc]
    · rw [if_neg (by simp), List.flatten_append, flatten_finished, step, List.flatten_cons]

theorem expandTabsFrom_of_noTab {text : List Char} (noTab : '\t' ∉ text) (stop : Nat) (part : List Char) :
    expandTabsFrom stop part text = part ++ text := by
  induction text generalizing part with
  | nil => simp [expandTabsFrom]
  | cons char rest step =>
    rw [List.mem_cons, not_or] at noTab
    rw [expandTabsFrom, if_neg (Ne.symm noTab.1), step noTab.2, List.append_assoc, List.singleton_append]

/-- No tab is written. -/
theorem expandTabsFrom_isMadeOf (stop : Nat) (part text : List Char) :
    IsMadeOf (expandTabsFrom stop part text) (part ++ text.filter (· ≠ '\t')) := by
  induction text generalizing stop part with
  | nil => exact .of_sublist (by simp [expandTabsFrom])
  | cons char rest step =>
    by_cases isTab : char = '\t'
    · rw [expandTabsFrom, if_pos isTab, List.filter_cons_of_neg (by simpa using isTab), List.append_assoc,
        List.append_assoc]
      exact (IsMadeOf.refl part).append ((IsMadeOf.blanks 1 []).append ((IsMadeOf.blanks _ []).append (step _ [])))
    · rw [expandTabsFrom, if_neg isTab, List.filter_cons_of_pos (by simpa using isTab)]
      simpa using step stop (part ++ [char])

theorem dropExcess_isPrefix (limit : Nat) (line : List Char) : dropExcess limit line <+: line := List.take_prefix _ _

theorem truncate_of_fits {limit : Nat} {line : List Char} (fits : Width.ofText line ≤ limit) (overflow : Overflow) :
    truncate limit overflow line = line := if_pos fits

theorem truncate_isMadeOf (limit : Nat) (line : List Char) : IsMadeOf (truncate limit .ellipsis line) line := by
  unfold truncate
  split
  · exact .refl line
  · have ellipsis : IsMadeOf ['…'] [] := fun char _ noEllipsis => by simp [Ne.symm noEllipsis]
    simpa using (Width.cut_isMadeOf (limit - 1) line).append ellipsis

theorem lines_of_fits {limit : Nat} {text : List Char} (noTab : '\t' ∉ text) (fits : Width.ofText text ≤ limit)
    (overflow : Overflow) : lines limit overflow text = [dropExcess limit text] := by
  have words : ((words text).map Width.ofText).sum ≤ Width.ofText text := sum_wordsFrom_le [] false text
  have whole : (Wrap.words text).flatten = text := flatten_wordsFrom [] false text
  rw [lines, expandTabs, expandTabsFrom_of_noTab noTab, List.nil_append, fill_of_fits (by omega), whole]
  rfl

/-- The lines of a text have no tabs, and no other characters than the text. -/
theorem flatten_lines_isMadeOf (limit : Nat) (text : List Char) :
    IsMadeOf (lines limit .ellipsis text).flatten (text.filter (· ≠ '\t')) := by
  have shorter (lines : List (List Char)) : (lines.flatMap (dropExcess limit)).Sublist lines.flatten :=
    List.flatMap_id ▸ List.Sublist.flatMap_right lines fun line _ => (dropExcess_isPrefix limit line).sublist
  have whole : (words (expandTabs text)).flatten = expandTabs text := flatten_wordsFrom [] false _
  have written := shorter (fill limit .ellipsis [] 0 (words (expandTabs text)))
  rw [flatten_fill, whole, List.nil_append] at written
  exact (IsMadeOf.of_sublist written).trans (expandTabsFrom_isMadeOf 0 [] text)

end Wrap

end Text

namespace Report.Table

open Text (isBlank dropTail)
open Text.Width (blanks ofText)

/-! Lines in a column -/

theorem flatten_cellLines (cell : List Char) : (cellLines cell).flatten = cell.filter (· ≠ '\n') := by
  rw [cellLines]
  induction cell with
  | nil => rfl
  | cons char rest step =>
    obtain ⟨line, others, split⟩ := List.exists_cons_of_ne_nil (List.splitOn_ne_nil '\n' rest)
    rw [List.splitOn_cons_eq_if_modifyHead]
    by_cases breaks : char = '\n'
    · simpa [breaks] using step
    · rw [split] at step ⊢
      simpa [breaks] using step

theorem place_isMadeOf (side : Side) (width : Nat) (line : List Char) : IsMadeOf (place side width line) line := by
  have cut (line : List Char) := Text.Wrap.truncate_isMadeOf width line
  cases side with
  | left => exact ((cut line).behind _).behind _
  | right =>
    have trimmed := (cut (dropTail isBlank line)).trans (.of_sublist (Text.dropTail_isPrefix isBlank line).sublist)
    exact (trimmed.before _).behind _

/-- A cell has no tabs in its column, and no other characters than it has anyway. -/
theorem formatCell_isMadeOf (column : Column) (width : Nat) (cell : List Char) :
    IsMadeOf (formatCell column width cell).flatten (cell.filter (· ≠ '\t')) := by
  have placed (lines : List (List Char)) :
      IsMadeOf (lines.flatMap fun line => place column.side (width - gap) line ++ blanks gap) lines.flatten :=
    List.flatMap_id ▸ IsMadeOf.flatMap fun line _ => (place_isMadeOf column.side (width - gap) line).behind gap
  have wrapped : IsMadeOf ((cellLines cell).flatMap (Text.Wrap.lines (width - gap) .ellipsis)).flatten
      ((cellLines cell).flatten.filter (· ≠ '\t')) := by
    rw [List.filter_flatten, List.flatMap_def, List.flatten_flatten, List.map_map]
    exact IsMadeOf.flatMap fun line _ => Text.Wrap.flatten_lines_isMadeOf (width - gap) line
  have unbroken : (cellLines cell).flatten.Sublist cell := flatten_cellLines cell ▸ List.filter_sublist
  exact (placed _).trans (wrapped.trans (.of_sublist (unbroken.filter _)))

/-- A line ends in no blanks but spaces, and on the right side in none. -/
def EndsPlainly (side : Side) (line : List Char) : Prop :=
  match side with
  | .left => ∃ count, line = dropTail isBlank line ++ blanks count
  | .right => line = dropTail isBlank line

theorem exists_dropExcess_append {line : List Char} {count : Nat} (ends : line = dropTail isBlank line ++ blanks count)
    (limit : Nat) : ∃ dropped, line = Text.Wrap.dropExcess limit line ++ blanks dropped := by
  generalize body_eq : dropTail isBlank line = body at ends
  have whole := congrArg List.length ends
  rw [List.length_append, blanks, List.length_replicate] at whole
  generalize kept_eq : line.length - min (line.length - body.length) (line.length - limit) = kept
  have left : line.drop kept = blanks (count - (kept - body.length)) := by
    rw [ends, List.drop_append, List.drop_eq_nil_of_le (by omega), List.nil_append, blanks, List.drop_replicate, blanks]
  exact ⟨_, by rw [← left, Text.Wrap.dropExcess, body_eq, kept_eq, List.take_append_drop]⟩

/-- A line that is no wider than its column stands there between blanks. -/
theorem place_of_fits {side : Side} {width : Nat} {line : List Char} (ends : EndsPlainly side line)
    (fits : ofText line ≤ width) : ∃ before behind,
      place side width (Text.Wrap.dropExcess width line) ++ blanks gap = blanks before ++ line ++ blanks behind := by
  have join (first second : Nat) : blanks first ++ blanks second = blanks (first + second) := List.replicate_append_replicate
  cases side with
  | left =>
    obtain ⟨count, ends⟩ := ends
    obtain ⟨dropped, split⟩ := exists_dropExcess_append ends width
    generalize Text.Wrap.dropExcess width line = kept at split
    have narrower : ofText kept ≤ ofText line := split ▸ Text.Width.ofTextBehind_le_append none kept _
    have hidden : ofText kept + dropped ≤ ofText line + 1 := split ▸ Text.Width.ofTextBehind_add_blanks_le none kept dropped
    refine ⟨0, width - ofText kept + (width - ofText (kept ++ blanks (width - ofText kept))) + gap - dropped, ?_⟩
    have empty : blanks 0 = [] := rfl
    rw [place, Text.Wrap.truncate_of_fits (by omega), fillUp, fillUp, List.append_assoc, List.append_assoc, join, join,
      split, empty, List.nil_append, List.append_assoc, join]
    have room : gap = 2 := rfl
    congr 2
    omega
  | right =>
    have kept : Text.Wrap.dropExcess width line = line := by
      rw [Text.Wrap.dropExcess, ← ends, Nat.sub_self, Nat.zero_min, Nat.sub_zero, List.take_length]
    rw [place, kept, ← ends, Text.Wrap.truncate_of_fits fits, fillUp, List.append_assoc _ (blanks _) (blanks _), join]
    exact ⟨_, _, rfl⟩

/-- A cell without tabs that is no wider than its column stands there line by line between blanks. -/
theorem formatCell_of_fits {column : Column} {width : Nat} {cell : List Char} (noTab : '\t' ∉ cell)
    (ends : ∀ line ∈ cellLines cell, EndsPlainly column.side line)
    (fits : ∀ line ∈ cellLines cell, ofText line ≤ width - gap) :
    List.Forall₂ (fun line written => ∃ before behind, written = blanks before ++ line ++ blanks behind)
      (cellLines cell) (formatCell column width cell) := by
  have noTabs {line : List Char} (member : line ∈ cellLines cell) : '\t' ∉ line := by
    intro inside
    have inCell := List.mem_flatten_of_mem member inside
    rw [flatten_cellLines] at inCell
    exact noTab (List.mem_of_mem_filter inCell)
  have single : (cellLines cell).flatMap (Text.Wrap.lines (width - gap) .ellipsis) =
      (cellLines cell).map (Text.Wrap.dropExcess (width - gap)) := by
    rw [List.map_eq_flatMap]
    exact List.flatMap_congr fun line member => Text.Wrap.lines_of_fits (noTabs member) (fits line member) _
  rw [formatCell, single, List.map_map, List.forall₂_map_right_iff, List.forall₂_same]
  exact fun line member => place_of_fits (ends line member) (fits line member)

end Report.Table

end Exposure
