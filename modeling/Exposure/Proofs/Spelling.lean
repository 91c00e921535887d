import Exposure.Proofs.ItemExtent
import Exposure.Proofs.Parsing

/-!
Whether a rule accepts tokens depends on their classes and not on their texts; so the watcher of an item ends up where
the rule leads it, whatever the texts are.
-/

namespace Exposure

/-- A token of the same class that is spelled without characters. -/
def Token.bare (token : Token) : Token := { token with text := "" }

/-- A form derives tokens whatever they are spelled with. -/
theorem Form.Derives.bare {form : Form} {tokens : List Token} (derives : form.Derives tokens) :
    form.Derives (tokens.map Token.bare) := by
  induction derives with
  | empty => exact .empty
  | token isWanted => exact .token isWanted
  | phrase _ ofBody => exact .phrase ofBody
  | sequence _ _ ofFirst ofSecond => exact List.map_append ▸ .sequence ofFirst ofSecond
  | ofFirst _ chosen => exact .ofFirst chosen
  | ofSecond _ chosen => exact .ofSecond chosen
  | done => exact .done
  | again _ _ once others => exact List.map_append ▸ .again once others

namespace Rule

/-- A rule reads something from a whole token list. -/
abbrev Accepts {value : Type} (rule : Rule value) (tokens : List Token) : Prop := Grammar.Accepts rules rule tokens

/-- The tokens that the contract of the rules admits. -/
abbrev Admitted (tokens : List Token) : Prop := ∀ token ∈ tokens, contract.admits token

section Spelling

variable {value : Type} {rule : Rule value} {form : Form}

/-- A rule accepts what a form of the same language derives. -/
theorem accepts_iff_derives (same : language rule = form.language) {tokens : List Token} :
    rule.Accepts tokens ↔ form.Derives tokens := by
  rw [Accepts, Grammar.Accepts, Grammar.read?_isSome_iff named_interprets, ← language, same]
  exact Iff.rfl

/-- Behind what a rule accepts the watcher is where the rule leads it. -/
theorem Leads.foldl (same : language rule = form.language) {here there : Course} {gives : value → Prop}
    (leads : rule.Leads here there gives) {tokens : List Token} (accepts : rule.Accepts tokens) :
    tokens.foldl contract.move here = there := by
  have bare : rule.Accepts (tokens.map Token.bare) :=
    (accepts_iff_derives same).mpr ((accepts_iff_derives same).mp accepts).bare
  obtain ⟨found, read⟩ := Option.isSome_iff_exists.mp bare
  have admitted : Admitted (tokens.map Token.bare) := by
    intro token member _
    obtain ⟨given, -, rfl⟩ := List.mem_map.mp member
    exact nofun
  have ends := (leads.sound rules_keep_contract admitted read).1
  rwa [List.foldl_map] at ends

end Spelling

end Rule

end Exposure
