import Exposure.Expansion
import Exposure.Proofs.Description

/-!
The interface of some items is what the descriptors depend on: the items with a tag, and of a block of functions only
its functions.
-/

namespace Exposure

/-- The results that are there for a list are those for its first element and those for the others. -/
theorem Outcome.reduceOption_mapM_cons {element value : Type} (run : element → Outcome (Option value)) (first : element)
    (rest : List element) :
    List.reduceOption <$> (first :: rest).mapM run =
      run first >>= fun one => (one.toList ++ ·) <$> (List.reduceOption <$> rest.mapM run) := by
  rw [List.mapM_cons]
  cases run first with
  | error fault => rfl
  | ok one =>
    cases rest.mapM run with
    | error fault => rfl
    | ok others => cases one <;> rfl

namespace Item

/-- An item has an attribute that exposes it. -/
def isTagged (item : Item) : Bool := item.attributes.any fun attr => Expansion.tags.contains attr.name

/-- An item with nothing in it but, in a block of functions, the functions. -/
def exposed : Item → Item
  | implItem header selfType trait items => implItem header selfType trait ((items.filterMap function?).map functionItem)
  | other => other

theorem impl?_exposed (item : Item) : item.exposed.impl? = item.impl? := by
  cases item with
  | implItem header selfType trait items =>
    have functions : ((items.filterMap function?).map functionItem).filterMap function? = items.filterMap function? := by
      rw [List.filterMap_map]
      exact List.filterMap_some
    exact congrArg (fun functions => some (ImplItem.mk header selfType trait functions)) functions
  | _ => rfl

end Item

namespace Expansion

/-- The items that are exposed, as far as they are looked at. -/
def interface (items : List Item) : List Item := (items.filter Item.isTagged).map Item.exposed

@[simp] theorem interface_append (one two : List Item) : interface (one ++ two) = interface one ++ interface two := by
  rw [interface, List.filter_append, List.map_append, interface, interface]

theorem interface_cons_of_tagged {first : Item} (tagged : first.isTagged = true) (rest : List Item) :
    interface (first :: rest) = first.exposed :: interface rest := by
  rw [interface, List.filter_cons_of_pos tagged, List.map_cons, interface]

theorem interface_cons_of_untagged {first : Item} (untagged : first.isTagged = false) (rest : List Item) :
    interface (first :: rest) = interface rest := by
  rw [interface, List.filter_cons_of_neg (by rw [untagged]; exact Bool.false_ne_true), interface]

/-- The descriptors of some items, in their order. -/
def descriptors (items : List Item) : Outcome (List Descriptor) :=
  List.reduceOption <$> items.mapM fun item => describe? (associated items item) item

/-- An expansion adds to a descriptor no more than the item and its text. -/
theorem map_descriptor_ofItems (text : String) (items : List Item) :
    List.map descriptor <$> ofItems text items = descriptors items := by
  have each (listed : List Item) :
      List.map descriptor <$> (List.reduceOption <$> listed.mapM (ofItem? text items)) =
        List.reduceOption <$> listed.mapM fun item => describe? (associated items item) item := by
    induction listed with
    | nil => rfl
    | cons first rest again =>
      rw [Outcome.reduceOption_mapM_cons, Outcome.reduceOption_mapM_cons, ← again, ofItem?]
      cases describe? (associated items first) first with
      | error fault => rfl
      | ok described =>
        cases List.reduceOption <$> rest.mapM (ofItem? text items) with
        | error fault => rfl
        | ok found => cases described <;> rfl
  have expanded : ofItems text items = List.reduceOption <$> items.mapM (ofItem? text items) := by
    rw [ofItems]
    cases items.mapM (ofItem? text items) <;> rfl
  rw [expanded, each, descriptors]

/-! The interface decides the descriptors -/

theorem describe?_exposed (functions : List FunctionItem) (item : Item) :
    describe? functions item.exposed = describe? functions item := by
  cases item with
  | implItem header selfType trait items =>
    have sameBlock := Item.impl?_exposed (.implItem header selfType trait items)
    have methods (tag : Attribute) : ofMethodsTag tag (Item.implItem header selfType trait items).exposed =
        ofMethodsTag tag (.implItem header selfType trait items) := by
      rw [ofMethodsTag, sameBlock]
      rfl
    rw [describe?, describe?]
    simp only [methods]
    rfl
  | _ => rfl

theorem describe?_of_untagged (functions : List FunctionItem) {item : Item} (untagged : item.isTagged = false) :
    describe? functions item = .ok none := by
  have nothing : item.attributes.filter (fun attr => tags.contains attr.name) = [] :=
    List.filter_eq_nil_iff.mpr fun attr member => by
      have other := List.any_eq_false.mp untagged attr member
      exact other
  rw [describe?, tag?, nothing]
  rfl

/-- A block gives its functions when it is tagged. -/
theorem functionsFor_of_untagged {item : Item} (untagged : item.isTagged = false) (name : String) :
    functionsFor [item] name = [] := by
  cases item with
  | implItem header selfType trait items =>
    have unmarked : (header.attributes.any fun attr => attr.name = "pymethods") = false := by
      rw [List.any_eq_false]
      intro attr member named
      have other := List.any_eq_false.mp untagged attr member
      exact other (by simp [tags, of_decide_eq_true named])
    rw [functionsFor, List.flatMap_singleton]
    simp only [Item.impl?, unmarked, Bool.and_false, Bool.false_eq_true, ↓reduceIte]
  | _ => rfl

theorem functionsFor_exposed (item : Item) (name : String) : functionsFor [item.exposed] name = functionsFor [item] name := by
  rw [functionsFor, functionsFor, List.flatMap_singleton, List.flatMap_singleton, Item.impl?_exposed]

theorem functionsFor_interface (items : List Item) (name : String) :
    functionsFor (interface items) name = functionsFor items name := by
  induction items with
  | nil => rfl
  | cons first rest again =>
    rw [functionsFor_cons, ← again]
    cases tagged : first.isTagged with
    | false => rw [functionsFor_of_untagged tagged, interface_cons_of_untagged tagged, List.nil_append]
    | true => rw [interface_cons_of_tagged tagged, functionsFor_cons, functionsFor_exposed]

theorem associated_interface (items : List Item) (item : Item) :
    associated (interface items) item.exposed = associated items item := by
  cases item with
  | structItem declared => exact functionsFor_interface items declared.name
  | _ => rfl

/-- Items have the descriptors that their interface has. -/
theorem descriptors_interface (items : List Item) : descriptors (interface items) = descriptors items := by
  have each (listed : List Item) :
      List.reduceOption <$> (interface listed).mapM (fun item => describe? (associated (interface items) item) item) =
        List.reduceOption <$> listed.mapM fun item => describe? (associated items item) item := by
    induction listed with
    | nil => rfl
    | cons first rest again =>
      rw [Outcome.reduceOption_mapM_cons, ← again]
      cases tagged : first.isTagged with
      | false =>
        rw [interface_cons_of_untagged tagged, describe?_of_untagged _ tagged]
        exact (id_map _).symm
      | true =>
        rw [interface_cons_of_tagged tagged, Outcome.reduceOption_mapM_cons, associated_interface, describe?_exposed]
  exact each items

end Expansion

end Exposure
