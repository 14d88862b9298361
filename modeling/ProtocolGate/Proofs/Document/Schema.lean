import ProtocolGate.Proofs.Document.Json

/-!
Schemas of documents. A check takes a JSON value for what a schema declares, or refuses it. What was
written from a document that has the schema is taken for that document again, unless the document
has a number that JSON cannot express.
-/

namespace ProtocolGate.Document

mutual

def isFinite : Document → Bool
  | .float value => value.isFinite
  | .list items => itemsFinite items
  | .object fields => fieldsFinite fields
  | .truth _ | .int _ | .text _ => true

def itemsFinite : List Document → Bool
  | [] => true
  | item :: rest => item.isFinite && itemsFinite rest

def fieldsFinite : List (Text × Document) → Bool
  | [] => true
  | (_, value) :: rest => value.isFinite && fieldsFinite rest

end

namespace Schema

abbrev Check := Json.Value → Option Document

def truth : Check
  | .truth value => some (.truth value)
  | _ => none

def int : Check
  | .int value => some (.int value)
  | _ => none

def float : Check
  | .float value => some (.float value)
  -- A whole number will do, but `null` is no number.
  | .int value => some (.float (Decimal.ofInt value))
  | _ => none

def text : Check
  | .text value => some (.text value)
  | _ => none

def oneOf (words : List String) : Check
  | .text value =>
    if words.any fun word => word.toList == value then some (.text value) else none
  | _ => none

def list (item : Check) : Check
  | .list values => (values.mapM item).map .list
  | _ => none

structure Field where
  name : String
  check : Check
  standard : Option Document := none

/-- Reads a declared field. Of several fields with its name the last one counts. -/
def Field.read (given : List (Text × Json.Value)) (field : Field) : Option (Text × Document) :=
  let document := match given.reverse.lookup field.name.toList with
    | some value => field.check value
    | none => field.standard
  document.map fun document => (field.name.toList, document)

def object (declared : List Field) : Check
  | .object given => (declared.mapM (Field.read given)).map .object
  | _ => none

/-- A check takes what is written from a document for the document, exactly if it is finite. -/
def Accepts (check : Check) (document : Document) : Prop :=
  check (jsonValue document) = if document.isFinite then some document else none

theorem accepts_truth (value : Bool) : Accepts truth (.truth value) := rfl

theorem accepts_int (value : Int) : Accepts int (.int value) := rfl

theorem accepts_text (value : Text) : Accepts text (.text value) := rfl

theorem accepts_float (value : Float) : Accepts float (.float value) := by
  rw [Accepts, jsonValue, isFinite]
  cases value.isFinite <;> rfl

theorem accepts_word {words : List String} {word : String} (member : word ∈ words) :
    Accepts (oneOf words) (.word word) := by
  have known : (words.any fun other => other.toList == word.toList) = true :=
    List.any_eq_true.mpr ⟨word, member, beq_self_eq_true _⟩
  rw [Accepts, Document.word, jsonValue, oneOf, if_pos known]
  rfl

section Entries

variable {α : Type} {write : α → Document}

theorem itemsFinite_map (entries : List α) :
    itemsFinite (entries.map write) = entries.all fun entry => (write entry).isFinite := by
  induction entries with
  | nil => rfl
  | cons entry entries ih => rw [List.map_cons, itemsFinite, ih, List.all_cons]

theorem accepts_list {check : Check} (accepts : ∀ entry, Accepts check (write entry))
    (entries : List α) : Accepts (list check) (.list (entries.map write)) := by
  have taken : (jsonItems (entries.map write)).mapM check =
      if itemsFinite (entries.map write) then some (entries.map write) else none := by
    induction entries with
    | nil => rfl
    | cons entry entries ih =>
        have first := accepts entry
        rw [Accepts] at first
        rw [List.map_cons, jsonItems, List.mapM_cons, first, ih, itemsFinite]
        cases (write entry).isFinite with
        | false => rfl
        | true => cases itemsFinite (entries.map write) <;> rfl
  rw [Accepts, jsonValue, list, taken, isFinite]
  cases itemsFinite (entries.map write) <;> rfl

end Entries

theorem lookup_of_mem {entries : List (Text × Json.Value)} {name : Text} {value : Json.Value}
    (distinct : (entries.map Prod.fst).Nodup) (member : (name, value) ∈ entries) :
    entries.lookup name = some value := by
  induction entries with
  | nil => contradiction
  | cons entry entries ih =>
      obtain ⟨fresh, distinct⟩ := List.nodup_cons.mp distinct
      rcases List.mem_cons.mp member with rfl | later
      · exact List.lookup_cons_self
      · have other : name ≠ entry.1 := by
          rintro rfl
          exact fresh (List.mem_map.mpr ⟨_, later, rfl⟩)
        rw [List.lookup_cons, beq_false_of_ne other]
        exact ih distinct later

theorem map_jsonFields (fields : List (Text × Document)) :
    jsonFields fields = fields.map fun field => (field.1, jsonValue field.2) := by
  induction fields with
  | nil => rfl
  | cons field fields ih =>
      rw [jsonFields, ih]
      rfl

structure Field.Describes (field : Field) (entry : Text × Document) : Prop where
  named : entry.1 = field.name.toList
  accepts : Accepts field.check entry.2

theorem names_of_describes {declared : List Field} {fields : List (Text × Document)}
    (described : List.Forall₂ Field.Describes declared fields) :
    fields.map Prod.fst = (declared.map Field.name).map String.toList := by
  induction described with
  | nil => rfl
  | cons first _ ih => simp only [List.map_cons, first.named, ih]

theorem mapM_read {given : List (Text × Json.Value)} {declared : List Field}
    {fields : List (Text × Document)} (described : List.Forall₂ Field.Describes declared fields)
    (found : ∀ entry ∈ fields, given.reverse.lookup entry.1 = some (jsonValue entry.2)) :
    declared.mapM (Field.read given) = if fieldsFinite fields then some fields else none := by
  induction described with
  | nil => rfl
  | @cons field entry declared fields first _ ih =>
      obtain ⟨name, document⟩ := entry
      have stands := found (name, document) List.mem_cons_self
      have others := ih fun later member => found later (List.mem_cons_of_mem _ member)
      have taken := first.accepts
      have named : name = field.name.toList := first.named
      rw [Accepts] at taken
      have read : Field.read given field =
          if document.isFinite then some (name, document) else none := by
        rw [Field.read, ← named, stands]
        simp only [taken]
        cases document.isFinite <;> rfl
      rw [List.mapM_cons, read, others, fieldsFinite]
      cases document.isFinite with
      | false => rfl
      | true => cases fieldsFinite fields <;> rfl

theorem accepts_object {declared : List Field} {fields : List (Text × Document)}
    (distinct : (declared.map Field.name).Nodup)
    (described : List.Forall₂ Field.Describes declared fields) :
    Accepts (object declared) (.object fields) := by
  have names : ((jsonFields fields).map Prod.fst).Nodup := by
    have same : (jsonFields fields).map Prod.fst = fields.map Prod.fst := by
      rw [map_jsonFields, List.map_map]
      rfl
    rw [same, names_of_describes described]
    exact distinct.map fun _ _ same => String.toList_inj.mp same
  -- No name occurs twice, so it does not matter from which end a field is looked for.
  have found : ∀ entry ∈ fields,
      (jsonFields fields).reverse.lookup entry.1 = some (jsonValue entry.2) := by
    intro entry member
    refine lookup_of_mem ?_ ?_
    · rw [List.map_reverse]
      exact List.nodup_reverse.mpr names
    · rw [List.mem_reverse, map_jsonFields]
      exact List.mem_map_of_mem member
  rw [Accepts, jsonValue, object, mapM_read described found, isFinite]
  cases fieldsFinite fields <;> rfl

end Schema

end ProtocolGate.Document
