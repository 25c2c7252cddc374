import FeatureFlags.Proofs.Json.Fields
import FeatureFlags.Proofs.Json.Part
import FeatureFlags.Proofs.Number.Value
import Mathlib.Data.List.Forall2

/-! Values that differ only in how they are written: an integer for a double of its value, or the fields of an
object in another order. -/

set_option autoImplicit false

namespace FeatureFlags

-- At any depth, numbers may change as `number` says and the fields of objects move as `arranges` says.
inductive Json.Alike (number : Number → Number → Prop) (arranges : Fields → Fields → Prop) :
    Json → Json → Prop where
  | null : Alike number arranges .null .null
  | bool (value : Bool) : Alike number arranges (.bool value) (.bool value)
  | num (a b : Number) (same : number a b) : Alike number arranges (.num a) (.num b)
  | str (text : String) : Alike number arranges (.str text) (.str text)
  | arr (items others : List Json) (members : List.Forall₂ (Alike number arranges) items others) :
      Alike number arranges (.arr items) (.arr others)
  | obj (fields placed others : Fields) (keys : fields.keys = placed.keys)
      (members : List.Forall₂ (Alike number arranges) (fields.map Prod.snd) (placed.map Prod.snd))
      (arranged : arranges placed others) : Alike number arranges (.obj fields) (.obj others)

abbrev Json.SameNumbers : Json → Json → Prop := Json.Alike Number.SameValue (· = ·)

abbrev Json.Reordered : Json → Json → Prop := Json.Alike (· = ·) List.Perm

inductive FieldOrder where
  | kept
  | free
deriving DecidableEq, Repr

namespace FieldOrder

def Arranges : FieldOrder → Fields → Fields → Prop
  | .kept, fields, others => fields = others
  | .free, fields, others => fields.keys.Nodup ∧ fields.Perm others

abbrev Alike (order : FieldOrder) : Json → Json → Prop := Json.Alike Number.SameValue order.Arranges

def AlikeField (order : FieldOrder) (field other : String × Json) : Prop :=
  field.1 = other.1 ∧ order.Alike field.2 other.2

variable {order : FieldOrder}

theorem arranges_perm {fields others : Fields} (arranged : order.Arranges fields others) : fields.Perm others := by
  cases order with
  | kept => exact .of_eq arranged
  | free => exact arranged.2

theorem arranges_get {fields others : Fields} (arranged : order.Arranges fields others) (key : String) :
    fields.get? key = others.get? key := by
  cases order with
  | kept => exact congrArg (fun fields : Fields => fields.get? key) arranged
  | free => exact Fields.get_perm arranged.1 arranged.2 key

theorem alike_fields {fields placed : Fields} (keys : fields.keys = placed.keys)
    (members : List.Forall₂ order.Alike (fields.map Prod.snd) (placed.map Prod.snd)) :
    List.Forall₂ order.AlikeField fields placed := by
  induction fields generalizing placed with
  | nil =>
      cases placed with
      | nil => exact .nil
      | cons other others => simp [Fields.keys] at keys
  | cons field rest ih =>
      cases placed with
      | nil => simp [Fields.keys] at keys
      | cons other others =>
          obtain ⟨key, laterKeys⟩ := List.cons.inj keys
          obtain ⟨value, laterMembers⟩ := List.forall₂_cons.mp members
          exact .cons ⟨key, value⟩ (ih laterKeys laterMembers)

theorem alike_obj {fields others : Fields} (alike : order.Alike (.obj fields) (.obj others)) :
    ∃ placed, List.Forall₂ order.AlikeField fields placed ∧ order.Arranges placed others := by
  cases alike with
  | obj _ placed _ keys members arranged => exact ⟨placed, alike_fields keys members, arranged⟩

theorem alike_length {fields others : Fields} (alike : order.Alike (.obj fields) (.obj others)) :
    fields.length = others.length := by
  obtain ⟨placed, members, arranged⟩ := alike_obj alike
  exact members.length_eq.trans (arranges_perm arranged).length_eq

theorem placed_get {fields placed : Fields} (members : List.Forall₂ order.AlikeField fields placed) (key : String) :
    Option.Rel order.Alike (fields.get? key) (placed.get? key) := by
  induction members with
  | nil => exact .none
  | cons field rest ih =>
      obtain ⟨same, alike⟩ := field
      rw [Fields.get_cons, Fields.get_cons, same]
      split
      · exact .some alike
      · exact ih

theorem rel_cases {α β : Type} {related : α → β → Prop} {first : Option α} {second : Option β}
    (rel : Option.Rel related first second) : (first = none ∧ second = none) ∨
      ∃ value other, first = some value ∧ second = some other ∧ related value other := by
  cases rel with
  | none => exact .inl ⟨rfl, rfl⟩
  | some same => exact .inr ⟨_, _, rfl, rfl, same⟩

theorem alike_get {fields others : Fields} (alike : order.Alike (.obj fields) (.obj others)) (key : String) :
    Option.Rel order.Alike (fields.get? key) (others.get? key) := by
  obtain ⟨placed, members, arranged⟩ := alike_obj alike
  rw [← arranges_get arranged key]
  exact placed_get members key

end FieldOrder

namespace Json

variable {order : FieldOrder}

theorem truthy_alike {a b : Json} (alike : order.Alike a b) : a.truthy = b.truthy := by
  cases alike with
  | null | bool _ | str _ => rfl
  | num a b same => exact congrArg (!·) (Number.same_congr same rfl)
  | arr items others members => cases members <;> rfl
  | obj fields placed others keys members arranged =>
      have lengths := FieldOrder.alike_length (.obj fields placed others keys members arranged)
      rw [truthy, truthy, Bool.eq_iff_iff]
      simp [← List.length_eq_zero_iff, lengths]

theorem same_number_alike {a b : Number} {other json : Json} (same : a.SameValue b) (alike : order.Alike other json) :
    sameNumber a other = sameNumber b json := by
  cases alike with
  | bool value => exact Number.same_congr same rfl
  | num c d equal => exact Number.same_congr same equal
  | null | str _ | arr _ _ _ | obj _ _ _ _ _ _ => rfl

def sameField (others : Fields) (key : String) (value : Json) : Bool :=
  match others.get? key with
  | some found => same value found
  | none => false

theorem same_fields_eq (fields others : Fields) :
    sameFields fields others = fields.all fun (key, value) => sameField others key value := by
  induction fields with
  | nil => rfl
  | cons field rest ih => exact congrArg (_ && ·) ih

def Interchangeable (order : FieldOrder) (value : Json) : Prop :=
  ∀ other a b, order.Alike value other → order.Alike a b → value.same a = other.same b

theorem same_items_alike {items others : List Json} (members : List.Forall₂ order.Alike items others)
    (equal : ∀ item ∈ items, Interchangeable order item) {values wanted : List Json}
    (more : List.Forall₂ order.Alike values wanted) : sameItems items values = sameItems others wanted := by
  induction members generalizing values wanted with
  | nil => cases more <;> rfl
  | cons first rest ih =>
      cases more with
      | nil => rfl
      | cons firstMore restMore =>
          rw [sameItems, sameItems, equal _ List.mem_cons_self _ _ _ first firstMore,
            ih (fun item member => equal item (List.mem_cons_of_mem _ member)) restMore]

theorem same_field_alike {fields others : Fields} (alike : order.Alike (.obj fields) (.obj others)) {value other : Json}
    (equal : Interchangeable order value) (same : order.Alike value other) (key : String) :
    sameField fields key value = sameField others key other := by
  rw [sameField, sameField]
  rcases FieldOrder.rel_cases (FieldOrder.alike_get alike key) with ⟨left, right⟩ | ⟨first, second, left, right, held⟩
  · rw [left, right]
  · rw [left, right]
    exact equal _ _ _ same held

theorem same_placed {fields placed : Fields} (members : List.Forall₂ order.AlikeField fields placed)
    (equal : ∀ key value, (key, value) ∈ fields → Interchangeable order value) {values wanted : Fields}
    (alike : order.Alike (.obj values) (.obj wanted)) :
    (fields.all fun (key, value) => sameField values key value) =
      placed.all fun (key, value) => sameField wanted key value := by
  induction members with
  | nil => rfl
  | @cons field other rest others first members ih =>
      obtain ⟨key, value⟩ := field
      obtain ⟨otherKey, otherValue⟩ := other
      obtain ⟨same, valueAlike⟩ := first
      cases same
      rw [List.all_cons, List.all_cons, ih fun key value member => equal key value (List.mem_cons_of_mem _ member)]
      exact congrArg (· && _) (same_field_alike alike (equal key value List.mem_cons_self) valueAlike key)

theorem same_obj_alike {fields others : Fields} (alike : order.Alike (.obj fields) (.obj others))
    (equal : ∀ key value, (key, value) ∈ fields → Interchangeable order value) {values wanted : Fields}
    (more : order.Alike (.obj values) (.obj wanted)) : same (.obj fields) (.obj values) = same (.obj others) (.obj wanted) := by
  obtain ⟨placed, members, arranged⟩ := FieldOrder.alike_obj alike
  rw [same, same, FieldOrder.alike_length alike, FieldOrder.alike_length more, same_fields_eq, same_fields_eq,
    same_placed members equal more, (FieldOrder.arranges_perm arranged).all_eq]

theorem interchangeable (value : Json) : Interchangeable order value := by
  induction value using induction_inside with
  | step value ih =>
      intro other a b alike more
      cases alike with
      | null => cases more <;> rfl
      | bool held => exact same_number_alike rfl more
      | num first second same => exact same_number_alike same more
      | str text => cases more <;> rfl
      | arr items others members =>
          cases more with
          | arr values wanted more => exact same_items_alike members (fun item member => ih item (inside_item member)) more
          | null | bool _ | num _ _ _ | str _ | obj _ _ _ _ _ _ => rfl
      | obj fields placed others keys members arranged =>
          cases more with
          | obj values spread wanted wantedKeys wantedMembers spreads =>
              exact same_obj_alike (.obj fields placed others keys members arranged)
                (fun key value member => ih value (inside_field member))
                (.obj values spread wanted wantedKeys wantedMembers spreads)
          | null | bool _ | num _ _ _ | str _ | arr _ _ _ => rfl

end Json
end FeatureFlags
