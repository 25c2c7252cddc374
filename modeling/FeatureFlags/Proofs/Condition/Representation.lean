import FeatureFlags.Proofs.Condition.Agreement

/-! An integer and a double of its value give the same verdict everywhere, failures and logs included. The
order of keys may decide whether a failure is met, but no other verdict. -/

set_option autoImplicit false

namespace FeatureFlags

theorem Json.same_numbers_obj {fields others : Fields} (keys : fields.keys = others.keys)
    (members : List.Forall₂ Json.SameNumbers (fields.map Prod.snd) (others.map Prod.snd)) :
    (Json.obj fields).SameNumbers (.obj others) :=
  .obj fields others others keys members rfl

theorem Json.reordered_alike {json other : Json} (distinct : json.DistinctKeys) (reordered : json.Reordered other) :
    FieldOrder.free.Alike json other := by
  induction json using Json.induction_inside generalizing other with
  | step json ih =>
      have children {members others : List Json} (held : ∀ member ∈ members, Json.Child member json)
          (pairs : List.Forall₂ Json.Reordered members others) : List.Forall₂ FieldOrder.free.Alike members others := by
        have among := (List.forall₂_and_left _ _).mpr ⟨held, pairs⟩
        exact among.imp fun member other same => ih member (.single same.1) (distinct_child distinct same.1) same.2
      cases reordered with
      | null => exact .null
      | bool value => exact .bool value
      | num a b same => exact .num a b (congrArg Number.position? same)
      | str text => exact .str text
      | arr items others pairs => exact .arr items others (children (fun item member => member) pairs)
      | obj fields placed others keys pairs perm =>
          have held : ∀ value ∈ fields.map Prod.snd, Json.Child value (.obj fields) := by
            intro value member
            obtain ⟨⟨key, value⟩, field, rfl⟩ := List.mem_map.mp member
            exact ⟨key, field⟩
          have distinctPlaced : placed.keys.Nodup := keys ▸ distinct.1
          exact .obj fields placed others keys (children held pairs) ⟨distinctPlaced, perm⟩

namespace Condition

theorem same_numbers_same_verdict (condition other attributes values : Json) (conditions : condition.SameNumbers other)
    (attributesSame : attributes.SameNumbers values) :
    matchesAttributes condition (.value attributes) = matchesAttributes other (.value values) := by
  have agrees : Agrees .kept condition other := conditions_agree condition other conditions
  exact agrees.attributes _ _ (.value attributes values attributesSame)

def Purchase.one : Magnitude := ⟨unitsPerOne, by unfold Representable; decide +kernel⟩

def Purchase.condition (quantity returned : Number) : Json :=
  .obj [("quantity", .obj [("$in", .arr [.num quantity])]), ("returned", .num returned)]

def Purchase.attributes (quantity returned : Number) : Json :=
  .obj [("quantity", .num quantity), ("returned", .num returned)]

theorem Purchase.condition_same (quantity other returned left : Number) (same : quantity.SameValue other)
    (more : returned.SameValue left) :
    (Purchase.condition quantity returned).SameNumbers (Purchase.condition other left) := by
  have values : (Json.arr [.num quantity]).SameNumbers (.arr [.num other]) :=
    .arr _ _ (.cons (.num quantity other same) .nil)
  have operators : (Json.obj [("$in", .arr [.num quantity])]).SameNumbers (.obj [("$in", .arr [.num other])]) :=
    Json.same_numbers_obj rfl (.cons values .nil)
  exact Json.same_numbers_obj rfl (.cons operators (.cons (.num returned left more) .nil))

theorem Purchase.attributes_same (quantity other returned left : Number) (same : quantity.SameValue other)
    (more : returned.SameValue left) :
    (Purchase.attributes quantity returned).SameNumbers (Purchase.attributes other left) :=
  Json.same_numbers_obj rfl (.cons (.num quantity other same) (.cons (.num returned left more) .nil))

theorem same_numbers_same_verdict_purchase :
    Number.SameValue (.int 1) (.float (.finite false Purchase.one)) ∧
      Number.SameValue (.int 0) (.float (.finite true .zero)) ∧
      matchesAttributes (Purchase.condition (.int 1) (.int 0))
          (.value (Purchase.attributes (.float (.finite false Purchase.one)) (.float (.finite true .zero)))) =
        matchesAttributes (Purchase.condition (.float (.finite false Purchase.one)) (.float (.finite true .zero)))
          (.value (Purchase.attributes (.int 1) (.int 0))) := by
  have one : Number.SameValue (.int 1) (.float (.finite false Purchase.one)) := by
    unfold Number.SameValue
    decide +kernel
  have zero : Number.SameValue (.int 0) (.float (.finite true .zero)) := by
    unfold Number.SameValue
    decide +kernel
  exact ⟨one, zero, same_numbers_same_verdict _ _ _ _ (Purchase.condition_same _ _ _ _ one zero)
    (Purchase.attributes_same _ _ _ _ one.symm zero.symm)⟩

theorem reordered_same_answer (condition other attributes values : Json) (distinct : condition.DistinctKeys)
    (attributesDistinct : attributes.DistinctKeys) (conditions : condition.Reordered other)
    (reordered : attributes.Reordered values) (first second : Bool)
    (firstEnds : (matchesAttributes condition (.value attributes)).outcome = .ok first)
    (secondEnds : (matchesAttributes other (.value values)).outcome = .ok second) : first = second := by
  have agrees : Agrees .free condition other := conditions_agree condition other (Json.reordered_alike distinct conditions)
  have alike := Json.reordered_alike attributesDistinct reordered
  exact agrees.attributes _ _ (.value attributes values alike) first second firstEnds secondEnds

def Member.condition : Json :=
  .obj [("plan", .str "pro"), ("age", .obj [("$gte", .int 18), ("$lt", .int 65)])]

def Member.reordered : Json :=
  .obj [("age", .obj [("$lt", .int 65), ("$gte", .int 18)]), ("plan", .str "pro")]

def Member.attributes : Json := .obj [("plan", .str "pro"), ("age", .int 20)]

def Member.moved : Json := .obj [("age", .int 20), ("plan", .str "pro")]

theorem reordered_same_answer_member :
    Member.condition.Reordered Member.reordered ∧ Member.attributes.Reordered Member.moved ∧
      ∃ first second, (matchesAttributes Member.condition (.value Member.attributes)).outcome = .ok first ∧
        (matchesAttributes Member.reordered (.value Member.moved)).outcome = .ok second ∧ first = second := by
  have distinct : Member.condition.DistinctKeys := by
    simp [Member.condition, Json.DistinctKeys, Json.DistinctFields, Json.int]
  have attributesDistinct : Member.attributes.DistinctKeys := by
    simp [Member.attributes, Json.DistinctKeys, Json.DistinctFields, Json.int]
  have ages : (Json.obj [("$gte", .int 18), ("$lt", .int 65)]).Reordered (.obj [("$lt", .int 65), ("$gte", .int 18)]) :=
    .obj _ [("$gte", .int 18), ("$lt", .int 65)] _ rfl (.cons (.num _ _ rfl) (.cons (.num _ _ rfl) .nil)) (.swap _ _ _)
  have conditions : Member.condition.Reordered Member.reordered := by
    refine .obj _ [("plan", .str "pro"), ("age", .obj [("$lt", .int 65), ("$gte", .int 18)])] _ rfl ?_ (.swap _ _ _)
    exact .cons (.str "pro") (.cons ages .nil)
  have moved : Member.attributes.Reordered Member.moved :=
    .obj _ [("plan", .str "pro"), ("age", .int 20)] _ rfl (.cons (.str "pro") (.cons (.num _ _ rfl) .nil)) (.swap _ _ _)
  have holds : (matchesAttributes Member.condition (.value Member.attributes)).outcome = .ok true := by decide +kernel
  have ends : (matchesAttributes Member.reordered (.value Member.moved)).outcome = .ok true := by decide +kernel
  exact ⟨conditions, moved, true, true, holds, ends,
    reordered_same_answer _ _ _ _ distinct attributesDistinct conditions moved true true holds ends⟩

end Condition
end FeatureFlags
