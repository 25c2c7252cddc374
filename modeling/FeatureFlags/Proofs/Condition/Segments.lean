import FeatureFlags.Proofs.Condition.Paths

/-! A path is split at every dot, so two paths with a dot between them have the segments of the one and then
those of the other. Where the way ends it stays ended: what is missing has no fields. -/

set_option autoImplicit false

namespace FeatureFlags

theorem path_segments_eq (text : List Char) : pathSegments text = text.splitOnP (· == '.') := by
  induction text with
  | nil => rfl
  | cons c rest ih =>
      rw [pathSegments, ih, List.splitOnP_cons_eq_if_modifyHead]
      by_cases dot : c = '.'
      · simp [dot]
      · cases split : rest.splitOnP (· == '.') with
        | nil => exact absurd split (List.splitOnP_ne_nil _ rest)
        | cons segment segments => simp [dot]

theorem path_segments_joined (first second : List Char) :
    pathSegments (first ++ '.' :: second) = pathSegments first ++ pathSegments second := by
  simp only [path_segments_eq]
  exact List.splitOnP_append_cons first second rfl

theorem dotted_chars (first second : String) : (first ++ "." ++ second).toList = first.toList ++ '.' :: second.toList := by
  simp

namespace Operand

theorem path_joined (operand : Operand) (first second : String) :
    operand.path (first ++ "." ++ second) = (operand.path first).path second := by
  simp only [path, dotted_chars, path_segments_joined, List.foldl_append]

theorem missing_path (path : String) : missing.path path = .missing := by
  rw [Operand.path]
  induction pathSegments path.toList with
  | nil => rfl
  | cons segment rest ih => exact ih

end Operand

namespace Condition

theorem dotted_not_combinator (first second : String) : ¬ Combinator.Names (first ++ "." ++ second) := by
  rintro ⟨combinator, same⟩
  have dotted : '.' ∈ combinator.name.toList := by simp [same]
  cases combinator <;> simp [Combinator.name] at dotted

theorem paths_compose (attributes : Operand) (first second : String) :
    attributes.path (first ++ "." ++ second) = (attributes.path first).path second ∧
    Operand.missing.path second = .missing ∧
    (¬ Combinator.Names second → ∀ value : Json,
      matchesAttributes (.single (first ++ "." ++ second) value) attributes =
        matchesAttributes (.single second value) (attributes.path first)) := by
  have joined := attributes.path_joined first second
  refine ⟨joined, Operand.missing_path second, fun plain value => ?_⟩
  rw [matches_single_path (dotted_not_combinator first second), matches_single_path plain, joined]

-- The segment between the two dots is empty.
def Address.attributes : Operand := .value (.single "home" (.single "" (.single "rooms" (.int 3))))

theorem paths_compose_address :
    ¬ Combinator.Names "rooms" ∧ Address.attributes.path "home..rooms" = .value (.int 3) ∧
    Address.attributes.path "home..rooms" = (Address.attributes.path "home.").path "rooms" ∧
    matchesAttributes (.single "home..rooms" (.single "$gte" (.int 2))) Address.attributes =
      matchesAttributes (.single "rooms" (.single "$gte" (.int 2))) (Address.attributes.path "home.") := by
  have plain : ¬ Combinator.Names "rooms" := by decide
  obtain ⟨joined, _, conditions⟩ := paths_compose Address.attributes "home." "rooms"
  exact ⟨plain, rfl, joined, conditions plain _⟩

end Condition
end FeatureFlags
