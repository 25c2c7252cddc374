import FeatureFlags.Proofs.Version.Parts

/-! A `v` in front of a version and the build metadata after it are dropped before the version is cut into
parts, whatever the metadata holds. -/

set_option autoImplicit false

namespace FeatureFlags

namespace Version

inductive Decorates (text : String) : String → Prop where
  | marked (nonempty : text ≠ "") (unmarked : text.toList.head? ≠ some 'v') : Decorates text ("v" ++ text)
  | built (build : String) (nonempty : text ≠ "") (line : '\n' ∉ text.toList) (buildLine : '\n' ∉ build.toList) :
      Decorates text (text ++ "+" ++ build)

theorem drop_build_line {text : List Char} (line : '\n' ∉ text) : dropBuild text = text.takeWhile (· != '+') := by
  induction text with
  | nil => rfl
  | cons c rest ih =>
      obtain ⟨_, later⟩ := List.ne_and_not_mem_of_not_mem_cons line
      by_cases plus : c = '+'
      · have unbroken : rest.dropWhile (· != '\n') = [] := by
          rw [List.dropWhile_eq_nil_iff]
          intro d among
          have different : d ≠ '\n' := fun same => later (same ▸ among)
          simpa using different
        simp only [dropBuild, unbroken, List.takeWhile_cons, plus, bne_self_eq_false, Bool.false_eq_true, if_true, if_false]
      · have kept : (c != '+') = true := by simpa using plus
        rw [dropBuild, if_neg plus, ih later, List.takeWhile_cons, if_pos kept]

theorem drop_build_built {text build : List Char} (line : '\n' ∉ text) (buildLine : '\n' ∉ build) :
    dropBuild (text ++ '+' :: build) = dropBuild text := by
  have whole : '\n' ∉ text ++ '+' :: build := by simp [line, buildLine]
  rw [drop_build_line whole, drop_build_line line]
  clear line whole
  induction text with
  | nil => rfl
  | cons c rest ih => rw [List.cons_append, List.takeWhile_cons, List.takeWhile_cons, ih]

theorem drop_prefix_append {text : List Char} (nonempty : text ≠ []) (rest : List Char) :
    dropPrefix (text ++ rest) = dropPrefix text ++ rest := by
  obtain ⟨c, others, rfl⟩ := List.exists_cons_of_ne_nil nonempty
  by_cases marked : c = 'v'
  · subst marked
    rfl
  · have unmarked (ending : List Char) : (c :: ending).head? ≠ some 'v' := by simpa using marked
    rw [List.cons_append, drop_prefix_unmarked (unmarked _), drop_prefix_unmarked (unmarked _), List.cons_append]

theorem mem_of_mem_dropped {text : List Char} {c : Char} (among : c ∈ dropPrefix text) : c ∈ text := by
  unfold dropPrefix at among
  split at among
  · exact List.mem_cons_of_mem _ among
  · exact among

theorem padded_marked {text : List Char} (unmarked : text.head? ≠ some 'v') : padded ('v' :: text) = padded text := by
  rw [padded, padded, drop_prefix_unmarked unmarked]
  rfl

theorem padded_built {text build : List Char} (nonempty : text ≠ []) (line : '\n' ∉ text) (buildLine : '\n' ∉ build) :
    padded (text ++ '+' :: build) = padded text := by
  have stripped : '\n' ∉ dropPrefix text := fun among => line (mem_of_mem_dropped among)
  rw [padded, padded, drop_prefix_append nonempty, drop_build_built stripped buildLine]

theorem Decorates.key {text decorated : String} (decorates : Decorates text decorated) :
    key (.value (.str decorated)) = key (.value (.str text)) := by
  cases decorates with
  | marked nonempty unmarked =>
      have filled : "v" ++ text ≠ "" := by simp
      rw [key_text filled, key_text nonempty, String.toList_append]
      exact congrArg String.ofList (padded_marked unmarked)
  | built build nonempty line buildLine =>
      have filled : text ++ "+" ++ build ≠ "" := by simp
      have chars : text.toList ≠ [] := by simpa using nonempty
      rw [key_text filled, key_text nonempty, String.toList_append, String.toList_append, List.append_assoc]
      exact congrArg String.ofList (padded_built chars line buildLine)

theorem decoration_ignored {text decorated : String} (decorates : Decorates text decorated) :
    key (.value (.str decorated)) = key (.value (.str text)) ∧ ∀ relation other,
      Condition.matchesOperator (Operator.version relation).name (.value (.str decorated)) other =
        Condition.matchesOperator (Operator.version relation).name (.value (.str text)) other ∧
      Condition.matchesOperator (Operator.version relation).name other (.value (.str decorated)) =
        Condition.matchesOperator (Operator.version relation).name other (.value (.str text)) := by
  refine ⟨decorates.key, fun relation other => ⟨?_, ?_⟩⟩
  · rw [Condition.matches_version, Condition.matches_version, decorates.key]
  · rw [Condition.matches_version, Condition.matches_version, decorates.key]

theorem decoration_ignored_nightly : Decorates "1.4.0-rc.2" ("1.4.0-rc.2" ++ "+" ++ "nightly.7+x-1") ∧
    Condition.matchesOperator "$vlt" (.value (.str "1.4.0-rc.2+nightly.7+x-1")) (.value (.str "1.4.0")) =
      Condition.matchesOperator "$vlt" (.value (.str "1.4.0-rc.2")) (.value (.str "1.4.0")) := by
  have decorates : Decorates "1.4.0-rc.2" ("1.4.0-rc.2" ++ "+" ++ "nightly.7+x-1") :=
    .built "nightly.7+x-1" (by decide) (by decide) (by decide)
  exact ⟨decorates, ((decoration_ignored decorates).2 .lt (.value (.str "1.4.0"))).1⟩

end Version
end FeatureFlags
