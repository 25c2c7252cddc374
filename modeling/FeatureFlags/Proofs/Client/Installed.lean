import FeatureFlags.Client.Options
import FeatureFlags.Proofs.Feature.Definitions
import FeatureFlags.Proofs.Result

/-! An operation that succeeds in replacing features, attributes or the user puts in what its argument decodes
to; every other operation leaves all three alone. So after any operations each of the three is what was put in
last, and every feature is active under its own id. -/

set_option autoImplicit false

namespace FeatureFlags

structure Active where
  features : FeatureSet
  attributes : Fields
  user : Fields

inductive Replacement where
  | features (features : FeatureSet)
  | attributes (attributes : Fields)
  | user (user : Fields)

namespace Replacement

def features? : Replacement → Option FeatureSet
  | .features installed => some installed
  | _ => none

def attributes? : Replacement → Option Fields
  | .attributes installed => some installed
  | _ => none

def user? : Replacement → Option Fields
  | .user installed => some installed
  | _ => none

end Replacement

namespace Active

def replace (active : Active) : Replacement → Active
  | .features features => { active with features }
  | .attributes attributes => { active with attributes }
  | .user user => { active with user }

def withLast (active : Active) (replacements : List Replacement) : Active :=
  { features := (replacements.reverse.findSome? Replacement.features?).getD active.features
    attributes := (replacements.reverse.findSome? Replacement.attributes?).getD active.attributes
    user := (replacements.reverse.findSome? Replacement.user?).getD active.user }

theorem with_last_concat (active : Active) (replacements : List Replacement) (replacement : Replacement) :
    active.withLast (replacements ++ [replacement]) = (active.withLast replacements).replace replacement := by
  rw [withLast, List.reverse_append]
  cases replacement <;> rfl

theorem with_last_eq (active : Active) (replacements : List Replacement) :
    active.withLast replacements = replacements.foldl replace active := by
  induction replacements using List.reverseRecOn with
  | nil => rfl
  | append_singleton replacements replacement ih => rw [with_last_concat, List.foldl_append, ih]; rfl

end Active

def Operation.replaces : Operation → Bool
  | .setFeatures _ | .setDefinitions _ | .setAttributes _ | .setUser _ | .loadFeatures _ => true
  | .evaluate _ | .getValue _ _ | .getAllValues | .clearCache | .advance _ => false

def Performed.succeeded (performed : Performed) : Bool :=
  match performed.answer with
  | .error _ => false
  | .ok (.loaded success) => success
  | .ok _ => true

namespace Client

def active (client : Client) : Active := ⟨client.features, client.attributes, client.user⟩

def definitions? (client : Client) : Operation → Option (List (String × Definition))
  | .setFeatures (.obj fields) => some (Definition.ofFields fields)
  | .setDefinitions definitions => some definitions
  | .loadFeatures reply =>
      match (client.repository.load reply client.apiHost client.clientKey client.cacheTtl).outcome with
      | .ok loaded => some (Definition.ofFields loaded)
      | .error _ => none
  | _ => none

inductive Decodes (client : Client) : Operation → Replacement → Prop where
  | features (operation : Operation) (definitions : List (String × Definition)) (read : List Feature)
      (features : FeatureSet) (given : client.definitions? operation = some definitions)
      (reads : definitions.mapM Definition.decode = .ok read) (holds : features.Holds read) :
      Decodes client operation (.features features)
  | attributes (json : Json) (attributes : Fields) (reads : json.toFields = .ok attributes) :
      Decodes client (.setAttributes json) (.attributes attributes)
  | user (json : Json) (user : Fields) (reads : json.toFields = .ok user) :
      Decodes client (.setUser json) (.user user)

def Replaces (client : Client) (operation : Operation) : Prop :=
  operation.replaces ∧ (client.perform operation).succeeded

inductive Settled (client : Client) (operation : Operation) : Prop where
  | replaced (replacement : Replacement) (replaces : client.Replaces operation)
      (decodes : client.Decodes operation replacement)
      (active : (client.perform operation).client.active = client.active.replace replacement)
  | kept (fails : ¬ client.Replaces operation) (undecoded : ∀ replacement, ¬ client.Decodes operation replacement)
      (active : (client.perform operation).client.active = client.active)

theorem decodes_unique (client : Client) (operation : Operation) (first second : Replacement)
    (decodes : client.Decodes operation first) (other : client.Decodes operation second) : first = second := by
  cases decodes with
  | features operation definitions read features given reads holds =>
      cases other with
      | features operation definitions read others same readsOther held =>
          cases given.symm.trans same
          cases reads.symm.trans readsOther
          exact congrArg Replacement.features (FeatureSet.holds_unique holds held)
      | attributes json attributes reads => cases given
      | user json user reads => cases given
  | attributes json attributes reads =>
      cases other with
      | features operation definitions read others same readsOther held => cases same
      | attributes json others readsOther =>
          cases reads.symm.trans readsOther
          rfl
  | user json user reads =>
      cases other with
      | features operation definitions read others same readsOther held => cases same
      | user json others readsOther =>
          cases reads.symm.trans readsOther
          rfl

theorem decodes_given {client : Client} {operation : Operation} {definitions : List (String × Definition)}
    (given : client.definitions? operation = some definitions) {replacement : Replacement}
    (decodes : client.Decodes operation replacement) :
    ∃ features, FeatureSet.ofDefinitions definitions = .ok features := by
  cases decodes with
  | features operation others read features same reads holds =>
      cases given.symm.trans same
      exact ⟨features, (FeatureSet.of_definitions_iff definitions features).mpr ⟨read, reads, holds⟩⟩
  | attributes json attributes reads => cases given
  | user json user reads => cases given

theorem undecoded {client : Client} {operation : Operation} (absent : client.definitions? operation = none)
    (attributes : ∀ json, operation ≠ .setAttributes json) (user : ∀ json, operation ≠ .setUser json)
    (replacement : Replacement) : ¬ client.Decodes operation replacement := by
  intro decodes
  cases decodes with
  | features operation definitions read features given reads holds => cases absent.symm.trans given
  | attributes json _ _ => exact attributes json rfl
  | user json _ _ => exact user json rfl

theorem settled_reading {ε α : Type} (client : Client) (operation : Operation) (reading : Except ε α)
    (replacement : α → Replacement) (replaces : operation.replaces)
    (decodes : ∀ value, reading = .ok value → client.Decodes operation (replacement value))
    (undecoded : ∀ error, reading = .error error → ∀ replacement, ¬ client.Decodes operation replacement)
    (read : ∀ value, reading = .ok value → (client.perform operation).succeeded ∧
      (client.perform operation).client.active = client.active.replace (replacement value))
    (refused : ∀ error, reading = .error error → ¬ (client.perform operation).succeeded ∧
      (client.perform operation).client.active = client.active) : client.Settled operation := by
  cases ends : reading with
  | ok value =>
      obtain ⟨succeeded, active⟩ := read value ends
      exact .replaced (replacement value) ⟨replaces, succeeded⟩ (decodes value ends) active
  | error error =>
      obtain ⟨failed, active⟩ := refused error ends
      exact .kept (fun replaced => failed replaced.2) (undecoded error ends) active

theorem settled_definitions (client : Client) (operation : Operation) (definitions : List (String × Definition))
    (given : client.definitions? operation = some definitions) (replaces : operation.replaces)
    (read : ∀ features, FeatureSet.ofDefinitions definitions = .ok features → (client.perform operation).succeeded ∧
      (client.perform operation).client.active = client.active.replace (.features features))
    (refused : ∀ error, FeatureSet.ofDefinitions definitions = .error error →
      ¬ (client.perform operation).succeeded ∧ (client.perform operation).client.active = client.active) :
    client.Settled operation := by
  refine settled_reading client operation (FeatureSet.ofDefinitions definitions) .features replaces
    (fun features read => ?_) (fun error refused replacement decodes => ?_) read refused
  · obtain ⟨members, reads, holds⟩ := (FeatureSet.of_definitions_iff definitions features).mp read
    exact .features operation definitions members features given reads holds
  · obtain ⟨features, read⟩ := decodes_given given decodes
    cases refused.symm.trans read

theorem settled_set_definitions (client : Client) (operation : Operation) (definitions : List (String × Definition))
    (given : client.definitions? operation = some definitions) (replaces : operation.replaces)
    (performs : client.perform operation = client.setDefinitions definitions) : client.Settled operation := by
  refine settled_definitions client operation definitions given replaces (fun features read => ?_) fun error read => ?_
  · rw [performs, setDefinitions, read]
    exact ⟨rfl, rfl⟩
  · rw [performs, setDefinitions, read]
    exact ⟨by simp [unchanged, Performed.succeeded], rfl⟩

theorem settled_load (client : Client) (reply : Reply) : client.Settled (.loadFeatures reply) := by
  cases loads : (client.repository.load reply client.apiHost client.clientKey client.cacheTtl).outcome with
  | ok loaded =>
      have given : client.definitions? (.loadFeatures reply) = some (Definition.ofFields loaded) := by
        simp only [definitions?, loads]
      refine settled_definitions client _ _ given rfl (fun features read => ?_) fun error read => ?_
      · simp only [perform, loadFeatures, loads, applyLoaded, read]
        exact ⟨rfl, rfl⟩
      · simp only [perform, loadFeatures, loads, applyLoaded, read]
        cases error.isReported <;> exact ⟨by simp [unchanged, Performed.succeeded], rfl⟩
  | error failure =>
      have given : client.definitions? (.loadFeatures reply) = none := by
        simp only [definitions?, loads]
      have settled : ¬ (client.perform (.loadFeatures reply)).succeeded ∧
          (client.perform (.loadFeatures reply)).client.active = client.active := by
        simp only [perform, loadFeatures, loads]
        cases failure <;> exact ⟨by simp [Performed.succeeded], rfl⟩
      exact .kept (fun replaced => settled.1 replaced.2) (undecoded given nofun nofun) settled.2

theorem settled_attributes (client : Client) (json : Json) : client.Settled (.setAttributes json) := by
  refine settled_reading client _ json.toFields .attributes rfl (fun attributes read => .attributes json attributes read)
    (fun error refused replacement decodes => ?_) (fun attributes read => ?_) fun error refused => ?_
  · cases decodes with
    | features operation definitions read features given _ _ => cases given
    | attributes json attributes read => cases refused.symm.trans read
  · simp only [perform, read]
    exact ⟨rfl, rfl⟩
  · simp only [perform, refused]
    exact ⟨by simp [unchanged, Performed.succeeded], rfl⟩

theorem settled_user (client : Client) (json : Json) : client.Settled (.setUser json) := by
  refine settled_reading client _ json.toFields .user rfl (fun user read => .user json user read)
    (fun error refused replacement decodes => ?_) (fun user read => ?_) fun error refused => ?_
  · cases decodes with
    | features operation definitions read features given _ _ => cases given
    | user json user read => cases refused.symm.trans read
  · simp only [perform, read]
    exact ⟨rfl, rfl⟩
  · simp only [perform, refused]
    exact ⟨by simp [unchanged, Performed.succeeded], rfl⟩

theorem settled (client : Client) (operation : Operation) : client.Settled operation := by
  cases operation with
  | setFeatures definitions =>
      cases definitions with
      | obj fields => exact settled_set_definitions client _ (Definition.ofFields fields) rfl rfl rfl
      | null | bool _ | num _ | str _ | arr _ => exact .kept (fun replaced => (by cases replaced.2)) (undecoded rfl nofun nofun) rfl
  | setDefinitions definitions => exact settled_set_definitions client _ definitions rfl rfl rfl
  | setAttributes json => exact settled_attributes client json
  | setUser json => exact settled_user client json
  | loadFeatures reply => exact settled_load client reply
  | evaluate _ | getValue _ _ | getAllValues | clearCache | advance _ =>
      exact .kept (fun replaced => (by cases replaced.1)) (undecoded rfl nofun nofun) rfl

def after (client : Client) (operations : List Operation) : Client :=
  operations.foldl (fun client operation => (client.perform operation).client) client

inductive Installs : Client → List Operation → List Replacement → Prop where
  | nil (client : Client) : Installs client [] []
  | replaced (client : Client) (operation : Operation) (replacement : Replacement) (operations : List Operation)
      (replacements : List Replacement) (replaces : client.Replaces operation)
      (decodes : client.Decodes operation replacement)
      (later : Installs (client.perform operation).client operations replacements) :
      Installs client (operation :: operations) (replacement :: replacements)
  | kept (client : Client) (operation : Operation) (operations : List Operation) (replacements : List Replacement)
      (fails : ¬ client.Replaces operation) (later : Installs (client.perform operation).client operations replacements) :
      Installs client (operation :: operations) replacements

theorem installs_exists (client : Client) (operations : List Operation) :
    ∃ replacements, client.Installs operations replacements := by
  induction operations generalizing client with
  | nil => exact ⟨[], .nil client⟩
  | cons operation rest ih =>
      obtain ⟨replacements, later⟩ := ih (client.perform operation).client
      cases client.settled operation with
      | replaced replacement replaces decodes active =>
          exact ⟨replacement :: replacements, .replaced _ _ _ _ _ replaces decodes later⟩
      | kept fails _ active => exact ⟨replacements, .kept _ _ _ _ fails later⟩

theorem installs_unique {client : Client} {operations : List Operation} {first second : List Replacement}
    (installs : client.Installs operations first) (others : client.Installs operations second) : first = second := by
  induction installs generalizing second with
  | nil client =>
      cases others
      rfl
  | replaced client operation replacement operations replacements replaces decodes later ih =>
      cases others with
      | replaced _ _ other _ others _ decoded rest => rw [decodes_unique client operation _ _ decodes decoded, ih rest]
      | kept _ _ _ _ fails rest => exact absurd replaces fails
  | kept client operation operations replacements fails later ih =>
      cases others with
      | replaced _ _ other _ others replaces decoded rest => exact absurd replaces fails
      | kept _ _ _ _ _ rest => exact ih rest

theorem installs_active {client : Client} {operations : List Operation} {replacements : List Replacement}
    (installs : client.Installs operations replacements) :
    (client.after operations).active = client.active.withLast replacements := by
  rw [Active.with_last_eq]
  induction installs with
  | nil client => rfl
  | replaced client operation replacement operations replacements replaces decodes later ih =>
      cases client.settled operation with
      | replaced other _ decoded active =>
          rw [decodes_unique client operation _ _ decodes decoded, List.foldl_cons, ← active]
          exact ih
      | kept fails _ active => exact absurd replaces fails
  | kept client operation operations replacements fails later ih =>
      cases client.settled operation with
      | replaced other replaces decoded active => exact absurd replaces fails
      | kept _ _ active =>
          rw [← active]
          exact ih

theorem keyed_perform (client : Client) (operation : Operation) (keyed : client.features.KeyedById) :
    (client.perform operation).client.features.KeyedById := by
  have features (active : Active) (same : (client.perform operation).client.active = active)
      (held : active.features.KeyedById) : (client.perform operation).client.features.KeyedById := by
    rw [← same] at held
    exact held
  cases client.settled operation with
  | replaced replacement replaces decodes active =>
      refine features _ active ?_
      cases decodes with
      | features operation definitions read features given reads holds =>
          exact FeatureSet.of_definitions_keyed definitions features
            ((FeatureSet.of_definitions_iff definitions features).mpr ⟨read, reads, holds⟩)
      | attributes _ _ _ | user _ _ _ => exact keyed
  | kept fails _ active => exact features _ active keyed

theorem keyed_after (client : Client) (operations : List Operation) (keyed : client.features.KeyedById) :
    (client.after operations).features.KeyedById := by
  induction operations generalizing client with
  | nil => exact keyed
  | cons operation rest ih => exact ih (client.perform operation).client (keyed_perform client operation keyed)

theorem keyed_performed {start client : Client} {operation : Operation}
    (performs : (do
      let _ ← (start.perform operation).answer
      return (start.perform operation).client) = Except.ok client)
    (keyed : start.features.KeyedById) : client.features.KeyedById := by
  obtain ⟨answer, _, ends⟩ := (bind_ok_iff _ _ _).mp performs
  cases ends
  exact keyed_perform start operation keyed

theorem keyed_built (options : ClientOptions) (client : Client) (built : Client.ofOptions options = .ok client) :
    client.features.KeyedById := by
  obtain ⟨attributes, _, built⟩ := (bind_ok_iff _ _ _).mp built
  obtain ⟨user, _, built⟩ := (bind_ok_iff _ _ _).mp built
  dsimp only at built
  split at built
  · exact keyed_performed built FeatureSet.keyed_nil
  · cases built
    exact FeatureSet.keyed_nil

-- A client as it is built: from options, and with features that were read already if there are any.
inductive Built : Client → Prop where
  | options (options : ClientOptions) (client : Client) (built : Client.ofOptions options = .ok client) : Built client
  | read (client : Client) (definitions : List (String × Definition)) (built : Built client) :
      Built (client.perform (.setDefinitions definitions)).client

theorem built_keyed {client : Client} (built : Built client) : client.features.KeyedById := by
  induction built with
  | options options client built => exact keyed_built options client built
  | read client definitions _ keyed => exact keyed_perform client _ keyed

theorem active_after (client : Client) (built : client.Built) (operations : List Operation) :
    (∀ operation, (client.after operations).Settled operation) ∧
    (∃! replacements, client.Installs operations replacements) ∧
    (∀ replacements, client.Installs operations replacements →
      (client.after operations).active = client.active.withLast replacements) ∧
    (client.after operations).features.KeyedById := by
  obtain ⟨replacements, installs⟩ := installs_exists client operations
  have unique : ∃! replacements, client.Installs operations replacements :=
    ⟨replacements, installs, fun _ others => installs_unique others installs⟩
  have active (replacements : List Replacement) (installs : client.Installs operations replacements) :
      (client.after operations).active = client.active.withLast replacements := installs_active installs
  exact ⟨settled (client.after operations), unique, active, keyed_after client operations (built_keyed built)⟩

-- The second operation fails at its last definition, and the third is no map.
def Signup.operations : List Operation :=
  [.setFeatures (.obj [("banner", .obj [("defaultValue", .bool true)])]),
    .setFeatures (.obj [("banner", .obj []), ("trial", .null)]), .setUser .null, .setUser (.obj [("plan", .str "pro")])]

def Signup.client : Client :=
  { clientKey := "", apiHost := ({} : Config).apiHost, cacheTtl := .int 60, repository := .fresh (.float ({} : Config).timeout),
    hash := bucketHash, sticky := false, features := [], attributes := [], user := [] }

def Signup.banner : Feature := ⟨"banner", .bool true, []⟩

theorem active_after_signup :
    Signup.client.Built ∧
      (Signup.client.after Signup.operations).active =
        ⟨[("banner", Signup.banner)], [], [("plan", .str "pro")]⟩ := by
  have built : Signup.client.Built := .options {} Signup.client rfl
  have installs : Signup.client.Installs Signup.operations
      [.features [("banner", Signup.banner)], .user [("plan", .str "pro")]] := by
    refine .replaced _ _ _ _ _ ⟨rfl, rfl⟩ ?_ (.kept _ _ _ _ ?_ (.kept _ _ _ _ ?_ (.replaced _ _ _ _ _ ⟨rfl, rfl⟩ ?_ (.nil _))))
    · exact .features _ _ [Signup.banner] _ rfl rfl (FeatureSet.holds_added [Signup.banner])
    · exact fun replaces => (by cases replaces.2)
    · exact fun replaces => (by cases replaces.2)
    · exact .user _ _ rfl
  exact ⟨built, (active_after Signup.client built Signup.operations).2.2.1 _ installs⟩

end Client
end FeatureFlags
