import FeatureFlags.Proofs.Client.Installed
import FeatureFlags.Proofs.Client.Loading

/-! The repository keeps a payload that cannot be read like any other, for the client reads it only
afterwards. While it is kept, a load is answered from the cache and fails again; later the client makes a
request. -/

set_option autoImplicit false

namespace FeatureFlags

def Operation.leavesEntries : Operation → Bool
  | .loadFeatures _ | .clearCache => false
  | .setFeatures _ | .setDefinitions _ | .setAttributes _ | .setUser _ | .evaluate _ | .getValue _ _ | .getAllValues
  | .advance _ => true

namespace Client

def cacheKey (client : Client) : String := Repository.cacheKey client.apiHost client.clientKey

def cached? (client : Client) : Option (CacheEntry Fields) := client.repository.cache.entries.lookup client.cacheKey

-- When the features that a load gives now will have expired: with the entry that answers the load or, if there is none,
-- after the time to live of the client, if that is positive.
def expiry? (client : Client) : Option Double :=
  match client.repository.cache.fresh? client.cacheKey with
  | some entry => some entry.expires
  | none =>
      if (Number.int 0).lt client.cacheTtl then client.cacheTtl.toDouble?.map client.repository.cache.now.add else none

structure Keeps (client later : Client) : Prop where
  host : later.apiHost = client.apiHost
  key : later.clientKey = client.clientKey
  entries : later.repository.cache.entries = client.repository.cache.entries

theorem Keeps.refl (client : Client) : client.Keeps client := ⟨rfl, rfl, rfl⟩

theorem Keeps.trans {client middle later : Client} (first : client.Keeps middle) (second : middle.Keeps later) :
    client.Keeps later :=
  ⟨second.host.trans first.host, second.key.trans first.key, second.entries.trans first.entries⟩

theorem Keeps.cached {client later : Client} (keeps : client.Keeps later) : later.cached? = client.cached? := by
  rw [cached?, cached?, cacheKey, cacheKey, keeps.host, keeps.key, keeps.entries]

theorem keeps_set_definitions (client : Client) (definitions : List (String × Definition)) :
    client.Keeps (client.setDefinitions definitions).client := by
  rw [setDefinitions]
  cases FeatureSet.ofDefinitions definitions <;> exact ⟨rfl, rfl, rfl⟩

theorem keeps_perform (client : Client) (operation : Operation) (leaves : operation.leavesEntries) :
    client.Keeps (client.perform operation).client := by
  cases operation with
  | setFeatures definitions =>
      cases definitions with
      | obj fields => exact keeps_set_definitions client (Definition.ofFields fields)
      | null | bool _ | num _ | str _ | arr _ => exact Keeps.refl client
  | setDefinitions definitions => exact keeps_set_definitions client definitions
  | setAttributes json =>
      rw [perform]
      cases json.toFields <;> exact ⟨rfl, rfl, rfl⟩
  | setUser json =>
      rw [perform]
      cases json.toFields <;> exact ⟨rfl, rfl, rfl⟩
  | loadFeatures reply => cases leaves
  | clearCache => cases leaves
  | evaluate _ | getValue _ _ | getAllValues => exact Keeps.refl client
  | advance seconds => exact ⟨rfl, rfl, rfl⟩

theorem keeps_after (client : Client) (between : List Operation)
    (leaves : ∀ operation ∈ between, operation.leavesEntries) : client.Keeps (client.after between) :=
  List.foldlRecOn between _ (Keeps.refl client) fun later keeps operation among =>
    keeps.trans (keeps_perform later operation (leaves operation among))

theorem perform_load (client : Client) (reply : Reply) :
    let loading := client.repository.load reply client.apiHost client.clientKey client.cacheTtl
    let performed := client.perform (.loadFeatures reply)
    performed.requested = loading.requested ∧ performed.client.repository = loading.repository ∧
      performed.client.apiHost = client.apiHost ∧ performed.client.clientKey = client.clientKey := by
  simp only [perform, loadFeatures, applyLoaded]
  cases (client.repository.load reply client.apiHost client.clientKey client.cacheTtl).outcome with
  | error failure => cases failure <;> exact ⟨rfl, rfl, rfl, rfl⟩
  | ok loaded =>
      cases read : FeatureSet.ofDefinitions (Definition.ofFields loaded) with
      | ok features => simp only [read, and_self]
      | error error => cases reported : error.isReported <;> simp [read, reported, unchanged]

theorem cached_after_load (client : Client) (reply : Reply) (payload : Fields) (obtained : client.loads reply = .ok payload) :
    (client.perform (.loadFeatures reply)).client.cached? = client.expiry?.map (CacheEntry.mk payload) := by
  obtain ⟨_, repository, host, key⟩ := perform_load client reply
  rw [cached?, cacheKey, repository, host, key, expiry?]
  rw [loads] at obtained
  cases client.repository.loads reply client.apiHost client.clientKey client.cacheTtl with
  | held entry found loads =>
      rw [loads] at obtained ⊢
      cases obtained
      rw [cacheKey, found]
      exact (Option.filter_eq_some_iff.mp found).1
  | stored features seconds missing loaded positive lasts loads =>
      rw [loads] at obtained ⊢
      cases obtained
      rw [cacheKey, missing]
      simp only [positive, lasts, if_true]
      exact (Cache.lookup_set _ _ _ _ _).trans (if_pos rfl)
  | unstored missing unkept loads =>
      rw [loads] at obtained ⊢
      rw [cacheKey, missing, unkept payload obtained]
      exact (Cache.lookup_drop _ _ _).trans (if_pos rfl)

inductive Retries (client later : Client) (next : Reply) : Prop where
  | replayed (expiry : Double) (kept : client.expiry? = some expiry)
      (fresh : expiry.le later.repository.cache.now = false)
      (unrequested : (later.perform (.loadFeatures next)).requested = none)
      (answer : (later.perform (.loadFeatures next)).answer = .ok (.loaded false))
      (active : (later.perform (.loadFeatures next)).client.active = later.active)
  | requested (ended : ∀ expiry, client.expiry? = some expiry → expiry.le later.repository.cache.now)
      (requested : (later.perform (.loadFeatures next)).requested =
        some (Repository.featuresUrl client.apiHost client.clientKey))

theorem kept_active (client : Client) (reply : Reply)
    (refused : (client.perform (.loadFeatures reply)).answer = .ok (.loaded false)) :
    (client.perform (.loadFeatures reply)).client.active = client.active := by
  cases client.settled (.loadFeatures reply) with
  | replaced replacement replaces decodes active =>
      have succeeded := replaces.2
      rw [Performed.succeeded, refused] at succeeded
      cases succeeded
  | kept fails undecoded active => exact active

theorem retries_of_cached (client later : Client) (next : Reply) (payload : Fields)
    (unread : ∀ reader reply, loads reader reply = .ok payload →
      (reader.perform (.loadFeatures reply)).answer = .ok (.loaded false))
    (host : later.apiHost = client.apiHost) (key : later.clientKey = client.clientKey)
    (entry : later.cached? = client.expiry?.map (CacheEntry.mk payload)) : client.Retries later next := by
  obtain ⟨requests, _, _, _⟩ := perform_load later next
  have found : later.repository.cache.entries.lookup later.cacheKey = _ := entry
  cases later.repository.loads next later.apiHost later.clientKey later.cacheTtl with
  | held entry fresh loaded =>
      obtain ⟨stored, unexpired⟩ := Option.filter_eq_some_iff.mp fresh
      obtain ⟨expiry, kept, rfl⟩ := Option.map_eq_some_iff.mp (found.symm.trans stored)
      have obtained : later.loads next = .ok payload := by rw [loads, loaded]
      have answer := unread later next obtained
      rw [loaded] at requests
      exact .replayed expiry kept (by simpa [Cache.isExpired] using unexpired) requests answer (kept_active later next answer)
  | stored _ _ missing _ _ _ loaded | unstored missing _ loaded =>
      rw [loaded] at requests
      refine .requested (fun expiry kept => ?_) (by rw [requests, host, key])
      rcases later.repository.cache.not_fresh _ missing with absent | ⟨entry, stored, expired⟩
      · rw [kept] at found
        cases absent.symm.trans found
      · rw [kept] at found
        cases stored.symm.trans found
        exact expired

theorem refused_payload_retried (client : Client) (reply next : Reply) (payload : Fields) (between : List Operation)
    (obtained : client.loads reply = .ok payload)
    (refused : (client.perform (.loadFeatures reply)).answer = .ok (.loaded false))
    (leaves : ∀ operation ∈ between, operation.leavesEntries) :
    client.Retries ((client.perform (.loadFeatures reply)).client.after between) next := by
  have keeps := keeps_after (client.perform (.loadFeatures reply)).client between leaves
  obtain ⟨_, _, host, key⟩ := perform_load client reply
  refine retries_of_cached client _ next payload (fun reader other loads => ?_) (keeps.host.trans host)
    (keeps.key.trans key) (keeps.cached.trans (cached_after_load client reply payload obtained))
  rw [load_answer_loaded reader other payload loads, ← load_answer_loaded client reply payload obtained, refused]

def Malformed.reply : Reply := .response 200 "\x7b\"features\":\x7b\"f\":1\x7d\x7d".toUTF8.toList

def Malformed.mended : Reply := .response 200 "\x7b\"features\":\x7b\"f\":\x7b\x7d\x7d\x7d".toUTF8.toList

def Malformed.between : List Operation := [.advance (.ofRatio false 10 1)]

theorem Malformed.obtained : ∃ payload, Endless.client.loads Malformed.reply = .ok payload := by
  have loaded : (Endless.client.loads Malformed.reply).toBool := by decide +kernel
  cases loads : Endless.client.loads Malformed.reply with
  | error failure =>
      rw [loads] at loaded
      cases loaded
  | ok payload => exact ⟨payload, rfl⟩

theorem Malformed.refused : (Endless.client.perform (.loadFeatures Malformed.reply)).answer = .ok (.loaded false) := by
  have answers : (Endless.client.perform (.loadFeatures Malformed.reply)).answer.toBool := by decide +kernel
  have failed : (Endless.client.perform (.loadFeatures Malformed.reply)).succeeded = false := by decide +kernel
  cases load_ends Endless.client Malformed.reply with
  | answered success answer =>
      rw [Performed.succeeded, answer] at failed
      rw [answer, show success = false from failed]
  | oversized _ _ _ _ _ _ _ answer | timeToLive _ _ _ answer =>
      rw [answer] at answers
      cases answers

theorem refused_payload_retried_malformed :
    ∃ payload, Endless.client.loads Malformed.reply = .ok payload ∧
      (Endless.client.perform (.loadFeatures Malformed.reply)).answer = .ok (.loaded false) ∧
      (∀ operation ∈ Malformed.between, operation.leavesEntries) ∧
      Endless.client.Retries
        ((Endless.client.perform (.loadFeatures Malformed.reply)).client.after Malformed.between) Malformed.mended := by
  obtain ⟨payload, obtained⟩ := Malformed.obtained
  have leaves : ∀ operation ∈ Malformed.between, operation.leavesEntries := by
    simp [Malformed.between, Operation.leavesEntries]
  exact ⟨payload, obtained, Malformed.refused, leaves, refused_payload_retried Endless.client Malformed.reply
    Malformed.mended payload Malformed.between obtained Malformed.refused leaves⟩

theorem malformed_payload_kept :
    (∃ payload, Endless.client.loads Malformed.reply = .ok payload) ∧
      (Endless.client.perform (.loadFeatures Malformed.reply)).answer = .ok (.loaded false) ∧
      (((Endless.client.perform (.loadFeatures Malformed.reply)).client.after Malformed.between).perform
        (.loadFeatures Malformed.mended)).requested = none :=
  ⟨Malformed.obtained, Malformed.refused, by decide +kernel⟩

end Client
end FeatureFlags
