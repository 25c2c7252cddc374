import FeatureFlags.Repository

/-! A fresh entry answers a load and leaves the repository alone; otherwise the load makes one request, and
what it fetches takes the place of the entry under its key, which is dropped if nothing is stored. -/

set_option autoImplicit false

namespace FeatureFlags

namespace Cache

variable {Value : Type}

def fresh? (cache : Cache Value) (key : String) : Option (CacheEntry Value) :=
  (cache.entries.lookup key).filter fun entry => !cache.isExpired entry

theorem lookup_drop (cache : Cache Value) (key other : String) :
    (cache.drop key).entries.lookup other = if other = key then none else cache.entries.lookup other := by
  rw [drop]
  generalize cache.entries = entries
  induction entries with
  | nil => simp
  | cons entry rest ih =>
      obtain ⟨held, value⟩ := entry
      by_cases here : other = held
      · subst here
        by_cases same : other = key
        · simpa [same] using ih
        · simp [same]
      · have different : (other == held) = false := beq_eq_false_iff_ne.mpr here
        by_cases dropped : held = key
        · simpa [dropped, List.lookup_cons, dropped ▸ different] using ih
        · simpa [dropped, List.lookup_cons, different] using ih

theorem lookup_set (cache : Cache Value) (key : String) (value : Value) (ttl : Double) (other : String) :
    (cache.set key value ttl).entries.lookup other =
      if other = key then some ⟨value, cache.now.add ttl⟩ else cache.entries.lookup other := by
  rw [set, List.lookup_cons, lookup_drop]
  by_cases same : other = key
  · simp [same]
  · have different : (other == key) = false := by simpa using same
    simp [same, different]

theorem drop_absent (cache : Cache Value) (key : String) (absent : cache.entries.lookup key = none) :
    cache.drop key = cache := by
  have kept : cache.entries.filter (fun entry => entry.1 != key) = cache.entries := by
    refine List.filter_eq_self.mpr fun entry among => ?_
    rw [bne_comm]
    exact List.lookup_eq_none_iff.mp absent entry among
  rw [drop, kept]

theorem set_drop (cache : Cache Value) (key : String) (value : Value) (ttl : Double) :
    (cache.drop key).set key value ttl = cache.set key value ttl := by
  simp [set, drop]

theorem get_eq (cache : Cache Value) (key : String) :
    cache.get key = match cache.fresh? key with
      | some entry => (some entry.value, cache)
      | none => (none, cache.drop key) := by
  rw [get, fresh?]
  cases held : cache.entries.lookup key with
  | none => rw [Option.filter_none, drop_absent cache key held]
  | some entry => cases expired : cache.isExpired entry <;> simp [expired, Option.filter]

theorem not_fresh (cache : Cache Value) (key : String) (missing : cache.fresh? key = none) :
    cache.entries.lookup key = none ∨ ∃ entry, cache.entries.lookup key = some entry ∧ cache.isExpired entry := by
  cases held : cache.entries.lookup key with
  | none => exact .inl rfl
  | some entry =>
      rw [fresh?, held] at missing
      cases expired : cache.isExpired entry with
      | false => simp [expired] at missing
      | true => exact .inr ⟨entry, rfl, expired⟩

end Cache

def Reply.loaded (reply : Reply) (url : String) (ttl : Number) : Except LoadFailure Fields :=
  match reply.features url with
  | .error error => .error (.reported error)
  | .ok features => if (Number.int 0).lt ttl ∧ ttl.toDouble? = none then .error .ttlTooLarge else .ok features

theorem Reply.features_address {reply : Reply} {url : String} {features : Fields}
    (fetched : reply.features url = .ok features) (other : String) : reply.features other = .ok features := by
  cases reply with
  | failure name => cases fetched
  | response status body =>
      simp only [Reply.features] at fetched ⊢
      by_cases good : 200 ≤ status ∧ status < 300
      · rw [if_pos good, decode] at fetched
        rw [if_pos good, decode]
        split at fetched
        · cases fetched
        · split at fetched
          · exact fetched
          · cases fetched
        · cases fetched
      · rw [if_neg good] at fetched
        cases fetched

theorem Reply.loaded_features {reply : Reply} {url : String} {ttl : Number} {features : Fields}
    (fetched : reply.features url = .ok features) (lasts : ttl.toDouble? ≠ none) : reply.loaded url ttl = .ok features := by
  simp only [loaded, fetched, lasts, and_false, if_false]

namespace Repository

inductive Loads (repository : Repository) (reply : Reply) (host key : String) (ttl : Number) : Prop where
  | held (entry : CacheEntry Fields) (found : repository.cache.fresh? (cacheKey host key) = some entry)
      (loads : repository.load reply host key ttl = ⟨repository, none, .ok entry.value⟩)
  | stored (features : Fields) (seconds : Double) (missing : repository.cache.fresh? (cacheKey host key) = none)
      (loaded : reply.loaded (featuresUrl host key) ttl = .ok features) (positive : (Number.int 0).lt ttl)
      (lasts : ttl.toDouble? = some seconds)
      (loads : repository.load reply host key ttl =
        ⟨{ repository with cache := repository.cache.set (cacheKey host key) features seconds },
          some (featuresUrl host key), .ok features⟩)
  | unstored (missing : repository.cache.fresh? (cacheKey host key) = none)
      (unkept : ∀ features, reply.loaded (featuresUrl host key) ttl = .ok features → (Number.int 0).lt ttl = false)
      (loads : repository.load reply host key ttl =
        ⟨{ repository with cache := repository.cache.drop (cacheKey host key) }, some (featuresUrl host key),
          reply.loaded (featuresUrl host key) ttl⟩)

theorem loads (repository : Repository) (reply : Reply) (host key : String) (ttl : Number) :
    repository.Loads reply host key ttl := by
  cases found : repository.cache.fresh? (cacheKey host key) with
  | some entry =>
      refine .held entry found ?_
      rw [load, Cache.get_eq, found]
  | none =>
      cases fetched : reply.features (featuresUrl host key) with
      | error error =>
          have loaded : reply.loaded (featuresUrl host key) ttl = .error (.reported error) := by
            rw [Reply.loaded, fetched]
          refine .unstored found (fun features same => ?_) ?_
          · cases loaded.symm.trans same
          · rw [load, Cache.get_eq, found, loaded]
            simp only [fetched]
            rfl
      | ok features =>
          cases positive : (Number.int 0).lt ttl with
          | false =>
              have loaded : reply.loaded (featuresUrl host key) ttl = .ok features := by
                simp only [Reply.loaded, fetched, positive, Bool.false_eq_true, false_and, if_false]
              refine .unstored found (fun _ _ => positive) ?_
              rw [load, Cache.get_eq, found, loaded]
              simp only [fetched, store, positive]
              rfl
          | true =>
              cases lasts : ttl.toDouble? with
              | some seconds =>
                  have loaded : reply.loaded (featuresUrl host key) ttl = .ok features := by
                    simp [Reply.loaded, fetched, lasts]
                  refine .stored features seconds found loaded positive lasts ?_
                  rw [load, Cache.get_eq, found]
                  simp only [fetched, store, positive, lasts, Cache.set_drop]
                  rfl
              | none =>
                  have loaded : reply.loaded (featuresUrl host key) ttl = .error .ttlTooLarge := by
                    simp [Reply.loaded, fetched, positive, lasts]
                  refine .unstored found (fun features same => ?_) ?_
                  · cases loaded.symm.trans same
                  · rw [load, Cache.get_eq, found, loaded]
                    simp only [fetched, store, positive, lasts]
                    rfl

theorem load_requests (repository : Repository) (reply : Reply) (host key : String) (ttl : Number)
    (missing : repository.cache.fresh? (cacheKey host key) = none) :
    (repository.load reply host key ttl).requested = some (featuresUrl host key) ∧
      (repository.load reply host key ttl).outcome = reply.loaded (featuresUrl host key) ttl := by
  cases repository.loads reply host key ttl with
  | held entry found loads => cases missing.symm.trans found
  | stored features seconds missing loaded positive lasts loads =>
      rw [loads, loaded]
      exact ⟨rfl, rfl⟩
  | unstored missing unkept loads =>
      rw [loads]
      exact ⟨rfl, rfl⟩

end Repository
end FeatureFlags
