import FeatureFlags.Proofs.Number.Sum
import FeatureFlags.Proofs.Repository.Loading

/-! Beside every run goes the list of its fetches since the last clear. The latest fetch under a key decides
alone whether a load makes a request and what it gives, so it cannot be seen when an expired entry is dropped.
-/

set_option autoImplicit false

namespace FeatureFlags

structure Cache.EvictedFrom {Value : Type} (evicted cache : Cache Value) : Prop where
  now : evicted.now = cache.now
  entries : ∀ key, evicted.entries.lookup key = cache.entries.lookup key ∨ evicted.entries.lookup key = none ∧
    ∃ entry, cache.entries.lookup key = some entry ∧ cache.isExpired entry

theorem Cache.drop_evicted {Value : Type} (cache : Cache Value) (key : String) (missing : cache.fresh? key = none) :
    (cache.drop key).EvictedFrom cache := by
  refine ⟨rfl, fun other => ?_⟩
  rw [lookup_drop]
  by_cases same : other = key
  · subst same
    rw [if_pos rfl]
    rcases cache.not_fresh other missing with absent | expired
    · exact .inl absent.symm
    · exact .inr ⟨rfl, expired⟩
  · exact .inl (if_neg same)

namespace Repository

inductive Action where
  | load (reply : Reply) (host key : String) (ttl : Number)
  | clear
  | advance (seconds : Double) (forward : Double.zero.le seconds)

def act (repository : Repository) : Action → Repository
  | .load reply host key ttl => (repository.load reply host key ttl).repository
  | .clear => repository.clear
  | .advance seconds _ => repository.advance seconds

def freshAt (now : Double) (timeout : Number) : Repository := ⟨.empty now, timeout⟩

structure Shown where
  requested : Option String
  outcome : Except LoadFailure Fields

def shown (repository : Repository) (reply : Reply) (host key : String) (ttl : Number) : Shown :=
  ⟨(repository.load reply host key ttl).requested, (repository.load reply host key ttl).outcome⟩

def shownBy (repository : Repository) : Action → List Shown
  | .load reply host key ttl => [repository.shown reply host key ttl]
  | .clear | .advance _ _ => []

def shows (repository : Repository) : List Action → List Shown
  | [] => []
  | action :: later => repository.shownBy action ++ (repository.act action).shows later

structure Fetch where
  key : String
  features : Fields
  time : Double
  ttl : Double

def Fetch.expires (fetch : Fetch) : Double := fetch.time.add fetch.ttl

def Fetch.entry (fetch : Fetch) : CacheEntry Fields := ⟨fetch.features, fetch.expires⟩

def Shown.fetch? (shown : Shown) (key : String) (now : Double) (ttl : Number) : Option Fetch :=
  match shown.requested, shown.outcome, ttl.toDouble? with
  | some _, .ok features, some seconds => if (Number.int 0).lt ttl then some ⟨key, features, now, seconds⟩ else none
  | _, _, _ => none

structure History where
  repository : Repository
  fetches : List Fetch

namespace History

def cache (history : History) : Cache Fields := history.repository.cache

def now (history : History) : Double := history.cache.now

def latest? (history : History) (key : String) : Option Fetch := history.fetches.find? fun fetch => fetch.key == key

def fresh? (history : History) (key : String) : Option Fetch :=
  (history.latest? key).filter fun fetch => history.now.lt fetch.expires

def start (now : Double) (timeout : Number) : History := ⟨freshAt now timeout, []⟩

def fetched (history : History) : Action → List Fetch
  | .load reply host key ttl =>
      ((history.repository.shown reply host key ttl).fetch? (cacheKey host key) history.now ttl).toList ++ history.fetches
  | .clear => []
  | .advance _ _ => history.fetches

def act (history : History) (action : Action) : History := ⟨history.repository.act action, history.fetched action⟩

def after (history : History) (actions : List Action) : History := actions.foldl act history

inductive Remembers (history : History) (key : String) : Prop where
  | nothing (unfetched : history.latest? key = none) (absent : history.cache.entries.lookup key = none)
  | stored (fetch : Fetch) (latest : history.latest? key = some fetch)
      (held : history.cache.entries.lookup key = some fetch.entry)
  | evicted (fetch : Fetch) (latest : history.latest? key = some fetch) (expired : fetch.expires.le history.now)
      (absent : history.cache.entries.lookup key = none)

structure Faithful (history : History) : Prop where
  time : history.now.IsTime
  expiries : ∀ fetch ∈ history.fetches, fetch.expires.IsTime
  remembers : ∀ key, history.Remembers key

theorem faithful_start (now : Double) (timeout : Number) (time : now.IsTime) : (start now timeout).Faithful :=
  ⟨time, fun _ among => absurd among List.not_mem_nil, fun _ => .nothing rfl rfl⟩

theorem latest_mem {history : History} {key : String} {fetch : Fetch} (latest : history.latest? key = some fetch) :
    fetch ∈ history.fetches := List.mem_of_find?_eq_some latest

theorem expired_eq {history : History} (faithful : history.Faithful) (key : String) (fetch : Fetch)
    (latest : history.latest? key = some fetch) : fetch.expires.le history.now = !history.now.lt fetch.expires :=
  Double.time_le_eq_not_lt (faithful.expiries fetch (latest_mem latest)) faithful.time

theorem fresh_eq {history : History} (faithful : history.Faithful) (key : String) :
    history.cache.fresh? key = (history.fresh? key).map Fetch.entry := by
  rw [Cache.fresh?, fresh?]
  cases faithful.remembers key with
  | nothing unfetched absent => rw [absent, unfetched]; rfl
  | stored fetch latest held =>
      have expired : history.cache.isExpired fetch.entry = !history.now.lt fetch.expires :=
        expired_eq faithful key fetch latest
      rw [held, latest]
      cases before : history.now.lt fetch.expires <;> simp [Option.filter, expired, before]
  | evicted fetch latest expired absent =>
      rw [expired_eq faithful key fetch latest, Bool.not_eq_true'] at expired
      rw [absent, latest]
      simp [Option.filter, expired]

theorem shown_eq {history : History} (faithful : history.Faithful) (reply : Reply) (host key : String) (ttl : Number) :
    history.repository.shown reply host key ttl = match history.fresh? (cacheKey host key) with
      | some fetch => ⟨none, .ok fetch.features⟩
      | none => ⟨some (featuresUrl host key), reply.loaded (featuresUrl host key) ttl⟩ := by
  have agrees : history.repository.cache.fresh? (cacheKey host key) = _ := fresh_eq faithful (cacheKey host key)
  rw [shown]
  cases fresh : history.fresh? (cacheKey host key) with
  | none =>
      rw [fresh] at agrees
      obtain ⟨requested, outcome⟩ := load_requests history.repository reply host key ttl agrees
      rw [requested, outcome]
  | some fetch =>
      rw [fresh] at agrees
      cases history.repository.loads reply host key ttl with
      | held entry found loads =>
          cases agrees.symm.trans found
          rw [loads]
          rfl
      | stored _ _ missing _ _ _ _ | unstored missing _ _ => cases agrees.symm.trans missing

def evict (history : History) (evicted : Cache Fields) : History :=
  ⟨{ history.repository with cache := evicted }, history.fetches⟩

theorem faithful_evict {history : History} (faithful : history.Faithful) (evicted : Cache Fields)
    (expired : evicted.EvictedFrom history.cache) : (history.evict evicted).Faithful := by
  have now : (history.evict evicted).now = history.now := expired.now
  refine ⟨now ▸ faithful.time, faithful.expiries, fun key => ?_⟩
  have sameLatest : (history.evict evicted).latest? key = history.latest? key := rfl
  cases faithful.remembers key with
  | nothing unfetched absent =>
      refine .nothing unfetched ?_
      rcases expired.entries key with same | ⟨gone, _⟩
      · exact same.trans absent
      · exact gone
  | stored fetch latest held =>
      rcases expired.entries key with same | ⟨gone, entry, found, ended⟩
      · exact .stored fetch latest (same.trans held)
      · cases held.symm.trans found
        exact .evicted fetch latest (now ▸ ended) gone
  | evicted fetch latest ended absent =>
      refine .evicted fetch latest (now ▸ ended) ?_
      rcases expired.entries key with same | ⟨gone, _⟩
      · exact same.trans absent
      · exact gone

theorem faithful_advance {history : History} (faithful : history.Faithful) (seconds : Double)
    (forward : Double.zero.le seconds) : (history.act (.advance seconds forward)).Faithful := by
  obtain ⟨time, later⟩ := Double.time_add faithful.time forward
  refine ⟨time, faithful.expiries, fun key => ?_⟩
  cases faithful.remembers key with
  | nothing unfetched absent => exact .nothing unfetched absent
  | stored fetch latest held => exact .stored fetch latest held
  | evicted fetch latest expired absent => exact .evicted fetch latest (Double.le_trans expired later) absent

theorem faithful_fetch {history : History} (faithful : history.Faithful) (key : String) (features : Fields)
    (seconds : Double) (forward : Double.zero.le seconds) :
    (History.mk { history.repository with cache := history.cache.set key features seconds }
      (⟨key, features, history.now, seconds⟩ :: history.fetches)).Faithful := by
  refine ⟨faithful.time, fun fetch among => ?_, fun other => ?_⟩
  · rcases List.mem_cons.mp among with rfl | before
    · exact (Double.time_add faithful.time forward).1
    · exact faithful.expiries fetch before
  · by_cases same : other = key
    · subst same
      refine .stored ⟨other, features, history.now, seconds⟩ (by simp [latest?]) ?_
      exact (Cache.lookup_set history.cache other features seconds other).trans (if_pos rfl)
    · have kept := (Cache.lookup_set history.cache key features seconds other).trans (if_neg same)
      have sameLatest : (⟨key, features, history.now, seconds⟩ :: history.fetches).find? (fun fetch => fetch.key == other) =
          history.latest? other := by
        simp [beq_eq_false_iff_ne.mpr (Ne.symm same), latest?]
      cases faithful.remembers other with
      | nothing unfetched absent => exact .nothing (sameLatest.trans unfetched) (kept.trans absent)
      | stored fetch latest held => exact .stored fetch (sameLatest.trans latest) (kept.trans held)
      | evicted fetch latest expired absent =>
          exact .evicted fetch (sameLatest.trans latest) expired (kept.trans absent)

theorem act_load_held {history : History} {reply : Reply} {host key : String} {ttl : Number} {entry : CacheEntry Fields}
    (loads : history.repository.load reply host key ttl = ⟨history.repository, none, .ok entry.value⟩) :
    history.act (.load reply host key ttl) = history := by
  simp only [act, Repository.act, fetched, shown, loads, Shown.fetch?]
  rfl

theorem act_load_stored {history : History} {reply : Reply} {host key : String} {ttl : Number} {features : Fields}
    {seconds : Double} {url : String} {cache : Cache Fields} (positive : (Number.int 0).lt ttl)
    (lasts : ttl.toDouble? = some seconds)
    (loads : history.repository.load reply host key ttl = ⟨{ history.repository with cache }, some url, .ok features⟩) :
    history.act (.load reply host key ttl) =
      ⟨{ history.repository with cache }, ⟨cacheKey host key, features, history.now, seconds⟩ :: history.fetches⟩ := by
  simp only [act, Repository.act, fetched, shown, loads, Shown.fetch?, lasts, positive, if_true]
  rfl

theorem act_load_unstored {history : History} {reply : Reply} {host key : String} {ttl : Number} {url : String}
    {cache : Cache Fields} (unkept : ∀ features, reply.loaded url ttl = .ok features → (Number.int 0).lt ttl = false)
    (loads : history.repository.load reply host key ttl =
      ⟨{ history.repository with cache }, some url, reply.loaded url ttl⟩) :
    history.act (.load reply host key ttl) = history.evict cache := by
  simp only [act, Repository.act, fetched, shown, loads, Shown.fetch?, evict]
  cases outcome : reply.loaded url ttl with
  | error failure => rfl
  | ok features =>
      rw [unkept features outcome]
      cases ttl.toDouble? <;> rfl

theorem faithful_load {history : History} (faithful : history.Faithful) (reply : Reply) (host key : String)
    (ttl : Number) : (history.act (.load reply host key ttl)).Faithful := by
  cases history.repository.loads reply host key ttl with
  | held entry found loads => rwa [act_load_held loads]
  | stored features seconds missing loaded positive lasts loads =>
      rw [act_load_stored positive lasts loads]
      exact faithful_fetch faithful _ features seconds (ttl.double_nonneg seconds positive lasts)
  | unstored missing unkept loads =>
      rw [act_load_unstored unkept loads]
      exact faithful_evict faithful _ (Cache.drop_evicted _ _ missing)

theorem faithful_act {history : History} (faithful : history.Faithful) (action : Action) :
    (history.act action).Faithful := by
  cases action with
  | load reply host key ttl => exact faithful_load faithful reply host key ttl
  | clear => exact ⟨faithful.time, fun _ among => absurd among List.not_mem_nil, fun _ => .nothing rfl rfl⟩
  | advance seconds forward => exact faithful_advance faithful seconds forward

theorem faithful_after {history : History} (faithful : history.Faithful) (actions : List Action) :
    (history.after actions).Faithful :=
  List.foldlRecOn actions act faithful fun _ reached action _ => faithful_act reached action

theorem act_load_now (history : History) (reply : Reply) (host key : String) (ttl : Number) :
    (history.act (.load reply host key ttl)).now = history.now := by
  change (history.repository.load reply host key ttl).repository.cache.now = history.repository.cache.now
  cases history.repository.loads reply host key ttl with
  | held entry found loads => rw [loads]
  | stored features seconds missing loaded positive lasts loads => rw [loads]; rfl
  | unstored missing unkept loads => rw [loads]; rfl

-- The clock and the fetches are all that can be seen of a repository.
theorem shows_eq {first second : History} (faithful : first.Faithful) (other : second.Faithful)
    (now : first.now = second.now) (fetches : first.fetches = second.fetches) (actions : List Action) :
    first.repository.shows actions = second.repository.shows actions := by
  induction actions generalizing first second with
  | nil => rfl
  | cons action later ih =>
      have rest (now : (first.act action).now = (second.act action).now)
          (fetches : first.fetched action = second.fetched action) :
          (first.repository.act action).shows later = (second.repository.act action).shows later :=
        ih (faithful_act faithful action) (faithful_act other action) now fetches
      cases action with
      | load reply host key ttl =>
          have same : first.repository.shown reply host key ttl = second.repository.shown reply host key ttl := by
            rw [shown_eq faithful, shown_eq other, fresh?, fresh?, latest?, latest?, now, fetches]
          have nextNow : (first.act (.load reply host key ttl)).now = (second.act (.load reply host key ttl)).now := by
            rw [act_load_now, act_load_now, now]
          have nextFetches : first.fetched (.load reply host key ttl) = second.fetched (.load reply host key ttl) := by
            rw [fetched, fetched, same, now, fetches]
          rw [shows, shows, rest nextNow nextFetches, shownBy, shownBy, same]
      | clear =>
          rw [shows, shows, rest now rfl]
          rfl
      | advance seconds forward =>
          have nextNow : (first.act (.advance seconds forward)).now = (second.act (.advance seconds forward)).now :=
            congrArg (fun clock => clock.add seconds) now
          rw [shows, shows, rest nextNow fetches]
          rfl

inductive Answers (history : History) (reply : Reply) (host key : String) (ttl : Number) : Prop where
  | fetched (fetch : Fetch) (latest : history.latest? (cacheKey host key) = some fetch)
      (before : history.now.lt fetch.expires)
      (shown : history.repository.shown reply host key ttl = ⟨none, .ok fetch.features⟩)
  | requested (ended : ∀ fetch, history.latest? (cacheKey host key) = some fetch → history.now.lt fetch.expires = false)
      (shown : history.repository.shown reply host key ttl =
        ⟨some (featuresUrl host key), reply.loaded (featuresUrl host key) ttl⟩)

theorem answers {history : History} (faithful : history.Faithful) (reply : Reply) (host key : String) (ttl : Number) :
    history.Answers reply host key ttl := by
  have shown := shown_eq faithful reply host key ttl
  cases fresh : history.fresh? (cacheKey host key) with
  | some fetch =>
      rw [fresh] at shown
      obtain ⟨latest, before⟩ := Option.filter_eq_some_iff.mp fresh
      exact .fetched fetch latest before shown
  | none =>
      rw [fresh] at shown
      refine .requested (fun fetch latest => ?_) shown
      rw [fresh?, latest] at fresh
      cases before : history.now.lt fetch.expires with
      | false => rfl
      | true => simp [Option.filter, before] at fresh

end History

theorem failure_keeps (repository : Repository) (reply : Reply) (host key : String) (ttl : Number) (failure : LoadFailure)
    (failed : (repository.load reply host key ttl).outcome = .error failure) :
    (repository.load reply host key ttl).repository = repository ∨
      ∃ entry, repository.cache.entries.lookup (cacheKey host key) = some entry ∧ repository.cache.isExpired entry ∧
        (repository.load reply host key ttl).repository =
          { repository with cache := repository.cache.drop (cacheKey host key) } := by
  cases repository.loads reply host key ttl with
  | held entry found loads =>
      rw [loads] at failed
      cases failed
  | stored features seconds missing loaded positive lasts loads =>
      rw [loads] at failed
      cases failed
  | unstored missing unkept loads =>
      rw [loads]
      rcases repository.cache.not_fresh _ missing with absent | ⟨entry, held, expired⟩
      · exact .inl (by rw [Cache.drop_absent _ _ absent])
      · exact .inr ⟨entry, held, expired, rfl⟩

theorem loads_follow_history (now : Double) (time : now.IsTime) (timeout : Number) (actions : List Action) :
    let history := (History.start now timeout).after actions
    (∀ reply host key ttl, history.Answers reply host key ttl) ∧
    (∀ reply host key ttl failure, (history.repository.load reply host key ttl).outcome = .error failure →
      (history.repository.load reply host key ttl).repository = history.repository ∨
        ∃ entry, history.cache.entries.lookup (cacheKey host key) = some entry ∧ history.cache.isExpired entry ∧
          (history.repository.load reply host key ttl).repository =
            { history.repository with cache := history.cache.drop (cacheKey host key) }) ∧
    ∀ evicted later, evicted.EvictedFrom history.cache →
      ({ history.repository with cache := evicted } : Repository).shows later = history.repository.shows later := by
  intro history
  have faithful : history.Faithful := History.faithful_after (History.faithful_start now timeout time) actions
  refine ⟨History.answers faithful, failure_keeps history.repository, fun evicted later expired => ?_⟩
  exact History.shows_eq (History.faithful_evict faithful evicted expired) faithful expired.now rfl later

theorem start_is_time : startTime.IsTime := by
  unfold startTime Double.ofRatio
  exact Double.round_units_is_time _ _

def Outage.reply : Reply := .response 200 "\x7b\"features\":\x7b\x7d\x7d".toUTF8.toList

def Outage.url : String := "http://gb.test/api/features/sdk-1"

def Outage.history (now : Double) : History :=
  (History.start now (.int 10)).after [.load Outage.reply "http://gb.test" "sdk-1" (.float (.infinite false))]

def Outage.fetch (now : Double) : Fetch := ⟨"http://gb.test::sdk-1", [], now, .infinite false⟩

theorem Outage.features_of_reply : Outage.reply.features Outage.url = .ok [] := by
  have empty : (Outage.reply.features Outage.url).toOption.map List.isEmpty = some true := by decide +kernel
  cases fetched : Outage.reply.features Outage.url with
  | error error =>
      rw [fetched] at empty
      cases empty
  | ok features =>
      rw [fetched] at empty
      rw [List.isEmpty_iff.mp (Option.some.inj empty)]

theorem Outage.fetches_kept (now : Double) :
    (Outage.history now).fetches = [Outage.fetch now] ∧ (Outage.history now).now = now := by
  have loaded : Outage.reply.loaded Outage.url (.float (.infinite false)) = .ok [] := by
    simp [Reply.loaded, Outage.features_of_reply, Number.toDouble?]
  let start := History.start now (.int 10)
  cases start.repository.loads Outage.reply "http://gb.test" "sdk-1" (.float (.infinite false)) with
  | held entry found loads => cases found
  | unstored missing unkept loads => cases unkept [] loaded
  | stored features seconds missing fetched positive lasts loads =>
      cases loaded.symm.trans fetched
      cases lasts
      have acted : Outage.history now = _ := History.act_load_stored positive rfl loads
      rw [acted]
      exact ⟨rfl, rfl⟩

-- The load after it does not see that its own request would fail.
theorem loads_follow_history_outage :
    startTime.IsTime ∧
      (Outage.history startTime).repository.shown (.failure "ConnectError") "http://gb.test" "sdk-1" (.int 60) =
        ⟨none, .ok []⟩ := by
  refine ⟨start_is_time, ?_⟩
  obtain ⟨fetches, now⟩ := Outage.fetches_kept startTime
  have latest : (Outage.history startTime).latest? (cacheKey "http://gb.test" "sdk-1") = some (Outage.fetch startTime) := by
    rw [History.latest?, fetches]
    rfl
  have before : startTime.lt (Outage.fetch startTime).expires := by decide +kernel
  have follows := loads_follow_history startTime start_is_time (.int 10)
    [.load Outage.reply "http://gb.test" "sdk-1" (.float (.infinite false))]
  cases follows.1 (.failure "ConnectError") "http://gb.test" "sdk-1" (.int 60) with
  | fetched fetch found _ shown =>
      cases latest.symm.trans found
      exact shown
  | requested ended shown =>
      have after : (Outage.history startTime).now.lt (Outage.fetch startTime).expires = false := ended _ latest
      rw [now, before] at after
      cases after

theorem large_ttl_refused :
    (Number.int 0).lt (.int (Nat.pow 10 400)) ∧ Outage.reply.features Outage.url = .ok [] ∧
      (fresh (.int 10)).shown Outage.reply "http://gb.test" "sdk-1" (.int (Nat.pow 10 400)) =
        ⟨some Outage.url, .error .ttlTooLarge⟩ := by
  have positive : (Number.int 0).lt (.int (Nat.pow 10 400)) := by decide +kernel
  have endless : (Number.int (Nat.pow 10 400)).toDouble? = none := Option.isNone_iff_eq_none.mp (by decide +kernel)
  have fetched := Outage.features_of_reply
  have loaded : Outage.reply.loaded Outage.url (.int (Nat.pow 10 400)) = .error .ttlTooLarge := by
    simp only [Reply.loaded, fetched, positive, endless, and_self, if_true]
  refine ⟨positive, fetched, ?_⟩
  have shown := History.shown_eq (History.faithful_start startTime (.int 10) start_is_time) Outage.reply "http://gb.test"
    "sdk-1" (.int (Nat.pow 10 400))
  rw [← loaded]
  exact shown

end Repository
end FeatureFlags
