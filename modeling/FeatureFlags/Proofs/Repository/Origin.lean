import FeatureFlags.Proofs.Repository.History
import Mathlib.Data.List.Induction

/-! Every fetch that a repository remembers was made by one load of its run, after which nothing was cleared.
The load that it answers has the same cache key, but may ask for another address. -/

set_option autoImplicit false

namespace FeatureFlags

namespace Repository

namespace History

theorem start_now (now : Double) (timeout : Number) : (start now timeout).now = now := rfl

theorem after_concat (start : History) (actions : List Action) (action : Action) :
    start.after (actions ++ [action]) = (start.after actions).act action := by
  rw [after, List.foldl_append]
  rfl

theorem after_append (start : History) (actions later : List Action) :
    start.after (actions ++ later) = (start.after actions).after later := List.foldl_append

inductive Brought (start : History) (fetch : Fetch) (host key : String) (ttl : Number) : List Action → Prop where
  | load (before later : List Action) (reply : Reply) (uncleared : .clear ∉ later)
      (shown : (start.after before).repository.shown reply host key ttl =
        ⟨some (featuresUrl host key), .ok fetch.features⟩)
      (named : fetch.key = cacheKey host key) (time : fetch.time = (start.after before).now)
      (positive : (Number.int 0).lt ttl) (lasts : ttl.toDouble? = some fetch.ttl) :
      Brought start fetch host key ttl (before ++ .load reply host key ttl :: later)

theorem Brought.later {start : History} {fetch : Fetch} {host key : String} {ttl : Number} {actions : List Action}
    (brought : start.Brought fetch host key ttl actions) (action : Action) (keeps : action ≠ .clear) :
    start.Brought fetch host key ttl (actions ++ [action]) := by
  cases brought with
  | load before later reply uncleared shown named time positive lasts =>
      rw [List.append_assoc, List.cons_append]
      refine .load before (later ++ [action]) reply (fun cleared => ?_) shown named time positive lasts
      rcases List.mem_append.mp cleared with earlier | last
      · exact uncleared earlier
      · exact keeps (List.mem_singleton.mp last).symm

theorem fetch_shown {shown : Shown} {key : String} {now : Double} {ttl : Number} {fetch : Fetch}
    (fetched : shown.fetch? key now ttl = some fetch) :
    (∃ url, shown = ⟨some url, .ok fetch.features⟩) ∧ fetch.key = key ∧ fetch.time = now ∧ (Number.int 0).lt ttl ∧
      ttl.toDouble? = some fetch.ttl := by
  obtain ⟨requested, outcome⟩ := shown
  rw [Shown.fetch?] at fetched
  cases requested with
  | none => cases fetched
  | some url =>
      cases outcome with
      | error failure => cases fetched
      | ok features =>
          cases lasts : ttl.toDouble? with
          | none =>
              rw [lasts] at fetched
              cases fetched
          | some seconds =>
              rw [lasts] at fetched
              obtain ⟨positive, same⟩ := Option.ite_none_right_eq_some.mp fetched
              cases same
              exact ⟨⟨url, rfl⟩, rfl, rfl, positive, rfl⟩

theorem load_address {repository : Repository} {reply : Reply} {host key : String} {ttl : Number} {url : String}
    (requested : (repository.load reply host key ttl).requested = some url) : url = featuresUrl host key := by
  cases repository.loads reply host key ttl with
  | held entry found loads =>
      rw [loads] at requested
      cases requested
  | stored features seconds missing loaded positive lasts loads =>
      rw [loads] at requested
      exact (Option.some.inj requested).symm
  | unstored missing unkept loads =>
      rw [loads] at requested
      exact (Option.some.inj requested).symm

-- Induction on the run from its end: the last action made the fetch, forgot all fetches, or left them as they were.
theorem brought (start : History) (actions : List Action) (fetch : Fetch) (among : fetch ∈ (start.after actions).fetches) :
    fetch ∈ start.fetches ∨ ∃ host key ttl, start.Brought fetch host key ttl actions := by
  induction actions using List.reverseRecOn with
  | nil => exact .inl among
  | append_singleton actions action ih =>
      rw [after_concat] at among
      have earlier (kept : fetch ∈ (start.after actions).fetches) (keeps : action ≠ .clear) :
          fetch ∈ start.fetches ∨ ∃ host key ttl, start.Brought fetch host key ttl (actions ++ [action]) := by
        rcases ih kept with initial | ⟨host, key, ttl, made⟩
        · exact .inl initial
        · exact .inr ⟨host, key, ttl, made.later action keeps⟩
      cases action with
      | load reply host key ttl =>
          rcases List.mem_append.mp among with fetched | kept
          · obtain ⟨⟨url, shown⟩, named, time, positive, lasts⟩ := fetch_shown (Option.mem_toList.mp fetched)
            cases load_address (congrArg Shown.requested shown)
            exact .inr ⟨host, key, ttl, .load actions [] reply List.not_mem_nil shown named time positive lasts⟩
          · exact earlier kept nofun
      | clear => exact absurd among List.not_mem_nil
      | advance seconds forward => exact earlier among nofun

theorem now_le_after {start : History} (faithful : start.Faithful) (actions : List Action) :
    start.now.le (start.after actions).now := by
  induction actions using List.reverseRecOn with
  | nil => exact Double.time_le_refl faithful.time
  | append_singleton actions action ih =>
      rw [after_concat]
      cases action with
      | load reply host key ttl => exact act_load_now (start.after actions) reply host key ttl ▸ ih
      | clear => exact ih
      | advance seconds forward =>
          exact Double.le_trans ih (Double.time_add (faithful_after faithful actions).time forward).2

theorem Brought.time_le {start : History} (faithful : start.Faithful) {fetch : Fetch} {host key : String} {ttl : Number}
    {actions : List Action} (brought : start.Brought fetch host key ttl actions) :
    fetch.time.le (start.after actions).now := by
  cases brought with
  | load before later reply uncleared shown named time positive lasts =>
      rw [time, after_append]
      exact now_le_after (faithful_after faithful before) _

theorem latest_key {history : History} {key : String} {fetch : Fetch} (latest : history.latest? key = some fetch) :
    fetch.key = key := by
  have same := List.find?_some latest
  exact eq_of_beq same

theorem held_brought (now : Double) (time : now.IsTime) (timeout : Number) (actions : List Action) (reply : Reply)
    (host key : String) (ttl : Number)
    (held : (((start now timeout).after actions).repository.load reply host key ttl).requested = none) :
    ∃ fetch source sourceKey kept, (start now timeout).Brought fetch source sourceKey kept actions ∧
      cacheKey source sourceKey = cacheKey host key ∧
      (((start now timeout).after actions).repository.load reply host key ttl).outcome = .ok fetch.features ∧
      ((start now timeout).after actions).now.lt fetch.expires := by
  have faithful := faithful_after (faithful_start now timeout time) actions
  cases answers faithful reply host key ttl with
  | requested ended shown => cases held.symm.trans (congrArg Shown.requested shown)
  | fetched fetch latest before shown =>
      rcases brought (start now timeout) actions fetch (latest_mem latest) with initial | ⟨source, sourceKey, kept, made⟩
      · exact absurd initial List.not_mem_nil
      · have named : fetch.key = cacheKey host key := latest_key latest
        have own : fetch.key = cacheKey source sourceKey := by
          cases made with
          | load _ _ _ _ _ own _ _ _ => exact own
        exact ⟨fetch, source, sourceKey, kept, made, own.symm.trans named, congrArg Shown.outcome shown, before⟩

theorem shown_after_fetch {history : History} (faithful : history.Faithful) {reply : Reply} {host key url : String}
    {ttl : Number} {features : Fields} {seconds : Double}
    (shown : history.repository.shown reply host key ttl = ⟨some url, .ok features⟩) (positive : (Number.int 0).lt ttl)
    (lasts : ttl.toDouble? = some seconds) (unexpired : history.now.lt (history.now.add seconds)) (next : Reply)
    {other otherKey : String} (same : cacheKey host key = cacheKey other otherKey) (wanted : Number) :
    (history.act (.load reply host key ttl)).repository.shown next other otherKey wanted = ⟨none, .ok features⟩ := by
  let fetch : Fetch := ⟨cacheKey host key, features, history.now, seconds⟩
  have fetches : (history.act (.load reply host key ttl)).fetches = fetch :: history.fetches := by
    simp only [act, fetched, shown, Shown.fetch?, lasts, positive, if_true]
    rfl
  have latest : (history.act (.load reply host key ttl)).latest? (cacheKey other otherKey) = some fetch := by
    rw [latest?, fetches, ← same]
    simp [fetch]
  cases answers (faithful_act faithful (.load reply host key ttl)) next other otherKey wanted with
  | fetched found isLatest before shown =>
      cases latest.symm.trans isLatest
      exact shown
  | requested ended shown =>
      have expired := ended fetch latest
      rw [act_load_now] at expired
      cases expired.symm.trans unexpired

end History

def Trial.reply : Reply := .response 200 "\x7b\"features\":\x7b\"trial\":\x7b\x7d\x7d\x7d".toUTF8.toList

def Trial.features : Fields := [("trial", .obj [])]

def Trial.isOwn : Fields → Bool
  | [("trial", .obj [])] => true
  | _ => false

theorem Trial.own_features (features : Fields) (own : Trial.isOwn features) : features = Trial.features := by
  unfold Trial.isOwn at own
  split at own
  · rfl
  · cases own

theorem Trial.fetched (url : String) : Trial.reply.features url = .ok Trial.features := by
  have own : (Trial.reply.features "").toOption.map Trial.isOwn = some true := by decide +kernel
  cases fetched : Trial.reply.features "" with
  | error error =>
      rw [fetched] at own
      cases own
  | ok features =>
      rw [fetched] at own
      cases Trial.own_features features (Option.some.inj own)
      exact Reply.features_address fetched url

def Trial.start : History := .start startTime (.int 10)

theorem Trial.faithful : Trial.start.Faithful := History.faithful_start startTime (.int 10) start_is_time

theorem Trial.first_shown (host key : String) :
    Trial.start.repository.shown Trial.reply host key (.int 60) = ⟨some (featuresUrl host key), .ok Trial.features⟩ := by
  have loaded : Trial.reply.loaded (featuresUrl host key) (.int 60) = .ok Trial.features :=
    Reply.loaded_features (Trial.fetched _) (by decide +kernel)
  have shown := History.shown_eq Trial.faithful Trial.reply host key (.int 60)
  rw [loaded] at shown
  exact shown

theorem Trial.shown_again (host key other otherKey : String) (same : cacheKey host key = cacheKey other otherKey)
    (wanted : Number) : (Trial.start.after [.load Trial.reply host key (.int 60)]).repository.shown
      (.failure "ConnectError") other otherKey wanted = ⟨none, .ok Trial.features⟩ := by
  obtain ⟨seconds, lasts⟩ : ∃ seconds, (Number.int 60).toDouble? = some seconds :=
    Option.isSome_iff_exists.mp (by decide +kernel)
  have positive : (Number.int 0).lt (.int 60) := by decide +kernel
  have now : Trial.start.now = startTime := History.start_now startTime (.int 10)
  have unexpired : Trial.start.now.lt (Trial.start.now.add seconds) := by
    have later : ((Number.int 60).toDouble?.map fun seconds => startTime.lt (startTime.add seconds)) = some true := by
      decide +kernel
    rw [lasts] at later
    rw [now]
    exact Option.some.inj later
  exact History.shown_after_fetch Trial.faithful (Trial.first_shown host key) positive lasts unexpired _ same wanted

end Repository
end FeatureFlags
