import FeatureFlags.Proofs.Repository.Origin

/-! The load that fetched features says how long they are kept. The time to live of the load that is given
them plays no part. -/

set_option autoImplicit false

namespace FeatureFlags

namespace Repository

namespace History

theorem Brought.within {start : History} (faithful : start.Faithful) {fetch : Fetch} {host key : String} {ttl : Number}
    {actions : List Action} (brought : start.Brought fetch host key ttl actions)
    (unexpired : (start.after actions).now.lt fetch.expires) :
    Double.Within fetch.time (start.after actions).now fetch.ttl := by
  have past := brought.time_le faithful
  cases brought with
  | load before later reply uncleared shown named time positive lasts =>
      have isTime : fetch.time.IsTime := time ▸ (faithful_after faithful before).time
      have forward : Double.zero.le fetch.ttl := ttl.double_nonneg fetch.ttl positive lasts
      exact Double.within_of_lt_add isTime past forward unexpired

end History

def KeepsNothing (actions : List Action) : Prop :=
  ∀ reply host key ttl, Action.load reply host key ttl ∈ actions → (Number.int 0).lt ttl = false

theorem brought_kept {start : History} {actions : List Action} (keeps : KeepsNothing actions) {fetch : Fetch}
    {host key : String} {ttl : Number} : ¬ start.Brought fetch host key ttl actions := by
  intro brought
  cases brought with
  | load before later reply uncleared shown named time positive lasts =>
      have among : Action.load reply host key ttl ∈ before ++ .load reply host key ttl :: later := by simp
      cases positive.symm.trans (keeps reply host key ttl among)

theorem cached_age (now : Double) (time : now.IsTime) (timeout : Number) (actions : List Action) :
    let start := History.start now timeout
    let history := start.after actions
    (∀ reply host key ttl, (history.repository.load reply host key ttl).requested = none →
      ∃ fetch source sourceKey kept, start.Brought fetch source sourceKey kept actions ∧
        cacheKey source sourceKey = cacheKey host key ∧
        (history.repository.load reply host key ttl).outcome = .ok fetch.features ∧
        fetch.time.le history.now ∧ Double.Within fetch.time history.now fetch.ttl ∧
        ∀ seconds, ttl.toDouble? = some seconds → fetch.ttl.le seconds →
          Double.Within fetch.time history.now seconds) ∧
    (KeepsNothing actions → ∀ reply host key ttl,
      (history.repository.load reply host key ttl).requested = some (featuresUrl host key)) := by
  intro start history
  have faithful : start.Faithful := History.faithful_start now timeout time
  refine ⟨fun reply host key ttl held => ?_, fun keeps reply host key ttl => ?_⟩
  · obtain ⟨fetch, source, sourceKey, kept, made, same, given, before⟩ :=
      History.held_brought now time timeout actions reply host key ttl held
    have within := made.within faithful before
    exact ⟨fetch, source, sourceKey, kept, made, same, given, made.time_le faithful, within,
      fun seconds _ longer => within.mono longer⟩
  · cases requested : (history.repository.load reply host key ttl).requested with
    | none =>
        obtain ⟨fetch, source, sourceKey, kept, made, _⟩ :=
          History.held_brought now time timeout actions reply host key ttl requested
        exact absurd made (brought_kept keeps)
    | some url => rw [History.load_address requested]

def Trial.halfMinute : Double := .ofRatio false 30 1

def Trial.waited : List Action :=
  [.load Trial.reply "http://gb.test" "sdk-1" (.int 60), .advance Trial.halfMinute (by decide +kernel)]

def Trial.fleeting : List Action := [.load Trial.reply "http://gb.test" "sdk-1" (.int 0)]

theorem Trial.waited_load (ttl : Number) : ((Trial.start.after Trial.waited).repository.load (.failure "ConnectError")
    "http://gb.test" "sdk-1" ttl).requested = none := by
  have found : ((Trial.start.after Trial.waited).cache.fresh? "http://gb.test::sdk-1").isSome := by decide +kernel
  cases (Trial.start.after Trial.waited).repository.loads (.failure "ConnectError") "http://gb.test" "sdk-1" ttl with
  | held entry _ loads => rw [loads]
  | stored _ _ missing _ _ _ _ | unstored missing _ _ =>
      have missing : (Trial.start.after Trial.waited).cache.fresh? "http://gb.test::sdk-1" = none := missing
      rw [missing] at found
      cases found

theorem Trial.waited_time {fetch : Fetch} {source sourceKey : String} {kept : Number}
    (made : Trial.start.Brought fetch source sourceKey kept Trial.waited) : fetch.time = startTime := by
  generalize run : Trial.waited = actions at made
  cases made with
  | load before later reply uncleared shown named time positive lasts =>
      rw [time]
      cases before with
      | nil => exact History.start_now startTime (.int 10)
      | cons first before =>
          obtain ⟨_, rest⟩ := List.cons.inj run
          cases before with
          | nil => cases rest
          | cons second before => exact absurd (List.cons.inj rest).2 (by simp)

theorem cached_age_waited :
    startTime.IsTime ∧
      ((Trial.start.after Trial.waited).repository.load (.failure "ConnectError") "http://gb.test" "sdk-1"
        (.int 60)).requested = none ∧
      (∃ fetch source sourceKey kept, Trial.start.Brought fetch source sourceKey kept Trial.waited ∧
        Double.Within fetch.time (Trial.start.after Trial.waited).now fetch.ttl) ∧
      KeepsNothing Trial.fleeting ∧
      ((Trial.start.after Trial.fleeting).repository.load (.failure "ConnectError") "http://gb.test" "sdk-1"
        (.int 0)).requested = some "http://gb.test/api/features/sdk-1" := by
  have held := Trial.waited_load (.int 60)
  have keeps : KeepsNothing Trial.fleeting := by
    intro reply host key ttl among
    cases List.mem_singleton.mp among
    decide +kernel
  obtain ⟨fetch, source, sourceKey, kept, made, _, _, _, within, _⟩ :=
    (cached_age startTime start_is_time (.int 10) Trial.waited).1 _ _ _ _ held
  have requested := (cached_age startTime start_is_time (.int 10) Trial.fleeting).2 keeps (.failure "ConnectError")
    "http://gb.test" "sdk-1" (.int 0)
  exact ⟨start_is_time, held, ⟨fetch, source, sourceKey, kept, made, within⟩, keeps, requested⟩

-- A load that wants features of the last ten seconds is given older ones.
theorem older_than_wanted :
    ((Trial.start.after Trial.waited).repository.load (.failure "ConnectError") "http://gb.test" "sdk-1"
        (.int 10)).requested = none ∧
      ∀ fetch source sourceKey kept seconds, Trial.start.Brought fetch source sourceKey kept Trial.waited →
        (Number.int 10).toDouble? = some seconds →
        ¬ Double.Within fetch.time (Trial.start.after Trial.waited).now seconds := by
  refine ⟨Trial.waited_load (.int 10), fun fetch source sourceKey kept seconds made wanted => ?_⟩
  have old : ((Number.int 10).toDouble?.map fun seconds =>
      decide (Double.Within startTime (Trial.start.after Trial.waited).now seconds)) = some false := by decide +kernel
  rw [wanted] at old
  rw [Trial.waited_time made]
  exact of_decide_eq_false (Option.some.inj old)

end Repository
end FeatureFlags
