import FeatureFlags.Proofs.Repository.Origin

/-! The text of a cache key can be parted at more than one place if the separator stands in a host and in a
key. So features of one source are given for another exactly where the two overlap, never where the keys have
no colon. -/

set_option autoImplicit false

namespace FeatureFlags

namespace Repository

-- Two sources whose cache keys are one text: the host of the second goes on where the separator of the first stands, and
-- the key of the first goes back over the separator of the second.
inductive Overlaps (host key : String) : String → String → Prop where
  | colon (rest : String) (begins : key = ":" ++ rest) : Overlaps host key (host ++ ":") rest
  | separator (middle rest : String) (begins : key = middle ++ "::" ++ rest) :
      Overlaps host key (host ++ "::" ++ middle) rest

theorem overlaps_key {host key longer rest : String} (overlaps : Overlaps host key longer rest) :
    cacheKey host key = cacheKey longer rest := by
  cases overlaps with
  | colon rest begins =>
      subst begins
      simp [cacheKey, ← String.toList_inj]
  | separator middle rest begins =>
      subst begins
      simp [cacheKey, String.append_assoc]

theorem overlaps_of_rest {host key longer rest : String} (middle : List Char)
    (extended : longer.toList = host.toList ++ middle)
    (begins : ':' :: ':' :: key.toList = middle ++ ':' :: ':' :: rest.toList) :
    (host = longer ∧ key = rest) ∨ Overlaps host key longer rest := by
  cases middle with
  | nil =>
      refine .inl ⟨?_, ?_⟩
      · simpa [← String.toList_inj] using extended.symm
      · simpa [← String.toList_inj] using begins
  | cons first tail =>
      obtain ⟨rfl, later⟩ := List.cons.inj begins
      cases tail with
      | nil =>
          have isKey : key = ":" ++ rest := by simpa [← String.toList_inj] using later
          have isLonger : longer = host ++ ":" := by simpa [← String.toList_inj] using extended
          exact .inr (isLonger ▸ .colon rest isKey)
      | cons second middle =>
          obtain ⟨rfl, last⟩ := List.cons.inj later
          have isKey : key = String.ofList middle ++ "::" ++ rest := by simpa [← String.toList_inj] using last
          have isLonger : longer = host ++ "::" ++ String.ofList middle := by
            simpa [← String.toList_inj] using extended
          exact .inr (isLonger ▸ .separator _ rest isKey)

theorem cache_key_eq_iff (host key other otherKey : String) : cacheKey host key = cacheKey other otherKey ↔
    (host = other ∧ key = otherKey) ∨ Overlaps host key other otherKey ∨ Overlaps other otherKey host key := by
  refine ⟨fun same => ?_, fun overlap => ?_⟩
  · have texts : host.toList ++ ':' :: ':' :: key.toList = other.toList ++ ':' :: ':' :: otherKey.toList := by
      simpa [cacheKey, ← String.toList_inj] using same
    rcases List.append_eq_append_iff.mp texts with ⟨middle, extended, begins⟩ | ⟨middle, extended, begins⟩
    · exact (overlaps_of_rest middle extended begins).imp_right .inl
    · rcases overlaps_of_rest middle extended begins with ⟨hosts, keys⟩ | overlaps
      · exact .inl ⟨hosts.symm, keys.symm⟩
      · exact .inr (.inr overlaps)
  · rcases overlap with ⟨rfl, rfl⟩ | overlaps | overlaps
    · rfl
    · exact overlaps_key overlaps
    · exact (overlaps_key overlaps).symm

theorem overlaps_end {host key longer rest : String} (overlaps : Overlaps host key longer rest) :
    ∃ front, key = front ++ ":" ++ rest := by
  cases overlaps with
  | colon rest begins => exact ⟨"", by simpa using begins⟩
  | separator middle rest begins =>
      refine ⟨middle ++ ":", ?_⟩
      rw [begins]
      simp [← String.toList_inj]

theorem overlaps_addresses {host key longer rest : String} (overlaps : Overlaps host key longer rest) :
    featuresUrl host key ≠ featuresUrl longer rest := by
  obtain ⟨front, ends⟩ := overlaps_end overlaps
  intro same
  have texts : (dropSlashes host.toList ++ "/api/features/".toList ++ front.toList ++ [':']) ++ rest.toList =
      (dropSlashes longer.toList ++ "/api/features".toList ++ ['/']) ++ rest.toList := by
    simpa [featuresUrl, ends, ← String.toList_inj] using same
  have heads := List.append_cancel_right texts
  have colon : [':'] = ['/'] := (List.append_inj' heads rfl).2
  cases colon

def AnswersFor (host key other otherKey : String) : Prop :=
  ∀ (history : History) (reply next : Reply) (ttl wanted : Number) (features : Fields) (seconds : Double),
    history.Faithful →
    history.repository.shown reply host key ttl = ⟨some (featuresUrl host key), .ok features⟩ →
    (Number.int 0).lt ttl → ttl.toDouble? = some seconds → history.now.lt (history.now.add seconds) →
    (history.act (.load reply host key ttl)).repository.shown next other otherKey wanted = ⟨none, .ok features⟩

theorem answers_for_same {host key other otherKey : String} (same : cacheKey host key = cacheKey other otherKey) :
    AnswersFor host key other otherKey := by
  intro history reply next ttl wanted features seconds faithful shown positive lasts unexpired
  exact History.shown_after_fetch faithful shown positive lasts unexpired next same wanted

theorem cached_sources (now : Double) (time : now.IsTime) (timeout : Number) :
    (∀ actions reply host key ttl,
      (((History.start now timeout).after actions).repository.load reply host key ttl).requested = none →
      ∃ fetch source sourceKey kept, (History.start now timeout).Brought fetch source sourceKey kept actions ∧
        (((History.start now timeout).after actions).repository.load reply host key ttl).outcome = .ok fetch.features ∧
        ((source = host ∧ sourceKey = key) ∨ Overlaps source sourceKey host key ∨ Overlaps host key source sourceKey)) ∧
    ∀ host key longer rest, Overlaps host key longer rest →
      ':' ∈ key.toList ∧ featuresUrl host key ≠ featuresUrl longer rest ∧
        AnswersFor host key longer rest ∧ AnswersFor longer rest host key := by
  refine ⟨fun actions reply host key ttl held => ?_, fun host key longer rest overlaps => ?_⟩
  · obtain ⟨fetch, source, sourceKey, kept, made, same, given, _⟩ :=
      History.held_brought now time timeout actions reply host key ttl held
    exact ⟨fetch, source, sourceKey, kept, made, given, (cache_key_eq_iff source sourceKey host key).mp same⟩
  · have same := overlaps_key overlaps
    obtain ⟨front, ends⟩ := overlaps_end overlaps
    have colon : ':' ∈ key.toList := by simp [ends]
    exact ⟨colon, overlaps_addresses overlaps, answers_for_same same, answers_for_same same.symm⟩

theorem tenants_overlap : Overlaps "http://gb.test/eu" "shop::web" "http://gb.test/eu::shop" "web" :=
  .separator "shop" "web" (by decide)

theorem cached_sources_tenants :
    startTime.IsTime ∧
      ((Trial.start.after [.load Trial.reply "http://gb.test/eu" "web" (.int 60)]).repository.load
        (.failure "ConnectError") "http://gb.test/eu" "web" (.int 60)).requested = none ∧
      (∃ fetch source sourceKey kept, Trial.start.Brought fetch source sourceKey kept
          [.load Trial.reply "http://gb.test/eu" "web" (.int 60)] ∧
        cacheKey source sourceKey = "http://gb.test/eu::web") ∧
      Overlaps "http://gb.test/eu" "shop::web" "http://gb.test/eu::shop" "web" ∧
      AnswersFor "http://gb.test/eu::shop" "web" "http://gb.test/eu" "shop::web" := by
  have answered := Trial.shown_again "http://gb.test/eu" "web" "http://gb.test/eu" "web" rfl (.int 60)
  have held := congrArg Shown.requested answered
  obtain ⟨given, overlapping⟩ := cached_sources startTime start_is_time (.int 10)
  obtain ⟨fetch, source, sourceKey, kept, made, _, own⟩ := given _ _ _ _ _ held
  obtain ⟨_, _, _, answers⟩ := overlapping _ _ _ _ tenants_overlap
  exact ⟨start_is_time, held, ⟨fetch, source, sourceKey, kept, made, (cache_key_eq_iff _ _ _ _).mpr own⟩,
    tenants_overlap, answers⟩

theorem tenant_given_another :
    featuresUrl "http://gb.test/eu" "shop::web" ≠ featuresUrl "http://gb.test/eu::shop" "web" ∧
      Trial.start.repository.shown Trial.reply "http://gb.test/eu" "shop::web" (.int 60) =
        ⟨some (featuresUrl "http://gb.test/eu" "shop::web"), .ok Trial.features⟩ ∧
      (Trial.start.after [.load Trial.reply "http://gb.test/eu" "shop::web" (.int 60)]).repository.shown
        (.failure "ConnectError") "http://gb.test/eu::shop" "web" (.int 60) = ⟨none, .ok Trial.features⟩ :=
  ⟨overlaps_addresses tenants_overlap, Trial.first_shown _ _, Trial.shown_again _ _ _ _ (overlaps_key tenants_overlap) (.int 60)⟩

end Repository
end FeatureFlags
