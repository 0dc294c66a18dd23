import Farado.Api.Json
import Farado.Repositories.RoundTrip
import Mathlib.Algebra.Group.Int.Defs

/-!
# The dates of phases

A date comes as seconds in JSON, is kept as the nanoseconds of `system_clock` in the transfer object
and as seconds again in the database. There are 64 bits for either, and a thousand million
nanoseconds to the second: from the year 2262 on the product wraps, and another date is stored.
-/

namespace Farado

open Http

/-! ## The members of an object -/

namespace Http.Json

theorem get?_ofMembers (members : List (Bytes × Json)) (name : String) :
    (ofMembers members).get? name = members.lookup (bytes name) :=
  find?_ofMembers members (bytes name)

theorem lookup_member_self (name : String) (value : Option Json) :
    (member name value).lookup (bytes name) = value := by
  cases value <;> simp [member]

theorem lookup_member_of_ne {name other : String} (value : Option Json)
    (h : bytes name ≠ bytes other) : (member other value).lookup (bytes name) = none :=
  lookup_toList_of_ne h value

/-- A number of seconds in a field for a time point. -/
theorem field_getTimePoint (lib : JsonLibrary) {json : Json} {name : String} {seconds : Int}
    (hfield : json.get? name = some (.number seconds)) (h : Dto.SecondsFit seconds) :
    (json.field name (getTimePoint lib)).1 = some (Dto.secondsToTimePoint seconds) := by
  have hwrap : seconds.bmod (2 ^ 64) = seconds := by
    obtain ⟨hge, hle⟩ := h
    apply Int.bmod_eq_of_le
    · omega
    · omega
  simp only [field, hfield, getTimePoint, getInt64, Option.map_some, hwrap]

end Http.Json

/-! ## Phases -/

/-- The date as JSON: in the body, and in the phase that is read back. -/
def ReadsBackDate (name : String) (seconds : Int) : Prop :=
  ∀ (lib : JsonLibrary) (env : Environment) (json : Json) (c c' : Connection) (id : Int)
    (phase : Dto.Phase), json.get? name = some (.number seconds) →
    (SqlitePhaseRepository.create env (Dto.Phase.fromJson lib json).1).run c = (.ok id, c') →
    (SqlitePhaseRepository.findById id).result c' = .ok (some phase) →
    (Dto.Phase.toJson phase).get? name = some (.number seconds)

/-- What is to come of a number of seconds that is given as a date. -/
structure DateSurvives (seconds : Int) : Prop where
  converts : Dto.timePointToSeconds (Dto.secondsToTimePoint seconds) = seconds
  beginDate : ReadsBackDate "beginDate" seconds
  endDate : ReadsBackDate "endDate" seconds

/-- The dates of the phase that is found are those that were created, in whole seconds. -/
theorem dates_found {env : Environment} {given phase : Dto.Phase} {c c' : Connection} {id : Int}
    (hcreate : (SqlitePhaseRepository.create env given).run c = (.ok id, c'))
    (hfind : (SqlitePhaseRepository.findById id).result c' = .ok (some phase)) :
    phase.beginDate =
        given.beginDate.map (fun d => Dto.secondsToTimePoint (Dto.timePointToSeconds d)) ∧
      phase.endDate =
        given.endDate.map fun d => Dto.secondsToTimePoint (Dto.timePointToSeconds d) := by
  have hid : 0 < id := (result_findByIdIn_some.mp hfind).1
  obtain ⟨v, hv, -, hiff⟩ := result_find_created phaseReader hcreate hid (d := phase)
  obtain ⟨-, rfl⟩ := phaseReader.mapRow_ok_iff.mp (hiff.mp hfind)
  simp only [SqlitePhaseRepository.values, Option.bind_eq_bind, Option.bind_eq_some_iff] at hv
  obtain ⟨caption, -, _, -, projectId, -, hv⟩ := hv
  cases hv
  simp [phaseReader, Function.comp_def]

theorem get?_toJson_dates (phase : Dto.Phase) :
    (Dto.Phase.toJson phase).get? "beginDate" = phase.beginDate.map Dto.secondsJson ∧
      (Dto.Phase.toJson phase).get? "endDate" = phase.endDate.map Dto.secondsJson := by
  have hne : ∀ name ∈ ["id", "projectId", "caption", "description", "isArchive"],
      bytes "beginDate" ≠ bytes name ∧ bytes "endDate" ≠ bytes name := by decide
  have hdates : bytes "beginDate" ≠ bytes "endDate" := by decide
  simp only [List.mem_cons, List.not_mem_nil, or_false, forall_eq_or_imp, forall_eq] at hne
  obtain ⟨hid, hprojectId, hcaption, hdescription, hisArchive⟩ := hne
  constructor
  · simp [Dto.Phase.toJson, Json.get?_ofMembers, List.lookup_append, Json.lookup_member_self,
      Json.lookup_member_of_ne, hid, hprojectId, hcaption, hdescription, hisArchive, hdates]
  · simp [Dto.Phase.toJson, Json.get?_ofMembers, List.lookup_append, Json.lookup_member_self,
      Json.lookup_member_of_ne, hid, hprojectId, hcaption, hdescription, hisArchive, hdates.symm]

theorem secondsJson_of_fit {seconds : Int} (h : Dto.SecondsFit seconds) :
    Dto.secondsJson (Dto.secondsToTimePoint (Dto.timePointToSeconds
      (Dto.secondsToTimePoint seconds))) = .number seconds := by
  rw [Dto.secondsJson, Dto.timePointToSeconds_secondsToTimePoint h,
    Dto.timePointToSeconds_secondsToTimePoint h]

/-- **A date survives exactly when its nanoseconds fit into 64 bits**: from the year 1677 to the
year 2262. -/
theorem dateSurvives_iff (seconds : Int) : DateSurvives seconds ↔ Dto.SecondsFit seconds := by
  constructor
  · intro h
    have hfit := Dto.secondsFit_timePointToSeconds_secondsToTimePoint seconds
    rwa [h.converts] at hfit
  · intro hfit
    refine ⟨Dto.timePointToSeconds_secondsToTimePoint hfit, ?_, ?_⟩
    · intro lib env json c c' id phase hjson hcreate hfind
      have hgiven : (Dto.Phase.fromJson lib json).1.beginDate = _ :=
        Json.field_getTimePoint lib hjson hfit
      rw [(get?_toJson_dates phase).1, (dates_found hcreate hfind).1, hgiven]
      exact congrArg some (secondsJson_of_fit hfit)
    · intro lib env json c c' id phase hjson hcreate hfind
      have hgiven : (Dto.Phase.fromJson lib json).1.endDate = _ :=
        Json.field_getTimePoint lib hjson hfit
      rw [(get?_toJson_dates phase).2, (dates_found hcreate hfind).2, hgiven]
      exact congrArg some (secondsJson_of_fit hfit)

/-- A date in milliseconds, as JavaScript has it. -/
theorem not_dateSurvives : ¬ ∀ seconds : Int, -2 ^ 63 ≤ seconds → seconds < 2 ^ 63 →
    DateSurvives seconds := by
  intro h
  have hconverts := (h 1700000000000 (by decide) (by decide)).converts
  exact absurd hconverts (by decide)

end Farado
