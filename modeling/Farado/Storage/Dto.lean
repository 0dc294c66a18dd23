import Farado.Storage.Text

/-!
# Transfer objects

The `dto` classes, as the handlers fill them: every field may be absent. A time point is the signed
64-bit count of nanoseconds that `system_clock` keeps.
-/

namespace Farado

namespace Dto

structure User where
  id : Option Int := none
  login : Option Bytes := none
  firstName : Option Bytes := none
  middleName : Option Bytes := none
  lastName : Option Bytes := none
  email : Option Bytes := none
  needChangePassword : Option Bool := none
  isBlocked : Option Bool := none
  isSuperAdmin : Option Bool := none
  isHidden : Option Bool := none
  deriving DecidableEq, Repr

structure Project where
  id : Option Int := none
  parentId : Option Int := none
  caption : Option Bytes := none
  description : Option Bytes := none
  createdAt : Option Int := none
  updatedAt : Option Int := none
  isArchive : Option Bool := none
  deriving DecidableEq, Repr

structure Phase where
  id : Option Int := none
  projectId : Option Int := none
  caption : Option Bytes := none
  description : Option Bytes := none
  beginDate : Option Int := none
  endDate : Option Int := none
  isArchive : Option Bool := none
  deriving DecidableEq, Repr

structure Workflow where
  id : Option Int := none
  caption : Option Bytes := none
  description : Option Bytes := none
  deriving DecidableEq, Repr

structure State where
  id : Option Int := none
  workflowId : Option Int := none
  caption : Option Bytes := none
  description : Option Bytes := none
  weight : Option Int := none
  orderNumber : Option Int := none
  isArchive : Option Bool := none
  isQueue : Option Bool := none
  deriving DecidableEq, Repr

structure Edge where
  id : Option Int := none
  beginStateId : Option Int := none
  endStateId : Option Int := none
  deriving DecidableEq, Repr

structure ItemType where
  id : Option Int := none
  workflowId : Option Int := none
  defaultStateId : Option Int := none
  caption : Option Bytes := none
  kind : Option Bytes := none
  defaultContent : Option Bytes := none
  deriving DecidableEq, Repr

structure FieldType where
  id : Option Int := none
  itemTypeId : Option Int := none
  caption : Option Bytes := none
  description : Option Bytes := none
  valueType : Option Bytes := none
  isBoardVisible : Option Bool := none
  deriving DecidableEq, Repr

/-- `timePointToSeconds`: `duration_cast` truncates toward zero. -/
def timePointToSeconds (timePoint : Int) : Int := timePoint.tdiv 1000000000

/-- `secondsToTimePoint`: the count of nanoseconds wraps in its 64 bits. -/
def secondsToTimePoint (seconds : Int) : Int := (seconds * 1000000000).bmod (2 ^ 64)

/-- The seconds whose nanoseconds fit into 64 bits. -/
def SecondsFit (seconds : Int) : Prop := -9223372036 ≤ seconds ∧ seconds ≤ 9223372036

theorem secondsFit_timePointToSeconds_secondsToTimePoint (seconds : Int) :
    SecondsFit (timePointToSeconds (secondsToTimePoint seconds)) := by
  have hle : (seconds * 1000000000).bmod (2 ^ 64) < 2 ^ 63 := Int.bmod_lt (by decide)
  have hge : -2 ^ 63 ≤ (seconds * 1000000000).bmod (2 ^ 64) := Int.le_bmod (by decide)
  unfold timePointToSeconds secondsToTimePoint SecondsFit
  generalize (seconds * 1000000000).bmod (2 ^ 64) = count at hle hge
  rw [Int.tdiv_eq_ediv]
  split
  · omega
  · simp only [show Int.sign 1000000000 = 1 from rfl]
    omega

theorem secondsToTimePoint_of_fit {seconds : Int} (h : SecondsFit seconds) :
    secondsToTimePoint seconds = seconds * 1000000000 := by
  obtain ⟨hge, hle⟩ := h
  unfold secondsToTimePoint
  apply Int.bmod_eq_of_le
  · omega
  · omega

/-- There and back. -/
theorem timePointToSeconds_secondsToTimePoint {seconds : Int} (h : SecondsFit seconds) :
    timePointToSeconds (secondsToTimePoint seconds) = seconds := by
  rw [secondsToTimePoint_of_fit h, timePointToSeconds]
  exact Int.mul_tdiv_cancel seconds (by decide)

end Dto

end Farado
