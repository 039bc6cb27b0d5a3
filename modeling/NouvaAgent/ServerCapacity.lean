import Mathlib.Algebra.Order.Field.Rat
import Mathlib.Data.Int.Cast.Lemmas
import Mathlib.Tactic.Linarith
import NouvaAgent.Text

namespace NouvaAgent.ServerCapacity

open Text

def gibibyte : ℤ := 1024 * 1024 * 1024

def mebibyte : ℤ := 1024 * 1024

def managedVolumeTelemetryFreshnessMs : ℤ := 90 * 1000

def managedVolumeUsageFreshnessMs : ℤ := 15 * 60 * 1000

def minDiskSafetyReserveBytes : ℤ := 5 * gibibyte

def cpuStepMillicores : ℤ := 250

def memoryStepBytes : ℤ := 128 * 1024 * 1024

structure CapacityQuantity where
  cpuMillicores : ℤ
  memoryBytes : ℤ
  deriving DecidableEq, Repr

structure ServerCapacityBudget where
  total : CapacityQuantity
  platformReserve : CapacityQuantity
  buildReserve : CapacityQuantity
  allocatable : CapacityQuantity
  deriving DecidableEq, Repr

/-- What the budget reads of a snapshot; `none` is all that is not a finite number. -/
structure ServerCapacitySnapshot where
  cpuCores : Option ℚ
  memoryBytes : Option ℚ

namespace platformReservePolicy

def cpuRatio : ℚ := 1 / 10

def minCpuMillicores : ℤ := 250

def memoryRatio : ℚ := 1 / 10

def minMemoryBytes : ℤ := 256 * mebibyte

end platformReservePolicy

namespace buildReservePolicy

def cpuRatio : ℚ := 15 / 100

def minCpuMillicores : ℤ := 500

def maxCpuMillicores : ℤ := 2000

def memoryRatio : ℚ := 15 / 100

def minMemoryBytes : ℤ := 512 * mebibyte

def maxMemoryBytes : ℤ := 2 * gibibyte

end buildReservePolicy

def calculateBuildReserve (total : CapacityQuantity) : CapacityQuantity where
  cpuMillicores := min buildReservePolicy.maxCpuMillicores
    (max buildReservePolicy.minCpuMillicores
      (total.cpuMillicores * buildReservePolicy.cpuRatio).ceil)
  memoryBytes := min buildReservePolicy.maxMemoryBytes
    (max buildReservePolicy.minMemoryBytes
      (total.memoryBytes * buildReservePolicy.memoryRatio).ceil)

def calculatePlatformReserve (total : CapacityQuantity) : CapacityQuantity where
  cpuMillicores := max platformReservePolicy.minCpuMillicores
    (total.cpuMillicores * platformReservePolicy.cpuRatio).ceil
  memoryBytes := max platformReservePolicy.minMemoryBytes
    (total.memoryBytes * platformReservePolicy.memoryRatio).ceil

def roundDown (value step : ℤ) : ℤ := max 0 ((value / step : ℚ).floor * step)

def trunc (value : ℚ) : ℤ := if 0 ≤ value then value.floor else value.ceil

def toFinitePositiveInteger (value : Option ℚ) : Option ℤ :=
  value.bind fun value => if value ≤ 0 then none else some (trunc value)

def toFiniteNonNegativeInteger (value : Option ℚ) : Option ℤ :=
  value.bind fun value => if value < 0 then none else some (trunc value)

def calculateServerCapacityBudget (input : ServerCapacitySnapshot) : Option ServerCapacityBudget :=
  match toFinitePositiveInteger input.cpuCores, toFinitePositiveInteger input.memoryBytes with
  | some cpuCores, some memoryBytes =>
    let total : CapacityQuantity := ⟨cpuCores * 1000, memoryBytes⟩
    let platformReserve := calculatePlatformReserve total
    let buildReserve := calculateBuildReserve total
    some {
      total
      platformReserve
      buildReserve
      allocatable := {
        cpuMillicores := roundDown
          (total.cpuMillicores - platformReserve.cpuMillicores - buildReserve.cpuMillicores)
          cpuStepMillicores
        memoryBytes := roundDown
          (total.memoryBytes - platformReserve.memoryBytes - buildReserve.memoryBytes)
          memoryStepBytes } }
  | _, _ => none

structure Os where
  cpus : ℕ
  totalmem : ℕ

def Os.snapshot (os : Os) : ServerCapacitySnapshot := ⟨some os.cpus, some os.totalmem⟩

structure EffectiveServiceResourceLimits where
  cpuMillicores : ℤ
  memoryBytes : ℤ
  pidsLimit : ℤ
  policyVersion : ℤ

def getBuildkitResourceLimits (os : Os) : EffectiveServiceResourceLimits :=
  let reserve := calculateBuildReserve ⟨os.cpus * 1000, os.totalmem⟩
  { cpuMillicores := reserve.cpuMillicores
    memoryBytes := reserve.memoryBytes
    pidsLimit := 512
    policyVersion := 1 }

theorem roundDown_nonneg (value step : ℤ) : 0 ≤ roundDown value step := le_max_left _ _

theorem dvd_roundDown (value step : ℤ) : step ∣ roundDown value step := by
  unfold roundDown
  rcases max_choice 0 ((value / step : ℚ).floor * step) with h | h
  · rw [h]
    exact dvd_zero step
  · rw [h]
    exact dvd_mul_left step _

theorem roundDown_le {value step : ℤ} (hstep : 0 < step) (hpos : 0 < roundDown value step) :
    roundDown value step ≤ value := by
  unfold roundDown at hpos ⊢
  rcases max_choice 0 ((value / step : ℚ).floor * step) with h | h
  · rw [h] at hpos
    exact absurd hpos (lt_irrefl 0)
  · rw [h]
    have hq : (0 : ℚ) < step := Int.cast_pos.mpr hstep
    have hfloor := Rat.floor_le (value / step : ℚ)
    rw [le_div_iff₀ hq] at hfloor
    exact_mod_cast hfloor

structure Conservative (step total platform build allocatable : ℤ) : Prop where
  nonneg : 0 ≤ allocatable
  steps : step ∣ allocatable
  fits : 0 < allocatable → allocatable + platform + build ≤ total

theorem conservative_roundDown {step : ℤ} (hstep : 0 < step) (total platform build : ℤ) :
    Conservative step total platform build (roundDown (total - platform - build) step) where
  nonneg := roundDown_nonneg _ _
  steps := dvd_roundDown _ _
  fits := by
    intro hpos
    have hle := roundDown_le hstep hpos
    linarith

theorem trunc_natCast (n : ℕ) : trunc n = n := by
  unfold trunc
  rw [if_pos (Nat.cast_nonneg n)]
  rw [← Int.cast_natCast, Rat.floor_intCast]

theorem toFinitePositiveInteger_natCast (n : ℕ) :
    toFinitePositiveInteger (some (n : ℚ)) = if n = 0 then none else some (n : ℤ) := by
  have hzero : (n : ℚ) ≤ 0 ↔ n = 0 := Nat.cast_nonpos
  simp only [toFinitePositiveInteger, Option.bind_some, hzero, trunc_natCast]

/-- What a server hands out leaves its reserves alone, and the reserve for builds is what the agent
grants the builder. -/
theorem server_capacity_budget_is_conservative :
    (∀ input budget, calculateServerCapacityBudget input = some budget →
      Conservative cpuStepMillicores budget.total.cpuMillicores
          budget.platformReserve.cpuMillicores budget.buildReserve.cpuMillicores
          budget.allocatable.cpuMillicores ∧
        Conservative memoryStepBytes budget.total.memoryBytes
          budget.platformReserve.memoryBytes budget.buildReserve.memoryBytes
          budget.allocatable.memoryBytes) ∧
    ∀ os : Os, if os.cpus = 0 ∨ os.totalmem = 0 then
        calculateServerCapacityBudget os.snapshot = none
      else ∃ budget, calculateServerCapacityBudget os.snapshot = some budget ∧
        budget.total = ⟨os.cpus * 1000, os.totalmem⟩ ∧
        budget.buildReserve.cpuMillicores = (getBuildkitResourceLimits os).cpuMillicores ∧
        budget.buildReserve.memoryBytes = (getBuildkitResourceLimits os).memoryBytes := by
  constructor
  · intro input budget h
    unfold calculateServerCapacityBudget at h
    split at h
    · obtain rfl := Option.some.inj h
      exact ⟨conservative_roundDown (by decide) _ _ _, conservative_roundDown (by decide) _ _ _⟩
    · exact absurd h (by simp)
  · intro os
    unfold calculateServerCapacityBudget Os.snapshot
    rw [toFinitePositiveInteger_natCast, toFinitePositiveInteger_natCast]
    by_cases hcpus : os.cpus = 0
    · rw [if_pos hcpus, if_pos (.inl hcpus)]
    · by_cases hmem : os.totalmem = 0
      · rw [if_pos hmem, if_neg hcpus, if_pos (.inr hmem)]
      · rw [if_neg hmem, if_neg hcpus, if_neg (not_or.mpr ⟨hcpus, hmem⟩)]
        exact ⟨_, rfl, rfl, rfl, rfl⟩

def smallHost : Os := ⟨1, 1900 * 1024 * 1024⟩

theorem server_capacity_budget_is_conservative_small :
    ∃ budget, calculateServerCapacityBudget smallHost.snapshot = some budget ∧
      Conservative cpuStepMillicores 1000 budget.platformReserve.cpuMillicores
        (getBuildkitResourceLimits smallHost).cpuMillicores budget.allocatable.cpuMillicores ∧
      Conservative memoryStepBytes (1900 * 1024 * 1024) budget.platformReserve.memoryBytes
        (getBuildkitResourceLimits smallHost).memoryBytes budget.allocatable.memoryBytes := by
  obtain ⟨hbudget, hhost⟩ := server_capacity_budget_is_conservative
  have hsmall := hhost smallHost
  rw [if_neg (by decide)] at hsmall
  obtain ⟨budget, hsome, htotal, hcpu, hmemory⟩ := hsmall
  obtain ⟨hcpus, hbytes⟩ := hbudget _ _ hsome
  rw [htotal, hcpu] at hcpus
  rw [htotal, hmemory] at hbytes
  exact ⟨budget, hsome, hcpus, hbytes⟩

/-! Reservations of storage. -/

/-- `Date | string`, with the milliseconds it stands for. -/
inductive Timestamp
  | date (time : Option ℤ)
  | text (value : DateText)

def toTimestamp : Option Timestamp → Option ℤ
  | none => none
  | some (.date time) => time
  | some (.text value) => value.parsed

def isFresh (value : Option Timestamp) (now : ℤ)
    (freshnessMs : ℤ := managedVolumeTelemetryFreshnessMs) : Bool :=
  match toTimestamp value with
  | none => false
  | some timestamp => timestamp ≤ now ∧ now - timestamp ≤ freshnessMs

inductive StorageTelemetryStatus
  | fresh
  | stale
  | missing
  deriving DecidableEq, Repr

structure ManagedVolumeReservationSnapshot where
  sizeGb : ℚ
  usedBytes : Option ℚ := none
  usageRefreshedAt : Option Timestamp := none

structure StorageReservationCapacityInput where
  diskTotalBytes : Option ℚ := none
  diskAvailableBytes : Option ℚ := none
  telemetryRefreshedAt : Option Timestamp := none
  volumes : List ManagedVolumeReservationSnapshot
  now : ℤ

structure StorageReservationCapacity where
  semantics : String := "reservation"
  quotaEnforced : Bool := false
  telemetryStatus : StorageTelemetryStatus
  diskTotalBytes : Option ℤ
  diskAvailableBytes : Option ℤ
  safetyReserveBytes : Option ℤ
  committedReservationBytes : ℤ
  creditedUsageBytes : ℤ
  reservableBytes : Option ℤ
  availableReservationBytes : Option ℤ
  overcommitBytes : ℤ

def calculateDiskSafetyReserveBytes (diskTotalBytes : ℤ) : ℤ :=
  max minDiskSafetyReserveBytes (diskTotalBytes * (5 / 100) : ℚ).ceil

def reservedBytes (volume : ManagedVolumeReservationSnapshot) : ℤ :=
  max 0 (trunc volume.sizeGb) * gibibyte

def creditedBytes (now : ℤ) (volume : ManagedVolumeReservationSnapshot) : ℤ :=
  if !isFresh volume.usageRefreshedAt now managedVolumeUsageFreshnessMs then 0
  else
    match toFiniteNonNegativeInteger volume.usedBytes with
    | none => 0
    | some usedBytes => min usedBytes (reservedBytes volume)

def telemetryStatusOf (input : StorageReservationCapacityInput) : StorageTelemetryStatus :=
  if toFinitePositiveInteger input.diskTotalBytes = none ∨
      toFiniteNonNegativeInteger input.diskAvailableBytes = none ∨
      toTimestamp input.telemetryRefreshedAt = none then .missing
  else if isFresh input.telemetryRefreshedAt input.now then .fresh
  else .stale

def calculateStorageReservationCapacity (input : StorageReservationCapacityInput) :
    StorageReservationCapacity :=
  let diskTotalBytes := toFinitePositiveInteger input.diskTotalBytes
  let diskAvailableBytes := toFiniteNonNegativeInteger input.diskAvailableBytes
  let telemetryStatus := telemetryStatusOf input
  let committedReservationBytes :=
    input.volumes.foldl (fun total volume => total + reservedBytes volume) 0
  let creditedUsageBytes :=
    input.volumes.foldl (fun total volume => total + creditedBytes input.now volume) 0
  match telemetryStatus, diskTotalBytes, diskAvailableBytes with
  | .fresh, some total, some available =>
    let safetyReserveBytes := calculateDiskSafetyReserveBytes total
    let reservableBytes := max 0 (available + creditedUsageBytes - safetyReserveBytes)
    { telemetryStatus
      diskTotalBytes
      diskAvailableBytes
      safetyReserveBytes := some safetyReserveBytes
      committedReservationBytes
      creditedUsageBytes
      reservableBytes := some reservableBytes
      availableReservationBytes := some (max 0 (reservableBytes - committedReservationBytes))
      overcommitBytes := max 0 (committedReservationBytes - reservableBytes) }
  | _, _, _ =>
    { telemetryStatus
      diskTotalBytes
      diskAvailableBytes
      safetyReserveBytes := diskTotalBytes.map calculateDiskSafetyReserveBytes
      committedReservationBytes
      creditedUsageBytes
      reservableBytes := none
      availableReservationBytes := none
      overcommitBytes := 0 }

theorem reservedBytes_nonneg (volume : ManagedVolumeReservationSnapshot) :
    0 ≤ reservedBytes volume :=
  mul_nonneg (le_max_left _ _) (by decide)

theorem creditedBytes_le (now : ℤ) (volume : ManagedVolumeReservationSnapshot) :
    creditedBytes now volume ≤ reservedBytes volume := by
  unfold creditedBytes
  split
  · exact reservedBytes_nonneg volume
  · split
    · exact reservedBytes_nonneg volume
    · exact min_le_right _ _

theorem foldl_add_le {α : Type} {f g : α → ℤ} (h : ∀ x, f x ≤ g x) (xs : List α) {a b : ℤ}
    (hab : a ≤ b) :
    xs.foldl (fun total x => total + f x) a ≤ xs.foldl (fun total x => total + g x) b := by
  induction xs generalizing a b with
  | nil => exact hab
  | cons x xs ih => exact ih (add_le_add hab (h x))

theorem foldl_add_nonneg {α : Type} {f : α → ℤ} (h : ∀ x, 0 ≤ f x) (xs : List α) {a : ℤ}
    (ha : 0 ≤ a) : 0 ≤ xs.foldl (fun total x => total + f x) a := by
  induction xs generalizing a with
  | nil => exact ha
  | cons x xs ih => exact ih (add_nonneg ha (h x))

theorem committed_eq (input : StorageReservationCapacityInput) :
    (calculateStorageReservationCapacity input).committedReservationBytes =
      input.volumes.foldl (fun total volume => total + reservedBytes volume) 0 := by
  unfold calculateStorageReservationCapacity
  dsimp only
  split
  · rfl
  · rfl

theorem credited_eq (input : StorageReservationCapacityInput) :
    (calculateStorageReservationCapacity input).creditedUsageBytes =
      input.volumes.foldl (fun total volume => total + creditedBytes input.now volume) 0 := by
  unfold calculateStorageReservationCapacity
  dsimp only
  split
  · rfl
  · rfl

theorem committed_nonneg (input : StorageReservationCapacityInput) :
    0 ≤ (calculateStorageReservationCapacity input).committedReservationBytes := by
  rw [committed_eq]
  exact foldl_add_nonneg reservedBytes_nonneg input.volumes le_rfl

theorem credited_le_committed (input : StorageReservationCapacityInput) :
    (calculateStorageReservationCapacity input).creditedUsageBytes ≤
      (calculateStorageReservationCapacity input).committedReservationBytes := by
  rw [committed_eq, credited_eq]
  exact foldl_add_le (creditedBytes_le input.now) input.volumes le_rfl

theorem telemetryStatus_eq (input : StorageReservationCapacityInput) :
    (calculateStorageReservationCapacity input).telemetryStatus = telemetryStatusOf input := by
  unfold calculateStorageReservationCapacity
  dsimp only
  split
  · rfl
  · rfl

theorem known_of_fresh {input : StorageReservationCapacityInput}
    (h : telemetryStatusOf input = .fresh) :
    ∃ total available, toFinitePositiveInteger input.diskTotalBytes = some total ∧
      toFiniteNonNegativeInteger input.diskAvailableBytes = some available := by
  unfold telemetryStatusOf at h
  split at h
  · exact absurd h (by decide)
  · next hknown =>
    rw [not_or, not_or] at hknown
    obtain ⟨total, htotal⟩ := Option.ne_none_iff_exists'.mp hknown.1
    obtain ⟨available, havailable⟩ := Option.ne_none_iff_exists'.mp hknown.2.1
    exact ⟨total, available, htotal, havailable⟩

theorem capacity_of_fresh {input : StorageReservationCapacityInput}
    (h : (calculateStorageReservationCapacity input).telemetryStatus = .fresh) :
    ∃ available safety, let c := calculateStorageReservationCapacity input
      let reservable := max 0 (available + c.creditedUsageBytes - safety)
      c.diskAvailableBytes = some available ∧ c.safetyReserveBytes = some safety ∧
        c.reservableBytes = some reservable ∧
        c.availableReservationBytes = some (max 0 (reservable - c.committedReservationBytes)) ∧
        c.overcommitBytes = max 0 (c.committedReservationBytes - reservable) := by
  rw [telemetryStatus_eq] at h
  obtain ⟨total, available, htotal, havailable⟩ := known_of_fresh h
  refine ⟨available, calculateDiskSafetyReserveBytes total, ?_⟩
  simp only [calculateStorageReservationCapacity, h, htotal, havailable, and_self]

theorem room_suffices {available safety committed credited : ℤ} (hcommitted : 0 ≤ committed)
    (hpos : 0 < max 0 (max 0 (available + credited - safety) - committed)) {r : ℚ}
    (hr : r ≤ (max 0 (max 0 (available + credited - safety) - committed) : ℤ)) :
    ((committed - credited : ℤ) : ℚ) + r + safety ≤ available := by
  have hfree : max 0 (max 0 (available + credited - safety) - committed) =
      available + credited - safety - committed := by
    omega
  rw [hfree] at hr
  push_cast at hr ⊢
  linarith

/-- No reservation that the disk is said to have room for takes more than there is, beside what
the volumes may still fill and the safety reserve. -/
theorem reservations_fit_the_disk (input : StorageReservationCapacityInput)
    (h : (calculateStorageReservationCapacity input).telemetryStatus = .fresh) :
    ∃ available safety reservable free, let c := calculateStorageReservationCapacity input
      c.diskAvailableBytes = some available ∧ c.safetyReserveBytes = some safety ∧
        c.reservableBytes = some reservable ∧ c.availableReservationBytes = some free ∧
        (0 < free → ∀ r : ℚ, r ≤ free →
          ((c.committedReservationBytes - c.creditedUsageBytes : ℤ) : ℚ) + r + safety ≤
            available) ∧
        c.creditedUsageBytes ≤ c.committedReservationBytes ∧
        ¬(0 < free ∧ 0 < c.overcommitBytes) ∧
        free - c.overcommitBytes = reservable - c.committedReservationBytes := by
  obtain ⟨available, safety, havailable, hsafety, hreservable, hfree, hover⟩ := capacity_of_fresh h
  have hcommitted := committed_nonneg input
  refine ⟨available, safety, _, _, havailable, hsafety, hreservable, hfree, ?_,
    credited_le_committed input, ?_, ?_⟩
  · intro hpos r hr
    exact room_suffices hcommitted hpos hr
  · rw [hover]
    omega
  · rw [hover]
    omega

def sampleStorage : StorageReservationCapacityInput where
  diskTotalBytes := some (100 * 1024 * 1024 * 1024)
  diskAvailableBytes := some (60 * 1024 * 1024 * 1024)
  telemetryRefreshedAt := some (.date (some 1000000))
  volumes := [⟨10, some (12 * 1024 * 1024 * 1024), some (.date (some 1000000))⟩,
    ⟨20, some (5 * 1024 * 1024 * 1024), some (.date (some 0))⟩]
  now := 1010000

example : (calculateStorageReservationCapacity sampleStorage).availableReservationBytes =
    some (35 * gibibyte) := by decide +kernel

theorem reservations_fit_the_disk_sample :
    ∃ available safety reservable free,
      let c := calculateStorageReservationCapacity sampleStorage
      c.diskAvailableBytes = some available ∧ c.safetyReserveBytes = some safety ∧
        c.reservableBytes = some reservable ∧ c.availableReservationBytes = some free ∧
        (0 < free → ∀ r : ℚ, r ≤ free →
          ((c.committedReservationBytes - c.creditedUsageBytes : ℤ) : ℚ) + r + safety ≤
            available) ∧
        c.creditedUsageBytes ≤ c.committedReservationBytes ∧
        ¬(0 < free ∧ 0 < c.overcommitBytes) ∧
        free - c.overcommitBytes = reservable - c.committedReservationBytes :=
  reservations_fit_the_disk sampleStorage (by decide +kernel)

end NouvaAgent.ServerCapacity
