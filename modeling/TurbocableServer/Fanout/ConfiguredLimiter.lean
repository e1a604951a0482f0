import Mathlib.Data.Fintype.EquivFin
import TurbocableServer.Config.StreamRates
import TurbocableServer.Fanout.RateLimiter

/-!
# The limiter of a configuration

`build_rate_limiter` of `server.rs` parses the overrides, makes a limiter of
them and of the defaults, and does without one if it is disabled.  The burst
that a zero stands for is computed in `u64`, and twice a rate may not fit.  All
rates and bursts are stored as `f64`, which does not hold every `u64`.
-/

namespace TurbocableServer.Fanout

open Config Foundations

/-! ## Construction -/

/-- The fields of `Config` about rates. -/
structure RateLimitConfig where
  streamRateLimitRps : UInt64
  streamRateLimitBurst : UInt64
  streamRateOverrides : String

/-- The burst in a build with overflow checks, which panics where the product
does not fit. -/
def checkedBurst (rps burst : Nat) : Option Nat :=
  if burst = 0 then
    if rps * 2 < 2 ^ 64 then some (max (rps * 2) 1) else none
  else
    some burst

namespace StreamRateLimiter

def checkedOverrides :
    List (String × Nat × Nat) → Option (List (String × ℚ × ℚ))
  | [] => some []
  | (name, rps, burst) :: rest => do
      let effective ← checkedBurst rps burst
      let stored ← checkedOverrides rest
      some ((name, asF64 rps, asF64 effective) :: stored)

/-- `new` in a build with overflow checks. -/
def newChecked (defaultRps defaultBurst : Nat)
    (overrides : List (String × Nat × Nat)) : Option StreamRateLimiter := do
  let effective ← checkedBurst defaultRps defaultBurst
  let stored ← checkedOverrides overrides
  some
    { buckets := ∅
      defaultRps := asF64 defaultRps
      defaultBurst := asF64 effective
      overrides := stored }

end StreamRateLimiter

/-- The entries of a map, as the constructor consumes them. -/
def ratesOf (overrides : StreamRates) : List (String × Nat × Nat) :=
  overrides.entries.map (fun entry =>
    (entry.1, entry.2.1.toNat, entry.2.2.toNat))

/-- The limiter that the defaults and the overrides give. -/
def limiterOf (rps burst : UInt64) (overrides : StreamRates) :
    StreamRateLimiter :=
  .new rps.toNat burst.toNat (ratesOf overrides)

def buildRateLimiter (cfg : RateLimitConfig) : Option StreamRateLimiter :=
  let overrides := parseStreamRateOverrides cfg.streamRateOverrides
  let limiter :=
    limiterOf cfg.streamRateLimitRps cfg.streamRateLimitBurst overrides
  if limiter.isDisabled then none else some limiter

/-! ## The documented rates -/

/-- A burst of zero is twice the rate, at least one. -/
def documentedBurst (rps burst : Nat) : Nat :=
  if burst = 0 then max 1 (2 * rps) else burst

/-- The limits that a configured rate and burst stand for. -/
def documentedRates (rates : UInt64 × UInt64) : ℚ × ℚ :=
  (rates.1.toNat, documentedBurst rates.1.toNat rates.2.toNat)

/-- The override of the stream if it is listed, the defaults otherwise. -/
def documentedLimits (rps burst : UInt64) (overrides : StreamRates)
    (stream : String) : ℚ × ℚ :=
  documentedRates ((overrides.lookup stream).getD (rps, burst))

/-- In every run, checks of the stream go by this rate and this burst: the rate
decides whether it is limited, and its bucket has both. -/
def StreamRateLimiter.Uses (limiter : StreamRateLimiter) (stream : String)
    (limits : ℚ × ℚ) : Prop :=
  ∀ calls, (limiter.after calls).limits stream = limits ∧
    (limits.1 ≠ 0 → ∀ opened,
      ((limiter.after calls).bucketFor stream opened).rps = limits.1 ∧
        ((limiter.after calls).bucketFor stream opened).burst = limits.2)

/-- What the documentation promises of the limiter of a configuration. -/
structure EnforcesDocumentedRates (rps burst : UInt64)
    (overrides : StreamRates) : Prop where
  /-- The construction does not overflow. -/
  noOverflow :
    (StreamRateLimiter.newChecked rps.toNat burst.toNat
      (ratesOf overrides)).isSome
  uses :
    ∀ stream, (limiterOf rps burst overrides).Uses stream
      (documentedLimits rps burst overrides stream)
  /-- The server does without the limiter only if it lets everything through. -/
  skipped :
    ∀ cfg : RateLimitConfig, cfg.streamRateLimitRps = rps →
      cfg.streamRateLimitBurst = burst →
      parseStreamRateOverrides cfg.streamRateOverrides = overrides →
      buildRateLimiter cfg = none →
        ∀ calls checked, checked ∈ (limiterOf rps burst overrides).trace calls →
          checked.allowed = true

/-- Wherever a burst is zero, twice the rate fits into 64 bits. -/
def BurstsFit (rps burst : UInt64) (overrides : StreamRates) : Prop :=
  (burst = 0 → rps.toNat < 2 ^ 63) ∧
    ∀ name streamRps streamBurst,
      overrides.lookup name = some (streamRps, streamBurst) →
        streamBurst = 0 → streamRps.toNat < 2 ^ 63

/-- The rate and the burst it is documented to have are numbers of `f64`. -/
def Exact (rates : UInt64 × UInt64) : Prop :=
  Representable 53 rates.1.toNat ∧
    Representable 53 (documentedBurst rates.1.toNat rates.2.toNat)

/-- All configured rates and bursts are numbers of `f64`. -/
def RatesExact (rps burst : UInt64) (overrides : StreamRates) : Prop :=
  Exact (rps, burst) ∧
    ∀ name rates, overrides.lookup name = some rates → Exact rates

/-! ## Bursts -/

/-- Twice the rate fits, if it is needed. -/
def Fits (rps burst : Nat) : Prop :=
  burst = 0 → rps < 2 ^ 63

theorem isSome_checkedBurst_iff {rps burst : Nat} :
    (checkedBurst rps burst).isSome ↔ Fits rps burst := by
  unfold checkedBurst Fits
  by_cases isZero : burst = 0
  · rw [if_pos isZero]
    by_cases small : rps * 2 < 2 ^ 64
    · rw [if_pos small]
      exact ⟨fun _ _ => by omega, fun _ => rfl⟩
    · rw [if_neg small]
      constructor
      · intro impossible
        cases impossible
      · intro fits
        have bound := fits isZero
        omega
  · rw [if_neg isZero]
    exact ⟨fun _ needed => absurd needed isZero, fun _ => rfl⟩

theorem effectiveBurst_of_fits {rps burst : Nat} (fits : Fits rps burst) :
    effectiveBurst rps burst = documentedBurst rps burst := by
  unfold effectiveBurst documentedBurst
  by_cases isZero : burst = 0
  · have bound := fits isZero
    rw [if_pos isZero, if_pos isZero]
    omega
  · rw [if_neg isZero, if_neg isZero]

namespace StreamRateLimiter

theorem isSome_checkedOverrides_iff
    {overrides : List (String × Nat × Nat)} :
    (checkedOverrides overrides).isSome ↔
      ∀ entry, entry ∈ overrides → Fits entry.2.1 entry.2.2 := by
  induction overrides with
  | nil => simp [checkedOverrides]
  | cons entry rest ih =>
      obtain ⟨name, rps, burst⟩ := entry
      rw [List.forall_mem_cons, ← ih,
        ← isSome_checkedBurst_iff, checkedOverrides]
      cases checkedBurst rps burst with
      | none => simp
      | some effective =>
          cases checkedOverrides rest with
          | none => simp
          | some stored => simp

theorem isSome_newChecked_iff {defaultRps defaultBurst : Nat}
    {overrides : List (String × Nat × Nat)} :
    (newChecked defaultRps defaultBurst overrides).isSome ↔
      Fits defaultRps defaultBurst ∧
        ∀ entry, entry ∈ overrides → Fits entry.2.1 entry.2.2 := by
  rw [← isSome_checkedBurst_iff, ← isSome_checkedOverrides_iff, newChecked]
  cases checkedBurst defaultRps defaultBurst with
  | none => simp
  | some effective =>
      cases checkedOverrides overrides with
      | none => simp
      | some stored => simp

/-! ## Limits in runs -/

theorem limits_after (calls : List CheckCall) (limiter : StreamRateLimiter)
    (stream : String) :
    (limiter.after calls).limits stream = limiter.limits stream := by
  induction calls generalizing limiter with
  | nil => rfl
  | cons call later ih =>
      have kept := ih (limiter.check call).2
      rw [limits_check] at kept
      exact kept

/-- A new limiter goes by the limits it stores. -/
theorem uses_limits_new (defaultRps defaultBurst : Nat)
    (overrides : List (String × Nat × Nat)) (stream : String) :
    (new defaultRps defaultBurst overrides).Uses stream
      ((new defaultRps defaultBurst overrides).limits stream) := by
  intro calls
  have stored := limits_after calls (new defaultRps defaultBurst overrides)
    stream
  refine ⟨stored, fun limited opened => ?_⟩
  obtain ⟨nonnegative, room⟩ :=
    limits_new defaultRps defaultBurst overrides stream
  have positive := lt_of_le_of_ne nonnegative (Ne.symm limited)
  rw [bucketFor]
  cases known :
      ((new defaultRps defaultBurst overrides).after calls).buckets.lookup
        stream with
  | none =>
      rw [Option.getD_none, stored]
      exact ⟨rfl, rfl⟩
  | some bucket =>
      have bounded := bounded_after calls positive room
        (new defaultRps defaultBurst overrides) rfl
        (fun _ present => by cases present) bucket known
      exact ⟨bounded.rps_eq, bounded.burst_eq⟩

/-- A disabled limiter lets everything through. -/
theorem allowed_of_isDisabled {defaultRps defaultBurst : Nat}
    {overrides : List (String × Nat × Nat)}
    (disabled : (new defaultRps defaultBurst overrides).isDisabled = true)
    (calls : List CheckCall) :
    ∀ checked, checked ∈ (new defaultRps defaultBurst overrides).trace calls →
      checked.allowed = true := by
  induction calls with
  | nil =>
      intro checked member
      cases member
  | cons call later ih =>
      intro checked member
      rw [trace, check_new_of_isDisabled _ _ _ call disabled] at member
      rcases List.mem_cons.mp member with rfl | isLater
      · rfl
      · exact ih checked isLater

end StreamRateLimiter

/-! ## Overrides -/

/-- Looking a stream up in the stored overrides is looking it up in the map. -/
theorem lookup_map_entries {ν : Type} (store : UInt64 × UInt64 → ν)
    (overrides : StreamRates) (stream : String) :
    (overrides.entries.map (fun entry => (entry.1, store entry.2))).lookup
        stream =
      (overrides.lookup stream).map store := by
  rw [AList.lookup]
  induction overrides.entries with
  | nil => rfl
  | cons entry rest ih =>
      obtain ⟨name, rates⟩ := entry
      rw [List.map_cons, List.lookup_cons]
      by_cases same : name = stream
      · subst same
        simp
      · rw [List.dlookup_cons_ne _ _ (Ne.symm same), ← ih,
          beq_eq_false_iff_ne.mpr (Ne.symm same)]

/-- What the constructor stores of a rate and a burst. -/
def storedLimits (rates : UInt64 × UInt64) : ℚ × ℚ :=
  (asF64 rates.1.toNat, asF64 (effectiveBurst rates.1.toNat rates.2.toNat))

theorem limits_limiterOf (rps burst : UInt64) (overrides : StreamRates)
    (stream : String) :
    (limiterOf rps burst overrides).limits stream =
      storedLimits ((overrides.lookup stream).getD (rps, burst)) := by
  have found :
      (limiterOf rps burst overrides).overrides.lookup stream =
        (overrides.lookup stream).map storedLimits := by
    rw [← lookup_map_entries, limiterOf, StreamRateLimiter.new, ratesOf,
      List.map_map]
    rfl
  rw [StreamRateLimiter.limits, found]
  cases overrides.lookup stream with
  | none => rfl
  | some rates => rfl

theorem mem_ratesOf_iff {overrides : StreamRates}
    {entry : String × Nat × Nat} :
    entry ∈ ratesOf overrides ↔
      ∃ name rps burst, overrides.lookup name = some (rps, burst) ∧
        (name, rps.toNat, burst.toNat) = entry := by
  rw [ratesOf, List.mem_map]
  constructor
  · rintro ⟨⟨name, rps, burst⟩, member, isEntry⟩
    exact ⟨name, rps, burst, AList.mem_lookup_iff.mpr member, isEntry⟩
  · rintro ⟨name, rps, burst, found, isEntry⟩
    exact ⟨⟨name, rps, burst⟩, AList.mem_lookup_iff.mp found, isEntry⟩

theorem toNat_eq_zero_iff (value : UInt64) : value.toNat = 0 ↔ value = 0 := by
  rw [← UInt64.toNat_inj]
  rfl

theorem asF64_eq_iff {value : Nat} :
    asF64 value = value ↔ Representable 53 value := by
  rw [asF64, Nat.cast_inj, roundToBits_eq_self_iff]

/-- A rate whose burst fits is stored as documented exactly if `f64` holds
both. -/
theorem storedLimits_eq_iff {rates : UInt64 × UInt64}
    (fits : Fits rates.1.toNat rates.2.toNat) :
    storedLimits rates = documentedRates rates ↔ Exact rates := by
  rw [storedLimits, documentedRates, effectiveBurst_of_fits fits, Prod.mk_inj,
    asF64_eq_iff, asF64_eq_iff, Exact]

/-- The rates of a stream: those of an override, or the defaults. -/
theorem rates_cases (rates : UInt64 × UInt64) (overrides : StreamRates)
    (stream : String) :
    (overrides.lookup stream).getD rates = rates ∨
      overrides.lookup stream =
        some ((overrides.lookup stream).getD rates) := by
  cases overrides.lookup stream with
  | none => exact Or.inl rfl
  | some found => exact Or.inr rfl

theorem BurstsFit.fits {rps burst : UInt64} {overrides : StreamRates}
    (fit : BurstsFit rps burst overrides) (stream : String) :
    Fits ((overrides.lookup stream).getD (rps, burst)).1.toNat
      ((overrides.lookup stream).getD (rps, burst)).2.toNat := by
  obtain ⟨defaultFits, overridesFit⟩ := fit
  intro isZero
  rw [toNat_eq_zero_iff] at isZero
  rcases rates_cases (rps, burst) overrides stream with isDefault | listed
  · rw [isDefault] at isZero ⊢
    exact defaultFits isZero
  · exact overridesFit stream _ _ listed isZero

/-- Some stream has no override. -/
theorem exists_unlisted (overrides : StreamRates) :
    ∃ stream, overrides.lookup stream = none := by
  obtain ⟨stream, missing⟩ :=
    Infinite.exists_notMem_finset overrides.keys.toFinset
  refine ⟨stream, AList.lookup_eq_none.mpr ?_⟩
  intro member
  exact missing (List.mem_toFinset.mpr member)

/-- Where the bursts fit, every stream is stored with its documented limits
exactly if `f64` holds all of them. -/
theorem limits_eq_documented_iff {rps burst : UInt64} {overrides : StreamRates}
    (fit : BurstsFit rps burst overrides) :
    (∀ stream, (limiterOf rps burst overrides).limits stream =
        documentedLimits rps burst overrides stream) ↔
      RatesExact rps burst overrides := by
  have stored (stream : String) :
      (limiterOf rps burst overrides).limits stream =
          documentedLimits rps burst overrides stream ↔
        Exact ((overrides.lookup stream).getD (rps, burst)) := by
    rw [limits_limiterOf, documentedLimits]
    exact storedLimits_eq_iff (fit.fits stream)
  constructor
  · intro same
    constructor
    · obtain ⟨stream, unlisted⟩ := exists_unlisted overrides
      have isExact := (stored stream).mp (same stream)
      rwa [unlisted, Option.getD_none] at isExact
    · intro name rates listed
      have isExact := (stored name).mp (same name)
      rwa [listed, Option.getD_some] at isExact
  · rintro ⟨defaultExact, overridesExact⟩ stream
    rw [stored stream]
    rcases rates_cases (rps, burst) overrides stream with isDefault | listed
    · rw [isDefault]
      exact defaultExact
    · exact overridesExact stream _ listed

theorem isSome_newChecked_iff_burstsFit {rps burst : UInt64}
    {overrides : StreamRates} :
    (StreamRateLimiter.newChecked rps.toNat burst.toNat
        (ratesOf overrides)).isSome ↔
      BurstsFit rps burst overrides := by
  rw [StreamRateLimiter.isSome_newChecked_iff, BurstsFit, Fits,
    toNat_eq_zero_iff]
  apply and_congr_right
  intro _
  constructor
  · intro allFit name streamRps streamBurst found isZero
    have member := mem_ratesOf_iff.mpr
      ⟨name, streamRps, streamBurst, found, rfl⟩
    exact allFit _ member ((toNat_eq_zero_iff streamBurst).mpr isZero)
  · intro allFit entry member isZero
    obtain ⟨name, streamRps, streamBurst, found, rfl⟩ :=
      mem_ratesOf_iff.mp member
    exact allFit name streamRps streamBurst found
      ((toNat_eq_zero_iff streamBurst).mp isZero)

/-! ## The limiter of a configuration -/

theorem isDisabled_of_buildRateLimiter {cfg : RateLimitConfig}
    (skipped : buildRateLimiter cfg = none) :
    (limiterOf cfg.streamRateLimitRps cfg.streamRateLimitBurst
      (parseStreamRateOverrides cfg.streamRateOverrides)).isDisabled = true := by
  rw [buildRateLimiter] at skipped
  by_cases disabled :
      (limiterOf cfg.streamRateLimitRps cfg.streamRateLimitBurst
        (parseStreamRateOverrides cfg.streamRateOverrides)).isDisabled = true
  · exact disabled
  · rw [if_neg disabled] at skipped
    cases skipped

/-- The limiter enforces the documented rates exactly if twice the rate fits
into 64 bits wherever a burst is zero, and `f64` holds all rates and bursts. -/
theorem configured_limiter_enforces_iff (rps burst : UInt64)
    (overrides : StreamRates) :
    EnforcesDocumentedRates rps burst overrides ↔
      BurstsFit rps burst overrides ∧ RatesExact rps burst overrides := by
  constructor
  · intro enforces
    have fit := isSome_newChecked_iff_burstsFit.mp enforces.noOverflow
    refine ⟨fit, (limits_eq_documented_iff fit).mp ?_⟩
    intro stream
    exact (enforces.uses stream []).1
  · rintro ⟨fit, allExact⟩
    have documented := (limits_eq_documented_iff fit).mpr allExact
    refine ⟨isSome_newChecked_iff_burstsFit.mpr fit, ?_, ?_⟩
    · intro stream
      rw [← documented stream]
      exact StreamRateLimiter.uses_limits_new _ _ _ stream
    · rintro cfg rfl rfl rfl skipped calls
      exact StreamRateLimiter.allowed_of_isDisabled
        (isDisabled_of_buildRateLimiter skipped) calls

/-- The least rate whose double does not fit. -/
def halfRange : UInt64 :=
  9223372036854775808

/-- The least rate that is not a number of `f64`. -/
def oddRate : UInt64 :=
  9007199254740993

theorem limits_without_overrides (rps burst : UInt64) (stream : String) :
    (limiterOf rps burst ∅).limits stream = storedLimits (rps, burst) ∧
      documentedLimits rps burst ∅ stream = documentedRates (rps, burst) := by
  rw [limits_limiterOf, documentedLimits, AList.lookup_empty, Option.getD_none]
  exact ⟨rfl, rfl⟩

/-- With the first rate and no burst given, a build with overflow checks panics,
and one without them allows bursts of one message.  The second rate is stored
as one that is less by one. -/
theorem burst_of_half_range_overflows :
    (¬ EnforcesDocumentedRates halfRange 0 ∅ ∧
      StreamRateLimiter.newChecked halfRange.toNat (0 : UInt64).toNat
        (ratesOf ∅) = none ∧
      (limiterOf halfRange 0 ∅).limits "alerts" = (2 ^ 63, 1) ∧
      documentedLimits halfRange 0 ∅ "alerts" = (2 ^ 63, 2 ^ 64)) ∧
    ¬ EnforcesDocumentedRates oddRate 0 ∅ ∧
      BurstsFit oddRate 0 ∅ ∧
      (limiterOf oddRate 0 ∅).limits "alerts" = (2 ^ 53, 2 ^ 54) ∧
      documentedLimits oddRate 0 ∅ "alerts" = (2 ^ 53 + 1, 2 ^ 54 + 2) := by
  have panics :
      StreamRateLimiter.newChecked halfRange.toNat (0 : UInt64).toNat
        (ratesOf ∅) = none :=
    rfl
  have wrapped : storedLimits (halfRange, 0) = (2 ^ 63, 1) := by
    decide +kernel
  have meant : documentedRates (halfRange, 0) = (2 ^ 63, 2 ^ 64) := by
    decide +kernel
  have rounded : storedLimits (oddRate, 0) = (2 ^ 53, 2 ^ 54) := by
    decide +kernel
  have asked : documentedRates (oddRate, 0) = (2 ^ 53 + 1, 2 ^ 54 + 2) := by
    decide +kernel
  obtain ⟨halfStored, halfMeant⟩ := limits_without_overrides halfRange 0 "alerts"
  obtain ⟨oddStored, oddMeant⟩ := limits_without_overrides oddRate 0 "alerts"
  refine ⟨⟨?_, panics, halfStored.trans wrapped, halfMeant.trans meant⟩, ?_, ?_,
    oddStored.trans rounded, oddMeant.trans asked⟩
  · intro enforces
    have built := enforces.noOverflow
    rw [panics] at built
    cases built
  · intro enforces
    have same := (enforces.uses "alerts" []).1
    have differ : ((2 : ℚ) ^ 53, (2 : ℚ) ^ 54) ≠ (2 ^ 53 + 1, 2 ^ 54 + 2) := by
      decide +kernel
    exact differ ((oddStored.trans rounded).symm.trans
      (same.trans (oddMeant.trans asked)))
  · refine ⟨fun _ => by decide, ?_⟩
    intro name streamRps streamBurst listed
    rw [AList.lookup_empty] at listed
    cases listed

end TurbocableServer.Fanout
