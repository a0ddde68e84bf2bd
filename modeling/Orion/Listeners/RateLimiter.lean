import Orion.Configuration.HttpFilters
import Orion.Listeners.SyntheticResponse

/-! # Local rate limits

The request loop runs a copy of each filter of a route. A token that a request
takes is taken from its copy.
-/

namespace Orion.Listeners

open Http Orion.Configuration Option Duration

/-! ## Token buckets

A bucket stores the instant at which it would have been empty; consuming tokens
moves that instant forward, and it never lies further back than the time it
takes to fill the bucket.
-/

def Duration.checkedMul (duration : Duration) (factor : Nat) : Option Duration :=
  if duration * factor ≤ max then some (duration * factor) else none

theorem Duration.eq_of_checkedMul (computed : Duration.checkedMul duration factor = some product) :
    product = duration * factor := by
  unfold checkedMul at computed
  split_ifs at computed
  exact (some.inj computed).symm

structure Clock where
  earliest : Int
  latest : Int

namespace Clock

section

variable (clock : Clock) (instant : Int) (duration : Duration)

def checkedSub : Option Int :=
  if clock.earliest ≤ instant - duration then some (instant - duration) else none

def add : Option Int :=
  if instant + duration ≤ clock.latest then some (instant + duration) else none

/-- Go back by a duration, or not at all when the clock cannot. -/
def back : Int :=
  (clock.checkedSub instant duration).getD instant

theorem back_eq :
    clock.back instant duration =
      if clock.earliest ≤ instant - duration then instant - duration else instant := by
  unfold back checkedSub
  split
  · rfl
  · rfl

end

end Clock

structure TokenBucket where
  time : Int
  timePerToken : Duration
  timePerBucket : Duration
  maxTokens : Nat
  deriving DecidableEq

namespace TokenBucket

/-- A full bucket; `none` when the arithmetic on durations panics. -/
def new (clock : Clock) (now : Int) (maxTokens tokensPerFill : Nat)
    (fillInterval : Duration) : Option TokenBucket := do
  let fillTime ← Duration.checkedMul fillInterval maxTokens
  guard (tokensPerFill ≠ 0)
  let timePerBucket := fillTime / tokensPerFill
  let twice ← Duration.checkedMul timePerBucket 2
  return {
    time := clock.back now twice
    timePerToken := fillInterval / tokensPerFill
    timePerBucket := timePerBucket
    maxTokens := maxTokens }

def consume (clock : Clock) (now : Int) (bucket : TokenBucket) (tokens : Nat) :
    Option (Bool × TokenBucket) := do
  let reqFillPeriod ← Duration.checkedMul bucket.timePerToken tokens
  let minTime := clock.back now bucket.timePerBucket
  let newTime ← clock.add (if minTime > bucket.time then minTime else bucket.time)
    reqFillPeriod
  if newTime > now then
    return (false, bucket)
  else
    return (true, { bucket with time := newTime })

/-- A copy that no longer shares its time with the original. -/
def clone (bucket : TokenBucket) : TokenBucket where
  time := bucket.time
  timePerToken := bucket.timePerToken
  timePerBucket := bucket.timePerBucket
  maxTokens := bucket.maxTokens

theorem new_eq_some {clock : Clock} {now : Int} {maxTokens tokensPerFill : Nat}
    {fillInterval : Duration} {bucket : TokenBucket}
    (built : new clock now maxTokens tokensPerFill fillInterval = some bucket) :
    bucket.time = clock.back now (2 * (fillInterval * maxTokens / tokensPerFill)) ∧
      bucket.timePerToken = fillInterval / tokensPerFill ∧
      bucket.timePerBucket = fillInterval * maxTokens / tokensPerFill := by
  simp only [new, bind_eq_bind, bind_eq_some_iff] at built
  rcases built with ⟨fillTime, filled, _, nonzero, twice, doubled, ⟨⟩⟩
  have fillTimeEqual := Duration.eq_of_checkedMul filled
  have twiceEqual := Duration.eq_of_checkedMul doubled
  rw [twiceEqual, fillTimeEqual]
  exact ⟨by rw [Nat.mul_comm], rfl, rfl⟩

/-- A single token is given exactly if its period has passed both since the
stored time and since the time from which the bucket would be full. -/
theorem consume_one_iff {clock : Clock} {bucket : TokenBucket}
    (representable : now ≤ clock.latest) (period : bucket.timePerToken ≤ max) :
    (∃ used, consume clock now bucket 1 = some (true, used)) ↔
      clock.back now bucket.timePerBucket + bucket.timePerToken ≤ now ∧
        bucket.time + bucket.timePerToken ≤ now := by
  simp only [consume, Duration.checkedMul, Nat.mul_one, period, if_true, Clock.add,
    bind_eq_bind, bind_some]
  generalize clock.back now bucket.timePerBucket = minTime
  generalize startsAt : (if minTime > bucket.time then minTime else bucket.time) = start
  by_cases fits : start + (bucket.timePerToken : Int) ≤ clock.latest
  · simp only [fits, if_true, bind_some]
    split
    · simp
      omega
    · simp
      omega
  · simp only [fits, if_false]
    simp
    omega

end TokenBucket

/-! ## Rate limits -/

open List Nat

structure LocalRateLimit where
  status : StatusCode
  tokenBucket : Option TokenBucket
  deriving DecidableEq

namespace LocalRateLimit

/-- Every runtime has a limiter of its own, which is filled the slower the more
there are. -/
def adjustedFillInterval (numRuntimes : Nat) (fillInterval : Duration) : Duration :=
  (Duration.checkedMul fillInterval numRuntimes).getD fillInterval

def ofConfig (clock : Clock) (now : Int) (numRuntimes : Nat)
    (config : Configuration.LocalRateLimit) : Option LocalRateLimit :=
  match config.tokenBucket with
  | none => some ⟨config.status, none⟩
  | some bucket =>
    (TokenBucket.new clock now bucket.maxTokens bucket.tokensPerFill
      (adjustedFillInterval numRuntimes bucket.fillInterval)).map fun tokenBucket =>
        ⟨config.status, some tokenBucket⟩

/-- The decision on a request, and the limiter after it; `none` is a panic. -/
def run (clock : Clock) (now : Int) (limit : LocalRateLimit) (request : Request Body) :
    Option (FilterDecision × LocalRateLimit) :=
  match limit.tokenBucket with
  | none => some (.continue, limit)
  | some bucket => do
      let (granted, used) ← bucket.consume clock now 1
      let after := { limit with tokenBucket := some used }
      if granted then
        return (.continue, after)
      else
        return (.directResponse
          ((SyntheticHttpResponse.customError limit.status).intoResponse request.version),
          after)

def clone (limit : LocalRateLimit) : LocalRateLimit where
  status := limit.status
  tokenBucket := limit.tokenBucket.map TokenBucket.clone

@[simp] theorem clone_eq (limit : LocalRateLimit) : limit.clone = limit := by
  cases limit with
  | mk status bucket => cases bucket <;> rfl

end LocalRateLimit

open LocalRateLimit

/-! ## A history of requests -/

structure Arrival where
  instant : Int
  request : Request Body

def Arrival.passes (clock : Clock) (limit : LocalRateLimit) (arrival : Arrival) : Bool :=
  match limit.clone.run clock arrival.instant arrival.request with
  | some (.continue, _) => true
  | _ => false

/-- The requests that pass, one after the other. What a request leaves of its
copy is dropped with it, so the filter kept for the route goes on unchanged. -/
def passed (clock : Clock) (limit : LocalRateLimit) : List Arrival → List Arrival
  | [] => []
  | arrival :: arrivals =>
    if arrival.passes clock limit then
      arrival :: passed clock limit arrivals
    else
      passed clock limit arrivals

def countWithin (arrivals : List Arrival) (start : Int) (length : Duration) : Nat :=
  arrivals.countP fun arrival =>
    start ≤ arrival.instant ∧ arrival.instant ≤ start + length

/-- At most the size of the bucket and what is filled in during the window. A
bucket that is filled in no time sets no limit. -/
def WithinRate (bucket : Configuration.TokenBucket) (arrivals : List Arrival) : Prop :=
  bucket.fillInterval ≠ 0 → ∀ start length,
    countWithin arrivals start length ≤ bucket.maxTokens +
      (length * bucket.tokensPerFill + (bucket.fillInterval - 1)) / bucket.fillInterval

/-! ## What the limiter lets through -/

section

variable (clock : Clock) (created : Int) (numRuntimes : Nat) (bucket : Configuration.TokenBucket)

def timePerToken : Nat :=
  adjustedFillInterval numRuntimes bucket.fillInterval /
    bucket.tokensPerFill

def timePerBucket : Nat :=
  adjustedFillInterval numRuntimes bucket.fillInterval *
    bucket.maxTokens / bucket.tokensPerFill

/-- The instants at which a bucket from which nothing was ever taken has a token.
If the clock reaches back far enough that is always so, unless the bucket cannot
even hold one token. -/
def HasToken (instant : Int) : Prop :=
  if clock.earliest ≤ created - 2 * timePerBucket numRuntimes bucket then
    timePerToken numRuntimes bucket ≤ timePerBucket numRuntimes bucket
  else if clock.earliest ≤ instant - timePerBucket numRuntimes bucket then
    timePerToken numRuntimes bucket ≤ timePerBucket numRuntimes bucket ∧
      created + timePerToken numRuntimes bucket ≤ instant
  else
    timePerToken numRuntimes bucket = 0

instance (instant : Int) : Decidable (HasToken clock created numRuntimes bucket instant) := by
  unfold HasToken
  infer_instance

theorem adjustedFillInterval_le (fillInterval : Duration)
    (representable : fillInterval ≤ Duration.max) :
    adjustedFillInterval numRuntimes fillInterval ≤ Duration.max := by
  unfold adjustedFillInterval Duration.checkedMul
  split
  · assumption
  · exact representable

theorem timePerToken_le : timePerToken numRuntimes bucket ≤ Duration.max :=
  le_trans (div_le_self _ _)
    (adjustedFillInterval_le numRuntimes bucket.fillInterval bucket.representable)

/-- The comparisons made on an unused bucket, with the clock's limits spelled out. -/
theorem unused_comparison_iff (after : created ≤ instant) :
    (clock.back instant (timePerBucket numRuntimes bucket) +
          timePerToken numRuntimes bucket ≤ instant ∧
        clock.back created (2 * timePerBucket numRuntimes bucket) +
          timePerToken numRuntimes bucket ≤ instant) ↔
      HasToken clock created numRuntimes bucket instant := by
  simp only [Clock.back_eq, HasToken, cast_mul, cast_ofNat]
  generalize timePerBucket numRuntimes bucket = fillTime
  by_cases reachesBack : clock.earliest ≤ created - 2 * (fillTime : Int)
  · have reachesInstant : clock.earliest ≤ instant - (fillTime : Int) := by omega
    simp only [reachesBack, reachesInstant, if_true]
    omega
  · by_cases reachesInstant : clock.earliest ≤ instant - (fillTime : Int)
    · simp only [reachesBack, reachesInstant, if_true, if_false]
      omega
    · simp only [reachesBack, reachesInstant, if_false]
      omega

variable {clock created numRuntimes bucket}
variable {status : StatusCode} {limit : LocalRateLimit}

/-- A request passes exactly if the unused bucket has a token when it arrives. -/
theorem passes_iff (built : ofConfig clock created numRuntimes ⟨status, some bucket⟩ =
      some limit) {arrival : Arrival} (after : created ≤ arrival.instant)
    (representable : arrival.instant ≤ clock.latest) :
    arrival.passes clock limit ↔ HasToken clock created numRuntimes bucket arrival.instant := by
  simp only [ofConfig, Option.map_eq_some_iff] at built
  rcases built with ⟨tokenBucket, new, rfl⟩
  rcases TokenBucket.new_eq_some new with ⟨time, perToken, perBucket⟩
  have periodFits : tokenBucket.timePerToken ≤ Duration.max := by
    rw [perToken]
    exact timePerToken_le numRuntimes bucket
  have granted := TokenBucket.consume_one_iff representable periodFits
  rw [time, perToken, perBucket] at granted
  rw [← unused_comparison_iff clock created numRuntimes bucket after]
  refine Iff.trans ?_ granted
  simp only [Arrival.passes, clone_eq, run]
  cases consumed : tokenBucket.consume clock arrival.instant 1 with
  | none => simp
  | some outcome =>
    rcases outcome with ⟨decision, used⟩
    cases decision <;> simp

theorem passed_eq_filter (clock : Clock) (limit : LocalRateLimit) (arrivals : List Arrival) :
    passed clock limit arrivals = arrivals.filter (Arrival.passes clock limit) := by
  induction arrivals with
  | nil => rfl
  | cons arrival arrivals induction =>
    rw [passed, induction, filter_cons]

/-- The requests that pass are within the configured rate exactly if those that
arrive while the unused bucket has a token are so by themselves. -/
theorem passed_withinRate_iff (built : ofConfig clock created numRuntimes ⟨status, some bucket⟩ =
      some limit) (arrivals : List Arrival)
    (within : ∀ arrival ∈ arrivals, created ≤ arrival.instant ∧ arrival.instant ≤ clock.latest) :
    WithinRate bucket (passed clock limit arrivals) ↔
      WithinRate bucket (arrivals.filter fun arrival =>
        HasToken clock created numRuntimes bucket arrival.instant) := by
  have same : passed clock limit arrivals = arrivals.filter fun arrival =>
      HasToken clock created numRuntimes bucket arrival.instant := by
    rw [passed_eq_filter]
    apply filter_congr
    intro arrival member
    rcases within arrival member with ⟨after, representable⟩
    have decided := passes_iff built after representable
    cases passes : arrival.passes clock limit with
    | true => simpa using decided.mp passes
    | false =>
      have noToken : ¬ HasToken clock created numRuntimes bucket arrival.instant := by
        intro token
        rw [decided.mpr token] at passes
        cases passes
      simp [noToken]
  rw [same]

end

/-! ## Three requests at once -/

/-- Seconds are counted in a signed 64-bit number. -/
def Clock.linux : Clock := ⟨-2 ^ 63 * 1000000000, 2 ^ 63 * 1000000000 - 1⟩

def oneEachSecond : Configuration.TokenBucket := ⟨1, 1, 1000000000, by decide⟩

def freshLimit : LocalRateLimit :=
  ⟨429, some ⟨-2000000000, 1000000000, 1000000000, 1⟩⟩

theorem ofConfig_oneEachSecond :
    ofConfig .linux 0 1 ⟨429, some oneEachSecond⟩ = some freshLimit := by
  decide

/-- Three requests that arrive together all pass, where one may. -/
theorem three_pass_together :
    let arrival : Arrival := ⟨5000000000, .get "/".toList⟩
    let arrivals := [arrival, arrival, arrival]
    ofConfig .linux 0 1 ⟨429, some oneEachSecond⟩ = some freshLimit ∧
      (passed .linux freshLimit arrivals).length = 3 ∧
      ¬ WithinRate oneEachSecond (passed .linux freshLimit arrivals) := by
  refine ⟨ofConfig_oneEachSecond, by decide, ?_⟩
  intro withinRate
  have atOnce := withinRate (by decide) 5000000000 0
  revert atOnce
  decide

/-- Two requests that are two seconds apart pass, as they may. -/
theorem two_pass_withinRate :
    let arrivals : List Arrival :=
      [⟨5000000000, .get "/".toList⟩, ⟨7000000000, .get "/".toList⟩]
    (passed .linux freshLimit arrivals).length = 2 ∧
      WithinRate oneEachSecond (passed .linux freshLimit arrivals) := by
  intro arrivals
  refine ⟨by decide, (passed_withinRate_iff ofConfig_oneEachSecond arrivals ?_).mpr ?_⟩
  · simp only [arrivals, forall_mem_cons]
    exact ⟨by decide, by decide, nofun⟩
  · have granted : (arrivals.filter fun arrival =>
        HasToken .linux 0 1 oneEachSecond arrival.instant) = arrivals := by
      rw [filter_eq_self]
      simp only [arrivals, forall_mem_cons]
      exact ⟨by decide, by decide, nofun⟩
    rw [granted]
    intro _ start length
    change countP _ [_, _] ≤ 1 + (length * 1 + (1000000000 - 1)) / 1000000000
    simp only [countP_cons, countP_nil, decide_eq_true_eq]
    split <;> split <;> omega

end Orion.Listeners
