import Orion.ExtProc.Moves

/-! # Modes that the processor overrides

Every field of an override is checked by itself, so that the processor can combine fields
of several allowed modes.
-/

namespace Orion.ExtProc

open Orion.Configuration List ProcessingMode

/-! ## Values of a field -/

namespace ExternalProcessingWorkerConfig

section

variable {Mode : Type} [DecidableEq Mode] (config : ExternalProcessingWorkerConfig)
  (counts : Mode → Bool) (field : ProcessingMode → Mode)

/-- The configured value of a field, or one that counts and that an allowed mode has. -/
def Admits (value : Mode) : Prop :=
  value = field config.processingMode ∨
    counts value = true ∧ ∃ allowed ∈ config.allowedOverrideModes, field allowed = value

variable {config counts field} {value : Mode}

theorem Admits.keep (admits : config.Admits counts field value)
    (listed : config.allowedOverrideModes ≠ []) (asked : Option Mode) :
    config.Admits counts field
      (overridden counts field config.allowedOverrideModes asked value) := by
  cases asked with
  | none => exact admits
  | some mode =>
    rw [overridden]
    split
    · rename_i accepted
      simp only [Bool.and_eq_true, isEmpty_eq_false_iff.mpr listed, Bool.false_or,
        any_eq_true, decide_eq_true_eq] at accepted
      exact .inr accepted
    · exact admits

theorem Admits.reached (admits : config.Admits counts field value) :
    overridden counts field config.allowedOverrideModes (some value)
      (field config.processingMode) = value := by
  rw [overridden]
  rcases admits with rfl | ⟨counted, allowed⟩
  · split <;> rfl
  · rw [if_pos]
    simp only [counted, Bool.true_and, Bool.or_eq_true, any_eq_true, decide_eq_true_eq]
    exact .inr allowed

end

/-! ## All fields together -/

structure AdmitsAll (config : ExternalProcessingWorkerConfig) (modes : OverridableGlobalModes) :
    Prop where
  responseHeader : config.Admits (· ≠ .default) responseHeaderMode
    modes.response.headerMode
  requestBody : config.Admits (fun _ => true) requestBodyMode
    modes.request.bodyMode
  responseBody : config.Admits (fun _ => true) responseBodyMode
    modes.response.bodyMode
  requestTrailer : config.Admits (· ≠ .default) requestTrailerMode
    modes.request.trailerMode
  responseTrailer : config.Admits (· ≠ .default) responseTrailerMode
    modes.response.trailerMode

end ExternalProcessingWorkerConfig

def OverridableGlobalModes.fields (modes : OverridableGlobalModes) :=
  (modes.response.headerMode, modes.request.bodyMode, modes.response.bodyMode,
    modes.request.trailerMode, modes.response.trailerMode)

/-- The fields that can change are together those of the configured mode or of an allowed one. -/
def ExternalProcessingWorkerConfig.Lists (config : ExternalProcessingWorkerConfig)
    (modes : OverridableGlobalModes) : Prop :=
  ∃ mode ∈ config.processingMode :: config.allowedOverrideModes,
    modes.fields = (OverridableGlobalModes.ofProcessingMode mode).fields

theorem admitsAll_override {config : ExternalProcessingWorkerConfig}
    (admits : config.AdmitsAll modes)
    (listed : config.allowedOverrideModes ≠ []) (direction : Direction) (asked : ModeOverride) :
    config.AdmitsAll (modes.override direction config.allowedOverrideModes asked) := by
  cases direction with
  | request => exact ⟨admits.1.keep listed _, admits.2.keep listed _,
      admits.3.keep listed _, admits.4.keep listed _, admits.5.keep listed _⟩
  | response => exact ⟨admits.1.keep listed _, admits.2,
      admits.3.keep listed _, admits.4, admits.5.keep listed _⟩

/-- An override that asks for admitted values gets all of them. -/
theorem fields_override {config : ExternalProcessingWorkerConfig}
    (admits : config.AdmitsAll modes) :
    ((OverridableGlobalModes.ofProcessingMode config.processingMode).override .request
      config.allowedOverrideModes ⟨some modes.response.headerMode, some modes.request.bodyMode,
        some modes.response.bodyMode, some modes.request.trailerMode,
        some modes.response.trailerMode⟩).fields = modes.fields := by
  refine Prod.ext admits.1.reached (Prod.ext admits.2.reached (Prod.ext admits.3.reached
    (Prod.ext admits.4.reached admits.5.reached)))

/-! ## Sequences of overrides -/

namespace Worker

/-- The worker after the answers to headers of some directions have asked for modes. -/
def overridden (worker : Worker) (messages : List (Direction × ModeOverride)) : Worker :=
  messages.foldl (fun worker message => worker.overrideModes message.1 (some message.2)) worker

theorem overridden_keeps {Holds : OverridableGlobalModes → Prop} {worker : Worker}
    (kept : worker.config.allowModeOverride = true → ∀ {modes} direction asked, Holds modes →
      Holds (modes.override direction worker.config.allowedOverrideModes asked))
    (holds : Holds worker.overridableModes) (messages : List (Direction × ModeOverride)) :
    Holds (worker.overridden messages).overridableModes := by
  induction messages generalizing worker with
  | nil => exact holds
  | cons message messages induction =>
    change Holds ((worker.overrideModes message.1 (some message.2)).overridden
      messages).overridableModes
    rw [overrideModes]
    split
    · rename_i allowed
      exact @induction { worker with overridableModes := _ } kept (kept allowed _ _ holds)
    · exact induction kept holds

end Worker

/-- The modes stay among those listed exactly when overrides are not allowed, or every
combination of admitted values is listed. -/
theorem modes_listed_iff {config : ExternalProcessingWorkerConfig}
    (restricted : config.allowedOverrideModes ≠ []) :
    (∀ messages, config.Lists ((Worker.ofConfig config
        (.ofProcessingMode config.processingMode)).overridden messages).overridableModes) ↔
      config.allowModeOverride = false ∨ ∀ modes, config.AdmitsAll modes → config.Lists modes := by
  constructor
  · intro lists
    cases allowed : config.allowModeOverride with
    | false => exact .inl rfl
    | true =>
      refine .inr fun modes admits => ?_
      rcases lists [(.request, ⟨some modes.response.headerMode, some modes.request.bodyMode,
        some modes.response.bodyMode, some modes.request.trailerMode,
        some modes.response.trailerMode⟩)] with ⟨mode, member, same⟩
      refine ⟨mode, member, (fields_override admits).symm.trans (Eq.trans ?_ same)⟩
      simp [Worker.overridden, Worker.overrideModes, Worker.ofConfig, allowed]
  · rintro (off | listed) messages
    · refine Worker.overridden_keeps ?_ ⟨_, mem_cons_self, rfl⟩ messages
      intro allowed
      cases off.symm.trans allowed
    · have configured : config.AdmitsAll (.ofProcessingMode config.processingMode) :=
        ⟨.inl rfl, .inl rfl, .inl rfl, .inl rfl, .inl rfl⟩
      refine listed _ (Worker.overridden_keeps ?_ configured messages)
      intro _ modes direction asked admits
      exact admitsAll_override admits restricted direction asked

/-! ## Two allowed modes -/

def streamsEither : ExternalProcessingWorkerConfig :=
  { ExternalProcessingWorkerConfig.ofConfig (.lenient {}) none with
    allowModeOverride := true
    allowedOverrideModes := [{ requestBodyMode := .streamed }, { responseBodyMode := .streamed }] }

/-- One override gets the bodies of both directions streamed. -/
theorem allowed_modes_mixed :
    ¬ streamsEither.Lists ((Worker.ofConfig streamsEither (.ofProcessingMode {})).overridden
        [(.request, ⟨none, some .streamed, some .streamed, none, none⟩)]).overridableModes := by
  change ¬ ∃ mode ∈ _, _
  decide

def streamsRequests : ExternalProcessingWorkerConfig :=
  { streamsEither with allowedOverrideModes := [{ requestBodyMode := .streamed }] }

theorem admitted_streamsRequests {Mode : Type} {counts : Mode → Bool}
    {field : ProcessingMode → Mode} {value : Mode}
    (admits : streamsRequests.Admits counts field value) :
    value = field {} ∨ value = field { requestBodyMode := .streamed } := by
  rcases admits with configured | ⟨_, allowed, member, rfl⟩
  · exact .inl configured
  · rw [mem_singleton.mp member]
    exact .inr rfl

/-- The processor may have the bodies of requests streamed, and no other mode. -/
theorem modes_listed_with_overrides :
    streamsRequests.allowedOverrideModes ≠ [] ∧ streamsRequests.allowModeOverride = true ∧
      ∀ messages, streamsRequests.Lists ((Worker.ofConfig streamsRequests
        (.ofProcessingMode {})).overridden messages).overridableModes := by
  refine ⟨by decide, rfl, (modes_listed_iff (by decide)).mpr (.inr ?_)⟩
  intro modes admits
  have responseHeader := or_self_iff.mp (admitted_streamsRequests admits.responseHeader)
  have responseBody := or_self_iff.mp (admitted_streamsRequests admits.responseBody)
  have requestTrailer := or_self_iff.mp (admitted_streamsRequests admits.requestTrailer)
  have responseTrailer := or_self_iff.mp (admitted_streamsRequests admits.responseTrailer)
  rcases admitted_streamsRequests admits.requestBody with requestBody | requestBody
  · exact ⟨_, mem_cons_self, Prod.ext responseHeader (Prod.ext requestBody
      (Prod.ext responseBody (Prod.ext requestTrailer responseTrailer)))⟩
  · exact ⟨_, mem_cons_of_mem _ mem_cons_self, Prod.ext responseHeader (Prod.ext requestBody
      (Prod.ext responseBody (Prod.ext requestTrailer responseTrailer)))⟩

/-! ## More time for the processor

A processor may ask for more time once. What it asks for is brought between a
millisecond and the configured limit.
-/

namespace Worker

/-- No panic, a timeout in range, and no second extension. -/
def ExtendsSafely (worker : Worker) (duration : ProtoDuration) : Prop :=
  let next := (worker.handleTimeoutExtension duration).1
  if worker.timeoutExtended then
    next.timeoutDuration = worker.timeoutDuration ∧ next.running = false
  else
    (extension duration).isSome ∧ next.timeoutExtended = true ∧
      1000000 ≤ next.timeoutDuration ∧
      ∀ limit, worker.config.maxMessageTimeout = some limit → next.timeoutDuration ≤ limit

theorem extendsSafely_of_extended {worker : Worker} (extended : worker.timeoutExtended)
    (duration : ProtoDuration) : worker.ExtendsSafely duration := by
  rw [ExtendsSafely, if_pos extended, handleTimeoutExtension, if_pos extended]
  exact ⟨congrArg (·.2.2.2.2) (worker.shared_replyBoth _), rfl⟩

/-- The time asked for, where negative fields have wrapped around. -/
def asked (duration : ProtoDuration) : Nat :=
  (duration.seconds % 2 ^ 64).toNat * 1000000000 + (duration.nanos % 2 ^ 64).toNat

theorem granted_inRange_iff (asked standard : Nat) (limit : Option Nat) :
    let granted := if asked < 1000000 then standard else asked
    let limited := match limit with
      | some limit => if limit < granted then limit else granted
      | none => granted
    (1000000 ≤ limited ∧ ∀ most, limit = some most → limited ≤ most) ↔
      (asked < 1000000 → 1000000 ≤ standard) ∧ ∀ most, limit = some most → 1000000 ≤ most := by
  cases limit with
  | none =>
    simp only [reduceCtorEq, false_implies, implies_true, and_true]
    split <;> omega
  | some limit =>
    simp only [Option.some.injEq, forall_eq']
    split <;> split <;> omega

/-- A first demand is met safely exactly when its fields do not overflow, and the configured
times that may stand in for it are not below a millisecond. -/
theorem extendsSafely_iff (worker : Worker) (duration : ProtoDuration) :
    worker.ExtendsSafely duration ↔ worker.timeoutExtended ∨
      asked duration / 1000000000 < 2 ^ 64 ∧
        (asked duration < 1000000 → 1000000 ≤ worker.config.messageTimeout) ∧
        ∀ limit, worker.config.maxMessageTimeout = some limit → 1000000 ≤ limit := by
  cases extended : worker.timeoutExtended with
  | true => exact iff_of_true (extendsSafely_of_extended extended duration) (.inl rfl)
  | false =>
    have total : extension duration =
        if asked duration / 1000000000 < 2 ^ 64 then some (asked duration) else none := rfl
    rw [ExtendsSafely, handleTimeoutExtension, if_neg (by simp [extended]), extended,
      or_iff_right Bool.false_ne_true, if_neg Bool.false_ne_true, total]
    by_cases fits : asked duration / 1000000000 < 2 ^ 64
    · rw [if_pos fits, Option.isSome_some, and_iff_right rfl, and_iff_right rfl, and_iff_right fits]
      exact granted_inRange_iff (asked duration) worker.config.messageTimeout
        worker.config.maxMessageTimeout
    · rw [if_neg fits]
      exact iff_of_false (fun safe => nomatch safe.1) fun safe => fits safe.1

/-- A negative second and a negative nanosecond wrap around to more than there can be. -/
theorem negative_extension_panics :
    ¬ (ofConfig (.ofConfig (.lenient {}) none) (.ofProcessingMode {})).ExtendsSafely
      ⟨-1, -1⟩ :=
  fun safe => absurd safe.1 (by decide)

end Worker

end Orion.ExtProc
