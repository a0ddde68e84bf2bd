import Orion.ExtProc.Processing

/-! # Which headers the processor gets to see

The declared rule looks at the allowed and at the disallowed headers. The filter looks at the
allowed ones only when none is disallowed.
-/

namespace Orion.ExtProc

open Foundation Http Orion.Configuration ExternalProcessor List

theorem filterAuxM_eq {decide : Entry → Option Bool} {entries : List Entry}
    (decided : ∀ entry ∈ entries, decide entry = some (keeps entry)) (kept : List Entry) :
    entries.filterAuxM decide kept = some ((entries.filter keeps).reverse ++ kept) := by
  induction entries generalizing kept with
  | nil => rfl
  | cons entry entries induction =>
    have rest := induction fun later member => decided later (mem_cons_of_mem _ member)
    rw [filterAuxM, decided entry mem_cons_self]
    cases keep : keeps entry <;> simp [keep, rest]

section

variable [RegexEngine]

section

variable (rules : HeaderForwardingRules) (name : Text)

/-- A header is allowed, if any are listed as such, and not disallowed. -/
def declared : Bool :=
  (rules.allowedHeaders.isEmpty || anyMatches rules.allowedHeaders name) &&
    !anyMatches rules.disallowedHeaders name

def decided : Bool :=
  if rules.disallowedHeaders ≠ [] then
    !anyMatches rules.disallowedHeaders name
  else
    rules.allowedHeaders.isEmpty || anyMatches rules.allowedHeaders name

theorem decided_eq_declared_iff :
    decided rules name = declared rules name ↔
      rules.allowedHeaders = [] ∨ rules.disallowedHeaders = [] ∨
        (anyMatches rules.disallowedHeaders name = false →
          anyMatches rules.allowedHeaders name = true) := by
  rw [decided, declared]
  cases rules.disallowedHeaders with
  | nil => simp [anyMatches]
  | cons matcher matchers =>
    cases rules.allowedHeaders with
    | nil => simp
    | cons first others =>
      cases anyMatches (matcher :: matchers) name <;>
        cases anyMatches (first :: others) name <;> simp

end

theorem shouldForwardHeader_eq (rules : HeaderForwardingRules) {name : Text}
    (ascii : name.isAscii) : shouldForwardHeader rules name = some (decided rules name) := by
  rw [shouldForwardHeader, anyM_matches _ ascii, anyM_matches _ ascii, decided]
  split
  · rfl
  · cases rules.allowedHeaders <;> rfl

/-- The headers sent are the declared ones exactly when there is no rule, or a header map of
their number can be allocated and both lists are not in use together, unless every header that
is not disallowed is allowed. -/
theorem filterHeaderMap_declared_iff {processor : ExternalProcessor}
    {rules : HeaderForwardingRules} {headers : HeaderMap}
    (given : processor.forwardRules = some rules)
    (ascii : ∀ entry ∈ headers, entry.1.text.isAscii) :
    processor.filterHeaderMap headers =
        some (headers.filter fun entry => declared rules entry.1.text) ↔
      (rules.allowedHeaders = [] ∧ rules.disallowedHeaders = []) ∨ headers.length ≤ 24576 ∧
        (rules.allowedHeaders = [] ∨ rules.disallowedHeaders = [] ∨
          ∀ entry ∈ headers, anyMatches rules.disallowedHeaders entry.1.text = false →
            anyMatches rules.allowedHeaders entry.1.text = true) := by
  have sent : headers.filterM (fun entry => shouldForwardHeader rules entry.1.text) =
      some (headers.filter fun entry => decided rules entry.1.text) := by
    rw [filterM, filterAuxM_eq fun entry member =>
      shouldForwardHeader_eq rules (ascii entry member)]
    simp
  have same : headers.filter (fun entry => decided rules entry.1.text) =
        headers.filter (fun entry => declared rules entry.1.text) ↔
      ∀ entry ∈ headers, decided rules entry.1.text = declared rules entry.1.text := by
    refine ⟨?_, filter_congr⟩
    intro equal entry member
    have both := congrArg (entry ∈ ·) equal
    rw [Bool.eq_iff_iff]
    simpa only [mem_filter, member, true_and, eq_iff_iff] using both
  rw [filterHeaderMap, given]
  by_cases unruled : rules.allowedHeaders = [] ∧ rules.disallowedHeaders = []
  · simp [unruled, declared, anyMatches]
  · by_cases room : HeaderMap.hasCapacity headers.length
    · simp only [unruled, room, if_true, if_false, sent, Option.some.injEq, same,
        decided_eq_declared_iff, forall_or_left, HeaderMap.hasCapacity_iff.mp room, false_or,
        true_and]
    · simp [unruled, room, mt HeaderMap.hasCapacity_iff.mpr room]

end

/-! ## Both lists in use -/

def bothLists : HeaderForwardingRules :=
  ⟨[⟨false, .exact HeaderName.host.text⟩], [⟨false, .exact "cookie".toList⟩]⟩

def twoListProcessor : ExternalProcessor :=
  { ExternalProcessor.ofConfig (.lenient {}) none with forwardRules := some bothLists }

attribute [local instance] RegexEngine.literal

/-- A header in neither list is not declared and yet sent. -/
theorem unlisted_header_forwarded :
    twoListProcessor.filterHeaderMap [(.contentLength, [])] ≠
      some ([(.contentLength, [])].filter fun entry => declared bothLists entry.1.text) := by
  decide

theorem allowed_header_declared :
    twoListProcessor.filterHeaderMap [(.host, [])] =
      some ([(.host, [])].filter fun entry => declared bothLists entry.1.text) := by
  exact (filterHeaderMap_declared_iff rfl (by decide)).mpr
    (.inr ⟨by decide, .inr (.inr (by decide))⟩)

/-! ## Headers in the processor's protocol -/

section

variable [HttpCrate]

def envoyOfHeaderMap (headers : HeaderMap) : List EnvoyHeaderValue :=
  headers.map fun (name, value) =>
    match HttpCrate.headerValueToStr value with
    | some text => ⟨name.text, text, []⟩
    | none => ⟨name.text, [], value⟩

/-- A header as the `http` crate holds it, with a value that is its text where it has one. -/
structure Legal (entry : HeaderName × HeaderValue) : Prop where
  name : HttpCrate.headerNameFromBytes entry.1.text = some entry.1
  value : HttpCrate.headerValueFromBytes entry.2 = some entry.2
  text : ∀ text, HttpCrate.headerValueToStr entry.2 = some text → toUtf8 text = entry.2

theorem headerOfEnvoy_envoyOfHeaderMap {headers : HeaderMap}
    (legal : ∀ entry ∈ headers, Legal entry) :
    (envoyOfHeaderMap headers).filterMap headerOfEnvoy = headers := by
  rw [envoyOfHeaderMap, filterMap_map]
  refine (filterMap_congr fun entry member => ?_).trans filterMap_some
  rcases legal entry member with ⟨name, value, text⟩
  rcases entry with ⟨key, bytes⟩
  cases visible : HttpCrate.headerValueToStr bytes with
  | none => simp [headerOfEnvoy, visible, name, value]
  | some shown =>
    cases shown with
    | nil =>
      cases (text [] visible : [] = bytes)
      simp [headerOfEnvoy, visible, name, value]
    | cons => simp [headerOfEnvoy, visible, name, text _ visible, value]

omit [HttpCrate] in
theorem perm_of_getAll {headers iterated : HeaderMap}
    (yields : ∀ name, iterated.getAll name = headers.getAll name) : iterated.Perm headers := by
  have counted : ∀ (map : HeaderMap) (entry : HeaderName × HeaderValue),
      map.count entry = (map.getAll entry.1).count entry.2 := by
    intro map entry
    rw [MultiMap.getAll, count, count, countP_map, countP_filter]
    refine countP_congr fun other _ => ?_
    simp [Prod.ext_iff, and_comm]
  rw [perm_iff_count]
  intro entry
  rw [counted, counted, yields]

/-- In whichever order a header map yields its names, it comes back with the same values
exactly when a header map can be allocated for all of them. -/
theorem headers_survive_iff {headers iterated : HeaderMap}
    (yields : ∀ name, iterated.getAll name = headers.getAll name)
    (legal : ∀ entry ∈ headers, Legal entry) :
    (∃ returned, headerMapOfEnvoy (envoyOfHeaderMap iterated) = some returned ∧
        ∀ name, returned.getAll name = headers.getAll name) ↔ headers.length ≤ 24576 := by
  have same := perm_of_getAll yields
  have converted : headerMapOfEnvoy (envoyOfHeaderMap iterated) =
      if HeaderMap.hasCapacity headers.length then some iterated else none := by
    rw [headerMapOfEnvoy, headerOfEnvoy_envoyOfHeaderMap fun entry member =>
      legal entry (same.mem_iff.mp member), envoyOfHeaderMap, length_map, same.length_eq]
  rw [converted, ← HeaderMap.hasCapacity_iff]
  by_cases room : HeaderMap.hasCapacity headers.length
  · simp [room, yields]
  · simp [room]

omit [HttpCrate] in
theorem visible_and_raw_survive :
    letI := HttpCrate.ascii
    let headers : HeaderMap := [(.host, [97]), (.host, [255])]
    ∃ returned, headerMapOfEnvoy (envoyOfHeaderMap headers) = some returned ∧
      ∀ name, returned.getAll name = headers.getAll name := by
  let _ := HttpCrate.ascii
  refine (headers_survive_iff (fun _ => rfl)
    (forall_mem_cons.mpr ⟨?_, forall_mem_singleton.mpr ?_⟩)).mpr (by decide)
  · exact ⟨by decide, by decide, fun text same => by cases same; decide +kernel⟩
  · exact ⟨by decide, by decide, nofun⟩

omit [HttpCrate] in
/-- One name can have more values than a header map is allocated for. -/
theorem many_values_panic :
    letI := HttpCrate.ascii
    headerMapOfEnvoy (envoyOfHeaderMap (replicate 24577 (.host, [97]))) = none := by
  unfold headerMapOfEnvoy envoyOfHeaderMap
  rw [length_map, length_replicate]
  rfl

end

end Orion.ExtProc
