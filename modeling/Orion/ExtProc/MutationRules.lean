import Orion.Configuration.HttpFilters

/-! # Whether mutation rules are enforced

A header that the rules protect must keep its values, whatever the processor asks
for. The rules are asked about the key as it is spelled, while the header map
works with the canonical name.
-/

namespace Orion.ExtProc

open Foundation Http Orion.Configuration HttpCrate ValueChange Option
open List hiding after map map_map

/-! ## Header mutations

What an external processor may ask to be done to the headers of a message, and
how that is carried out under the configured rules. A rule that panics on a key
ends the work without a result.
-/

structure EnvoyHeaderValue where
  key : Text
  value : Text
  rawValue : Bytes
  deriving DecidableEq

inductive HeaderAppendAction where
  | appendIfExistsOrAdd
  | addIfAbsent
  | overwriteIfExistsOrAdd
  | overwriteIfExists
  deriving DecidableEq

structure HeaderValueOption where
  header : Option EnvoyHeaderValue
  append : Option Bool
  appendAction : HeaderAppendAction
  deriving DecidableEq

structure HeaderMutation where
  setHeaders : List HeaderValueOption
  removeHeaders : List Text
  deriving DecidableEq

/-! ## Regular headers -/

section

variable [HttpCrate]

def EnvoyHeaderValue.headerValue (header : EnvoyHeaderValue) : Option HeaderValue :=
  if header.rawValue = [] then
    headerValueFromStr header.value
  else
    headerValueFromBytes header.rawValue

def HeaderValueOption.change (option : HeaderValueOption) (value : HeaderValue) :
    ValueChange HeaderValue :=
  match option.appendAction with
  | .appendIfExistsOrAdd => if option.append = some true then .append value else .insert value
  | .addIfAbsent => .addIfAbsent value
  | .overwriteIfExistsOrAdd => .insert value
  | .overwriteIfExists => .overwriteIfExists value

inductive HeaderChange where
  | remove (key : Text)
  | set (option : HeaderValueOption)
  deriving DecidableEq

namespace HeaderChange

/-- The key as the processor spelled it. -/
def key : HeaderChange → Option Text
  | .remove key => some key
  | .set option => option.header.map EnvoyHeaderValue.key

/-- What is done to which header; entries with invalid names or values are passed
over. -/
def effect : HeaderChange → Option (HeaderName × ValueChange HeaderValue)
  | .remove key => (headerNameFromBytes key).map fun name => (name, .remove)
  | .set option => do
      let header ← option.header
      let name ← headerNameFromBytes header.key
      let value ← header.headerValue
      return (name, option.change value)

def applyTo (change : HeaderChange) (headers : HeaderMap) : HeaderMap :=
  match change.effect with
  | some (name, change) => change.applyTo headers name
  | none => headers

def refusal (change : HeaderChange) (key : Text) : Text :=
  match change with
  | .remove _ => "Header removal not permitted by configuration: ".toList ++ key
  | .set _ => "Header modification not permitted by configuration: ".toList ++ key

end HeaderChange

variable [RegexEngine]

/-- Carry out the permitted changes; a refused one ends the work if that is to be
an error. -/
def applyChanges (rules : HeaderMutationRules) :
    List HeaderChange → HeaderMap → Option (HeaderMap × Except Text Unit)
  | [], headers => some (headers, .ok ())
  | change :: changes, headers =>
    match change.key with
    | none => applyChanges rules changes headers
    | some key =>
      match rules.isModificationPermitted key with
      | none => none
      | some true => applyChanges rules changes (change.applyTo headers)
      | some false =>
        if rules.disallowIsError then
          some (headers, .error (change.refusal key))
        else
          applyChanges rules changes headers

def applyHeaderMutations (headers : HeaderMap) (mutation : HeaderMutation)
    (rules : HeaderMutationRules) : Option (HeaderMap × Except Text Unit) :=
  match applyChanges rules (mutation.removeHeaders.map .remove) headers with
  | none => none
  | some (removed, .error refusal) => some (removed, .error refusal)
  | some (removed, .ok ()) => applyChanges rules (mutation.setHeaders.map .set) removed

def applyTrailerMutations (trailers : HeaderMap) (mutation : HeaderMutation)
    (rules : HeaderMutationRules) : Option (HeaderMap × Except Text Unit) :=
  applyHeaderMutations trailers mutation rules

end

/-! ## Pseudo-headers -/

def pseudoHeaderMethod : Text := ":method".toList

def pseudoHeaderScheme : Text := ":scheme".toList

def pseudoHeaderAuthority : Text := ":authority".toList

def pseudoHeaderPath : Text := ":path".toList

def pseudoHeaderStatus : Text := ":status".toList

def fromUtf8 (bytes : Bytes) : Option Text :=
  (String.fromUTF8? ⟨bytes.toArray⟩).map String.toList

def tryExtractHeaderValueAsStr (option : HeaderValueOption) : Option (Except Unit Text) :=
  match option.header with
  | some header =>
    if header.rawValue ≠ [] then
      match fromUtf8 header.rawValue with
      | some text => some (.ok text)
      | none => some (.error ())
    else
      some (.ok header.value)
  | none => none

structure PseudoHeaders where
  method : Option HeaderValueOption := none
  scheme : Option HeaderValueOption := none
  authority : Option HeaderValueOption := none
  path : Option HeaderValueOption := none
  status : Option HeaderValueOption := none
  deriving DecidableEq

namespace PseudoHeaders

/-- The status does not count. -/
def isEmpty (pseudo : PseudoHeaders) : Bool :=
  pseudo.method.isNone && pseudo.scheme.isNone && pseudo.authority.isNone &&
    pseudo.path.isNone

def add (pseudo : PseudoHeaders) (option : HeaderValueOption) : PseudoHeaders :=
  match option.header with
  | none => pseudo
  | some header =>
    if header.key = pseudoHeaderMethod then { pseudo with method := some option }
    else if header.key = pseudoHeaderScheme then { pseudo with scheme := some option }
    else if header.key = pseudoHeaderAuthority then { pseudo with authority := some option }
    else if header.key = pseudoHeaderPath then { pseudo with path := some option }
    else if header.key = pseudoHeaderStatus then { pseudo with status := some option }
    else pseudo

def ofMutation (mutation : HeaderMutation) : PseudoHeaders :=
  mutation.setHeaders.foldl add {}

end PseudoHeaders

section

variable [RegexEngine]

/-- The new value of a pseudo-header, if it is set, permitted and valid. -/
def replacement {Value : Type} (rules : HeaderMutationRules) (name : Text)
    (parse : Text → Option Value) (option : Option HeaderValueOption) : Option (Option Value) :=
  match option with
  | none => some none
  | some option => do
      if ← rules.isModificationPermitted name then
        match tryExtractHeaderValueAsStr option with
        | some (.ok text) => return parse text
        | some (.error ()) => return none
        | none => return none
      else
        return none

/-- `str::parse::<u16>`: a sign may come before the digits. -/
def parseU16 (text : Text) : Option Nat :=
  let digits := match text with
    | '+' :: rest => rest
    | _ => text
  if digits ≠ [] ∧ digits.all Char.isDigit then
    let value := digits.foldl (fun value digit => 10 * value + (digit.toNat - 48)) 0
    if value < 65536 then some value else none
  else
    none

variable [HttpCrate] {Payload : Type}

def applyUri (uri : Uri) (pseudo : PseudoHeaders) (rules : HeaderMutationRules) :
    Option Uri := do
  if pseudo.scheme.isSome || pseudo.authority.isSome || pseudo.path.isSome then
    let scheme ← replacement rules pseudoHeaderScheme schemeFromStr pseudo.scheme
    let authority ← replacement rules pseudoHeaderAuthority authorityFromStr
      pseudo.authority
    let path ← replacement rules pseudoHeaderPath pathAndQueryFromStr pseudo.path
    return (uriFromParts ⟨scheme.or uri.scheme, authority.or uri.authority,
      path.or uri.pathAndQuery⟩).getD uri
  else
    return uri

def applyPseudoHeaders (request : Request Payload) (pseudo : PseudoHeaders)
    (rules : HeaderMutationRules) : Option (Text × Uri) := do
  if pseudo.isEmpty then
    return (request.method, request.uri)
  else
    let method ← replacement rules pseudoHeaderMethod methodFromBytes pseudo.method
    let uri ← applyUri request.uri pseudo rules
    return (method.getD request.method, uri)

def applyRequestHeaderMutations (request : Request Payload) (mutation : HeaderMutation)
    (rules : HeaderMutationRules) : Option (Request Payload × Except Text Unit) := do
  let (method, uri) ← applyPseudoHeaders request (.ofMutation mutation) rules
  let (headers, outcome) ← applyHeaderMutations request.headers mutation rules
  return ({ request with method := method, uri := uri, headers := headers }, outcome)

def applyResponseHeaderMutations (response : Response Payload) (mutation : HeaderMutation)
    (rules : HeaderMutationRules) : Option (Response Payload × Except Text Unit) := do
  let pseudo := PseudoHeaders.ofMutation mutation
  let status ← replacement rules pseudoHeaderStatus
    (fun text => parseU16 text >>= statusCodeFromU16) pseudo.status
  let (headers, outcome) ← applyHeaderMutations response.headers mutation rules
  return ({ response with
      status := status.getD response.status
      headers := headers }, outcome)

end

section

variable [RegexEngine]

def Permits (rules : HeaderMutationRules) (name : Text) : Prop :=
  rules.isModificationPermitted name = some true

instance (rules : HeaderMutationRules) (name : Text) : Decidable (Permits rules name) :=
  inferInstanceAs (Decidable (rules.isModificationPermitted name = some true))

/-- Protected headers have the same values before and after. -/
def KeepsHeaders (rules : HeaderMutationRules) (before after : HeaderMap) : Prop :=
  ∀ name : HeaderName, ¬ Permits rules name.text → after.getAll name = before.getAll name

structure KeepsRequest {Payload : Type} (rules : HeaderMutationRules)
    (before after : Request Payload) : Prop where
  method : ¬ Permits rules pseudoHeaderMethod → after.method = before.method
  scheme : ¬ Permits rules pseudoHeaderScheme → after.uri.scheme = before.uri.scheme
  authority : ¬ Permits rules pseudoHeaderAuthority →
    after.uri.authority = before.uri.authority
  path : ¬ Permits rules pseudoHeaderPath → after.uri.pathAndQuery = before.uri.pathAndQuery
  headers : KeepsHeaders rules before.headers after.headers

structure KeepsResponse {Payload : Type} (rules : HeaderMutationRules)
    (before after : Response Payload) : Prop where
  status : ¬ Permits rules pseudoHeaderStatus → after.status = before.status
  headers : KeepsHeaders rules before.headers after.headers

inductive MutationTarget where
  | requestHeaders
  | responseHeaders
  | trailers
  deriving DecidableEq

/-- The rules by which a mutation is judged: the configured ones, except for
trailers. -/
def MutationTarget.rules (configured : HeaderMutationRules) :
    MutationTarget → HeaderMutationRules
  | .requestHeaders | .responseHeaders => configured
  | .trailers => {}

variable [HttpCrate]

def RulesEnforced (configured : HeaderMutationRules) (mutation : HeaderMutation)
    (target : MutationTarget) : Prop :=
  match target with
  | .requestHeaders => ∀ (request after : Request Body) outcome,
      applyRequestHeaderMutations request mutation (target.rules configured) =
        some (after, outcome) → KeepsRequest configured request after
  | .responseHeaders => ∀ (response after : Response Body) outcome,
      applyResponseHeaderMutations response mutation (target.rules configured) =
        some (after, outcome) → KeepsResponse configured response after
  | .trailers => ∀ trailers after outcome,
      applyTrailerMutations trailers mutation (target.rules configured) =
        some (after, outcome) → KeepsHeaders configured trailers after

/-! ## Which changes are carried out -/

/-- The changes whose keys, as spelled, are permitted, up to the first refusal if
that is an error. There are none to speak of if a rule panics. -/
def admitted (rules : HeaderMutationRules) : List HeaderChange → Option (List HeaderChange)
  | [] => some []
  | change :: changes =>
    match change.key with
    | none => admitted rules changes
    | some key =>
      match rules.isModificationPermitted key with
      | none => none
      | some true => (admitted rules changes).map (change :: ·)
      | some false => if rules.disallowIsError then some [] else admitted rules changes

def HeaderMutation.changes (mutation : HeaderMutation) : List HeaderChange :=
  mutation.removeHeaders.map .remove ++ mutation.setHeaders.map .set

/-- The canonical names of everything that is changed are permitted by the
configured rules. -/
def ChangesPermitted (configured : HeaderMutationRules) (mutation : HeaderMutation)
    (target : MutationTarget) : Prop :=
  ∀ changes, admitted (target.rules configured) mutation.changes = some changes →
    ∀ change ∈ changes, ∀ name effect, change.effect = some (name, effect) →
      Permits configured name.text

theorem applyChanges_append (rules : HeaderMutationRules) (first second : List HeaderChange)
    (headers : HeaderMap) :
    applyChanges rules (first ++ second) headers =
      match applyChanges rules first headers with
      | none => none
      | some (headers, .error refusal) => some (headers, .error refusal)
      | some (headers, .ok ()) => applyChanges rules second headers := by
  induction first generalizing headers with
  | nil => rfl
  | cons change changes induction =>
    rw [cons_append, applyChanges, applyChanges]
    cases change.key with
    | none => exact induction headers
    | some key =>
      dsimp only
      cases rules.isModificationPermitted key with
      | none => rfl
      | some permitted =>
        cases permitted with
        | true => exact induction (change.applyTo headers)
        | false =>
          by_cases isError : rules.disallowIsError
          · simp [isError]
          · simpa [isError] using induction headers

theorem applyHeaderMutations_eq (headers : HeaderMap) (mutation : HeaderMutation)
    (rules : HeaderMutationRules) :
    applyHeaderMutations headers mutation rules = applyChanges rules mutation.changes headers := by
  rw [HeaderMutation.changes, applyChanges_append]
  rfl

/-- What is carried out does not depend on the headers: the admitted changes are
applied one after the other. -/
theorem applyChanges_eq (rules : HeaderMutationRules) (changes : List HeaderChange)
    (headers : HeaderMap) : (applyChanges rules changes headers).map Prod.fst =
      (admitted rules changes).map fun changes =>
        applyAll (changes.filterMap HeaderChange.effect) headers := by
  induction changes generalizing headers with
  | nil => rfl
  | cons change changes induction =>
    rw [applyChanges, admitted]
    cases change.key with
    | none => exact induction headers
    | some key =>
      dsimp only
      cases rules.isModificationPermitted key with
      | none => rfl
      | some permitted =>
        cases permitted with
        | true =>
          rw [induction, map_map]
          congr 1
          funext later
          rw [Function.comp_apply, filterMap_cons, HeaderChange.applyTo]
          cases change.effect <;> rfl
        | false =>
          by_cases isError : rules.disallowIsError
          · simp [isError, applyAll]
          · simpa [isError] using induction headers

variable {rules : HeaderMutationRules}

/-- The headers left by a mutation are those that its admitted changes make. -/
theorem applyHeaderMutations_headers
    (applied : applyHeaderMutations headers mutation rules = some (after, outcome)) :
    ∃ changes, admitted rules mutation.changes = some changes ∧
      after = applyAll (changes.filterMap HeaderChange.effect) headers := by
  have made := applyChanges_eq rules mutation.changes headers
  rw [← applyHeaderMutations_eq, applied, map_some] at made
  rcases map_eq_some_iff.mp made.symm with ⟨changes, isAdmitted, equal⟩
  exact ⟨changes, isAdmitted, equal.symm⟩

variable {changes : List HeaderChange}

theorem exists_applyHeaderMutations (headers : HeaderMap)
    (isAdmitted : admitted rules mutation.changes = some changes) :
    ∃ outcome, applyHeaderMutations headers mutation rules =
      some (applyAll (changes.filterMap HeaderChange.effect) headers, outcome) := by
  have made := applyChanges_eq rules mutation.changes headers
  rw [isAdmitted, map_some, ← applyHeaderMutations_eq] at made
  rcases map_eq_some_iff.mp made with ⟨⟨after, outcome⟩, applied, rfl⟩
  exact ⟨outcome, applied⟩

/-! ## Regular headers -/

omit [RegexEngine] in
theorem changesOf_ne_nil (member : change ∈ changes) (takes : change.effect = some (name, effect)) :
    changesOf (changes.filterMap HeaderChange.effect) name ≠ [] := by
  apply ne_nil_of_mem
  exact mem_map_of_mem (mem_filter.mpr
    ⟨mem_filterMap.mpr ⟨change, member, takes⟩, by simp⟩)

omit [RegexEngine] in
theorem changesOf_eq_nil
    (others : ∀ change ∈ changes, ∀ other effect, change.effect = some (other, effect) →
      other ≠ name) : changesOf (changes.filterMap HeaderChange.effect) name = [] := by
  rw [changesOf, map_eq_nil_iff, filter_eq_nil_iff]
  rintro ⟨other, effect⟩ member
  rcases mem_filterMap.mp member with ⟨change, isChange, takes⟩
  simpa using others change isChange other effect takes

/-- Protected headers are kept for every header map exactly if every change that
is carried out has a permitted name. -/
theorem keepsHeaders_iff (configured rules : HeaderMutationRules) (mutation : HeaderMutation) :
    (∀ headers after outcome, applyHeaderMutations headers mutation rules = some (after, outcome) →
        KeepsHeaders configured headers after) ↔
      ∀ changes, admitted rules mutation.changes = some changes →
        ∀ change ∈ changes, ∀ name effect, change.effect = some (name, effect) →
          Permits configured name.text := by
  constructor
  · intro keeps changes isAdmitted change member name effect takes
    by_contra protect
    -- Some list of values of the name is changed, so that a map with it is.
    rcases exists_allValues_ne (changesOf_ne_nil member takes) with ⟨values, changed⟩
    let headers : HeaderMap := values.map fun value => (name, value)
    have present : headers.getAll name = values := by
      simp [headers, MultiMap.getAll, List.filter_map]
    rcases exists_applyHeaderMutations headers isAdmitted with ⟨outcome, applied⟩
    have kept := keeps headers _ outcome applied name protect
    rw [getAll_applyAll, present] at kept
    exact changed kept
  · intro permitted headers after outcome applied name protect
    rcases applyHeaderMutations_headers applied with ⟨changes, isAdmitted, rfl⟩
    have untouched : changesOf (changes.filterMap HeaderChange.effect) name = [] := by
      apply changesOf_eq_nil
      intro change member other effect takes same
      exact protect (same ▸ permitted changes isAdmitted change member other effect takes)
    rw [getAll_applyAll, untouched]
    rfl

/-! ## Pseudo-headers -/

omit [HttpCrate] in
theorem replacement_isSome (rules : HeaderMutationRules) (ascii : name.isAscii)
    (parse : Text → Option Value) (option : Option HeaderValueOption) :
    (replacement rules name parse option).isSome := by
  cases option with
  | none => rfl
  | some option =>
    rcases isSome_iff_exists.mp (rules.isModificationPermitted_isSome ascii) with ⟨permitted, equal⟩
    simp only [replacement, equal]
    cases permitted with
    | false => rfl
    | true =>
      cases tryExtractHeaderValueAsStr option with
      | none => rfl
      | some extracted => cases extracted <;> rfl

omit [HttpCrate] in
theorem replacement_eq_none (replaced : replacement rules name parse option = some value)
    (protect : ¬ Permits rules name) : value = none := by
  cases option with
  | none =>
    cases replaced
    rfl
  | some option =>
    rcases bind_eq_some_iff.mp replaced with ⟨permitted, equal, rest⟩
    cases permitted with
    | true => exact (protect equal).elim
    | false =>
      cases rest
      rfl

theorem applyUri_eq (uri : Uri) (pseudo : PseudoHeaders) (rules : HeaderMutationRules) :
    applyUri uri pseudo rules = do
      let scheme ← replacement rules pseudoHeaderScheme schemeFromStr pseudo.scheme
      let authority ← replacement rules pseudoHeaderAuthority authorityFromStr
        pseudo.authority
      let path ← replacement rules pseudoHeaderPath pathAndQueryFromStr pseudo.path
      return (uriFromParts ⟨scheme.or uri.scheme, authority.or uri.authority,
        path.or uri.pathAndQuery⟩).getD uri := by
  rw [applyUri]
  split
  · rfl
  · next unset =>
      simp only [Bool.or_eq_true, not_or, isSome_iff_ne_none, not_not] at unset
      rcases unset with ⟨⟨scheme, authority⟩, path⟩
      rw [scheme, authority, path]
      change some uri = some ((uriFromParts uri).getD uri)
      cases fitted : uriFromParts uri with
      | none => rfl
      | some parts => rw [uriFromParts_eq fitted, getD_some]

variable {Payload : Type}

theorem applyPseudoHeaders_eq (request : Request Payload) (pseudo : PseudoHeaders)
    (rules : HeaderMutationRules) :
    applyPseudoHeaders request pseudo rules = do
      let method ← replacement rules pseudoHeaderMethod methodFromBytes
        pseudo.method
      let uri ← applyUri request.uri pseudo rules
      return (method.getD request.method, uri) := by
  rw [applyPseudoHeaders]
  split
  · next unset =>
      simp only [PseudoHeaders.isEmpty, Bool.and_eq_true, isNone_iff_eq_none] at unset
      rcases unset with ⟨⟨⟨method, scheme⟩, authority⟩, path⟩
      rw [applyUri, method, scheme, authority, path]
      rfl
  · rfl

theorem applyUri_isSome (uri : Uri) (pseudo : PseudoHeaders) (rules : HeaderMutationRules) :
    (applyUri uri pseudo rules).isSome := by
  rcases isSome_iff_exists.mp (replacement_isSome rules
    (show pseudoHeaderScheme.isAscii by decide) schemeFromStr
    pseudo.scheme) with ⟨scheme, schemeEqual⟩
  rcases isSome_iff_exists.mp (replacement_isSome rules
    (show pseudoHeaderAuthority.isAscii by decide) authorityFromStr
    pseudo.authority) with ⟨authority, authorityEqual⟩
  rcases isSome_iff_exists.mp (replacement_isSome rules
    (show pseudoHeaderPath.isAscii by decide) pathAndQueryFromStr
    pseudo.path) with ⟨path, pathEqual⟩
  rw [applyUri_eq, schemeEqual, authorityEqual, pathEqual]
  rfl

/-- Parts that do not fit leave the URI alone, and a protected part is not
replaced. -/
theorem applyUri_keeps (applied : applyUri uri pseudo rules = some after) :
    (¬ Permits rules pseudoHeaderScheme → after.scheme = uri.scheme) ∧
      (¬ Permits rules pseudoHeaderAuthority → after.authority = uri.authority) ∧
      (¬ Permits rules pseudoHeaderPath → after.pathAndQuery = uri.pathAndQuery) := by
  simp only [applyUri_eq, bind_eq_bind, bind_eq_some_iff] at applied
  rcases applied with ⟨scheme, schemeEqual, authority, authorityEqual, path, pathEqual, ⟨⟩⟩
  cases fitted : uriFromParts ⟨scheme.or uri.scheme,
      authority.or uri.authority, path.or uri.pathAndQuery⟩ with
  | none => simp
  | some parts =>
    have same := uriFromParts_eq fitted
    refine ⟨?_, ?_, ?_⟩
    · intro protect
      simp [same, replacement_eq_none schemeEqual protect]
    · intro protect
      simp [same, replacement_eq_none authorityEqual protect]
    · intro protect
      simp [same, replacement_eq_none pathEqual protect]

theorem applyPseudoHeaders_isSome (request : Request Payload) (pseudo : PseudoHeaders)
    (rules : HeaderMutationRules) : (applyPseudoHeaders request pseudo rules).isSome := by
  rcases isSome_iff_exists.mp (replacement_isSome rules
    (show pseudoHeaderMethod.isAscii by decide) methodFromBytes
    pseudo.method) with ⟨method, methodEqual⟩
  rcases isSome_iff_exists.mp (applyUri_isSome request.uri pseudo rules) with ⟨uri, uriEqual⟩
  rw [applyPseudoHeaders_eq, methodEqual, uriEqual]
  rfl

theorem applyPseudoHeaders_keeps
    (applied : applyPseudoHeaders request pseudo rules = some (method, uri))
    (keeps : KeepsHeaders rules request.headers headers) :
    KeepsRequest rules request
      { request with method := method, uri := uri, headers := headers } := by
  simp only [applyPseudoHeaders_eq, bind_eq_bind, bind_eq_some_iff] at applied
  rcases applied with ⟨replaced, methodEqual, newUri, uriEqual, ⟨⟩⟩
  rcases applyUri_keeps uriEqual with ⟨scheme, authority, path⟩
  refine ⟨?_, scheme, authority, path, keeps⟩
  intro protect
  simp [replacement_eq_none methodEqual protect]

/-! ## Messages -/

theorem requestRules_iff (rules : HeaderMutationRules) (mutation : HeaderMutation) :
    (∀ (request after : Request Body) outcome,
      applyRequestHeaderMutations request mutation rules = some (after, outcome) →
        KeepsRequest rules request after) ↔
      ∀ headers after outcome,
        applyHeaderMutations headers mutation rules = some (after, outcome) →
          KeepsHeaders rules headers after := by
  constructor
  · intro keeps headers after outcome applied
    let request : Request Body := { Request.get [] with headers := headers }
    rcases isSome_iff_exists.mp (applyPseudoHeaders_isSome request (.ofMutation mutation) rules)
      with ⟨⟨method, uri⟩, pseudo⟩
    have whole : applyRequestHeaderMutations request mutation rules =
        some ({ request with method := method, uri := uri, headers := after }, outcome) := by
      rw [applyRequestHeaderMutations, pseudo]
      rw [applied]
      rfl
    exact (keeps request _ outcome whole).headers
  · intro keeps request after outcome applied
    simp only [applyRequestHeaderMutations, bind_eq_bind, bind_eq_some_iff] at applied
    rcases applied with ⟨⟨method, uri⟩, pseudo, ⟨headers, rest⟩, changed, ⟨⟩⟩
    exact applyPseudoHeaders_keeps pseudo (keeps _ _ _ changed)

theorem responseRules_iff (rules : HeaderMutationRules) (mutation : HeaderMutation) :
    (∀ (response after : Response Body) outcome,
      applyResponseHeaderMutations response mutation rules = some (after, outcome) →
        KeepsResponse rules response after) ↔
      ∀ headers after outcome,
        applyHeaderMutations headers mutation rules = some (after, outcome) →
          KeepsHeaders rules headers after := by
  constructor
  · intro keeps headers after outcome applied
    let response : Response Body := ⟨200, .http11, headers, .empty⟩
    rcases isSome_iff_exists.mp (replacement_isSome rules
      (show pseudoHeaderStatus.isAscii by decide)
      (fun text => parseU16 text >>= statusCodeFromU16)
      (PseudoHeaders.ofMutation mutation).status) with ⟨status, statusEqual⟩
    have whole : applyResponseHeaderMutations response mutation rules =
        some ({ response with status := status.getD response.status, headers := after },
          outcome) := by
      rw [applyResponseHeaderMutations, statusEqual]
      rw [applied]
      rfl
    exact (keeps response _ outcome whole).headers
  · intro keeps response after outcome applied
    simp only [applyResponseHeaderMutations, bind_eq_bind, bind_eq_some_iff] at applied
    rcases applied with ⟨status, statusEqual, ⟨headers, rest⟩, changed, ⟨⟩⟩
    refine ⟨?_, keeps _ _ _ changed⟩
    intro protect
    simp [replacement_eq_none statusEqual protect]

/-- Rules are enforced exactly if everything that is changed is permitted under its
canonical name. -/
theorem rulesEnforced_iff (configured : HeaderMutationRules) (mutation : HeaderMutation)
    (target : MutationTarget) :
    RulesEnforced configured mutation target ↔ ChangesPermitted configured mutation target := by
  rw [ChangesPermitted, ← keepsHeaders_iff]
  cases target with
  | requestHeaders => exact requestRules_iff configured mutation
  | responseHeaders => exact responseRules_iff configured mutation
  | trailers => exact Iff.rfl

end

/-! ## Two ways around the rules -/

def protectSecret : HeaderMutationRules where
  policy := .allowAll
  overrides := some ⟨[], [⟨false, .exact "x-secret".toList⟩]⟩

def setHeader (key value : Text) : HeaderMutation where
  setHeaders := [⟨some ⟨key, value, []⟩, none, .overwriteIfExistsOrAdd⟩]
  removeHeaders := []

def secretRequest (secret : Text) : Request Body :=
  { Request.get "/".toList with
    headers := [(.ofText "x-secret".toList, Ascii.toBytes secret)] }

/-- A capital letter gets around the rules for headers, and trailers are judged by
the default rules even where nothing may be modified. -/
theorem protected_headers_modified :
    letI := ascii
    letI := RegexEngine.literal
    ¬ Permits protectSecret "x-secret".toList ∧
      applyRequestHeaderMutations (secretRequest "old".toList)
          (setHeader "X-Secret".toList "new".toList) protectSecret =
        some (secretRequest "new".toList, .ok ()) ∧
      ¬ RulesEnforced protectSecret (setHeader "X-Secret".toList "new".toList)
        .requestHeaders ∧
      ¬ RulesEnforced { policy := .denyAll } (setHeader "x-sum".toList "1".toList)
        .trailers := by
  refine ⟨by decide, by decide, ?_, ?_⟩
  · intro enforced
    rcases enforced (secretRequest "old".toList) (secretRequest "new".toList) (.ok ())
      (by decide) with ⟨_, _, _, _, keeps⟩
    have kept := keeps (.ofText "x-secret".toList) (by decide)
    revert kept
    decide
  · intro enforced
    have kept := enforced [] [(.ofText "x-sum".toList, Ascii.toBytes "1".toList)] (.ok ())
      (by decide) (.ofText "x-sum".toList) (by decide)
    revert kept
    decide

end Orion.ExtProc
