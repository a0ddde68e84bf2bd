import Orion.Http.Message

/-! # Retry policies -/

namespace Orion.Configuration

open Foundation Http List Option Nat

/-! ## String matchers

Case-insensitive comparison slices the text at byte offsets. Slicing inside a
character panics, which is the outcome `none` of every matching function here.
-/

/-- A compiled expression. Two of them are equal when their sources are. -/
structure Regex where
  asStr : Text
  deriving DecidableEq

/-- The regular expression engine is not part of the repository. `findAt` gives
the byte range of the leftmost match that starts at or after an offset. -/
class RegexEngine where
  findAt : Regex → Text → Nat → Option (Nat × Nat)

/-- The engine restricted to expressions without special characters. -/
@[reducible] def RegexEngine.literal : RegexEngine where
  findAt regex text offset := do
    let (_, after) ← text.splitAt? offset
    let first ← after.find? regex.asStr
    return (offset + first, offset + first + regex.asStr.len)

def Regex.matchesFull [RegexEngine] (regex : Regex) (toMatch : Text) : Bool :=
  some toMatch.len ==
    (RegexEngine.findAt regex toMatch 0).map fun (first, last) => last - first

structure CaseSensitive where
  sensitive : Bool
  text : Text

namespace CaseSensitive

def equals (matcher : CaseSensitive) (other : Text) : Bool :=
  if matcher.sensitive then
    matcher.text == other
  else
    matcher.text.eqIgnoreAsciiCase other

def startsWith (matcher : CaseSensitive) (start : Text) : Option Bool :=
  if matcher.sensitive then
    some (start.isPrefixOf matcher.text)
  else if start.len ≤ matcher.text.len then
    (matcher.text.slice? 0 start.len).map start.eqIgnoreAsciiCase
  else
    some false

def endsWith (matcher : CaseSensitive) (ending : Text) : Option Bool :=
  if matcher.sensitive then
    some (ending.isSuffixOf matcher.text)
  else if ending.len ≤ matcher.text.len then
    (matcher.text.slice? (matcher.text.len - ending.len) matcher.text.len).map
      ending.eqIgnoreAsciiCase
  else
    some false

def findAmong (matcher : CaseSensitive) (needle : Text) :
    List Nat → Option (Option Nat)
  | [] => some none
  | offset :: offsets =>
    match matcher.text.slice? offset (offset + needle.len) with
    | none => none
    | some candidate =>
      if candidate.eqIgnoreAsciiCase needle then
        some (some offset)
      else
        matcher.findAmong needle offsets

def find (matcher : CaseSensitive) (needle : Text) : Option (Option Nat) :=
  if matcher.sensitive then
    some (matcher.text.find? needle)
  else if needle.len ≤ matcher.text.len then
    matcher.findAmong needle (range (matcher.text.len - needle.len + 1))
  else
    some none

def contains (matcher : CaseSensitive) (needle : Text) : Option Bool :=
  (matcher.find needle).map isSome

end CaseSensitive

inductive StringMatcherPattern where
  | exact (text : Text)
  | startingWith (text : Text)
  | endingWith (text : Text)
  | contains (text : Text)
  | regex (regex : Regex)
  deriving DecidableEq

structure StringMatcher where
  ignoreCase : Bool
  pattern : StringMatcherPattern
  deriving DecidableEq

def StringMatcher.matches [RegexEngine] (matcher : StringMatcher) (toMatch : Text) : Option Bool :=
  let caseMatcher : CaseSensitive := ⟨!matcher.ignoreCase, toMatch⟩
  match matcher.pattern with
  | .exact text => some (caseMatcher.equals text)
  | .startingWith start => caseMatcher.startsWith start
  | .endingWith ending => caseMatcher.endsWith ending
  | .contains needle => caseMatcher.contains needle
  | .regex regex => some (regex.matchesFull toMatch)

/-! ## ASCII text is matched without a panic -/

namespace CaseSensitive

variable {matcher : CaseSensitive} (ascii : matcher.text.isAscii = true)
include ascii

theorem slice_isSome (ordered : first ≤ last) (within : last ≤ matcher.text.len) :
    (matcher.text.slice? first last).isSome := by
  rw [Text.len_of_isAscii ascii] at within
  rw [Text.slice?_of_isAscii ascii ordered within]
  rfl

theorem startsWith_isSome (start : Text) : (matcher.startsWith start).isSome := by
  unfold startsWith
  split
  · rfl
  · split
    · rename_i fits
      rw [isSome_map]
      exact slice_isSome ascii (zero_le _) fits
    · rfl

theorem endsWith_isSome (ending : Text) : (matcher.endsWith ending).isSome := by
  unfold endsWith
  split
  · rfl
  · split
    · rw [isSome_map]
      exact slice_isSome ascii (Nat.sub_le _ _) (Nat.le_refl _)
    · rfl

theorem findAmong_isSome (needle : Text)
    (within : ∀ offset ∈ offsets, offset + needle.len ≤ matcher.text.len) :
    (matcher.findAmong needle offsets).isSome := by
  induction offsets with
  | nil => rfl
  | cons offset offsets induction =>
    have sliced := slice_isSome ascii (le_add_right offset needle.len) (within offset (by simp))
    rcases isSome_iff_exists.mp sliced with ⟨candidate, equal⟩
    simp only [findAmong, equal]
    split
    · rfl
    · exact induction fun offset member =>
        within offset (mem_cons_of_mem _ member)

theorem contains_isSome (needle : Text) : (matcher.contains needle).isSome := by
  unfold contains find
  rw [isSome_map]
  split
  · rfl
  · split
    · rename_i fits
      apply findAmong_isSome ascii
      intro offset member
      have bound := mem_range.mp member
      omega
    · rfl

end CaseSensitive

theorem StringMatcher.matches_isSome [RegexEngine] (matcher : StringMatcher)
    (ascii : text.isAscii) : (matcher.matches text).isSome := by
  unfold StringMatcher.matches
  cases matcher.pattern with
  | exact _ => rfl
  | startingWith start => exact CaseSensitive.startsWith_isSome ascii start
  | endingWith ending => exact CaseSensitive.endsWith_isSome ascii ending
  | contains needle => exact CaseSensitive.contains_isSome ascii needle
  | regex _ => rfl

/-! ## Header matchers -/

inductive HeaderNames where
  | method
  | path
  | scheme
  | normalHeader (name : HeaderName)
  deriving DecidableEq

structure HeaderMatcher where
  headerName : HeaderNames
  invertMatch : Bool
  treatMissingHeaderAsEmpty : Bool
  headerMatcher : StringMatcher
  deriving DecidableEq

namespace HeaderMatcher

variable [RegexEngine]

/-- A header value that is not text does not match. -/
def valueMatches (matcher : HeaderMatcher) : Option Text → Option Bool
  | none => some false
  | some text => matcher.headerMatcher.matches text

/-- Match one text, or none when it is absent; an absent text is not inverted. -/
def matchesText (matcher : HeaderMatcher) : Option Text → Option Bool
  | some text => (matcher.headerMatcher.matches text).map (xor matcher.invertMatch)
  | none =>
    if matcher.treatMissingHeaderAsEmpty then
      (matcher.headerMatcher.matches []).map (xor matcher.invertMatch)
    else
      some false

def matchesValues (matcher : HeaderMatcher) :
    List (Option Text) → Option Bool
  | [] => matcher.matchesText none
  | first :: rest => do
      let firstResult ← matcher.valueMatches first
      let anyOther ← rest.anyM matcher.valueMatches
      return xor (firstResult || anyOther) matcher.invertMatch

/-! ## Messages -/

variable [HttpCrate]

def isMatch (matcher : HeaderMatcher) (method : Option Text) (uri : Option Uri)
    (headers : HeaderMap) : Option Bool :=
  match matcher.headerName with
  | .method => matcher.matchesText method
  | .path => matcher.matchesText (uri.map Uri.path)
  | .scheme => matcher.matchesText (uri.bind Uri.scheme)
  | .normalHeader name =>
    matcher.matchesValues ((headers.getAll name).map HttpCrate.headerValueToStr)

def requestMatches (matcher : HeaderMatcher) (request : Request Payload) : Option Bool :=
  matcher.isMatch (some request.method) (some request.uri) request.headers

def responseMatches (matcher : HeaderMatcher) (response : Response Payload) : Option Bool :=
  matcher.isMatch none none response.headers

end HeaderMatcher

abbrev Duration := Nat

/-- The longest time span: seconds are counted in 64 bits. -/
def Duration.max : Duration := 2 ^ 64 * 1000000000 - 1

inductive RetryOn where
  | err5xx
  | gatewayError
  | reset
  | connectFailure
  | envoyRateLimited
  | retriable4xx
  | refusedStream
  | retriableStatusCodes
  | retriableHeaders
  | http3PostConnectFailure
  | grpcCancelled
  | grpcDeadlineExceeded
  | grpcInternal
  | grpcResourceExhausted
  | grpcUnavailable
  deriving DecidableEq

structure RetryBackoff where
  baseInterval : Duration := 25 * 1000000
  maxInterval : Duration := 250 * 1000000
  deriving DecidableEq

structure RetryPolicy where
  retryOn : List RetryOn
  numRetries : Nat
  perTryTimeout : Option Duration
  retriableStatusCodes : List StatusCode
  retryBackoff : RetryBackoff
  retriableHeaders : List HeaderMatcher
  retriableRequestHeaders : List HeaderMatcher
  deriving DecidableEq

/-- The `exponential-backoff` crate, of which only the number of pauses is
known. A missing pause is replaced by the caller. -/
class BackoffCrate where
  pauses : Nat → Duration → Duration → List (Option Duration)
  length_pauses : ∀ retries base max, (pauses retries base max).length = retries

@[reducible] def BackoffCrate.constant : BackoffCrate where
  pauses retries base _ := List.replicate retries (some base)
  length_pauses := by simp

namespace RetryPolicy

def exponentialBackOff [BackoffCrate] (policy : RetryPolicy) : List (Option Duration) :=
  BackoffCrate.pauses policy.numRetries policy.retryBackoff.baseInterval
    policy.retryBackoff.maxInterval

@[simp] theorem length_exponentialBackOff [BackoffCrate] (policy : RetryPolicy) :
    policy.exponentialBackOff.length = policy.numRetries :=
  BackoffCrate.length_pauses _ _ _

end RetryPolicy

end Orion.Configuration
