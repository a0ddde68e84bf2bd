import Orion.Foundation.MachineInteger
import Orion.Foundation.Narrowing
import Orion.Listeners.FilterState
import Orion.Listeners.Listener

/-! # Matching server names

A pattern is a name, or a wildcard for all names below a domain. A wildcard is scored by the
labels that it stands for, so that the longest matching wildcard has the best score.
-/

namespace Orion.Listeners

open Foundation

/-! ## Selecting a filter chain

The filter chains of a listener are narrowed down for each connection, by one criterion
after the other. For each criterion the most specific matches remain.
-/

/-! ## How well a filter chain matches -/

inductive DetectedTransportProtocol where
  | rawBuffer
  | ssl
  deriving DecidableEq

def DetectedTransportProtocol.tryFrom (value : Text) : Option DetectedTransportProtocol :=
  if value = "raw_buffer".toList then some .rawBuffer
  else if value = "ssl".toList then some .ssl
  else none

inductive MatchResult where
  | failedMatch
  | noRule
  | matched (score : Nat)
  deriving DecidableEq

namespace MatchResult

/-- A lower score is a more specific match. -/
def cmp : MatchResult → MatchResult → Ordering
  | .matched left, .matched right => (compare left right).swap
  | .failedMatch, .failedMatch | .noRule, .noRule => .eq
  | .matched _, _ | .noRule, .failedMatch => .gt
  | _, .matched _ | .failedMatch, .noRule => .lt

def max? : List MatchResult → Option MatchResult
  | [] => none
  | first :: rest => some (rest.foldl (fun best result =>
    if best.cmp result = .gt then best else result) first)

/-- Failing is worst, then having no rule, then matching by score. -/
def specificity : MatchResult → WithBot (WithBot ℕᵒᵈ)
  | .failedMatch => ⊥
  | .noRule => WithBot.some ⊥
  | .matched score => WithBot.some (WithBot.some (OrderDual.toDual score))

theorem specificity_injective : Function.Injective specificity := by
  intro left right same
  cases left <;> cases right <;> simp_all [specificity]

instance : LinearOrder MatchResult := LinearOrder.lift' specificity specificity_injective

instance : OrderBot MatchResult where
  bot := .failedMatch
  bot_le result := show specificity .failedMatch ≤ specificity result from bot_le

theorem cmp_eq_gt_iff {left : MatchResult} : left.cmp right = .gt ↔ right < left := by
  change _ ↔ specificity right < specificity left
  cases left <;> cases right <;> simp [cmp, specificity, Ordering.swap_eq_gt, Nat.compare_eq_lt]

end MatchResult

def rangeMatches (ip : IpAddr) (range : IpNet) : MatchResult :=
  if range.contains ip then .matched (ip.width - range.prefixLen) else .failedMatch

/-- The score is the number of labels that the wildcard stands for. `none` is a panic: a
wildcard has to begin with a character of one byte. -/
def ServerNameMatch.matches (self : ServerNameMatch) (serverName : Text) : Option MatchResult :=
  if self.matchSubdomains then
    if self.name.isSuffixOf serverName then
      if self.name.len = 0 then
        none
      else
        (serverName.slice? 0 (serverName.len - (self.name.len - 1))).map fun labels =>
          .matched (min (labels.count '.') (U32.limit - 1))
    else
      some .failedMatch
  else if serverName = self.name then
    some (.matched 0)
  else
    some .failedMatch

namespace FilterChainMatch

section

variable (self : FilterChainMatch)

def matchesDestinationPort (port : Fin 65536) : MatchResult :=
  match self.destinationPort with
  | some destination => if port = destination then .matched 0 else .failedMatch
  | none => .noRule

def matchesDestinationIp (ip : IpAddr) : MatchResult :=
  (MatchResult.max? (self.destinationPrefixRanges.map (rangeMatches ip))).getD .noRule

def matchesServerName (serverName : Text) : Option MatchResult :=
  (self.serverNames.mapM fun name : ServerNameMatch => name.matches serverName).map fun results =>
    (MatchResult.max? results).getD .noRule

def matchesDetectedTransportProtocol (detected : DetectedTransportProtocol) : MatchResult :=
  if self.transportProtocol = [] then
    .noRule
  else
    match DetectedTransportProtocol.tryFrom self.transportProtocol with
    | some protocol => if protocol = detected then .matched 0 else .failedMatch
    | none => .failedMatch

def matchesSourcePort (sourcePort : Fin 65536) : MatchResult :=
  if self.sourcePorts = [] then .noRule
  else if sourcePort ∈ self.sourcePorts then .matched 0
  else .failedMatch

def matchesSourceIp (ip : IpAddr) : MatchResult :=
  (MatchResult.max? (self.sourcePrefixRanges.map (rangeMatches ip))).getD .noRule

end

end FilterChainMatch

/-! ## Selection -/

/-- The filter chains of a listener, in the order in which their map is iterated. -/
structure FilterChains (Chain : Type) where
  entries : List (FilterChainMatch × Chain)
  distinct : (entries.map Prod.fst).Nodup

structure Candidate (Chain : Type) where
  rule : FilterChainMatch
  chain : Chain
  possible : Bool
  scratch : MatchResult

inductive SelectionError where
  | panicked
  | message (text : Text)
  deriving DecidableEq

namespace Candidate

variable {Chain : Type}

def mark (function : FilterChainMatch → Option MatchResult) :
    MatchResult → List (Candidate Chain) → Option (List (Candidate Chain) × MatchResult)
  | best, [] => some ([], best)
  | best, candidate :: rest =>
    if candidate.possible then do
      let result ← function candidate.rule
      let (rest, best) ← mark function (if result.cmp best = .gt then result else best) rest
      return ({ candidate with scratch := result } :: rest, best)
    else do
      let (rest, best) ← mark function best rest
      return (candidate :: rest, best)

/-- Results that failed, or are less specific than the best, are no longer possible. -/
def trim (best : MatchResult) (candidate : Candidate Chain) : Candidate Chain :=
  if candidate.scratch ≠ best ∨ candidate.scratch = .failedMatch then
    { candidate with possible := false }
  else
    candidate

def matchSubitem (function : FilterChainMatch → Option MatchResult)
    (candidates : List (Candidate Chain)) : Option (List (Candidate Chain)) := do
  let (marked, best) ← mark function .failedMatch candidates
  return marked.map (trim best)

end Candidate

namespace FilterChains

variable {Chain : Type}

def candidates (self : FilterChains Chain) : List (Candidate Chain) :=
  self.entries.map fun (rule, chain) => ⟨rule, chain, true, .noRule⟩

def multipleMatched : Text :=
  "multiple filterchains matched a single connection. This is a bug in orion!".toList

structure Connection where
  metadata : DownstreamConnectionMetadata
  serverName : Option Text
  transportProtocol : DetectedTransportProtocol
  deriving DecidableEq

def narrowed (self : FilterChains Chain) (connection : Connection) :
    Option (List (Candidate Chain)) := do
  let source := connection.metadata.peerAddress
  let destination := connection.metadata.originalDestinationAddress
  let candidates ← Candidate.matchSubitem
    (fun rule => some (rule.matchesDestinationPort destination.port)) self.candidates
  let candidates ← Candidate.matchSubitem
    (fun rule => some (rule.matchesDestinationIp destination.ip)) candidates
  let candidates ← Candidate.matchSubitem
    (fun rule => rule.matchesServerName (connection.serverName.getD [])) candidates
  let candidates ← Candidate.matchSubitem
    (fun rule => some (rule.matchesDetectedTransportProtocol connection.transportProtocol))
    candidates
  let candidates ← Candidate.matchSubitem
    (fun rule => some (rule.matchesSourceIp source.ip)) candidates
  Candidate.matchSubitem (fun rule => some (rule.matchesSourcePort source.port)) candidates

def selectFilterchain (self : FilterChains Chain) (connection : Connection) :
    Except SelectionError (Option Chain) :=
  match self.narrowed connection with
  | none => .error .panicked
  | some candidates =>
    match candidates.filter Candidate.possible with
    | [] => .ok none
    | [candidate] => .ok (some candidate.chain)
    | _ :: _ :: _ => .error (.message multipleMatched)

end FilterChains

open ServerNameMatch MatchResult Text Option
open List hiding max?

namespace MatchResult

theorem matched_le_matched : (.matched left : MatchResult) ≤ .matched right ↔ right ≤ left := by
  change specificity _ ≤ specificity _ ↔ _
  simp [specificity]

theorem matched_lt_matched : (.matched left : MatchResult) < .matched right ↔ right < left := by
  rw [← not_le, matched_le_matched, not_le]

theorem noRule_lt_matched (score : Nat) : (.noRule : MatchResult) < .matched score := by
  change specificity _ < specificity _
  simp [specificity]

theorem isGreatest_max? (found : max? results = some best) :
    IsGreatest {result | result ∈ results} best := by
  cases results with
  | nil => cases found
  | cons first rest =>
    cases found
    induction rest generalizing first with
    | nil => exact ⟨mem_cons_self, fun _ member => (mem_singleton.mp member).le⟩
    | cons second rest induction =>
      rw [foldl_cons]
      split
      · rename_i better
        rcases induction first with ⟨inside, bound⟩
        refine ⟨?_, ?_⟩
        · exact (mem_cons.mp inside).elim (fun same => by simp [same])
            fun later => mem_cons_of_mem _ (mem_cons_of_mem _ later)
        · intro result member
          rcases mem_cons.mp member with rfl | member
          · exact bound mem_cons_self
          · rcases mem_cons.mp member with rfl | member
            · exact (cmp_eq_gt_iff.mp better).le.trans (bound mem_cons_self)
            · exact bound (mem_cons_of_mem _ member)
      · rename_i worse
        rcases induction second with ⟨inside, bound⟩
        refine ⟨mem_cons_of_mem _ inside, ?_⟩
        intro result member
        rcases mem_cons.mp member with rfl | member
        · have small := not_lt.mp fun better => worse (cmp_eq_gt_iff.mpr better)
          exact small.trans (bound mem_cons_self)
        · exact bound member

end MatchResult

/-! ## Wildcards -/

/-- A wildcard that stands at the end of the server name begins with one byte. -/
def ServerNameMatch.Readable (self : ServerNameMatch) (serverName : Text) : Prop :=
  self.matchSubdomains = true → self.name.isSuffixOf serverName = true →
    ∃ first rest, self.name = first :: rest ∧ first.utf8Size = 1

theorem slice?_wildcard (before : Text) (first : Char) (rest : Text) :
    (before ++ first :: rest : Text).slice? 0 (len before + 1) =
      if first.utf8Size = 1 then some (before ++ [first]) else none := by
  have positive := first.utf8Size_pos
  have start : splitAt? (before ++ first :: rest) 0 = some ([], before ++ first :: rest) := by
    cases before <;> rfl
  simp only [slice?, start, bind_eq_bind, bind_some, Nat.sub_zero, splitAt?_append]
  by_cases small : first.utf8Size ≤ 1
  · have one : first.utf8Size = 1 := by omega
    cases rest <;> simp [splitAt?, one]
  · have large : first.utf8Size ≠ 1 := by omega
    simp [splitAt?, small, large]

namespace ServerNameMatch

variable {self : ServerNameMatch} {serverName : Text}

/-- The score of a wildcard at the end of a server name: the dots up to its first character. -/
def wildcardScore (before : Text) (first : Char) : Nat :=
  min ((before ++ [first]).count '.') (U32.limit - 1)

theorem matches_wildcard (wildcard : self.matchSubdomains) (named : self.name = first :: rest) :
    self.matches (before ++ first :: rest) =
      if first.utf8Size = 1 then some (.matched (wildcardScore before first)) else none := by
  have positive := first.utf8Size_pos
  have suffix : self.name.isSuffixOf (before ++ first :: rest) :=
    isSuffixOf_iff_suffix.mpr ⟨before, by rw [named]⟩
  have offset : len (before ++ first :: rest) - (len (first :: rest) - 1) = len before + 1 := by
    simp only [len, map_append, map_cons, sum_append, sum_cons]
    omega
  have filled : len (first :: rest) ≠ 0 := by
    simp only [len, map_cons, sum_cons]
    omega
  unfold ServerNameMatch.matches
  rw [if_pos wildcard, if_pos suffix, named, if_neg filled, offset, slice?_wildcard]
  split <;> rfl

theorem matches_of_not_suffix (wildcard : self.matchSubdomains)
    (other : ¬ self.name <:+ serverName) : self.matches serverName = some .failedMatch := by
  unfold ServerNameMatch.matches
  rw [if_pos wildcard, if_neg fun suffix => other (isSuffixOf_iff_suffix.mp suffix)]

theorem matches_exact (exact : self.matchSubdomains = false) :
    self.matches serverName =
      some (if serverName = self.name then .matched 0 else .failedMatch) := by
  unfold ServerNameMatch.matches
  rw [if_neg (by simp [exact])]
  split <;> rfl

theorem matches_isSome_iff : (self.matches serverName).isSome ↔ self.Readable serverName := by
  cases kind : self.matchSubdomains with
  | false => simp [matches_exact kind, Readable, kind]
  | true =>
    by_cases suffix : self.name <:+ serverName
    · rcases suffix with ⟨before, rfl⟩
      cases named : self.name with
      | nil => simp [ServerNameMatch.matches, Readable, kind, named, len]
      | cons first rest =>
        rw [matches_wildcard kind named]
        by_cases one : first.utf8Size = 1 <;> simp [Readable, kind, named]
    · have apart : self.name.isSuffixOf serverName ≠ true :=
        fun ends => suffix (isSuffixOf_iff_suffix.mp ends)
      simp [matches_of_not_suffix kind suffix, Readable, apart]

end ServerNameMatch

theorem mapM_isSome_iff {function : α → Option β} {elements : List α} :
    (elements.mapM function).isSome ↔ ∀ element ∈ elements, (function element).isSome := by
  induction elements with
  | nil => simp
  | cons element elements induction =>
    rw [mapM_cons, forall_mem_cons, ← induction]
    cases function element <;> cases elements.mapM function <;> simp

theorem FilterChainMatch.matchesServerName_isSome_iff {self : FilterChainMatch} :
    (self.matchesServerName serverName).isSome ↔
      ∀ name ∈ self.serverNames, name.Readable serverName := by
  simp only [matchesServerName, isSome_map, mapM_isSome_iff, matches_isSome_iff]

/-! ## What patterns stand for -/

namespace ServerNameMatch

/-- The domain of a wildcard, which is written with a dot before it or without. -/
def domain (self : ServerNameMatch) : Text :=
  match self.name with
  | '.' :: rest => rest
  | name => name

/-- A wildcard stands for all names below its domain. Case makes no difference. -/
def Covers (self : ServerNameMatch) (serverName : Text) : Prop :=
  if self.matchSubdomains then
    ∃ labels, labels ≠ [] ∧
      serverName.toAsciiLower = labels ++ '.' :: self.domain.toAsciiLower
  else
    serverName.toAsciiLower = self.name.toAsciiLower

/-- A wildcard stands at the end of a server name only after a label and a dot, and if it does
so in another case, then also as it is written. -/
def Plain (self : ServerNameMatch) (serverName : Text) : Prop :=
  if self.matchSubdomains then
    (self.name <:+ serverName →
      ∃ labels, labels ≠ [] ∧ serverName = labels ++ '.' :: self.domain) ∧
    ∀ labels, labels ≠ [] →
      serverName.toAsciiLower = labels ++ '.' :: self.domain.toAsciiLower →
        self.name <:+ serverName
  else
    serverName.toAsciiLower = self.name.toAsciiLower → serverName = self.name

variable {self : ServerNameMatch} {serverName : Text}

theorem matched_iff_suffix (wildcard : self.matchSubdomains) (readable : self.Readable serverName) :
    (∃ score, self.matches serverName = some (.matched score)) ↔ self.name <:+ serverName := by
  constructor
  · rintro ⟨score, matched⟩
    by_contra other
    rw [matches_of_not_suffix wildcard other] at matched
    cases matched
  · rintro ⟨before, rfl⟩
    rcases readable wildcard (by simp) with ⟨first, rest, named, one⟩
    rw [named, matches_wildcard wildcard named, if_pos one]
    exact ⟨_, rfl⟩

theorem matched_iff_eq (exact : self.matchSubdomains = false) :
    (∃ score, self.matches serverName = some (.matched score)) ↔ serverName = self.name := by
  rw [matches_exact exact]
  by_cases same : serverName = self.name <;> simp [same]

/-- A domain that stands at the end in another case does so as it is written, if the wildcard
does. -/
theorem domain_of_lower (filled : labels ≠ []) (suffix : self.name <:+ serverName)
    (lower : serverName.toAsciiLower = labels ++ '.' :: self.domain.toAsciiLower) :
    ∃ labels, labels ≠ [] ∧ serverName = labels ++ '.' :: self.domain := by
  rcases suffix with ⟨before, rfl⟩
  have positive := length_pos_iff.mpr filled
  rw [toAsciiLower, map_append] at lower
  unfold domain at lower ⊢
  split
  · rename_i rest named
    rw [named] at lower
    refine ⟨before, ?_, by rw [named]⟩
    have length := congrArg length lower
    simp only [toAsciiLower, length_append, length_map, length_cons] at length
    exact length_pos_iff.mp (by omega)
  · rename_i undotted
    split at lower
    · rename_i rest named
      exact absurd named (undotted rest)
    · rw [append_cons] at lower
      have ends := append_cancel_right lower
      rcases eq_nil_or_concat before with rfl | ⟨earlier, last, rfl⟩
      · simp at ends
      · simp only [concat_eq_append, map_append] at ends ⊢
        rcases append_inj' ends rfl with ⟨same, dot⟩
        refine ⟨earlier, ?_, ?_⟩
        · rintro rfl
          exact filled same.symm
        · rw [toLower_eq_dot (singleton_inj.mp dot), append_assoc, singleton_append]

/-- A pattern matches what it stands for, exactly if it does so as it is written. -/
theorem matches_covered_iff (readable : self.Readable serverName) :
    ((∃ score, self.matches serverName = some (.matched score)) ↔ self.Covers serverName) ↔
      self.Plain serverName := by
  unfold Covers Plain
  cases kind : self.matchSubdomains with
  | false =>
    rw [matched_iff_eq kind, if_neg nofun, if_neg nofun]
    constructor
    · exact fun same => same.mpr
    · intro plain
      refine ⟨?_, plain⟩
      rintro rfl
      rfl
  | true =>
    rw [matched_iff_suffix kind readable, if_pos rfl, if_pos rfl]
    constructor
    · intro same
      refine ⟨?_, fun labels filled lower => same.mpr ⟨labels, filled, lower⟩⟩
      intro suffix
      rcases same.mp suffix with ⟨labels, filled, lower⟩
      exact domain_of_lower filled suffix lower
    · rintro ⟨plain, lower⟩
      refine ⟨?_, fun ⟨labels, filled, same⟩ => lower labels filled same⟩
      intro suffix
      rcases plain suffix with ⟨labels, filled, same⟩
      refine ⟨toAsciiLower labels, ?_, ?_⟩
      · simpa [toAsciiLower] using filled
      · rw [same, toAsciiLower, map_append]
        rfl

/-! ## The order of the scores -/

theorem matches_of_domain (wildcard : self.matchSubdomains)
    (readable : self.Readable serverName) (suffix : self.name <:+ serverName)
    (split : serverName = labels ++ '.' :: self.domain) :
    self.matches serverName = some (.matched (min (labels.count '.' + 1) (U32.limit - 1))) := by
  rcases readable wildcard (isSuffixOf_iff_suffix.mpr suffix) with ⟨first, rest, named, one⟩
  by_cases dotted : first = '.'
  · subst dotted
    have domain : self.domain = rest := by simp [domain, named]
    rw [split, domain, matches_wildcard wildcard named, if_pos one, wildcardScore,
      count_append]
    rfl
  · have domain : self.domain = first :: rest := by
      unfold domain
      rw [named]
      split
      · rename_i same
        exact absurd (cons.inj same).1 dotted
      · rfl
    rw [split, domain, append_cons, matches_wildcard wildcard named, if_pos one, wildcardScore]
    simp [dotted]

theorem count_lt_of_longer (same : long ++ '.' :: longDomain = short ++ '.' :: shortDomain)
    (longer : shortDomain.length < longDomain.length) : long.count '.' < short.count '.' := by
  rcases append_eq_append_iff.mp same with ⟨middle, rfl, rest⟩ | ⟨middle, rfl, rest⟩
  · cases middle with
    | nil =>
      cases rest
      omega
    | cons dot middle =>
      cases rest
      simp only [count_append, count_cons_self]
      omega
  · have length := congrArg length rest
    simp only [length_append, length_cons] at length
    omega

end ServerNameMatch

/-! ## Lists of patterns -/

theorem mapM_eq_some_map {elements : List α}
    (each : ∀ element ∈ elements, function element = some (value element)) :
    elements.mapM function = some (elements.map value) := by
  induction elements with
  | nil => rfl
  | cons element elements induction =>
    rcases forall_mem_cons.mp each with ⟨now, later⟩
    rw [mapM_cons, now, induction later]
    rfl

namespace FilterChainMatch

/-- The result for a list of patterns is the best of their scores, if none of them panics. -/
theorem matchesServerName_eq {self : FilterChainMatch}
    (readable : ∀ name ∈ self.serverNames, name.Readable serverName) :
    ∃ result, self.matchesServerName serverName = some result ∧
      (self.serverNames = [] → result = .noRule) ∧ (self.serverNames ≠ [] →
        IsGreatest {score | ∃ name ∈ self.serverNames, name.matches serverName = some score}
          result) := by
  have each : ∀ name ∈ self.serverNames, name.matches serverName =
      some ((name.matches serverName).getD .failedMatch) := by
    intro name member
    rcases isSome_iff_exists.mp (matches_isSome_iff.mpr (readable name member)) with ⟨score, found⟩
    rw [found]
    rfl
  rw [matchesServerName, mapM_eq_some_map each]
  refine ⟨_, rfl, ?_, ?_⟩
  · intro none
    rw [none]
    rfl
  · intro some
    dsimp only
    cases best : max? (self.serverNames.map fun name =>
        (name.matches serverName).getD .failedMatch) with
    | none =>
      cases names : self.serverNames with
      | nil => exact absurd names some
      | cons first rest =>
        rw [names] at best
        cases best
    | some result =>
      have scores : {score | score ∈ self.serverNames.map fun name =>
            (name.matches serverName).getD .failedMatch} =
          {score | ∃ name ∈ self.serverNames, name.matches serverName = .some score} := by
        ext score
        constructor
        · intro inside
          rcases mem_map.mp inside with ⟨name, member, rfl⟩
          exact ⟨name, member, each name member⟩
        · rintro ⟨name, member, found⟩
          exact mem_map.mpr ⟨name, member, by rw [found]; rfl⟩
      have greatest := isGreatest_max? best
      rw [scores] at greatest
      exact greatest

/-- The result for a server name is the best score of a pattern, and the scores order the
patterns that match as they should. -/
structure RanksServerNames (rule : FilterChainMatch) (serverName : Text) : Prop where
  best : ∃ result, rule.matchesServerName serverName = some result ∧
    (rule.serverNames = [] → result = .noRule) ∧
    (rule.serverNames ≠ [] →
      IsGreatest {score | ∃ name ∈ rule.serverNames, name.matches serverName = some score}
        result)
  covers : ∀ name ∈ rule.serverNames,
    (∃ score, name.matches serverName = some (.matched score)) ↔ name.Covers serverName
  anyFirst : ∀ name ∈ rule.serverNames, ∀ score,
    name.matches serverName = some (.matched score) → .noRule < matched score
  exactFirst : ∀ exact ∈ rule.serverNames, exact.matchSubdomains = false →
    ∀ wildcard ∈ rule.serverNames, wildcard.matchSubdomains = true → ∀ better worse,
      exact.matches serverName = some (.matched better) →
      wildcard.matches serverName = some (.matched worse) →
        matched worse < .matched better
  longerFirst : ∀ long ∈ rule.serverNames, long.matchSubdomains = true →
    ∀ short ∈ rule.serverNames, short.matchSubdomains = true →
      short.domain.length < long.domain.length → ∀ better worse,
        long.matches serverName = some (.matched better) →
        short.matches serverName = some (.matched worse) →
          matched worse < .matched better

/-- Where two wildcards match, the labels before the longer one can be counted. -/
def Countable (rule : FilterChainMatch) (serverName : Text) : Prop :=
  ∀ long ∈ rule.serverNames, long.matchSubdomains = true →
    ∀ short ∈ rule.serverNames, short.matchSubdomains = true →
      short.domain.length < long.domain.length →
      long.name <:+ serverName → short.name <:+ serverName →
        ∀ labels, serverName = labels ++ '.' :: long.domain →
          labels.count '.' + 1 < U32.limit - 1

section

variable {rule : FilterChainMatch} {serverName : Text}

theorem matches_pair {long short : ServerNameMatch} (longWild : long.matchSubdomains)
    (shortWild : short.matchSubdomains) (longPlain : long.Plain serverName)
    (shortPlain : short.Plain serverName) (longRead : long.Readable serverName)
    (shortRead : short.Readable serverName) (longer : short.domain.length < long.domain.length)
    (longEnds : long.name <:+ serverName) (shortEnds : short.name <:+ serverName) :
    ∃ more fewer : Text, serverName = fewer ++ '.' :: long.domain ∧
      fewer.count '.' < more.count '.' ∧
      long.matches serverName =
        some (.matched (min (fewer.count '.' + 1) (U32.limit - 1))) ∧
      short.matches serverName = some (.matched (min (more.count '.' + 1) (U32.limit - 1))) := by
  rw [ServerNameMatch.Plain, if_pos longWild] at longPlain
  rw [ServerNameMatch.Plain, if_pos shortWild] at shortPlain
  rcases longPlain.1 longEnds with ⟨fewer, _, longSplit⟩
  rcases shortPlain.1 shortEnds with ⟨more, _, shortSplit⟩
  exact ⟨more, fewer, longSplit, count_lt_of_longer (longSplit.symm.trans shortSplit) longer,
    matches_of_domain longWild longRead longEnds longSplit,
    matches_of_domain shortWild shortRead shortEnds shortSplit⟩

theorem RanksServerNames.readable (ranks : rule.RanksServerNames serverName) :
    ∀ name ∈ rule.serverNames, name.Readable serverName := by
  rcases ranks.best with ⟨result, found, _⟩
  exact matchesServerName_isSome_iff.mp (by rw [found]; rfl)

theorem RanksServerNames.countable (ranks : rule.RanksServerNames serverName) :
    rule.Countable serverName := by
  intro long longMember longWild short shortMember shortWild longer longEnds shortEnds labels split
  have longRead := ranks.readable long longMember
  have shortRead := ranks.readable short shortMember
  rcases matches_pair longWild shortWild
    ((matches_covered_iff longRead).mp (ranks.covers long longMember))
    ((matches_covered_iff shortRead).mp (ranks.covers short shortMember))
    longRead shortRead longer longEnds shortEnds with ⟨more, fewer, same, _, better, worse⟩
  cases append_cancel_right (split.symm.trans same)
  have strict := matched_lt_matched.mp
    (ranks.longerFirst long longMember longWild short shortMember shortWild longer _ _ better worse)
  omega

/-- The scores order the patterns exactly if each of them is plain, and the labels can be
counted. -/
theorem ranksServerNames_iff (rule : FilterChainMatch) (serverName : Text) :
    rule.RanksServerNames serverName ↔
      (∀ name ∈ rule.serverNames, name.Readable serverName ∧ name.Plain serverName) ∧
        rule.Countable serverName := by
  constructor
  · intro ranks
    refine ⟨fun name member => ?_, ranks.countable⟩
    have readable := ranks.readable name member
    exact ⟨readable, (matches_covered_iff readable).mp (ranks.covers name member)⟩
  · rintro ⟨plain, countable⟩
    have suffix : ∀ {name score}, name ∈ rule.serverNames → name.matchSubdomains = true →
        name.matches serverName = some (.matched score) → name.name <:+ serverName :=
      fun member wildcard found =>
        (matched_iff_suffix wildcard (plain _ member).1).mp ⟨_, found⟩
    refine ⟨matchesServerName_eq fun name member => (plain name member).1, ?_, ?_, ?_, ?_⟩
    · intro name member
      exact (matches_covered_iff (plain name member).1).mpr (plain name member).2
    · exact fun _ _ score _ => noRule_lt_matched score
    · intro exact exactMember isExact wildcard member isWildcard better worse first second
      have ends := suffix member isWildcard second
      have split := (plain wildcard member).2
      rw [ServerNameMatch.Plain, if_pos isWildcard] at split
      rcases split.1 ends with ⟨labels, _, split⟩
      rw [matches_of_domain isWildcard (plain wildcard member).1 ends split] at second
      rw [matches_exact isExact] at first
      split at first
      · cases first
        cases second
        rw [matched_lt_matched]
        simp [U32.limit]
      · cases first
    · intro long longMember longWild short shortMember shortWild longer better worse first second
      have longEnds := suffix longMember longWild first
      have shortEnds := suffix shortMember shortWild second
      rcases matches_pair longWild shortWild (plain long longMember).2 (plain short shortMember).2
        (plain long longMember).1 (plain short shortMember).1 longer longEnds shortEnds with
        ⟨more, fewer, split, count, longScore, shortScore⟩
      cases first.symm.trans longScore
      cases second.symm.trans shortScore
      have small := countable long longMember longWild short shortMember shortWild longer
        longEnds shortEnds fewer split
      rw [matched_lt_matched]
      omega

end

/-! ## Patterns that are misread -/

/-- A host in capital letters, a name of which nothing stands for the wildcard, and a wildcard
without its dot. -/
theorem server_names_misread :
    let exact : FilterChainMatch := { serverNames := [⟨"example.com".toList, false⟩] }
    let dotted : FilterChainMatch := { serverNames := [⟨".example.com".toList, true⟩] }
    let undotted : FilterChainMatch := { serverNames := [⟨"example.com".toList, true⟩] }
    (exact.matchesServerName "EXAMPLE.com".toList = some .failedMatch ∧
      ¬ exact.RanksServerNames "EXAMPLE.com".toList) ∧
    (dotted.matchesServerName ".example.com".toList = some (.matched 1) ∧
      ¬ dotted.RanksServerNames ".example.com".toList) ∧
    undotted.matchesServerName "badexample.com".toList = some (.matched 0) ∧
      ¬ undotted.RanksServerNames "badexample.com".toList := by
  refine ⟨⟨rfl, ?_⟩, ⟨rfl, ?_⟩, rfl, ?_⟩
  · intro ranks
    rcases (ranks.covers _ mem_cons_self).mpr rfl with ⟨score, ⟨⟩⟩
  · intro ranks
    rcases (ranks.covers _ mem_cons_self).mp ⟨1, rfl⟩ with ⟨labels, filled, split⟩
    have length := congrArg length split
    simp only [length_append] at length
    have positive := length_pos_iff.mpr filled
    have total : (toAsciiLower ".example.com".toList).length = 12 := rfl
    have rest : ('.' :: toAsciiLower (domain ⟨".example.com".toList, true⟩)).length = 12 := rfl
    omega
  · intro ranks
    rcases (ranks.covers _ mem_cons_self).mp ⟨0, rfl⟩ with ⟨labels, _, split⟩
    have before := congrArg (fun text : Text => (text.reverse.drop 11).head?) split
    simp only [reverse_append] at before
    cases before

end FilterChainMatch

end Orion.Listeners
