import Orion.Listeners.UnambiguousSelection

/-! # The most specific filter chain

What is selected should be what is left by keeping, for one criterion after the other, the
filter chains that match the connection most specifically: the longest prefix, and the exact
name before the longest wildcard. The scores of the criteria only have to follow that order.
-/

namespace Orion.Listeners

open Foundation FilterChainMatch List Option Nat MatchResult

/-! ## How specific a match is -/

inductive Specificity where
  | unmatched
  | anything
  | partly (length : ℕ)
  | exact
  deriving DecidableEq

namespace Specificity

def rank : Specificity → WithBot (WithBot (WithTop ℕ))
  | .unmatched => ⊥
  | .anything => WithBot.some ⊥
  | .partly length => WithBot.some (WithBot.some (WithTop.some length))
  | .exact => WithBot.some (WithBot.some ⊤)

theorem rank_injective : Function.Injective rank := by
  intro left right same
  cases left <;> cases right <;> simp_all [rank]

instance : LinearOrder Specificity := LinearOrder.lift' rank rank_injective

instance : OrderBot Specificity where
  bot := .unmatched
  bot_le specificity := show rank .unmatched ≤ rank specificity from bot_le

/-- The best of several alternatives. No alternatives are no requirement. -/
def best (alternatives : List Specificity) : Specificity := alternatives.max?.getD .anything

/-- The result that stands for a specificity, with a score for each length. -/
def toResult (score : ℕ → ℕ) : Specificity → MatchResult
  | .unmatched => .failedMatch
  | .anything => .noRule
  | .partly length => .matched (score length)
  | .exact => .matched 0

theorem toResult_eq_bot_iff (specificity : Specificity) :
    toResult score specificity = ⊥ ↔ specificity = ⊥ := by
  cases specificity with
  | unmatched => exact iff_of_true rfl rfl
  | anything | partly | exact => exact iff_of_false nofun nofun

theorem toResult_monotone (antitone : Antitone score) : Monotone (toResult score) := by
  intro left right le
  change rank left ≤ rank right at le
  change specificity _ ≤ specificity _
  cases left <;> cases right <;> simp_all [rank, toResult, specificity]
  · exact antitone le
  · exact zero_le _

theorem toResult_best (antitone : Antitone score) (alternatives : List Specificity) :
    toResult score (best alternatives) =
      (MatchResult.max? (alternatives.map (toResult score))).getD .noRule := by
  cases alternatives with
  | nil => rfl
  | cons first rest =>
    cases greatest : (first :: rest).max? with
    | none => simp at greatest
    | some chosen =>
      rcases max?_eq_some_iff.mp greatest with ⟨member, bound⟩
      cases found : MatchResult.max? ((first :: rest).map (toResult score)) with
      | none => cases found
      | some result =>
        have known := isGreatest_max? found
        rw [best, greatest, getD_some, getD_some]
        refine IsGreatest.unique ⟨mem_map_of_mem member, ?_⟩ known
        intro other inside
        rcases mem_map.mp inside with ⟨alternative, listed, rfl⟩
        exact toResult_monotone antitone (bound alternative listed)

theorem toResult_inj_of_not_partly (leftWhole : ∀ length, left ≠ .partly length)
    (rightWhole : ∀ length, right ≠ .partly length)
    (same : toResult score left = toResult score right) : left = right := by
  cases left <;> cases right <;> simp_all [toResult]

theorem toResult_inj_of_le
    (leftBelow : left ≠ .exact ∧ ∀ length, left = .partly length → length ≤ bound)
    (rightBelow : right ≠ .exact ∧ ∀ length, right = .partly length → length ≤ bound)
    (same : toResult (fun length => bound - length) left =
      toResult (fun length => bound - length) right) : left = right := by
  cases left <;> cases right <;> simp_all [toResult]
  omega

theorem best_eq_or_mem (alternatives : List Specificity) :
    best alternatives = .anything ∨ best alternatives ∈ alternatives := by
  unfold best
  cases greatest : alternatives.max? with
  | none => exact .inl rfl
  | some chosen => exact .inr (max?_eq_some_iff.mp greatest).1

end Specificity

open Specificity

/-! ## The criteria -/

def DetectedTransportProtocol.name : DetectedTransportProtocol → Text
  | .rawBuffer => "raw_buffer".toList
  | .ssl => "ssl".toList

namespace FilterChainMatch

def portSpecificity (self : FilterChainMatch) (port : Fin 65536) : Specificity :=
  match self.destinationPort with
  | none => .anything
  | some destination => if port = destination then .exact else .unmatched

def prefixSpecificity (ranges : List IpNet) (ip : IpAddr) : Specificity :=
  .best (ranges.map fun range =>
    if range.contains ip then .partly range.prefixLen else .unmatched)

section

variable (self : FilterChainMatch)

def serverNameSpecificity (serverName : Text) : Specificity :=
  .best (self.serverNames.map fun name =>
    if name.matchSubdomains then
      if name.name.isSuffixOf serverName then .partly name.name.length else .unmatched
    else if serverName = name.name then .exact
    else .unmatched)

def transportSpecificity (detected : DetectedTransportProtocol) : Specificity :=
  if self.transportProtocol = [] then .anything
  else if self.transportProtocol = detected.name then .exact
  else .unmatched

def sourcePortSpecificity (port : Fin 65536) : Specificity :=
  if self.sourcePorts = [] then .anything
  else if port ∈ self.sourcePorts then .exact
  else .unmatched

theorem portSpecificity_ne_partly (port : Fin 65536) (length : ℕ) :
    self.portSpecificity port ≠ .partly length := by
  unfold portSpecificity
  split
  · nofun
  · split <;> nofun

theorem transportSpecificity_ne_partly (detected : DetectedTransportProtocol) (length : ℕ) :
    self.transportSpecificity detected ≠ .partly length := by
  unfold transportSpecificity
  split
  · nofun
  · split <;> nofun

theorem sourcePortSpecificity_ne_partly (port : Fin 65536)
    (length : ℕ) : self.sourcePortSpecificity port ≠ .partly length := by
  unfold sourcePortSpecificity
  split
  · nofun
  · split <;> nofun

end

theorem prefixSpecificity_le (ranges : List IpNet) (ip : IpAddr) :
    prefixSpecificity ranges ip ≠ .exact ∧
      ∀ length, prefixSpecificity ranges ip = .partly length → length ≤ ip.width := by
  unfold prefixSpecificity
  rcases best_eq_or_mem (ranges.map fun range =>
    if range.contains ip then .partly range.prefixLen else .unmatched) with same | member
  · rw [same]
    exact ⟨nofun, nofun⟩
  · rcases mem_map.mp member with ⟨range, _, same⟩
    rw [← same]
    split
    · rename_i inside
      refine ⟨nofun, ?_⟩
      rintro length ⟨⟩
      have fits := range.fits
      rw [(of_decide_eq_true inside).1] at fits
      exact fits
    · exact ⟨nofun, nofun⟩

/-! ## The results follow the specificity -/

theorem matchesDestinationPort_eq (self : FilterChainMatch) (port : Fin 65536) :
    self.matchesDestinationPort port = (self.portSpecificity port).toResult fun _ => 0 := by
  unfold matchesDestinationPort portSpecificity
  split
  · rename_i destination given
    rw [given]
    dsimp only
    split <;> rfl
  · rename_i missing
    rw [missing]
    rfl

theorem best_rangeMatches (ranges : List IpNet) (ip : IpAddr) :
    (MatchResult.max? (ranges.map (rangeMatches ip))).getD .noRule =
      (prefixSpecificity ranges ip).toResult fun length => ip.width - length := by
  have antitone : Antitone fun length => ip.width - length :=
    fun _ _ le => Nat.sub_le_sub_left le _
  rw [prefixSpecificity, toResult_best antitone, List.map_map]
  congr 3
  funext range
  unfold rangeMatches
  rw [Function.comp_apply]
  split <;> rfl

theorem matchesDetectedTransportProtocol_eq (self : FilterChainMatch)
    (detected : DetectedTransportProtocol) :
    self.matchesDetectedTransportProtocol detected =
      (self.transportSpecificity detected).toResult fun _ => 0 := by
  unfold matchesDetectedTransportProtocol transportSpecificity DetectedTransportProtocol.tryFrom
  by_cases empty : self.transportProtocol = []
  · rw [if_pos empty, if_pos empty]
    rfl
  · rw [if_neg empty, if_neg empty]
    by_cases raw : self.transportProtocol = "raw_buffer".toList
    · rw [raw]
      cases detected <;> rfl
    · by_cases ssl : self.transportProtocol = "ssl".toList
      · rw [ssl]
        cases detected <;> rfl
      · have other : self.transportProtocol ≠ detected.name := by
          cases detected with
          | rawBuffer => exact raw
          | ssl => exact ssl
        rw [if_neg raw, if_neg ssl, if_neg other]
        rfl

theorem matchesSourcePort_eq (self : FilterChainMatch) (port : Fin 65536) :
    self.matchesSourcePort port = (self.sourcePortSpecificity port).toResult fun _ => 0 := by
  unfold matchesSourcePort sourcePortSpecificity
  split
  · rfl
  · split <;> rfl

/-- The score of a wildcard of some length: the dots up to its first character. -/
def dotsBefore (serverName : Text) (length : Nat) : Nat :=
  min ((serverName.take (serverName.length + 1 - length)).count '.') (U32.limit - 1)

theorem dotsBefore_antitone (serverName : Text) : Antitone (dotsBefore serverName) := by
  intro short long le
  have fewer : (serverName.take (serverName.length + 1 - long)).Sublist
      (serverName.take (serverName.length + 1 - short)) :=
    take_sublist_take_left (by omega)
  have count := fewer.count_le '.'
  unfold dotsBefore
  omega

theorem matchesServerName_eq_specificity {self : FilterChainMatch}
    (readable : ∀ name ∈ self.serverNames, name.Readable serverName) :
    self.matchesServerName serverName =
      some ((self.serverNameSpecificity serverName).toResult (dotsBefore serverName)) := by
  rw [serverNameSpecificity, toResult_best (dotsBefore_antitone serverName),
    List.map_map, matchesServerName]
  rw [mapM_eq_some_map]
  · rfl
  · intro name member
    rw [Function.comp_apply]
    cases kind : name.matchSubdomains with
    | false =>
      have named : ¬ (false) := Bool.false_ne_true
      rw [ServerNameMatch.matches_exact kind, if_neg named]
      split <;> rfl
    | true =>
      rw [if_pos rfl]
      by_cases suffix : name.name.isSuffixOf serverName
      · rcases readable name member kind suffix with ⟨first, rest, named, one⟩
        rcases isSuffixOf_iff_suffix.mp suffix with ⟨before, rfl⟩
        rw [if_pos suffix, named, ServerNameMatch.matches_wildcard kind named, if_pos one]
        have shown : (before ++ first :: rest).take
            ((before ++ first :: rest).length + 1 - (first :: rest).length) =
              before ++ [first] := by
          have offset : (before ++ first :: rest).length + 1 - (first :: rest).length =
              (before ++ [first]).length := by
            simp only [length_append, length_cons, length_nil]
            omega
          rw [offset, append_cons before first rest, take_left]
        rw [toResult, dotsBefore, shown]
        rfl
      · rw [if_neg suffix, ServerNameMatch.matches_of_not_suffix kind fun ends =>
          suffix (isSuffixOf_iff_suffix.mpr ends)]
        rfl

end FilterChainMatch

/-! ## Selection -/

namespace FilterChains

variable {Chain : Type} {self : FilterChains Chain}

/-- How specifically a filter chain matches a connection: by destination port and prefix,
server name, transport protocol, source prefix and source port. -/
def specificities (connection : Connection) : List (FilterChainMatch × Chain → Specificity) :=
  let source := connection.metadata.peerAddress
  let destination := connection.metadata.originalDestinationAddress
  [fun entry => entry.1.portSpecificity destination.port,
    fun entry => prefixSpecificity entry.1.destinationPrefixRanges
      destination.ip,
    fun entry => entry.1.serverNameSpecificity (connection.serverName.getD []),
    fun entry => entry.1.transportSpecificity connection.transportProtocol,
    fun entry => prefixSpecificity entry.1.sourcePrefixRanges source.ip,
    fun entry => entry.1.sourcePortSpecificity source.port]

def lastScores (connection : Connection) : List (FilterChainMatch × Chain → MatchResult) :=
  (lateScores connection).tail

section

variable (entries : List (FilterChainMatch × Chain))

theorem narrow_whole {specificity : FilterChainMatch × Chain → Specificity}
    (same : ∀ entry, result entry = (specificity entry).toResult fun _ => 0)
    (whole : ∀ entry length, specificity entry ≠ .partly length) :
    narrow specificity entries = narrow result entries := by
  rw [funext same]
  exact (narrow_of_injective (toResult_monotone antitone_const)
    toResult_eq_bot_iff fun left _ right _ =>
      toResult_inj_of_not_partly (whole left) (whole right)).symm

theorem narrow_prefix (ranges : FilterChainMatch → List IpNet) (ip : IpAddr) :
    narrow (fun entry => prefixSpecificity (ranges entry.1) ip) entries =
      narrow (fun entry =>
        (MatchResult.max? ((ranges entry.1).map (rangeMatches ip))).getD .noRule) entries := by
  simp only [best_rangeMatches]
  exact (narrow_of_injective (toResult_monotone fun _ _ le => Nat.sub_le_sub_left le _)
    toResult_eq_bot_iff fun _ _ _ _ =>
      toResult_inj_of_le (prefixSpecificity_le _ _) (prefixSpecificity_le _ _)).symm

end

/-- Only by server name do the scores not tell everything apart. -/
theorem narrowAll_specificities (entries : List (FilterChainMatch × Chain))
    (connection : Connection) :
    narrowAll (specificities connection) entries =
      narrowAll (lastScores connection)
        (narrow (fun entry => entry.1.serverNameSpecificity (connection.serverName.getD []))
          (narrowAll (earlyScores connection) entries)) := by
  simp only [specificities, narrowAll]
  rw [narrow_whole _ (fun entry => entry.1.matchesSourcePort_eq _)
      fun entry => entry.1.sourcePortSpecificity_ne_partly _,
    narrow_whole _ (fun entry => entry.1.matchesDetectedTransportProtocol_eq _)
      fun entry => entry.1.transportSpecificity_ne_partly _,
    narrow_whole _ (fun entry => entry.1.matchesDestinationPort_eq _)
      fun entry => entry.1.portSpecificity_ne_partly _,
    narrow_prefix _ destinationPrefixRanges,
    narrow_prefix _ sourcePrefixRanges]
  rfl

/-! ## What is returned -/

/-- The selection panics, or returns the only filter chain that remains. -/
theorem selectFilterchain_eq (readable : self.Readable connection) :
    self.selectFilterchain connection =
      match narrowAll (scores connection) self.entries with
      | [] => .ok none
      | [entry] => .ok (some entry.2)
      | _ :: _ :: _ => .error (.message multipleMatched) := by
  rcases narrowed_eq_some (readable_iff.mp readable) with ⟨candidates, narrowed, kept⟩
  simp only [selectFilterchain, narrowed, ← kept, Candidate.survivors]
  rcases candidates.filter Candidate.possible with _ | ⟨_, _ | ⟨_, _⟩⟩ <;> rfl

theorem selectFilterchain_eq_panicked (unreadable : ¬ self.Readable connection) :
    self.selectFilterchain connection = .error .panicked := by
  rw [readable_iff] at unreadable
  simp only [not_forall] at unreadable
  rcases unreadable with ⟨entry, member, panics⟩
  have narrowed := narrowed_eq_none member (not_isSome_iff_eq_none.mp panics)
  simp only [selectFilterchain, narrowed]

theorem selectFilterchain_perm {other : FilterChains Chain}
    (same : other.entries.Perm self.entries) :
    other.selectFilterchain connection = self.selectFilterchain connection := by
  have readable : other.Readable connection ↔ self.Readable connection := by
    unfold Readable
    simp only [same.mem_iff]
  by_cases readableSelf : self.Readable connection
  · rw [selectFilterchain_eq readableSelf, selectFilterchain_eq (readable.mpr readableSelf)]
    have kept := narrowAll_perm (scores connection) same
    match remaining : narrowAll (scores connection) self.entries with
    | [] =>
      rw [remaining] at kept
      rw [kept.eq_nil]
    | [entry] =>
      rw [remaining] at kept
      rw [kept.eq_singleton]
    | first :: second :: rest =>
      have length := kept.length_eq
      rw [remaining] at length
      match others : narrowAll (scores connection) other.entries with
      | [] | [_] => simp [others] at length
      | _ :: _ :: _ => rfl
  · rw [selectFilterchain_eq_panicked readableSelf,
      selectFilterchain_eq_panicked fun readableOther => readableSelf (readable.mp readableOther)]

/-- The same filter chains, each with what it is selected by, so that it can be told which
one is returned. -/
def keyed (self : FilterChains Chain) : FilterChains (FilterChainMatch × Chain) where
  entries := self.entries.map fun entry => (entry.1, entry)
  distinct := by
    rw [List.map_map]
    exact self.distinct

theorem narrowAll_keyed (self : FilterChains Chain) (connection : Connection) :
    narrowAll (scores connection) self.keyed.entries =
      (narrowAll (scores connection) self.entries).map fun entry => (entry.1, entry) :=
  narrowAll_map _ _ _

theorem readable_keyed : self.keyed.Readable connection ↔ self.Readable connection := by
  rw [readable_iff, readable_iff]
  have early : narrowAll (earlyScores connection) self.keyed.entries =
      (narrowAll (earlyScores connection) self.entries).map fun entry => (entry.1, entry) :=
    narrowAll_map _ _ _
  rw [early, List.forall_mem_map]

variable {entry : FilterChainMatch × Chain}

theorem selectFilterchain_keyed_eq_some_iff :
    self.keyed.selectFilterchain connection = .ok (some entry) ↔
      self.Readable connection ∧ narrowAll (scores connection) self.entries = [entry] := by
  by_cases readable : self.Readable connection
  · rw [selectFilterchain_eq (readable_keyed.mpr readable), narrowAll_keyed]
    match narrowAll (scores connection) self.entries with
    | [] => simp
    | [_] => simp [readable]
    | _ :: _ :: _ => simp
  · rw [selectFilterchain_eq_panicked fun keyed => readable (readable_keyed.mp keyed)]
    simp [readable]

/-- What is returned does not depend on the order of the filter chains, and is one of those
left by keeping the most specific for one criterion after the other. -/
structure MostSpecific (chains : FilterChains Chain) (connection : Connection) : Prop where
  anyOrder : ∀ other : FilterChains Chain, other.entries.Perm chains.entries →
    other.selectFilterchain connection = chains.selectFilterchain connection
  left : ∀ entry, chains.keyed.selectFilterchain connection = .ok (some entry) →
    entry ∈ narrowAll (specificities connection) chains.entries

/-- Of filter chains that are equally good up to the score for the server name, none has a
longer name than the one that is best by all scores. -/
def Longest (self : FilterChains Chain) (connection : Connection) : Prop :=
  ∀ entry ∈ self.entries, (∀ score ∈ scores connection, score entry ≠ .failedMatch) →
    (∀ other ∈ self.entries, ¬ Beats (scores connection) other entry) →
    ∀ other ∈ self.entries, (∀ score ∈ earlyScores connection, score entry = score other) →
      entry.1.matchesServerName (connection.serverName.getD []) =
        other.1.matchesServerName (connection.serverName.getD []) →
      other.1.serverNameSpecificity (connection.serverName.getD []) ≤
        entry.1.serverNameSpecificity (connection.serverName.getD [])

/-- The score for the server name, of filter chains whose names can be read. -/
theorem matchesServerName_eq_toResult (readable : self.Readable connection)
    (member : entry ∈ narrowAll (earlyScores connection) self.entries) :
    entry.1.matchesServerName (connection.serverName.getD []) =
      some ((entry.1.serverNameSpecificity (connection.serverName.getD [])).toResult
        (dotsBefore (connection.serverName.getD []))) :=
  matchesServerName_eq_specificity
    (matchesServerName_isSome_iff.mp (readable_iff.mp readable entry member))

theorem narrowAll_scores (readable : self.Readable connection) :
    narrowAll (scores connection) self.entries =
      narrowAll (lastScores connection)
        (narrow (fun entry => (entry.1.serverNameSpecificity
            (connection.serverName.getD [])).toResult (dotsBefore (connection.serverName.getD [])))
          (narrowAll (earlyScores connection) self.entries)) := by
  have named : narrow (fun entry =>
        (entry.1.matchesServerName (connection.serverName.getD [])).getD .failedMatch)
        (narrowAll (earlyScores connection) self.entries) =
      narrow (fun entry => (entry.1.serverNameSpecificity (connection.serverName.getD [])).toResult
            (dotsBefore (connection.serverName.getD [])))
        (narrowAll (earlyScores connection) self.entries) := by
    apply narrow_congr
    intro entry member
    rw [matchesServerName_eq_toResult readable member]
    rfl
  rw [← named, scores, narrowAll_append]
  rfl

theorem MostSpecific.longest (specific : self.MostSpecific connection)
    (readable : self.Readable connection) (decided : self.Decided connection) :
    self.Longest connection := by
  intro entry known matched unbeaten other otherKnown sameEarly _
  have kept : entry ∈ narrowAll (scores connection) self.entries :=
    mem_narrowAll_iff.mpr ⟨known, matched, unbeaten⟩
  have single : narrowAll (scores connection) self.entries = [entry] := by
    have few := decided_iff.mp decided
    match remaining : narrowAll (scores connection) self.entries with
    | [] => simp [remaining] at kept
    | [only] =>
      rw [remaining, mem_singleton] at kept
      rw [kept]
    | _ :: _ :: _ => simp [remaining] at few
  have declared := specific.left entry (selectFilterchain_keyed_eq_some_iff.mpr ⟨readable, single⟩)
  rw [narrowAll_specificities] at declared
  rcases mem_narrow_iff.mp ((narrowAll_sublist _ _).subset declared) with ⟨early, _, best⟩
  exact best other (mem_narrowAll_of_same early otherKnown sameEarly)

theorem mem_specificities_of_longest (longest : self.Longest connection)
    (readable : self.Readable connection)
    (kept : entry ∈ narrowAll (scores connection) self.entries) :
    entry ∈ narrowAll (specificities connection) self.entries := by
  have monotone := toResult_monotone (dotsBefore_antitone (connection.serverName.getD []))
  have unbeaten := mem_narrowAll_iff.mp kept
  rw [narrowAll_scores readable] at kept
  rw [narrowAll_specificities]
  have named := mem_narrow_iff.mp ((narrowAll_sublist _ _).subset kept)
  refine mem_narrowAll_of_subset kept (mem_narrow_iff.mpr ⟨named.1, ?_, ?_⟩)
    (narrow_subset_of_monotone monotone fun specificity =>
      (toResult_eq_bot_iff specificity).mp)
  · intro failed
    exact named.2.1 ((toResult_eq_bot_iff _).mpr failed)
  · intro other member
    by_contra longer
    have equal := le_antisymm (monotone (not_le.mp longer).le) (named.2.2 other member)
    refine longer (longest entry unbeaten.1 unbeaten.2.1 unbeaten.2.2 other
      ((narrowAll_sublist _ _).subset member) (same_of_mem_narrowAll named.1 member) ?_)
    rw [matchesServerName_eq_toResult readable named.1,
      matchesServerName_eq_toResult readable member, equal]

/-- What is returned is most specific, exactly if the scores have left no longer name out. -/
theorem mostSpecific_iff (self : FilterChains Chain) (connection : Connection) :
    self.MostSpecific connection ↔
      (self.Readable connection → self.Decided connection → self.Longest connection) := by
  constructor
  · exact fun specific readable decided => specific.longest readable decided
  · intro longest
    refine ⟨fun other same => selectFilterchain_perm same, ?_⟩
    intro entry returned
    rcases selectFilterchain_keyed_eq_some_iff.mp returned with ⟨readable, single⟩
    have decided : self.Decided connection := decided_iff.mpr (by rw [single]; rfl)
    exact mem_specificities_of_longest (longest readable decided) readable (by simp [single])

/-! ## Wildcards with and without their dot -/

/-- An exact name for one source port, and a wildcard without its dot for another. -/
def undottedWildcard : FilterChains Nat where
  entries := [({ serverNames := [⟨"example.com".toList, false⟩], sourcePorts := [1] }, 0),
    ({ serverNames := [⟨"le.com".toList, true⟩], sourcePorts := [2] }, 1)]
  distinct := by decide

def fromPortTwo : Connection :=
  ⟨.socket ⟨.v4 [10, 0, 0, 1], 2⟩ ⟨.v4 [10, 0, 0, 2], 80⟩ none, some "example.com".toList, .ssl⟩

/-- The wildcard has the score of the exact name, which is left out by the source port. -/
theorem exact_name_left_out :
    undottedWildcard.selectFilterchain fromPortTwo = .ok (some 1) ∧
      ¬ undottedWildcard.MostSpecific fromPortTwo := by
  refine ⟨by decide +kernel, ?_⟩
  intro specific
  have left := specific.left
    ({ serverNames := [⟨"le.com".toList, true⟩], sourcePorts := [2] }, 1) (by decide +kernel)
  refine (mem_narrowAll_iff.mp left).2.2 _ mem_cons_self (.inr ⟨rfl, .inr ⟨rfl, .inl ?_⟩⟩)
  exact WithBot.coe_lt_coe.mpr (WithBot.coe_lt_coe.mpr (WithTop.coe_lt_top 6))

end FilterChains

end Orion.Listeners
