import Orion.Listeners.ServerNames

/-! # When the selection is unambiguous

The filter chains that remain are those that match best. Filter chains that differ may match
equally well: by different lists, or by what is not looked at.
-/

namespace Orion.Listeners

open Foundation Candidate List Option

/-! ## Narrowing -/

namespace Candidate

variable {Chain : Type}

def survivors (candidates : List (Candidate Chain)) : List (FilterChainMatch × Chain) :=
  (candidates.filter possible).map fun candidate => (candidate.rule, candidate.chain)

theorem survivors_cons (candidate : Candidate Chain) (candidates : List (Candidate Chain)) :
    survivors (candidate :: candidates) =
      if candidate.possible then (candidate.rule, candidate.chain) :: survivors candidates
      else survivors candidates := by
  unfold survivors
  rw [filter_cons]
  split <;> rfl

def note (score : FilterChainMatch × Chain → MatchResult) (candidate : Candidate Chain) :
    Candidate Chain :=
  if candidate.possible then
    { candidate with scratch := score (candidate.rule, candidate.chain) }
  else
    candidate

section

variable {function : FilterChainMatch → Option MatchResult}
  {score : FilterChainMatch × Chain → MatchResult} {candidates : List (Candidate Chain)}

theorem mark_eq_some (best : MatchResult)
    (scored : ∀ entry ∈ survivors candidates, function entry.1 = some (score entry)) :
    mark function best candidates =
      some (candidates.map (note score), scanBest score best (survivors candidates)) := by
  induction candidates generalizing best with
  | nil => rfl
  | cons candidate candidates induction =>
    rw [survivors_cons] at scored ⊢
    by_cases possible : candidate.possible
    · rw [if_pos possible] at scored ⊢
      rcases forall_mem_cons.mp scored with ⟨now, later⟩
      simp only [mark, possible, if_true, now, bind_eq_bind, bind_some,
        induction _ later]
      simp [note, possible, scanBest, MatchResult.cmp_eq_gt_iff]
    · rw [if_neg possible] at scored ⊢
      simp only [mark, possible, induction best scored]
      simp [note, possible]

theorem mark_eq_none (member : entry ∈ survivors candidates)
    (panics : function entry.1 = none) : mark function best candidates = none := by
  induction candidates generalizing best with
  | nil => cases member
  | cons candidate candidates induction =>
    rw [survivors_cons] at member
    by_cases possible : candidate.possible
    · rw [if_pos possible] at member
      simp only [mark, possible, if_true, bind_eq_bind]
      cases result : function candidate.rule with
      | none => rfl
      | some result =>
        rcases mem_cons.mp member with rfl | member
        · cases panics.symm.trans result
        · simp [induction member]
    · rw [if_neg possible] at member
      simp [mark, possible, induction member]

theorem trim_note (best : MatchResult) (candidate : Candidate Chain) :
    (trim best (note score candidate)).rule = candidate.rule ∧
      (trim best (note score candidate)).chain = candidate.chain ∧
      ((trim best (note score candidate)).possible ↔ candidate.possible ∧
        score (candidate.rule, candidate.chain) = best ∧
        score (candidate.rule, candidate.chain) ≠ .failedMatch) := by
  unfold trim note
  by_cases possible : candidate.possible
  · rw [if_pos possible]
    split
    · rename_i refused
      refine ⟨rfl, rfl, iff_of_false nofun ?_⟩
      rintro ⟨_, same, matched⟩
      exact refused.elim (fun other => other same) matched
    · rename_i kept
      refine ⟨rfl, rfl, iff_of_true possible ⟨possible, ?_⟩⟩
      exact ⟨not_not.mp fun other => kept (.inl other), fun failed => kept (.inr failed)⟩
  · rw [if_neg possible]
    split
    · exact ⟨rfl, rfl, iff_of_false nofun fun both => possible both.1⟩
    · exact ⟨rfl, rfl, iff_of_false possible fun both => possible both.1⟩

theorem survivors_trim (best : MatchResult) :
    survivors ((candidates.map (note score)).map (trim best)) =
      (survivors candidates).filter fun entry =>
        score entry = best ∧ score entry ≠ .failedMatch := by
  induction candidates with
  | nil => rfl
  | cons candidate candidates induction =>
    rcases @trim_note _ score best candidate with ⟨rule, chain, keeps⟩
    rw [map_cons, map_cons, survivors_cons, survivors_cons, induction, rule, chain]
    by_cases possible : candidate.possible
    · simp only [keeps, possible, true_and, if_true, filter_cons, decide_eq_true_eq]
    · simp [keeps, possible]

theorem matchSubitem_eq_some
    (scored : ∀ entry ∈ survivors candidates, function entry.1 = some (score entry)) :
    ∃ next, matchSubitem function candidates = some next ∧
      survivors next = narrow score (survivors candidates) := by
  refine ⟨_, by simp only [matchSubitem, mark_eq_some _ scored]; rfl, ?_⟩
  rw [survivors_trim, narrow_eq_filter]
  apply filter_congr
  intro entry _
  rw [decide_eq_decide]
  rfl

theorem matchSubitem_some (result : FilterChainMatch → MatchResult)
    (candidates : List (Candidate Chain)) :
    ∃ next, matchSubitem (fun rule => some (result rule)) candidates = some next ∧
      survivors next = narrow (fun entry => result entry.1) (survivors candidates) :=
  matchSubitem_eq_some fun _ _ => rfl

theorem matchSubitem_eq_none (function : FilterChainMatch → Option MatchResult)
    (member : entry ∈ survivors candidates)
    (panics : function entry.1 = none) : matchSubitem function candidates = none := by
  simp only [matchSubitem, mark_eq_none member panics]
  rfl

end

end Candidate

namespace FilterChains

variable {Chain : Type}

def earlyScores (connection : Connection) : List (FilterChainMatch × Chain → MatchResult) :=
  let destination := connection.metadata.originalDestinationAddress
  [fun entry => entry.1.matchesDestinationPort destination.port,
    fun entry => entry.1.matchesDestinationIp destination.ip]

def lateScores (connection : Connection) : List (FilterChainMatch × Chain → MatchResult) :=
  let source := connection.metadata.peerAddress
  [fun entry => (entry.1.matchesServerName (connection.serverName.getD [])).getD .failedMatch,
    fun entry => entry.1.matchesDetectedTransportProtocol connection.transportProtocol,
    fun entry => entry.1.matchesSourceIp source.ip,
    fun entry => entry.1.matchesSourcePort source.port]

/-- How specifically a filter chain matches a connection, in the order of the criteria. -/
def scores (connection : Connection) : List (FilterChainMatch × Chain → MatchResult) :=
  earlyScores connection ++ lateScores connection

variable {self : FilterChains Chain} {connection : Connection}

theorem survivors_candidates (self : FilterChains Chain) :
    survivors self.candidates = self.entries := by
  unfold candidates
  induction self.entries with
  | nil => rfl
  | cons entry entries induction =>
    rw [map_cons, survivors_cons, induction]
    rfl

theorem early_passes (self : FilterChains Chain) (connection : Connection) :
    ∃ first second,
      matchSubitem (fun rule => some (rule.matchesDestinationPort
        connection.metadata.originalDestinationAddress.port)) self.candidates = some first ∧
      matchSubitem (fun rule => some (rule.matchesDestinationIp
        connection.metadata.originalDestinationAddress.ip)) first = some second ∧
      survivors second = narrowAll (earlyScores connection) self.entries := by
  rcases matchSubitem_some _ self.candidates with ⟨first, port, kept⟩
  rcases matchSubitem_some _ first with ⟨second, ip, left⟩
  refine ⟨first, second, port, ip, ?_⟩
  rw [left, kept, survivors_candidates]
  rfl

/-- Of the filter chains, those that match best remain, if all server names that are looked
at can be read. -/
theorem narrowed_eq_some (readable : ∀ entry ∈ narrowAll (earlyScores connection) self.entries,
      (entry.1.matchesServerName (connection.serverName.getD [])).isSome) :
    ∃ candidates, self.narrowed connection = some candidates ∧
      survivors candidates = narrowAll (scores connection) self.entries := by
  rcases early_passes self connection with ⟨first, second, port, ip, early⟩
  have scored : ∀ entry ∈ survivors second,
      entry.1.matchesServerName (connection.serverName.getD []) =
        some ((entry.1.matchesServerName (connection.serverName.getD [])).getD .failedMatch) := by
    intro entry member
    rw [early] at member
    rcases isSome_iff_exists.mp (readable entry member) with ⟨result, known⟩
    rw [known]
    rfl
  rcases @matchSubitem_eq_some _ (fun rule =>
    rule.matchesServerName (connection.serverName.getD [])) _ second scored with
    ⟨third, names, byName⟩
  rcases matchSubitem_some (fun rule =>
    rule.matchesDetectedTransportProtocol connection.transportProtocol) third with
    ⟨fourth, protocol, byProtocol⟩
  rcases matchSubitem_some (fun rule =>
    rule.matchesSourceIp connection.metadata.peerAddress.ip) fourth with
    ⟨fifth, sourceIp, bySourceIp⟩
  rcases matchSubitem_some (fun rule =>
    rule.matchesSourcePort connection.metadata.peerAddress.port) fifth with
    ⟨sixth, sourcePort, bySourcePort⟩
  refine ⟨sixth, ?_, ?_⟩
  · simp only [narrowed, port, ip, names, protocol, sourceIp, sourcePort, bind_eq_bind, bind_some]
  · rw [bySourcePort, bySourceIp, byProtocol, byName, early, scores, narrowAll_append]
    rfl

theorem narrowed_eq_none (member : entry ∈ narrowAll (earlyScores connection) self.entries)
    (panics : entry.1.matchesServerName (connection.serverName.getD []) = none) :
    self.narrowed connection = none := by
  rcases early_passes self connection with ⟨first, second, port, ip, kept⟩
  rw [← kept] at member
  simp only [narrowed, port, ip, bind_eq_bind, bind_some, matchSubitem_eq_none (fun rule =>
      rule.matchesServerName (connection.serverName.getD [])) member panics, bind_none]

/-! ## Ambiguity -/

/-- All server names of the filter chains that match the destination best can be read. -/
def Readable (self : FilterChains Chain) (connection : Connection) : Prop :=
  ∀ entry ∈ self.entries, (∀ score ∈ earlyScores connection, score entry ≠ .failedMatch) →
    (∀ other ∈ self.entries, ¬ Beats (earlyScores connection) other entry) →
    ∀ name ∈ entry.1.serverNames, name.Readable (connection.serverName.getD [])

/-- Of filter chains that match equally well, a third is preferred. -/
def Decided (self : FilterChains Chain) (connection : Connection) : Prop :=
  ∀ left ∈ self.entries, ∀ right ∈ self.entries, left.1 ≠ right.1 →
    (∀ score ∈ scores connection, score left = score right ∧ score left ≠ .failedMatch) →
    ∃ other ∈ self.entries, Beats (scores connection) other left

theorem readable_iff :
    self.Readable connection ↔ ∀ entry ∈ narrowAll (earlyScores connection) self.entries,
      (entry.1.matchesServerName (connection.serverName.getD [])).isSome := by
  constructor
  · intro readable entry member
    rcases mem_narrowAll_iff.mp member with ⟨known, matched, unbeaten⟩
    exact FilterChainMatch.matchesServerName_isSome_iff.mpr (readable entry known matched unbeaten)
  · intro readable entry known matched unbeaten
    exact FilterChainMatch.matchesServerName_isSome_iff.mp
      (readable entry (mem_narrowAll_iff.mpr ⟨known, matched, unbeaten⟩))

theorem decided_iff :
    self.Decided connection ↔ (narrowAll (scores connection) self.entries).length ≤ 1 := by
  constructor
  · intro decided
    have distinct : ((narrowAll (scores connection) self.entries).map Prod.fst).Nodup :=
      self.distinct.sublist ((narrowAll_sublist _ _).map Prod.fst)
    by_contra several
    match remaining : narrowAll (scores connection) self.entries with
    | [] | [_] => simp [remaining] at several
    | left :: right :: rest =>
      have leftKept : left ∈ narrowAll (scores connection) self.entries := by simp [remaining]
      have rightKept : right ∈ narrowAll (scores connection) self.entries := by
        simp [remaining]
      rcases mem_narrowAll_iff.mp leftKept with ⟨leftKnown, matched, unbeaten⟩
      rcases mem_narrowAll_iff.mp rightKept with ⟨rightKnown, _⟩
      have different : left.1 ≠ right.1 := by
        rw [remaining] at distinct
        simp only [map_cons, nodup_cons, mem_cons, not_or] at distinct
        exact distinct.1.1
      rcases decided left leftKnown right rightKnown different fun score member =>
        ⟨same_of_mem_narrowAll leftKept rightKept score member, matched score member⟩ with
        ⟨other, known, beats⟩
      exact unbeaten other known beats
  · intro single left leftKnown right rightKnown different same
    by_contra undecided
    have leftKept : left ∈ narrowAll (scores connection) self.entries :=
      mem_narrowAll_iff.mpr ⟨leftKnown, fun score member => (same score member).2,
        fun other known beats => undecided ⟨other, known, beats⟩⟩
    have rightKept := mem_narrowAll_of_same leftKept rightKnown fun score member =>
      (same score member).1
    match remaining : narrowAll (scores connection) self.entries with
    | [] => simp [remaining] at leftKept
    | [only] =>
      simp only [remaining, mem_singleton] at leftKept rightKept
      exact different (by rw [leftKept, rightKept])
    | _ :: _ :: _ => simp [remaining] at single

theorem selectFilterchain_isOk_of_narrowed {candidates : List (Candidate Chain)}
    (narrowed : self.narrowed connection = some candidates) :
    (∃ selected, self.selectFilterchain connection = .ok selected) ↔
      (survivors candidates).length ≤ 1 := by
  simp only [selectFilterchain, narrowed, survivors, length_map]
  split
  · rename_i none
    simp [none]
  · rename_i only
    simp [only]
  · rename_i several
    simp [several]

/-- A filter chain is selected, or none, exactly if no server name panics and the best match
is decided. -/
theorem selectFilterchain_isOk_iff (self : FilterChains Chain) (connection : Connection) :
    (∃ selected, self.selectFilterchain connection = .ok selected) ↔
      self.Readable connection ∧ self.Decided connection := by
  rw [readable_iff, decided_iff]
  by_cases readable : ∀ entry ∈ narrowAll (earlyScores connection) self.entries,
      (entry.1.matchesServerName (connection.serverName.getD [])).isSome = true
  · rcases narrowed_eq_some readable with ⟨candidates, narrowed, kept⟩
    rw [selectFilterchain_isOk_of_narrowed narrowed, kept]
    exact ⟨fun single => ⟨readable, single⟩, And.right⟩
  · refine iff_of_false ?_ fun both => readable both.1
    simp only [not_forall] at readable
    rcases readable with ⟨entry, member, panics⟩
    have narrowed := narrowed_eq_none member (not_isSome_iff_eq_none.mp panics)
    rintro ⟨selected, found⟩
    simp [selectFilterchain, narrowed] at found

/-- Filter chains for different application protocols, or for lists of source ports that
have one in common, are both selected. A wildcard without a name panics. -/
theorem selection_is_ambiguous :
    let connection : Connection := ⟨.socket ⟨.v4 [10, 0, 0, 1], 2⟩ ⟨.v4 [10, 0, 0, 2], 80⟩ none,
      some "a".toList, .ssl⟩
    (∃ chains : FilterChains Nat, chains.entries.map Prod.fst =
        [{ applicationProtocols := ["h2".toList] }, { applicationProtocols := [] }] ∧
      chains.selectFilterchain connection = .error (.message multipleMatched)) ∧
    (∃ chains : FilterChains Nat, chains.entries.map Prod.fst =
        [{ sourcePorts := [1, 2] }, { sourcePorts := [2, 3] }] ∧
      chains.selectFilterchain connection = .error (.message multipleMatched)) ∧
    ∃ chains : FilterChains Nat, chains.entries.map Prod.fst =
        [{ serverNames := [⟨[], true⟩] }] ∧
      chains.selectFilterchain connection = .error .panicked := by
  refine ⟨⟨⟨[({ applicationProtocols := ["h2".toList] }, 0), ({ applicationProtocols := [] }, 1)],
      by decide⟩, rfl, by decide +kernel⟩,
    ⟨⟨[({ sourcePorts := [1, 2] }, 0), ({ sourcePorts := [2, 3] }, 1)], by decide⟩, rfl,
      by decide +kernel⟩,
    ⟨⟨[({ serverNames := [⟨[], true⟩] }, 0)], by decide⟩, rfl, by decide +kernel⟩⟩

end FilterChains

end Orion.Listeners
