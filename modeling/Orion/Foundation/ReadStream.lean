import Mathlib

/-! # Streams that are read piece by piece

What is written to a stream arrives in chunks of any size, and a read may also fail. A read
returns what one chunk holds, as far as there is room for it, so that a program which needs
a number of elements has to read again and again.
-/

namespace Orion.Foundation

open Option
open List hiding count

inductive ErrorKind where
  | wouldBlock
  | unexpectedEof
  | other
  deriving DecidableEq

/-- What a read finds. Reading nothing is how the end of a stream shows, so that no chunk is
empty. -/
inductive Arrival (α : Type u) where
  | chunk (elements : List α) (nonempty : elements ≠ [])
  | failure (error : ErrorKind)
  deriving DecidableEq

abbrev ReadStream (α : Type u) := List (Arrival α)

namespace ReadStream

variable {α : Type u} {elements : List α} {limit : Nat}

theorem drop_ne_nil (exceeds : limit < elements.length) : elements.drop limit ≠ [] := by
  rw [Ne, drop_eq_nil_iff]
  omega

def read (limit : Nat) : ReadStream α → Except ErrorKind (List α) × ReadStream α
  | [] => (.ok [], [])
  | .failure error :: later => (.error error, later)
  | .chunk elements _ :: later =>
    if exceeds : limit < elements.length then
      (.ok (elements.take limit), .chunk (elements.drop limit) (drop_ne_nil exceeds) :: later)
    else
      (.ok elements, later)

def prepend (elements : List α) (stream : ReadStream α) : ReadStream α :=
  if nonempty : elements ≠ [] then .chunk elements nonempty :: stream else stream

def ofChunks (chunks : List (List α)) : ReadStream α := chunks.foldr prepend []

@[simp] theorem prepend_nil (stream : ReadStream α) : prepend [] stream = stream :=
  dif_neg (not_not_intro rfl)

theorem prepend_of_ne (nonempty : elements ≠ []) (stream : ReadStream α) :
    prepend elements stream = .chunk elements nonempty :: stream := dif_pos nonempty

theorem read_prepend (nonempty : elements ≠ []) (limit : Nat) (stream : ReadStream α) :
    (prepend elements stream).read limit = (.ok (elements.take (min elements.length limit)),
        prepend (elements.drop (min elements.length limit)) stream) := by
  rw [prepend_of_ne nonempty, read]
  split
  case isTrue exceeds =>
    rw [Nat.min_eq_right (Nat.le_of_lt exceeds), prepend_of_ne (drop_ne_nil exceeds)]
  case isFalse fits =>
    rw [Nat.min_eq_left (Nat.le_of_not_lt fits), take_length, drop_length, prepend_nil]

/-! ## What a stream delivers -/

/-- Everything, whatever fails in between. -/
def contents : ReadStream α → List α
  | [] => []
  | .failure _ :: later => contents later
  | .chunk elements _ :: later => elements ++ contents later

def ready : ReadStream α → List α
  | [] => []
  | .failure _ :: _ => []
  | .chunk elements _ :: later => elements ++ ready later

def failure? : ReadStream α → Option ErrorKind
  | [] => none
  | .failure error :: _ => some error
  | .chunk _ _ :: later => failure? later

def advance : Nat → ReadStream α → ReadStream α
  | 0, stream => stream
  | _ + 1, [] => []
  | _ + 1, .failure error :: later => .failure error :: later
  | count + 1, .chunk elements _ :: later =>
    if exceeds : count + 1 < elements.length then
      .chunk (elements.drop (count + 1)) (drop_ne_nil exceeds) :: later
    else
      advance (count + 1 - elements.length) later

def afterFailure : ReadStream α → ReadStream α
  | [] => []
  | .failure _ :: later => later
  | .chunk _ _ :: later => afterFailure later

@[simp] theorem advance_zero (stream : ReadStream α) : advance 0 stream = stream := by
  rw [advance]

variable {count : Nat}

theorem advance_chunk (reaches : elements.length ≤ count) :
    advance count (.chunk elements nonempty :: later) =
      advance (count - elements.length) later := by
  cases count with
  | zero =>
    have positive := length_pos_iff.mpr nonempty
    omega
  | succ count =>
    rw [advance, dif_neg]
    omega

theorem advance_chunk_of_lt (exceeds : count < elements.length) :
    advance count (.chunk elements nonempty :: later) =
      .chunk (elements.drop count) (drop_ne_nil exceeds) :: later := by
  cases count with
  | zero => rfl
  | succ count => rw [advance, dif_pos exceeds]

variable {stream : ReadStream α}

theorem advance_spec (enough : count ≤ stream.ready.length) :
    (advance count stream).ready = stream.ready.drop count ∧
      (advance count stream).failure? = stream.failure? ∧
      (advance count stream).afterFailure = stream.afterFailure := by
  induction stream generalizing count with
  | nil =>
    have none : count = 0 := by simpa [ready] using enough
    subst none
    exact ⟨rfl, rfl, rfl⟩
  | cons arrival later induction =>
    cases arrival with
    | failure error =>
      have none : count = 0 := by simpa [ready] using enough
      subst none
      exact ⟨rfl, rfl, rfl⟩
    | chunk elements nonempty =>
      rw [ready, length_append] at enough
      rcases Nat.lt_or_ge count elements.length with exceeds | reaches
      · rw [advance_chunk_of_lt exceeds]
        refine ⟨?_, rfl, rfl⟩
        rw [ready, ready, drop_append_of_le_length (Nat.le_of_lt exceeds)]
      · rcases @induction (count - elements.length) (by omega) with ⟨remaining, failure, after⟩
        rw [advance_chunk reaches, remaining, failure, after]
        refine ⟨?_, rfl, rfl⟩
        rw [ready, drop_append, drop_eq_nil_of_le reaches, nil_append]

theorem ready_advance (enough : count ≤ stream.ready.length) :
    (advance count stream).ready = stream.ready.drop count :=
  (advance_spec enough).1

theorem contents_eq (stream : ReadStream α) :
    stream.contents = stream.ready ++ stream.afterFailure.contents := by
  induction stream with
  | nil => rfl
  | cons arrival later induction =>
    cases arrival with
    | failure error => rfl
    | chunk elements nonempty =>
      rw [contents, ready, afterFailure, induction, append_assoc]

theorem contents_advance (enough : count ≤ stream.ready.length) :
    (advance count stream).contents = stream.contents.drop count := by
  rcases advance_spec enough with ⟨remaining, _, after⟩
  rw [contents_eq, remaining, after, contents_eq stream, drop_append_of_le_length enough]

theorem take_append_advance (enough : count ≤ stream.ready.length) :
    stream.ready.take count ++ (advance count stream).contents = stream.contents := by
  rw [contents_advance enough, contents_eq, drop_append_of_le_length enough,
    ← append_assoc, take_append_drop]

theorem advance_advance (enough : first ≤ stream.ready.length) :
    advance second (advance first stream) = advance (first + second) stream := by
  induction stream generalizing first with
  | nil =>
    have none : first = 0 := by simpa [ready] using enough
    rw [none, advance, Nat.zero_add]
  | cons arrival later induction =>
    cases arrival with
    | failure error =>
      have none : first = 0 := by simpa [ready] using enough
      rw [none, advance, Nat.zero_add]
    | chunk elements nonempty =>
      rw [ready, length_append] at enough
      rcases Nat.lt_or_ge first elements.length with exceeds | reaches
      · rw [advance_chunk_of_lt exceeds]
        rcases Nat.lt_or_ge (first + second) elements.length with within | beyond
        · have shorter : second < (elements.drop first).length := by
            rw [length_drop]
            omega
          rw [advance_chunk_of_lt shorter, advance_chunk_of_lt within]
          simp only [drop_drop]
        · have longer : (elements.drop first).length ≤ second := by
            rw [length_drop]
            omega
          rw [advance_chunk longer, advance_chunk beyond, length_drop]
          congr 1
          omega
      · rw [advance_chunk reaches, induction (by omega), advance_chunk (by omega)]
        congr 1
        omega

theorem prepend_spec (elements : List α) (stream : ReadStream α) :
    (prepend elements stream).ready = elements ++ stream.ready ∧
      (prepend elements stream).afterFailure = stream.afterFailure := by
  rcases eq_or_ne elements [] with rfl | nonempty
  · rw [prepend_nil]
    exact ⟨rfl, rfl⟩
  · rw [prepend_of_ne nonempty]
    exact ⟨rfl, rfl⟩

theorem contents_prepend (elements : List α) (stream : ReadStream α) :
    (prepend elements stream).contents = elements ++ stream.contents := by
  rcases prepend_spec elements stream with ⟨first, after⟩
  rw [contents_eq, first, after, append_assoc, ← contents_eq]

theorem ofChunks_spec (chunks : List (List α)) :
    (ofChunks chunks).ready = chunks.flatten ∧ (ofChunks chunks).afterFailure = [] := by
  induction chunks with
  | nil => exact ⟨rfl, rfl⟩
  | cons elements chunks induction =>
    rcases prepend_spec elements (ofChunks chunks) with ⟨first, after⟩
    rw [ofChunks, foldr_cons, ← ofChunks, first, after, induction.1, induction.2,
      flatten_cons]
    exact ⟨rfl, rfl⟩

theorem contents_ofChunks (chunks : List (List α)) :
    (ofChunks chunks).contents = chunks.flatten := by
  rcases ofChunks_spec chunks with ⟨all, after⟩
  rw [contents_eq, all, after, contents, append_nil]

theorem failure?_prepend (elements : List α) (stream : ReadStream α) :
    (prepend elements stream).failure? = stream.failure? := by
  rcases eq_or_ne elements [] with rfl | nonempty
  · rw [prepend_nil]
  · rw [prepend_of_ne nonempty, failure?]

theorem failure?_ofChunks (chunks : List (List α)) : (ofChunks chunks).failure? = none := by
  induction chunks with
  | nil => rfl
  | cons elements chunks induction =>
    rw [ofChunks, foldr_cons, ← ofChunks, failure?_prepend, induction]

theorem ready_eq_contents (unfailing : stream.failure? = none) :
    stream.ready = stream.contents := by
  induction stream with
  | nil => rfl
  | cons arrival later induction =>
    cases arrival with
    | failure error => exact absurd unfailing nofun
    | chunk elements nonempty => rw [ready, contents, induction unfailing]

def weight (stream : ReadStream α) : Nat := stream.length + stream.contents.length

theorem weight_read (positive : 0 < limit)
    (unended : stream ≠ []) : (stream.read limit).2.weight < stream.weight := by
  match stream with
  | [] => exact absurd rfl unended
  | .failure error :: later => exact Nat.add_lt_add_right (Nat.lt_succ_self _) _
  | .chunk elements nonempty :: later =>
    rw [read]
    split
    case isTrue exceeds =>
      simp only [weight, contents, length_cons, length_append, length_drop]
      omega
    case isFalse =>
      simp only [weight, contents, length_cons, length_append]
      omega

/-! ## Reading a number of elements -/

inductive Reading where
  | complete
  | closed
  | failed (error : ErrorKind)
  deriving DecidableEq

/-- Read until there are `needed` elements, at most `size` at once. -/
def gatherWith {σ : Type v} (read : Nat → σ → Except ErrorKind (List α) × σ) (size needed : Nat)
    (source : σ) : List α × Reading × σ :=
  if needed = 0 then
    ([], .complete, source)
  else
    match read (min needed size) source with
    | (.error error, later) => ([], .failed error, later)
    | (.ok [], later) => ([], .closed, later)
    | (.ok (first :: rest), later) =>
      let (elements, reading, later) :=
        gatherWith read size (needed - (rest.length + 1)) later
      (first :: rest ++ elements, reading, later)
termination_by needed

def gather (size needed : Nat) (stream : ReadStream α) : List α × Reading × ReadStream α :=
  gatherWith read size needed stream

/-- A source that keeps a copy of what is read from another one. -/
theorem gatherWith_buffered {outer : σ → List α → τ}
    (keeps : ∀ limit inner buffer, readOuter limit (outer inner buffer) =
      ((readInner limit inner).1,
        outer (readInner limit inner).2 (buffer ++ ((readInner limit inner).1.toOption).getD [])))
    (size needed : Nat) (inner : σ) (buffer : List α) :
    gatherWith readOuter size needed (outer inner buffer) =
      ((gatherWith readInner size needed inner).1, (gatherWith readInner size needed inner).2.1,
        outer (gatherWith readInner size needed inner).2.2
          (buffer ++ (gatherWith readInner size needed inner).1)) := by
  induction needed using Nat.strongRecOn generalizing inner buffer with
  | ind needed induction =>
    rw [gatherWith, gatherWith, keeps]
    by_cases none : needed = 0
    · simp [none]
    · rw [if_neg none, if_neg none]
      rcases readInner (min needed size) inner with ⟨error | elements, later⟩
      · simp [Except.toOption]
      · cases elements with
        | nil => simp [Except.toOption]
        | cons first rest =>
          have next := induction (needed - (rest.length + 1)) (by omega) later
            (buffer ++ first :: rest)
          simp only [Except.toOption, getD_some, next]
          rw [append_assoc]

def shortage (stream : ReadStream α) : Reading :=
  match stream.failure? with
  | none => .closed
  | some error => .failed error

/-- A read finds the end of the stream, a failure, or some of what is ready. -/
theorem read_cases (positive : 0 < limit) (stream : ReadStream α) :
    (stream = [] ∧ stream.read limit = (.ok [], [])) ∨
    (∃ error later, stream = .failure error :: later ∧ stream.read limit = (.error error, later)) ∨
    ∃ count, 0 < count ∧ count ≤ limit ∧ count ≤ stream.ready.length ∧
      stream.read limit = (.ok (stream.ready.take count), advance count stream) := by
  match stream with
  | [] => exact .inl ⟨rfl, rfl⟩
  | .failure error :: later => exact .inr (.inl ⟨error, later, rfl, rfl⟩)
  | .chunk elements nonempty :: later =>
    refine .inr (.inr ?_)
    have some := length_pos_iff.mpr nonempty
    rw [read, ready, length_append]
    rcases Nat.lt_or_ge limit elements.length with exceeds | fits
    · refine ⟨limit, positive, Nat.le_refl _, by omega, ?_⟩
      rw [dif_pos exceeds, advance_chunk_of_lt exceeds,
        take_append_of_le_length (Nat.le_of_lt exceeds)]
    · refine ⟨elements.length, some, fits, by omega, ?_⟩
      rw [dif_neg (by omega), advance_chunk (Nat.le_refl _), Nat.sub_self, advance, take_left]

variable {size : Nat}

theorem gather_read (some : 0 < count) (within : count ≤ needed)
    (available : count ≤ stream.ready.length) (found : stream.read (min needed size) =
      (.ok (stream.ready.take count), advance count stream)) :
    gather size needed stream =
      ((stream.ready.take count) ++ (gather size (needed - count) (advance count stream)).1,
        (gather size (needed - count) (advance count stream)).2) := by
  have length : (stream.ready.take count).length = count := length_take_of_le available
  rw [gather, gather, gatherWith, if_neg (by omega), found]
  cases taken : stream.ready.take count with
  | nil =>
    rw [taken, length_nil] at length
    omega
  | cons first rest =>
    rw [taken, length_cons] at length
    simp only [length]

/-- The elements are read when they are ready, in whatever chunks they arrive. -/
theorem gather_of_le (positive : 0 < size) (enough : needed ≤ stream.ready.length) :
    gather size needed stream = (stream.ready.take needed, .complete, advance needed stream) := by
  induction needed using Nat.strongRecOn generalizing stream with
  | ind needed induction =>
    rcases Nat.eq_zero_or_pos needed with none | some
    · rw [gather, gatherWith, if_pos none, none, take_zero, advance]
    rcases read_cases (show 0 < min needed size by omega) stream with
      ⟨rfl, _⟩ | ⟨error, later, rfl, _⟩ | ⟨count, counted, within, available, found⟩
    · exact absurd enough (Nat.not_le_of_gt some)
    · exact absurd enough (Nat.not_le_of_gt some)
    · have remaining := ready_advance available
      have next := @induction (needed - count) (by omega) (advance count stream) (by
        rw [remaining, length_drop]
        omega)
      rw [gather_read counted (by omega) available found, next, remaining,
        advance_advance available, ← take_add]
      simp only [show count + (needed - count) = needed by omega]

/-- Without enough elements, all that are ready are lost. -/
theorem gather_of_lt (positive : 0 < size) (short : stream.ready.length < needed) :
    gather size needed stream = (stream.ready, stream.shortage, stream.afterFailure) := by
  induction needed using Nat.strongRecOn generalizing stream with
  | ind needed induction =>
    rcases read_cases (show 0 < min needed size by omega) stream with
      ⟨rfl, found⟩ | ⟨error, later, rfl, found⟩ | ⟨count, counted, within, available, found⟩
    · rw [gather, gatherWith, if_neg (by omega), found]
      rfl
    · rw [gather, gatherWith, if_neg (by omega), found]
      rfl
    · rcases advance_spec available with ⟨remaining, failure, after⟩
      have next := @induction (needed - count) (by omega) (advance count stream) (by
        rw [remaining, length_drop]
        omega)
      rw [gather_read counted (by omega) available found, next, remaining, after, shortage,
        failure, take_append_drop]
      rfl

end ReadStream

end Orion.Foundation
