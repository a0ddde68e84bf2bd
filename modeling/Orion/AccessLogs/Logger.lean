import Orion.Listeners.Listener

/-! # Access loggers

An access logger has a list of writers for each listener. Records arrive in lists too, and
each is written by the writer at its position. -/

namespace Orion.AccessLogs

open Foundation Listeners List Option Nat

inductive AccessLogConf where
  | file (path : Text)
  | stderr
  | stdout
  deriving DecidableEq

inductive Target where
  | listener (name : Text)
  | admin
  deriving DecidableEq

inductive AccessLogMessage (Record : Type) where
  | configure (target : Target) (configurations : List AccessLogConf)
  | message (target : Target) (records : List Record)

/-! ## Writers -/

inductive Sink where
  | stdout
  | stderr
  | file (name : Text)
  deriving DecidableEq

structure LogWriter where
  index : Nat
  conf : AccessLogConf
  deriving DecidableEq

def LogWriter.sink (writer : LogWriter) : Sink :=
  match writer.conf with
  | .stdout => .stdout
  | .stderr => .stderr
  | .file path =>
    .file (if writer.index = 0 then path
      else path ++ '-' :: toDigits 10 writer.index)

theorem LogWriter.sink_injective (index : Nat) :
    Function.Injective fun conf => (LogWriter.mk index conf).sink := by
  intro left right same
  cases left <;> cases right <;> simp_all [sink]
  split at same
  · exact same
  · exact append_cancel_right same

/-! ## Loggers -/

structure AccessLogger where
  id : Nat
  map : AList fun _ : Target => List LogWriter

namespace AccessLogger

variable {Record : Type}

def new (id : Nat) : AccessLogger := ⟨id, ∅⟩

def updateRequired (loggers : Option (List LogWriter)) (newConf : List AccessLogConf) : Bool :=
  match loggers with
  | none => true
  | some writers =>
    writers.length ≠ newConf.length ∨
      (writers.zip newConf).any fun (writer, conf) => writer.conf ≠ conf

def configure (logger : AccessLogger) (target : Target) (newConf : List AccessLogConf) :
    AccessLogger :=
  if updateRequired (logger.map.lookup target) newConf then
    { logger with map := logger.map.insert target (newConf.map (LogWriter.mk logger.id)) }
  else
    logger

def write (logger : AccessLogger) (target : Target) (records : List Record) :
    List (Sink × Record) :=
  match logger.map.lookup target with
  | some loggers => (loggers.zip records).map fun (writer, record) => (writer.sink, record)
  | none => []

def handle (logger : AccessLogger) : AccessLogMessage Record → AccessLogger
  | .configure target newConf => logger.configure target newConf
  | .message _ _ => logger

def run (logger : AccessLogger) (messages : List (AccessLogMessage Record)) : AccessLogger :=
  messages.foldl handle logger

end AccessLogger

/-! ## Listeners -/

/-- An access log, with the format that makes a record of all that is known in the end. -/
structure AccessLog (Context Record : Type) where
  config : AccessLogConf
  logger : Context → Record

/-- The last filter of a filter chain has the access logs. -/
inductive LoggingFilter (Context Record : Type) where
  | http (accessLog : List (AccessLog Context Record))
  | tcp (accessLog : List (AccessLog Context Record))

namespace LoggingFilter

variable {Context Record : Type}

def accessLog : LoggingFilter Context Record → List (AccessLog Context Record)
  | .http accessLog | .tcp accessLog => accessLog

def configurations (filter : LoggingFilter Context Record) : List AccessLogConf :=
  filter.accessLog.map AccessLog.config

def messages (filter : LoggingFilter Context Record) (context : Context) : List Record :=
  filter.accessLog.map fun accessLog => accessLog.logger context

end LoggingFilter

/-- The filter chains stand in the order in which their map is iterated. -/
structure LoggingListener (Context Record : Type) where
  name : Text
  filterChains : List (FilterChainMatch × LoggingFilter Context Record)

def LoggingListener.getAccessLogConfigurations {Context Record : Type}
    (listener : LoggingListener Context Record) : List AccessLogConf :=
  listener.filterChains.flatMap fun (_, filterChain) => filterChain.configurations

/-- What is sent to the loggers: the access logs of a listener, that there are none any more,
and the records of one of its filter chains. -/
inductive Event (Context Record : Type) where
  | updated (listener : LoggingListener Context Record)
  | removed (name : Text)
  | logged (name : Text) (filter : LoggingFilter Context Record) (context : Context)

def Event.message {Context Record : Type} : Event Context Record → AccessLogMessage Record
  | .updated listener => .configure (.listener listener.name) listener.getAccessLogConfigurations
  | .removed name => .configure (.listener name) []
  | .logged name filter context => .message (.listener name) (filter.messages context)

/-! ## What is written -/

namespace AccessLogger

variable {Context Record : Type}

def writers (logger : AccessLogger) (target : Target) : List LogWriter :=
  (logger.map.lookup target).getD []

theorem write_eq (logger : AccessLogger) (target : Target) (records : List Record) :
    logger.write target records =
      ((logger.writers target).zip records).map fun (writer, record) => (writer.sink, record) := by
  rw [write, writers]
  cases logger.map.lookup target <;> rfl

variable {logger : AccessLogger}

theorem writers_configure_of_ne (different : other ≠ target) (newConf : List AccessLogConf) :
    (logger.configure target newConf).writers other = logger.writers other := by
  rw [configure]
  split
  · rw [writers, AList.lookup_insert_ne different, writers]
  · rfl

variable {confs : List AccessLogConf}

theorem eq_of_not_updateRequired {id : Nat}
    (same : updateRequired (some (confs.map (LogWriter.mk id))) newConf = false) :
    confs = newConf := by
  induction confs generalizing newConf with
  | nil =>
    cases newConf with
    | nil => rfl
    | cons conf newConf => simp [updateRequired] at same
  | cons first confs induction =>
    cases newConf with
    | nil => simp [updateRequired] at same
    | cons conf newConf =>
      have rest : updateRequired (some (confs.map (LogWriter.mk id))) newConf = false := by
        simp [updateRequired] at same ⊢
        exact ⟨same.1, same.2.2⟩
      have equal : first = conf := by
        simp [updateRequired] at same
        exact same.2.1
      rw [equal, induction rest]

theorem writers_configure (before : logger.writers target = confs.map (LogWriter.mk logger.id))
    (newConf : List AccessLogConf) :
    (logger.configure target newConf).writers target = newConf.map (LogWriter.mk logger.id) := by
  rw [configure]
  split
  case isTrue => rw [writers, AList.lookup_insert, getD_some]
  case isFalse unchanged =>
    cases found : logger.map.lookup target with
    | none =>
      rw [found] at unchanged
      exact absurd rfl unchanged
    | some loggers =>
      rw [writers, found, getD_some] at before
      rw [found, before, Bool.not_eq_true] at unchanged
      rw [writers, found, before, ← eq_of_not_updateRequired unchanged]
      rfl

theorem writers_configure_listener
    (before : logger.writers (.listener name) = confs.map (LogWriter.mk logger.id)) (other : Text)
    (newConf : List AccessLogConf) :
    (logger.configure (.listener other) newConf).writers (.listener name) =
      (if other = name then newConf else confs).map (LogWriter.mk logger.id) := by
  by_cases same : other = name
  · subst same
    rw [if_pos rfl, writers_configure before]
  · have different : Target.listener name ≠ Target.listener other := by
      intro equal
      injection equal with equal
      exact same equal.symm
    rw [if_neg same, writers_configure_of_ne different, before]

theorem id_run (id : Nat) (messages : List (AccessLogMessage Record)) :
    ((new id).run messages).id = id := by
  induction messages using reverseRecOn with
  | nil => rfl
  | append_singleton messages message induction =>
    rw [run, foldl_append, ← run]
    cases message with
    | message target records => exact induction
    | configure target newConf =>
      change (configure _ target newConf).id = id
      rw [configure]
      split
      · exact induction
      · exact induction

def chainsInForce (events : List (Event Context Record)) (name : Text) :
    List (FilterChainMatch × LoggingFilter Context Record) :=
  events.foldl (fun chains event =>
    match event with
    | .updated listener => if listener.name = name then listener.filterChains else chains
    | .removed removed => if removed = name then [] else chains
    | .logged _ _ _ => chains) []

def configurationsInForce (events : List (Event Context Record)) (name : Text) :
    List AccessLogConf :=
  (chainsInForce events name).flatMap fun chain => chain.2.configurations

theorem writers_run (id : Nat) (events : List (Event Context Record)) (name : Text) :
    ((new id).run (events.map Event.message)).writers (.listener name) =
      (configurationsInForce events name).map (LogWriter.mk id) := by
  induction events using reverseRecOn with
  | nil => rfl
  | append_singleton events event induction =>
    have same := id_run id (events.map Event.message)
    have configured := writers_configure_listener (induction.trans (by rw [same]))
    rw [same] at configured
    rw [map_append, run, foldl_append, ← run, configurationsInForce, chainsInForce,
      foldl_append, ← chainsInForce]
    cases event with
    | logged other filter context => exact induction
    | updated listener =>
      refine (configured listener.name _).trans ?_
      simp only [foldl_cons, foldl_nil]
      split <;> rfl
    | removed other =>
      refine (configured other []).trans ?_
      simp only [foldl_cons, foldl_nil]
      split <;> rfl

/-- Lists that are paired with the same records agree as far as the records go. -/
theorem zip_sinks_iff {id : Nat} {accessLog : List (AccessLog Context Record)} :
    ((confs.map (LogWriter.mk id)).zip
        (accessLog.map fun accessLog => accessLog.logger context)).map
        (fun (writer, record) => (writer.sink, record)) =
      accessLog.map (fun accessLog =>
        ((LogWriter.mk id accessLog.config).sink, accessLog.logger context)) ↔
    accessLog.map AccessLog.config <+: confs := by
  induction accessLog generalizing confs with
  | nil => simp
  | cons first accessLog induction =>
    cases confs with
    | nil => simp
    | cons conf confs =>
      have sinks : (LogWriter.mk id conf).sink = (LogWriter.mk id first.config).sink ↔
          first.config = conf :=
        (LogWriter.sink_injective id).eq_iff.trans eq_comm
      simp only [map_cons, zip_cons_cons, cons.injEq, Prod.mk.injEq, and_true,
        cons_prefix_cons, sinks, induction]

/-- The records of a filter chain are all written to their own sinks, and to no others, exactly
when the chain's configurations are the first ones of its listener. -/
theorem written_iff (id : Nat) (events : List (Event Context Record)) (name : Text)
    (filter : LoggingFilter Context Record) (context : Context) :
    ((new id).run (events.map Event.message)).write (.listener name) (filter.messages context) =
        filter.accessLog.map (fun accessLog =>
          ((LogWriter.mk id accessLog.config).sink, accessLog.logger context)) ↔
      filter.configurations <+: configurationsInForce events name := by
  rw [write_eq, writers_run]
  exact zip_sinks_iff

def twoChains : LoggingListener Unit Text :=
  ⟨"ingress".toList, [
    ({ destinationPort := some 80 }, .http [⟨.file "web".toList, fun _ => "web record".toList⟩]),
    ({ destinationPort := some 22 }, .tcp [⟨.file "tcp".toList, fun _ => "tcp record".toList⟩])]⟩

/-- The record of the second filter chain is written to the file of the first one. -/
theorem second_chain_misplaced :
    ((new 0).run [(Event.updated twoChains).message]).write (.listener "ingress".toList)
      ((LoggingFilter.tcp [⟨.file "tcp".toList, fun _ => "tcp record".toList⟩]).messages ()) =
        [(.file "web".toList, "tcp record".toList)] := by
  decide

end AccessLogger

end Orion.AccessLogs
