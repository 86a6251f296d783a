import ChartParsing.Command.Failure

/-!
Contract: what a command does, as data.

Owns what a command needs of its surroundings, and the script that it leaves in surroundings that only
record: the texts it writes and the records it logs, in order, and the failure it ends with, if any.
Owns also the carrying out of a script on a sink, which ends at the first text that does not fit;
nothing that comes later in the script happens then.
-/

set_option autoImplicit false

namespace ChartParsing.Command

/-- One thing that a command does. -/
inductive Event where
  | write (text : String)
  /-- What has been written is passed on, as far as it was held back. -/
  | flush
  | log (record : LogRecord)
deriving DecidableEq, Repr

/-- All that a command does. -/
structure Script where
  events : List Event
  failure : Option Failure
deriving DecidableEq, Repr

/-- The events of the records that a threshold lets through. -/
def logged (threshold : Threshold) (records : List LogRecord) : List Event :=
  (threshold.select records).map .log

/-! ## Surroundings -/

/-- What a command works in: files, a clock, and what becomes of its events. -/
structure Surroundings (Effect : Type → Type) where
  read : String → Effect (Except ReadError String)
  /-- The value of a computation, with the time it took. -/
  timed : {Value : Type} → (Unit → Value) → Effect (Value × String)
  perform : Event → Effect Unit

namespace Surroundings

def performAll {Effect : Type → Type} [Monad Effect] (surroundings : Surroundings Effect)
    (events : List Event) : Effect Unit :=
  events.forM surroundings.perform

/-- Surroundings with given files, and one text for all times, in which events are only recorded. -/
def recording (files : Files) (elapsed : String) : Surroundings (StateM (Array Event)) where
  read path := pure (files path)
  timed value := pure (value (), elapsed)
  perform event := modify fun events => events.push event

end Surroundings

/-- What has been recorded of a command that ends with a failure or without one. -/
def Script.ofRecording (recorded : StateM (Array Event) (Option Failure)) : Script :=
  let (failure, events) := recorded.run #[]
  ⟨events.toList, failure⟩

/-! ## Sinks -/

/-- What is left of a script that has been carried out. -/
structure Outcome where
  output : ByteArray
  log : List LogRecord
  failure : Option Failure

/-- Carries out events up to the first text that does not fit, which is a failure of its own. A sink
holds nothing back. -/
def performEvents (failure : Option Failure) (sink : ByteSink) (log : Array LogRecord) :
    List Event → Outcome
  | [] => ⟨sink.bytes, log.toList, failure⟩
  | .flush :: others => performEvents failure sink log others
  | .log record :: others => performEvents failure sink (log.push record) others
  | .write text :: others =>
    match sink.write text with
    | (written, true) => performEvents failure written log others
    | (written, false) => ⟨written.bytes, log.toList, some (.outputFailed ByteSink.fullMessage)⟩

/-- Carries out a script on a sink with limited room. -/
def Script.perform (script : Script) (limit : Option Nat) : Outcome :=
  performEvents script.failure (.ofLimit limit) #[] script.events

end ChartParsing.Command
