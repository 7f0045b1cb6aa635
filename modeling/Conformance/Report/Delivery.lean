import Conformance.Report.Console
import Conformance.Report.JsonLines
import Conformance.Report.Sink

/-! # Reporters

A reporter is told about a run event by event; every call may fail, and may change the
reporter's state also when it fails.  The reporters of the program render each event in
some style and put it into a sink.
-/

namespace Conformance

/-- Something that is told about a run. -/
structure Reporter (σ : Type) where
  /-- Takes notice of an event: the new state, and the fault if the call failed. -/
  notify : σ → Event → σ × Option IoFault

/-- The forms a report can take. -/
inductive Style where
  | console (look : Console)
  | jsonLines
deriving Repr, DecidableEq

namespace Style

/-- What a report of this style writes for an event. -/
def render : Style → Event → String
  | .console look, event => look.render event
  | .jsonLines, event => JsonLines.render event

/-- The reporter of this style over a sink. -/
def reporter (style : Style) : Reporter Sink where
  notify sink event := sink.put (Utf8.encode (style.render event)) event.flushes

end Style

/-! ## Transcripts -/

/-- One call of a reporter over a sink: the event, the bytes the sink took during the
    call, and the fault if it failed. -/
structure Delivery where
  event : Event
  written : List UInt8
  fault : Option IoFault
deriving DecidableEq

/-- A sink together with the calls made so far, latest last. -/
structure Transcript where
  sink : Sink := {}
  deliveries : List Delivery := []

/-- Tells a reporter over a sink about an event and notes what came of it. -/
def Transcript.deliver (style : Style) (transcript : Transcript) (event : Event) :
    Transcript × Option IoFault :=
  let (sink, fault) := style.reporter.notify transcript.sink event
  let written := sink.taken.drop transcript.sink.taken.length
  (⟨sink, transcript.deliveries ++ [⟨event, written, fault⟩]⟩, fault)

/-- The reporter that keeps a transcript. -/
def Transcript.reporter (style : Style) : Reporter Transcript where
  notify := Transcript.deliver style

/-- Tells a reporter about events one after the other, whether or not calls fail. -/
def Transcript.ofEvents (style : Style) (sink : Sink) (events : List Event) : Transcript :=
  events.foldl (fun transcript event => (transcript.deliver style event).1) { sink }

end Conformance
