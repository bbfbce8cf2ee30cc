import GuestRuntime.Console.Sink
import GuestRuntime.Journal
import GuestRuntime.Text.Terminated

/-!
Console output. A guest's text goes to one sink: the own sink of the thread that evaluates, unless
there is none or the text comes from inside that sink's own write; then to the shared one. It is
written whole and flushed once. No failure goes back to the guest: it becomes one note.

        text ──▶ own sink?  ──none──▶ shared sink
                   │ some             ▲
                   ▼                  │ text written from inside it
                own sink ─────────────┘

A capture puts a buffer in the place of the own sink and puts the own sink back.
-/

namespace GuestRuntime

/-- All that can be seen from outside: where text goes, what recorders saw, the journal. -/
structure Output where
  shared : Sink
  own : Option Sink := none
  events : Array SinkEvent := #[]
  journal : Array Note := #[]

namespace Output

def note (o : Output) (n : Note) : Output := { o with journal := o.journal.push n }

/-- A failed delivery becomes one note. -/
def report (call : ConsoleCall) : Delivery × Output → Output
  | (.done, o) => o
  | (.failed why, o) => o.note (.consoleFailed call why)
  | (.panicked, o) => o.note (.consolePanicked call)

def saw (o : Output) (es : List SinkEvent) : Output := { o with events := o.events ++ es.toArray }

/-- The writes of a text to a recorder; `inside` is what a call does that they make themselves. -/
def writeAll (inside : Output → Callback → Output) (name : String) (b : Behaviour)
    (text : Bytes) (o : Output) : Delivery × Output :=
  let o := o.saw ((b.portions text).map (.wrote name))
  (b.writing text, (b.calling text).foldl inside o)

/-- The writes of a text and, if they succeed, one flush. -/
def deliver (inside : Output → Callback → Output) (name : String) (b : Behaviour)
    (text : Bytes) (o : Output) : Delivery × Output :=
  match writeAll inside name b text o with
  | (.done, o) => (b.flushing, o.saw [.flushed name])
  | failure => failure

/-- Hands a text to the shared sink, which must not call the host itself. -/
def toShared (text : Bytes) (o : Output) : Delivery × Output :=
  match o.shared with
  | .buffer held => (.done, { o with shared := .buffer (held ++ text) })
  | .recorder name b => deliver (fun o _ => o) name b text o

/-- The text of bytes that need not be one. -/
def readable (b : Bytes) : Bytes := Utf8.encode (Utf8.decodeLossy b)

/-- The text a callback hands over, and which call that is. -/
def textOf : Callback → Option (ConsoleCall × Bytes)
  | .write (some b) n _ => if 0 < n then some (.write, readable (b.take n.toNat)) else none
  | .message (some b) => some (.message, readable (Terminated.upToNul b))
  | _ => none

/-- A callback on a thread without a sink of its own, or from inside that sink's own write. -/
def callbackElsewhere (o : Output) (c : Callback) : Output :=
  match textOf c with
  | none => o
  | some (call, text) => report call (toShared text o)

/-- Hands a text to the sink it belongs to. -/
def emit (text : Bytes) (o : Output) : Delivery × Output :=
  match o.own with
  | none => toShared text o
  | some (.buffer held) => (.done, { o with own := some (.buffer (held ++ text)) })
  | some (.recorder name b) => deliver callbackElsewhere name b text o

/-- A callback on the thread that evaluates. -/
def callback (o : Output) (c : Callback) : Output :=
  match textOf c with
  | none => o
  | some (call, text) => report call (emit text o)

/-- Sends the shared text elsewhere; gives the sink it went to. -/
def setShared (s : Sink) (o : Output) : Sink × Output := (o.shared, { o with shared := s })

/-- Gives this thread a sink of its own, or none; gives the one it had. -/
def setOwn (s : Option Sink) (o : Output) : Option Sink × Output := (o.own, { o with own := s })

/-- One write straight to a sink that is installed nowhere; whether it panics. -/
def poke (s : Sink) (text : Bytes) (o : Output) : Bool × Output :=
  match s with
  | .buffer _ => (false, o)
  | .recorder name b =>
    let o := o.saw (((b.portions text).take 1).map (.wrote name))
    (b = .panics, (b.calling text).foldl callback o)

/-- Puts an empty buffer in the place of the own sink; gives what was there. -/
def openCapture (o : Output) : Option Sink × Output := setOwn (some (.buffer [])) o

/-- Puts the own sink back; gives what the buffer held. -/
def closeCapture (before : Option Sink) (o : Output) : Bytes × Output :=
  (match o.own with
    | some (.buffer held) => held
    | _ => [], { o with own := before })

/-- The text that `body` writes, which no sink sees. -/
def capture (body : Output → Output) (o : Output) : String × Output :=
  let (before, o) := o.openCapture
  let (held, o) := (body o).closeCapture before
  (Utf8.decodeLossy held, o)

end Output
end GuestRuntime
