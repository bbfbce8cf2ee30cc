import GuestRuntime.Text.Utf8

/-!
Sinks, where console text goes. A sink keeps what it is given, or it is a recorder that shows every
call and behaves, or misbehaves, in one known way. Writing a whole text is a series of calls: the
portions a sink takes, then how it ends. A sink may also call the host itself while it is written
to, as a guest does.
-/

namespace GuestRuntime

/-- A call a guest makes to its host. -/
inductive Callback
  | write (bytes : Option Bytes) (length : Int) (kind : Int)
  | message (bytes : Option Bytes)
  | cleanUp
  | processEvents
  | busy
  deriving DecidableEq, Repr

/-- What a recorder does when it is written to or flushed. -/
inductive Behaviour
  | plain
  /-- Every write fails. -/
  | broken
  /-- Every write panics. -/
  | panics
  /-- A write takes nothing. -/
  | takesNone
  /-- A write takes one byte. -/
  | takesOne
  /-- Every flush fails. -/
  | flushFails
  /-- A write makes these calls itself before it takes all. -/
  | calls (cs : List Callback)
  deriving DecidableEq, Repr

inductive Sink
  | recorder (name : String) (behaviour : Behaviour)
  /-- Takes everything and holds it. -/
  | buffer (held : Bytes)
  deriving DecidableEq, Repr

/-- How handing over a text ended. -/
inductive Delivery
  | done
  | failed (why : String)
  | panicked
  deriving DecidableEq, Repr

/-- One call that a recorder saw. -/
inductive SinkEvent
  | wrote (sink : String) (bytes : Bytes)
  | flushed (sink : String)
  deriving DecidableEq, Repr

namespace Behaviour

/-- A write writes a short text to the console itself. -/
def reenters : Behaviour :=
  let text := Utf8.encode "[nested]"
  calls [.write (some text) text.length 0]

/-- The portions that the writes of a text show: what was offered, or the byte that was taken. -/
def portions : Behaviour → Bytes → List Bytes
  | _, [] => []
  | takesOne, b => b.map ([·])
  | _, b => [b]

/-- How the writes of a text end; an empty text needs no write. -/
def writing : Behaviour → Bytes → Delivery
  | _, [] => .done
  | broken, _ => .failed "closed"
  | panics, _ => .panicked
  | takesNone, _ => .failed "failed to write whole buffer"
  | _, _ => .done

/-- The calls that the writes of a text make themselves. -/
def calling : Behaviour → Bytes → List Callback
  | calls cs, _ :: _ => cs
  | _, _ => []

def flushing : Behaviour → Delivery
  | flushFails => .failed "cannot flush"
  | _ => .done

end Behaviour
end GuestRuntime
