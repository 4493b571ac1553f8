import Keypad.Session

/-!
# Handles

A session is reached through a handle. Once the session has stopped, commands are
refused, and the last view remains.
-/

namespace Keypad

/-- Why a command was refused. -/
inductive SessionFault where
  | closed
deriving DecidableEq, Repr

/-- The wording of a fault. -/
def SessionFault.message : SessionFault → Text
  | .closed => "Calculator session has stopped".toList

/-- What a handle leads to. -/
inductive Handle where
  | running (session : Session)
  /-- The session has stopped with this view. -/
  | stopped (last : View)

namespace Handle

/-- The latest view. -/
def view : Handle → View
  | .running session => session.view
  | .stopped last => last

/-- A command is handled, or refused if the session has stopped. -/
def send (handle : Handle) (now : Moment) (command : Command) :
    Except SessionFault (Handle × Option Request) :=
  match handle with
  | .running session =>
      let (next, request) := session.handle now command
      .ok (.running next, request)
  | .stopped _ => .error .closed

/-- The session stops. What was seen last stays visible. -/
def stop (handle : Handle) : Handle :=
  .stopped handle.view

@[simp] theorem view_stop (handle : Handle) : handle.stop.view = handle.view := rfl

/-- Nothing reaches a session that has stopped. -/
@[simp] theorem send_stop (handle : Handle) (now : Moment) (command : Command) :
    handle.stop.send now command = .error .closed := rfl

end Handle

end Keypad
