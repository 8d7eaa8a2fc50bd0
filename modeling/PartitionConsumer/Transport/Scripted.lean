import PartitionConsumer.Transport.Receiver
import PartitionConsumer.Pump.Basic
/-!
The in-memory transport: creation calls follow a script, one step a call, and succeed when the script
has ended. All it made and was asked is kept.
-/
namespace PartitionConsumer

inductive CreationStep where
  | succeed
  | fail (error : TransportError)
  | hang
  | delay (wait : Span)
  deriving DecidableEq, Repr, Inhabited

/-- When a creation call that began at `now` is answered, and whether with an error. -/
def CreationStep.schedule (step : CreationStep) (now : Nat) : Option (Nat × Option TransportError) :=
  match step with
  | .succeed => some (now, none)
  | .fail e => some (now, some e)
  | .hang => none
  | .delay wait => some (wakeTime now wait, none)

structure Transport where
  clientScript : List CreationStep := []
  receiverScript : List CreationStep := []
  /-- Calls for a client. -/
  attempts : Nat := 0
  clients : Array Client := #[]
  receivers : Array Receiver := #[]
  /-- Calls for a receiver, in order. -/
  requests : Array ReceiverRequest := #[]
  deriving Inhabited

namespace Transport

def callClient (t : Transport) : CreationStep × Transport :=
  (t.clientScript.headD .succeed,
    { t with attempts := t.attempts + 1, clientScript := t.clientScript.tail })

def callReceiver (t : Transport) (request : ReceiverRequest) : CreationStep × Transport :=
  (t.receiverScript.headD .succeed,
    { t with requests := t.requests.push request, receiverScript := t.receiverScript.tail })

/-- Makes a client; its number is that of the clients before it. -/
def addClient (t : Transport) : Nat × Transport :=
  (t.clients.size, { t with clients := t.clients.push {} })

/-- Makes a receiver; its number is that of the receivers before it. -/
def addReceiver (t : Transport) (epoch : Nat) : Nat × Transport :=
  (t.receivers.size, { t with receivers := t.receivers.push { epoch } })

def modifyReceiver (t : Transport) (r : Nat) (f : Receiver → Receiver) : Transport :=
  { t with receivers := t.receivers.modify r f }

def modifyClient (t : Transport) (c : Nat) (f : Client → Client) : Transport :=
  { t with clients := t.clients.modify c f }

def closeReceiver (t : Transport) (r : Nat) : Transport × Except TransportError Unit :=
  match t.receivers[r]? with
  | some receiver => (t.modifyReceiver r fun _ => receiver.close.1, receiver.close.2)
  | none => (t, .ok ())

def closeClient (t : Transport) (c : Nat) : Transport × Except TransportError Unit :=
  match t.clients[c]? with
  | some client => (t.modifyClient c fun _ => client.close.1, client.close.2)
  | none => (t, .ok ())

end Transport
end PartitionConsumer
