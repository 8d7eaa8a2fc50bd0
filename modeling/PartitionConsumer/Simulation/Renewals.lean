import PartitionConsumer.Simulation.World
/-!
Turns of renewal schedules.
-/
namespace PartitionConsumer.Simulation
namespace World

def adoptRenewal (w : World) (n : Nat) (r : Renewal) : World :=
  match w.renewals[n]? with
  | none => w
  | some seat =>
    let w := { w with
      renewals := w.renewals.modify n fun s => { s with renewal := { r with trace := [] } } }
    r.trace.foldl
      (fun w effect =>
        match effect, seat.feed with
        | .publish e, some f => w.publish f e
        | .log r, _ => w.log r
        | _, _ => w)
      w

/-- Whether the owner of a renewal is closing or closed. -/
def ownerClosing (w : World) : Owner → Bool
  | .pump p => (w.pump? p).any (·.status.isClosingOrClosed)
  | .entity o => (w.owners.getD o ("", false)).2

/-- A task for the timer of renewal `n`, if one is armed. -/
def armTimer (w : World) (n : Nat) (r : Renewal) : World :=
  if r.pending then w.spawn [.timer n (wakeTime w.now r.interval)] else w

def turnTimer (w : World) (id n : Nat) : Option World := do
  let seat ← w.renewals[n]?
  let (r, runs) := seat.renewal.fire (w.ownerClosing seat.owner)
  let w := w.adoptRenewal n r
  if runs then
    let w := w.note (.renew n)
    let act := seat.script.headD {}
    let w := { w with renewals := w.renewals.modify n fun s => { s with script := s.script.tail } }
    return w.setFrames id [.renewing n act (act.delay.map (wakeTime w.now))]
  else return w.finishTask id .nothing

def turnRenewing (w : World) (id n : Nat) (act : RenewalAct) : Option World := do
  let seat ← w.renewals[n]?
  let w := if act.delay.isSome then w.note (.renewEnded n) else w
  let outcome := match act.fail with
    | some detail => .error ⟨detail⟩
    | none => .ok ()
  let r := seat.renewal.complete outcome
  return ((w.adoptRenewal n r).armTimer n r).finishTask id .nothing

end World
end PartitionConsumer.Simulation
