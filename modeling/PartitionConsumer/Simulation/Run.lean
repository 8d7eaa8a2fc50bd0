import PartitionConsumer.Simulation.Turn
/-!
Running a simulation: tasks run in the order in which they became able to, each until it waits, and
time jumps from timer to timer.
-/
namespace PartitionConsumer.Simulation
namespace World

/-- Queues the tasks that can go on and are not in the queue yet, the oldest first. -/
def enqueue (w : World) : World :=
  let woken := w.tasks.filter fun t =>
    !w.queue.contains t.id && !w.focus.contains t.id && (w.turn? t.id t.frames).isSome
  { w with queue := w.queue ++ woken.map (·.id) }

/-- One turn of the world. The task in focus goes on until it waits; then it is for the first one in
the queue. -/
def step? (w : World) : Option World :=
  match w.focus, w.queue with
  | id :: rest, _ =>
    match (w.tasks.find? (·.id == id)).bind fun t => w.turn? t.id t.frames with
    | some w' => some w'.enqueue
    | none => some { w with focus := rest }
  | [], id :: queue => some { w with focus := [id], queue }
  | [], [] =>
    let w := w.enqueue
    if w.queue.isEmpty then none else some w

/-- Turns are taken until no task can go on, at most `fuel` of them. -/
def settleWithin : Nat → World → World
  | 0, w => w
  | fuel + 1, w =>
    match w.step? with
    | some w' => settleWithin fuel w'
    | none => w

/-- More turns than any instant takes whose work comes to an end. -/
def turnLimit : Nat := 10000000

/-- Everything runs until all tasks wait. -/
def settle (w : World) : World := settleWithin turnLimit w

def nextTimer? (w : World) : Option Nat :=
  ((w.frames.filterMap (·.timer?)).filter (w.now < ·)).min?

/-- Time goes from `now` to `target`, from timer to timer; all that a timer sets off is run before the
next one. -/
def advance (w : World) (now target : Nat) : World :=
  match w.nextTimer? with
  | some tick =>
    if now < tick ∧ tick ≤ target then
      ({ w with now := tick }.settle).advance tick target
    else { w with now := target }.settle
  | none => { w with now := target }.settle
termination_by target - now

end World
end PartitionConsumer.Simulation
