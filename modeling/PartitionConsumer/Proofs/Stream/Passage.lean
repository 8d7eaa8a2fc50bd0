import PartitionConsumer.Proofs.Session.Basic
/-!
# The passage of a delivery

What a pump that runs has to do with a delivery, said without the pump: the delivery is normalised, the batch
is handed to the batch hook, and what comes back is published or reported, before the next delivery comes.
-/
namespace PartitionConsumer

/-- The batch that a delivery brings to the batch hook: a window without messages brings an empty one, or
none. -/
def Options.normalised (o : Options) : Option Batch → Option Batch
  | some (m :: ms) => some (m :: ms)
  | _ => if o.invokeOnEmpty then some [] else none

inductive Deed where
  /-- A delivery has reached the pump. -/
  | came (messages : Option Batch)
  | did (effect : Effect)
  | answered (hook : HookCall) (outcome : Except ProcessorError Unit)
  /-- The pump is done with a delivery. -/
  | left (messages : Option Batch)
  deriving Repr

def Deed.batch? : Deed → Option Batch
  | .did (.ask (.hook (.onEvents batch))) => some batch
  | _ => none

/-- What a mark tells of the deliveries: all that any call does, and all that is answered to it. -/
def Mark.deed? : Mark → Option Deed
  | .began _ (.delivery messages) => some (.came messages)
  | .did _ e => some (.did e)
  | .told _ ⟨_, _, some (.hook call)⟩ (.hook outcome) => some (.answered call outcome)
  | .returned _ (.delivery messages) => some (.left messages)
  | _ => none

def deeds (h : List Mark) : List Deed := h.filterMap Mark.deed?

@[simp] theorem deeds_append (h k : List Mark) : deeds (h ++ k) = deeds h ++ deeds k := by simp [deeds]

structure Handover where
  report : Option TailReport := none
  messages : Option Batch
  /-- What the batch hook returns. -/
  outcome : Except ProcessorError Unit := .ok ()
  /-- What the error hook returns. -/
  afterwards : Except ProcessorError Unit := .ok ()
  deriving Repr

namespace Handover

variable (partition : String)

/-- What is done about the outcome of the batch hook: it is published, or the error hook is told. -/
def reaction (h : Handover) (count : Nat) : List Deed :=
  match h.outcome with
  | .ok () => [.did (.publish { kind := .batchDelivered, partition, count })]
  | .error e =>
    [.did (.ask (.hook (.onError (.processor e)))), .answered (.onError (.processor e)) h.afterwards]

def handling (h : Handover) (batch : Batch) : List Deed :=
  .did (.ask (.hook (.onEvents batch))) :: .answered (.onEvents batch) h.outcome
    :: h.reaction partition batch.length

/-- All that is to be seen of a delivery. -/
def story (o : Options) (h : Handover) : List Deed :=
  .came h.messages :: (o.normalised h.messages).elim [] (h.handling partition) ++ [.left h.messages]

/-- Nothing is done with what brings no batch. -/
theorem story_of_none {o : Options} {h : Handover} (hn : o.normalised h.messages = none) :
    h.story partition o = [.came h.messages, .left h.messages] := by simp [story, hn]

/-- Of a delivery the batch hook is handed the normalised batch, once. -/
theorem batches_story (o : Options) (h : Handover) :
    (h.story partition o).filterMap Deed.batch? = (o.normalised h.messages).toList := by
  unfold story
  cases o.normalised h.messages with
  | none => rfl
  | some batch =>
    unfold Option.elim handling reaction
    cases h.outcome <;> rfl

theorem batches_stories (o : Options) (hs : List Handover) :
    (hs.flatMap (story partition o)).filterMap Deed.batch?
      = (hs.map (·.messages)).filterMap o.normalised := by
  induction hs with
  | nil => rfl
  | cons h hs ih =>
    rw [List.flatMap_cons, List.filterMap_append, batches_story, ih, List.map_cons, List.filterMap_cons]
    cases o.normalised h.messages <;> rfl

end Handover

/-! ## The delivery that is on its way -/

/-- Where the delivery is that is on its way: at the receiver's lock under a ticket of its own, or in the call
it has made. -/
inductive Place where
  | idle
  /-- It has not looked for the handler yet. -/
  | waiting (ticket : Nat) (messages : Option Batch)
  /-- In the batch hook. -/
  | handling (ticket id : Nat) (messages : Option Batch) (batch : Batch)
  /-- In the error hook. -/
  | blaming (ticket id : Nat) (messages : Option Batch) (batch : Batch) (error : ProcessorError)
  /-- Its call has returned. -/
  | ended (ticket id : Nat) (handover : Handover)

namespace Place

variable (o : Options) (partition : String)

def arrived : Place → List (Option Batch)
  | idle => []
  | waiting _ messages | handling _ _ messages _ | blaming _ _ messages _ _ => [messages]
  | ended _ _ h => [h.messages]

def seen : Place → List Deed
  | idle | waiting .. => []
  | handling _ _ messages batch => [.came messages, .did (.ask (.hook (.onEvents batch)))]
  | blaming _ _ messages batch e =>
    [.came messages, .did (.ask (.hook (.onEvents batch))), .answered (.onEvents batch) (.error e),
      .did (.ask (.hook (.onError (.processor e))))]
  | ended _ _ h => h.story partition o

def Sound : Place → Prop
  | handling _ _ messages batch | blaming _ _ messages batch _ => o.normalised messages = some batch
  | _ => True

inductive Moves : Place → List (Option Batch) → List Deed → Place → Prop where
  | stay (p : Place) : Moves p [] [] p
  | arrive (ticket : Nat) (messages : Option Batch) :
    Moves idle [messages] [] (waiting ticket messages)
  | hand {ticket id : Nat} {messages : Option Batch} {batch : Batch}
      (h : o.normalised messages = some batch) :
    Moves (waiting ticket messages) [] [.came messages, .did (.ask (.hook (.onEvents batch)))]
      (handling ticket id messages batch)
  | skip {ticket id : Nat} {messages : Option Batch} (h : o.normalised messages = none) :
    Moves (waiting ticket messages) [] [.came messages, .left messages] (ended ticket id { messages })
  | handled {ticket id : Nat} {messages : Option Batch} {batch : Batch} :
    Moves (handling ticket id messages batch) []
      [.answered (.onEvents batch) (.ok ()),
        .did (.publish { kind := .batchDelivered, partition, count := batch.length }), .left messages]
      (ended ticket id { messages })
  | failed {ticket id : Nat} {messages : Option Batch} {batch : Batch} (e : ProcessorError) :
    Moves (handling ticket id messages batch) []
      [.answered (.onEvents batch) (.error e), .did (.ask (.hook (.onError (.processor e))))]
      (blaming ticket id messages batch e)
  | reported {ticket id : Nat} {messages : Option Batch} {batch : Batch} {e : ProcessorError}
      (outcome : Except ProcessorError Unit) :
    Moves (blaming ticket id messages batch e) []
      [.answered (.onError (.processor e)) outcome, .left messages]
      (ended ticket id { messages, outcome := .error e, afterwards := outcome })
  | leave {ticket id : Nat} {h : Handover} : Moves (ended ticket id h) [] [] idle

/-- Of the deliveries that have arrived all have been dealt with but for the one that is on its way. -/
def Told (p : Place) (arrivals : List (Option Batch)) (ds : List Deed) : Prop :=
  ∃ hs : List Handover, hs.map (·.messages) ++ p.arrived = arrivals
    ∧ ds = hs.flatMap (·.story partition o) ++ p.seen o partition

variable {o partition} {p q : Place} {as bs : List (Option Batch)} {ds es : List Deed}

theorem told_idle : Told o partition idle [] [] := ⟨[], rfl, rfl⟩

/-- A delivery that goes on is the one that has arrived, and more has been seen of it. -/
theorem Moves.goes (h : Moves o partition p bs es q) (hp : p.Sound o) :
    q.Sound o ∧ (p.arrived ++ bs = q.arrived ∧ p.seen o partition ++ es = q.seen o partition
      ∨ ∃ ticket id g, p = ended ticket id g ∧ bs = [] ∧ es = [] ∧ q = idle) := by
  cases h with
  | stay => exact ⟨hp, .inl ⟨List.append_nil _, List.append_nil _⟩⟩
  | arrive => exact ⟨trivial, .inl ⟨rfl, rfl⟩⟩
  | hand hn => exact ⟨hn, .inl ⟨rfl, rfl⟩⟩
  | skip hn => exact ⟨trivial, .inl ⟨rfl, by simp [seen, Handover.story, hn]⟩⟩
  | handled =>
    have hn : o.normalised _ = some _ := hp
    exact ⟨trivial, .inl ⟨rfl, by simp [seen, Handover.story, Handover.handling, Handover.reaction, hn]⟩⟩
  | failed e => exact ⟨hp, .inl ⟨rfl, rfl⟩⟩
  | reported outcome =>
    have hn : o.normalised _ = some _ := hp
    exact ⟨trivial, .inl ⟨rfl, by simp [seen, Handover.story, Handover.handling, Handover.reaction, hn]⟩⟩
  | leave => exact ⟨trivial, .inr ⟨_, _, _, rfl, rfl, rfl, rfl⟩⟩

/-- As long as the delivery is there, its place says all that has been seen of it. -/
theorem Moves.seen_eq (h : Moves o partition p bs es q) (hp : p.Sound o) {messages : Option Batch}
    (hq : q.arrived = [messages]) : p.seen o partition ++ es = q.seen o partition := by
  obtain ⟨-, ⟨-, he⟩ | ⟨ticket, id, g, rfl, rfl, rfl, rfl⟩⟩ := h.goes hp
  · exact he
  · cases hq

theorem Moves.told (h : Moves o partition p bs es q) (hp : p.Sound o) (ht : p.Told o partition as ds) :
    q.Told o partition (as ++ bs) (ds ++ es) := by
  obtain ⟨hs, rfl, rfl⟩ := ht
  obtain ⟨-, ⟨ha, he⟩ | ⟨ticket, id, g, rfl, rfl, rfl, rfl⟩⟩ := h.goes hp
  · exact ⟨hs, by rw [List.append_assoc, ha], by rw [List.append_assoc, he]⟩
  · exact ⟨hs ++ [g], by simp [arrived], by simp [seen]⟩

/-- What has been seen is the stories of the deliveries up to where the last of them is. -/
theorem Told.stories (h : p.Told o partition as ds) (hp : p.Sound o) :
    ∃ hs : List Handover, hs.map (·.messages) = as ∧ ds <+: hs.flatMap (·.story partition o)
      ∧ (p = idle → ds = hs.flatMap (·.story partition o)) := by
  obtain ⟨hs, rfl, rfl⟩ := h
  have last (h : Handover) (hn : p ≠ idle) (ha : p.arrived = [h.messages])
      (hpre : p.seen o partition <+: h.story partition o) :
      ∃ ks : List Handover, ks.map (·.messages) = hs.map (·.messages) ++ p.arrived
        ∧ hs.flatMap (·.story partition o) ++ p.seen o partition <+: ks.flatMap (·.story partition o)
        ∧ (p = idle → hs.flatMap (·.story partition o) ++ p.seen o partition
          = ks.flatMap (·.story partition o)) := by
    refine ⟨hs ++ [h], by simp [ha], ?_, fun he => absurd he hn⟩
    rw [List.flatMap_append]
    refine (List.prefix_append_right_inj _).2 ?_
    rwa [List.flatMap_singleton]
  cases p with
  | idle => exact ⟨hs, (List.append_nil _).symm, by simp [seen], fun _ => by simp [seen]⟩
  | waiting ticket messages => exact last { messages } nofun rfl (List.nil_prefix ..)
  | handling ticket id messages batch =>
    refine last { messages } nofun rfl ⟨[.answered (.onEvents batch) (.ok ()),
      .did (.publish { kind := .batchDelivered, partition, count := batch.length }), .left messages], ?_⟩
    have hn : o.normalised messages = some batch := hp
    simp [seen, Handover.story, Handover.handling, Handover.reaction, hn]
  | blaming ticket id messages batch e =>
    refine last { messages, outcome := .error e } nofun rfl
      ⟨[.answered (.onError (.processor e)) (.ok ()), .left messages], ?_⟩
    have hn : o.normalised messages = some batch := hp
    simp [seen, Handover.story, Handover.handling, Handover.reaction, hn]
  | ended ticket id h => exact last h nofun rfl List.prefix_rfl

end Place
end PartitionConsumer
