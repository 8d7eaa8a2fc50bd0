import PartitionConsumer.Proofs.Sequence.Concourse
import PartitionConsumer.Proofs.Renewals
/-!
# Sequence

Events are seen in the order of their numbers. They are sent in that order, because nobody draws a number
between the drawing and the sending of another; what a reader gets of them keeps the order, and so does what
the listener of a set of subscribers passes on, whatever is lost on the way.
-/
namespace PartitionConsumer

/-- The numbers only rise. -/
def Rising (es : List NumberedEvent) : Prop := es.Pairwise fun d e => d.number < e.number

theorem Rising.sublist {ds es : List NumberedEvent} (h : Rising es) (hs : ds.Sublist es) : Rising ds :=
  List.Pairwise.sublist hs h

/-! ## One reader -/

namespace Feed

variable {f g : Feed} {r : Reader} {id : Nat} {found : Received} {e : NumberedEvent}

structure Serves (f : Feed) (r : Reader) : Prop where
  since_le : r.since ≤ f.sent.size
  got : r.got.Sublist (f.sent.toList.drop r.since)
  /-- As long as its subscription is open, it has got only what stands before its cursor. -/
  ahead : ∀ pos, (r.subscription, pos) ∈ f.cursors →
    r.since ≤ pos ∧ r.got.Sublist ((f.sent.toList.take pos).drop r.since)

theorem sublist_take_drop {α : Type} {l : List α} {m n since : Nat} (h : m ≤ n) :
    ((l.take m).drop since).Sublist ((l.take n).drop since) := by
  have ht : (l.take m).Sublist (l.take n) := by
    rw [← Nat.min_eq_left h, ← List.take_take]
    exact List.take_sublist ..
  exact ht.drop since

theorem Look.sent (h : f.Look id found g) : g.sent = f.sent := by
  cases h <;> rfl

/-- A look opens no subscription. -/
theorem Look.ids {v : Nat × Nat} (h : f.Look id found g) (hv : v ∈ g.cursors) :
    ∃ w ∈ f.cursors, w.1 = v.1 := by
  have hmove (m : Nat) (hm : v ∈ (f.moveCursor id m).cursors) : ∃ w ∈ f.cursors, w.1 = v.1 := by
    obtain ⟨w, hw, rfl⟩ := List.mem_map.1 hm
    refine ⟨w, hw, ?_⟩
    split
    · assumption
    · rfl
  cases h with
  | event => exact hmove _ hv
  | lagged => exact hmove _ hv
  | empty => exact ⟨v, hv, rfl⟩
  | noSubscription => exact ⟨v, hv, rfl⟩

namespace Serves

theorem send (h : f.Serves r) (es : List NumberedEvent) :
    Serves { f with sent := f.sent ++ es.toArray } r where
  since_le := by
    have hle := h.since_le
    simp only [Array.size_append]
    omega
  got := by
    rw [Array.toList_append, List.toList_toArray]
    exact h.got.trans ((List.sublist_append_left ..).drop _)
  ahead pos hp := by
    obtain ⟨hle, hg⟩ := h.ahead pos hp
    rw [Array.toList_append, List.toList_toArray, List.take_append]
    exact ⟨hle, hg.trans ((List.sublist_append_left ..).drop _)⟩

theorem subscribe (h : f.Serves r) (id : Nat) : (f.subscribe id).Serves r where
  since_le := h.since_le
  got := h.got
  ahead pos hp := by
    obtain hp | hp := List.mem_append.1 hp
    · exact h.ahead pos hp
    · obtain ⟨-, rfl⟩ := Prod.mk.inj (List.mem_singleton.1 hp)
      refine ⟨h.since_le, ?_⟩
      rw [sent_subscribe, ← Array.length_toList, List.take_length]
      exact h.got

theorem unsubscribe (h : f.Serves r) (id : Nat) : (f.unsubscribe id).Serves r where
  since_le := h.since_le
  got := h.got
  ahead pos hp := h.ahead pos (List.mem_filter.1 hp).1

theorem moveCursor {pos m : Nat} (h : f.Serves r) (hp : (id, pos) ∈ f.cursors) (hm : pos ≤ m) :
    (f.moveCursor id m).Serves r where
  since_le := h.since_le
  got := h.got
  ahead n hn := by
    obtain ⟨v, hv, hvn⟩ := List.mem_map.1 hn
    split at hvn
    · obtain ⟨rfl, rfl⟩ := Prod.mk.inj hvn
      obtain ⟨hle, hg⟩ := h.ahead pos hp
      exact ⟨Nat.le_trans hle hm, hg.trans (sublist_take_drop hm)⟩
    · exact h.ahead n (hvn ▸ hv)

theorem look (h : f.Serves r) (hl : f.Look id found g) : g.Serves r := by
  cases hl with
  | event pos e hp he => exact h.moveCursor hp (Nat.le_succ _)
  | lagged pos missed hp => exact h.moveCursor hp (Nat.le_add_right ..)
  | empty => exact h
  | noSubscription => exact h

/-- What it gets stands behind all that it has got. -/
theorem hear (h : f.Serves r) (hl : f.Look r.subscription found g) : g.Serves (r.hear found) := by
  cases hl with
  | event pos e hp he =>
    obtain ⟨hle, hg⟩ := h.ahead pos hp
    rw [← Array.getElem?_toList] at he
    have hlt : pos < f.sent.toList.length := (List.getElem?_eq_some_iff.1 he).1
    have hnext : (r.got ++ [e]).Sublist ((f.sent.toList.take (pos + 1)).drop r.since) := by
      rw [List.take_add_one, he, List.drop_append_of_le_length (by rw [List.length_take]; omega)]
      exact hg.append_right _
    refine ⟨h.since_le, ?_, fun n hn => ?_⟩
    · exact hnext.trans ((List.take_sublist ..).drop _)
    · obtain ⟨v, hv, hvn⟩ := List.mem_map.1 hn
      split at hvn
      · obtain ⟨-, rfl⟩ := Prod.mk.inj hvn
        exact ⟨Nat.le_succ_of_le hle, hnext⟩
      · rename_i hne
        exact absurd (congrArg Prod.fst hvn) hne
  | lagged pos missed hp => exact h.moveCursor hp (Nat.le_add_right ..)
  | empty => exact h
  | noSubscription => exact h

end Serves
end Feed

/-! ## One set of subscribers -/

/-- A subscriber comes by its events through its queue, in order. -/
theorem Post.calls_sublist {p q : Post} {i : Nat} {x : Activity} (h : p.act? i x = some q) :
    (q.calls ++ q.queue.waiting).Sublist (p.calls ++ p.queue.waiting ++ x.event?.toList) := by
  cases x with
  | emit e =>
    obtain rfl := Option.some.inj h
    change (p.calls ++ (p.queue.offer e).waiting).Sublist _
    rw [Subscriber.waiting_offer, List.append_assoc]
    split
    · exact .refl _
    · exact (List.sublist_append_left ..).append_left _
  | work j w =>
    change (q.calls ++ q.queue.waiting).Sublist (p.calls ++ p.queue.waiting ++ [])
    rw [List.append_nil]
    dsimp only [act?] at h
    split at h
    · cases step_of_step? h with
      | take e rest hs hw =>
        rw [hw]
        exact List.append_cons .. ▸ .refl _
      | finish e panic hs => exact .refl _
      | stop hs hc hw => exact .refl _
      | lose => exact (List.nil_sublist _).append_left _
    · obtain rfl := Option.some.inj h
      exact .refl _
  | disband =>
    obtain rfl := Option.some.inj h
    exact List.append_nil _ ▸ .refl _
  | leave =>
    obtain rfl := Option.some.inj h
    exact List.append_nil _ ▸ .refl _

/-- Each subscriber of the set was called on some of these events, in this order, and others wait. -/
def Roster.Hears (s : Roster) (es : List NumberedEvent) : Prop :=
  ∀ p ∈ s.posts, (p.calls ++ p.queue.waiting).Sublist es

theorem Roster.hears_new (subscribers : List (String × Nat)) : (new subscribers).Hears [] := by
  intro p hp
  obtain ⟨s, -, rfl⟩ := List.mem_map.1 hp
  exact .refl _

theorem Roster.Step.length_posts {s t : Roster} {x : Activity} (h : s.Step x t) :
    t.posts.length = s.posts.length := by
  cases h with
  | emit e ho => rw [posts_emit, List.length_map]
  | work i w p q hp hq => exact List.length_set
  | disband ho => exact List.length_map _
  | leave ho he => rfl

theorem Roster.Hears.step {s t : Roster} {x : Activity} {es : List NumberedEvent} (h : s.Hears es)
    (hx : s.Step x t) : t.Hears (es ++ x.event?.toList) := by
  intro q hq
  obtain ⟨i, hi⟩ := List.mem_iff_getElem?.1 hq
  have hlt : i < s.posts.length := hx.length_posts ▸ (List.getElem?_eq_some_iff.1 hi).1
  obtain ⟨q', hact, hq'⟩ := hx.post (List.getElem?_eq_getElem hlt)
  obtain rfl := Option.some.inj (hi.symm.trans hq')
  exact (Post.calls_sublist hact).trans ((h _ (List.getElem_mem hlt)).append_right _)

/-! ## All around the feed -/

namespace Concourse

variable {b c d : Concourse} {x : Incident} {xs : List Incident} {e : NumberedEvent} {es : List Event}
  {n : Nat}

theorem mem_numbered (h : e ∈ numbered n es) : n ≤ e.number ∧ e.number < n + es.length := by
  induction es generalizing n with
  | nil => cases h
  | cons d es ih =>
    rw [List.length_cons]
    obtain rfl | h := List.mem_cons.1 h
    · exact ⟨Nat.le_refl _, Nat.lt_add_of_pos_right (Nat.succ_pos _)⟩
    · have := ih h
      omega

theorem rising_numbered (n : Nat) (es : List Event) : Rising (numbered n es) := by
  induction es generalizing n with
  | nil => exact .nil
  | cons d es ih => exact List.pairwise_cons.2 ⟨fun e he => (mem_numbered he).1, ih (n + 1)⟩

@[simp] theorem map_numbered (n : Nat) (es : List Event) : (numbered n es).map (·.toEvent) = es := by
  induction es generalizing n with
  | nil => rfl
  | cons d es ih => exact congrArg (d :: ·) (ih (n + 1))

structure Sound (c : Concourse) : Prop where
  rising : Rising c.feed.sent.toList
  drawn : ∀ e ∈ c.feed.sent.toList, e.number < c.number
  fresh : ∀ v ∈ c.feed.cursors, v.1 < c.subscriptions
  serves : ∀ r ∈ c.readers, c.feed.Serves r
  listens : ∀ a ∈ c.audiences, c.feed.Serves a.listener ∧ a.roster.Hears a.listener.got

namespace Sound

theorem new (capacity : Nat) : (new capacity).Sound := ⟨.nil, nofun, nofun, nofun, nofun⟩

/-- Whoever publishes, the numbers go on rising. -/
theorem publishAll (h : c.Sound) (es : List Event) : (c.publishAll es).Sound := by
  rw [publishAll_eq]
  refine ⟨?_, fun e he => ?_, h.fresh, fun r hr => (h.serves r hr).send _,
    fun a ha => ⟨(h.listens a ha).1.send _, (h.listens a ha).2⟩⟩
  · rw [Array.toList_append, List.toList_toArray]
    exact List.pairwise_append.2 ⟨h.rising, rising_numbered .., fun d hd e he =>
      Nat.lt_of_lt_of_le (h.drawn d hd) (mem_numbered he).1⟩
  · rw [Array.toList_append, List.toList_toArray] at he
    dsimp only
    obtain he | he := List.mem_append.1 he
    · exact Nat.lt_add_right _ (h.drawn e he)
    · exact (mem_numbered he).2

/-- A new reader has got nothing, and its cursor stands behind all that was sent. -/
theorem join (h : c.Sound) : c.join.2.Sound ∧ c.join.2.feed.Serves c.join.1 := by
  refine ⟨⟨h.rising, h.drawn, fun v hv => ?_, fun r hr => (h.serves r hr).subscribe _,
    fun a ha => ⟨(h.listens a ha).1.subscribe _, (h.listens a ha).2⟩⟩, Nat.le_refl _, List.nil_sublist _,
    fun pos hp => ⟨?_, List.nil_sublist _⟩⟩
  · obtain hv | hv := List.mem_append.1 hv
    · exact Nat.lt_succ_of_lt (h.fresh v hv)
    · rw [List.mem_singleton.1 hv]
      exact Nat.lt_succ_self _
  · obtain hp | hp := List.mem_append.1 hp
    · exact absurd (h.fresh _ hp) (Nat.lt_irrefl _)
    · rw [(Prod.mk.inj (List.mem_singleton.1 hp)).2]
      exact Nat.le_refl _

theorem look {feed : Feed} {id : Nat} {found : Received} (h : c.Sound) (hl : c.feed.Look id found feed) :
    Sound { c with feed } := by
  have hsent := hl.sent
  refine ⟨?_, ?_, fun v hv => ?_, fun r hr => (h.serves r hr).look hl,
    fun a ha => ⟨(h.listens a ha).1.look hl, (h.listens a ha).2⟩⟩
  · rw [hsent]
    exact h.rising
  · rw [hsent]
    exact h.drawn
  · obtain ⟨w, hw, hwv⟩ := hl.ids hv
    exact hwv ▸ h.fresh w hw

theorem unsubscribe (h : c.Sound) (id : Nat) : Sound { c with feed := c.feed.unsubscribe id } :=
  ⟨h.rising, h.drawn, fun v hv => h.fresh v (List.mem_filter.1 hv).1,
    fun r hr => (h.serves r hr).unsubscribe id,
    fun a ha => ⟨(h.listens a ha).1.unsubscribe id, (h.listens a ha).2⟩⟩

/-- It does not matter who publishes. -/
theorem aside (h : c.Sound) (sessions : List Session) (timetables : List Timetable) :
    Sound { c with sessions, timetables } :=
  ⟨h.rising, h.drawn, h.fresh, h.serves, h.listens⟩

theorem step (h : c.Sound) (hx : c.Step x d) : d.Sound := by
  cases hx with
  | build => exact h.aside _ _
  | pump i cause s t hs ht => exact (h.aside _ _).publishAll _
  | schedule => exact (h.aside _ _).publishAll _
  | renewal i x t u ht hu => exact (h.aside _ _).publishAll _
  | elsewhere =>
    exact ⟨h.rising, fun e he => Nat.lt_succ_of_lt (h.drawn e he), h.fresh, h.serves, h.listens⟩
  | subscribe =>
    obtain ⟨hj, hr⟩ := h.join
    exact ⟨hj.rising, hj.drawn, hj.fresh, List.forall_mem_append.2 ⟨hj.serves, by simpa using hr⟩, hj.listens⟩
  | receive i r found feed hr hl =>
    have hk := h.look hl
    refine ⟨hk.rising, hk.drawn, hk.fresh, fun s hs => ?_, hk.listens⟩
    obtain hs | rfl := List.mem_or_eq_of_mem_set hs
    · exact hk.serves s hs
    · exact (h.serves r (List.mem_of_getElem? hr)).hear hl
  | unsubscribe i id => exact h.unsubscribe id
  | attach subscribers =>
    obtain ⟨hj, hr⟩ := h.join
    exact ⟨hj.rising, hj.drawn, hj.fresh, hj.serves,
      List.forall_mem_append.2 ⟨hj.listens, by simpa using ⟨hr, Roster.hears_new subscribers⟩⟩⟩
  | listen i a e feed roster ha hl hx =>
    have hk := h.look hl
    refine ⟨hk.rising, hk.drawn, hk.fresh, hk.serves, fun s hs => ?_⟩
    obtain hs | rfl := List.mem_or_eq_of_mem_set hs
    · exact hk.listens s hs
    · obtain ⟨hserves, hhears⟩ := h.listens a (List.mem_of_getElem? ha)
      exact ⟨hserves.hear hl, hhears.step hx⟩
  | skip i id found feed hl => exact h.look hl
  | detach i id => exact h.unsubscribe id
  | attend i x a roster ha he hx =>
    refine ⟨h.rising, h.drawn, h.fresh, h.serves, fun s hs => ?_⟩
    obtain hs | rfl := List.mem_or_eq_of_mem_set hs
    · exact h.listens s hs
    · obtain ⟨hserves, hhears⟩ := h.listens a (List.mem_of_getElem? ha)
      have hstep := hhears.step hx
      rw [he, Option.toList_none, List.append_nil] at hstep
      exact ⟨hserves, hstep⟩

end Sound

theorem Sound.run (h : c.Sound) (hr : c.run xs = some d) : d.Sound :=
  run_induction h (fun _ _ _ h hs => h.step hs) hr

/-! ## What is published is sent -/

/-- The events of these publishers have been sent, those of each in order. -/
structure Carries (c : Concourse) (sent : List Event) : Prop where
  pumps : ∀ s ∈ c.sessions, s.Led ∧ (published s.history).Sublist sent
  schedules : ∀ t ∈ c.timetables, t.published.Sublist sent

def messages (c : Concourse) : List Event := c.feed.sent.toList.map (·.toEvent)

theorem messages_publishAll (c : Concourse) (es : List Event) :
    (c.publishAll es).messages = c.messages ++ es := by
  rw [publishAll_eq, messages, messages, Array.toList_append, List.toList_toArray, List.map_append,
    map_numbered]

theorem Carries.new (capacity : Nat) (sent : List Event) : (Concourse.new capacity).Carries sent :=
  ⟨fun _ hs => absurd hs List.not_mem_nil, fun _ ht => absurd ht List.not_mem_nil⟩

theorem Carries.append {sent : List Event} (h : c.Carries sent) (es : List Event) : c.Carries (sent ++ es) :=
  ⟨fun s hs => ⟨(h.pumps s hs).1, (h.pumps s hs).2.trans (List.sublist_append_left ..)⟩,
    fun t ht => (h.schedules t ht).trans (List.sublist_append_left ..)⟩

theorem published_grows {s t : Session} {cause : Cause} (h : s.Step cause t) :
    published t.history = published s.history ++ published (t.history.drop s.history.length) := by
  rw [← published_append, List.prefix_iff_eq_append.1 h.grows]

theorem timetable_grows {t u : Timetable} {y : Occurrence} (h : t.Step y u) :
    t.published ++ u.published.drop t.published.length = u.published := by
  refine List.prefix_iff_eq_append.1 (List.IsPrefix.filterMap _ ?_)
  cases h with
  | pass ticks => exact List.prefix_rfl
  | expire k wake hk hw =>
    obtain ⟨es, hh⟩ := t.history_fire k
    rw [hh, List.append_assoc, List.append_assoc]
    exact List.prefix_append ..
  | finish k outcome hk =>
    obtain ⟨es, wake, hh⟩ := t.history_finish k outcome
    rw [hh, List.append_assoc, List.append_assoc]
    exact List.prefix_append ..
  | cancel => exact (List.prefix_append ..).trans (List.prefix_append ..)
  | own closing => exact List.prefix_rfl

/-- Reading sends nothing. -/
theorem Carries.of_sent (h : c.Carries c.messages) (hs : d.sessions = c.sessions)
    (ht : d.timetables = c.timetables) (hm : d.feed.sent = c.feed.sent) : d.Carries d.messages := by
  rw [messages, hm]
  exact ⟨hs ▸ h.pumps, ht ▸ h.schedules⟩

theorem Carries.step (h : c.Carries c.messages) (hx : c.Step x d) : d.Carries d.messages := by
  cases hx with
  | build context lease options wire draw =>
    refine ⟨List.forall_mem_append.2 ⟨h.pumps, ?_⟩, h.schedules⟩
    rw [List.forall_mem_singleton]
    exact ⟨.new _ rfl rfl rfl, List.nil_sublist _⟩
  | pump i cause s t hs ht =>
    obtain ⟨hled, hsent⟩ := h.pumps s (List.mem_of_getElem? hs)
    have hstep := Session.step_of_step? hled.tidy.trace ht
    have hall := h.append (published (t.history.drop s.history.length))
    rw [messages_publishAll]
    rw [publishAll_eq]
    refine ⟨fun u hu => ?_, hall.schedules⟩
    obtain hu | rfl := List.mem_or_eq_of_mem_set hu
    · exact hall.pumps u hu
    · refine ⟨hled.step hstep, ?_⟩
      rw [published_grows hstep]
      exact hsent.append_right _
  | schedule client interval ownerClosing =>
    have hall := h.append (Timetable.new client interval ownerClosing).published
    rw [messages_publishAll, publishAll_eq]
    refine ⟨hall.pumps, List.forall_mem_append.2 ⟨hall.schedules, ?_⟩⟩
    rw [List.forall_mem_singleton]
    exact List.sublist_append_right ..
  | renewal i y t u ht hu =>
    have hall := h.append (u.published.drop t.published.length)
    rw [messages_publishAll, publishAll_eq]
    refine ⟨hall.pumps, fun v hv => ?_⟩
    obtain hv | rfl := List.mem_or_eq_of_mem_set hv
    · exact hall.schedules v hv
    · have hgrown := (h.schedules t (List.mem_of_getElem? ht)).append_right
        (v.published.drop t.published.length)
      rwa [timetable_grows hu] at hgrown
  | elsewhere => exact h.of_sent rfl rfl rfl
  | subscribe => exact h.of_sent rfl rfl rfl
  | receive i r found feed hr hl => exact h.of_sent rfl rfl hl.sent
  | unsubscribe i id => exact h.of_sent rfl rfl rfl
  | attach subscribers => exact h.of_sent rfl rfl rfl
  | listen i a e feed roster ha hl hx => exact h.of_sent rfl rfl hl.sent
  | skip i id found feed hl => exact h.of_sent rfl rfl hl.sent
  | detach i id => exact h.of_sent rfl rfl rfl
  | attend i x a roster ha he hx => exact h.of_sent rfl rfl rfl

theorem Carries.run (h : c.Carries c.messages) (hr : c.run xs = some d) : d.Carries d.messages :=
  run_induction (P := fun c => c.Carries c.messages) h (fun _ _ _ h hs => h.step hs) hr

/-! ## What lasts -/

structure Lasts (c d : Concourse) : Prop where
  sent : c.feed.sent.toList <+: d.feed.sent.toList
  since : ∀ (i : Nat) (a : Audience), c.audiences[i]? = some a →
    ∃ a' : Audience, d.audiences[i]? = some a' ∧ a'.listener.since = a.listener.since

namespace Lasts

theorem refl (c : Concourse) : c.Lasts c := ⟨List.prefix_rfl, fun _ a ha => ⟨a, ha, rfl⟩⟩

theorem trans (h : b.Lasts c) (h' : c.Lasts d) : b.Lasts d where
  sent := h.sent.trans h'.sent
  since i a ha := by
    obtain ⟨a', ha', hs⟩ := h.since i a ha
    obtain ⟨a'', ha'', hs'⟩ := h'.since i a' ha'
    exact ⟨a'', ha'', hs'.trans hs⟩

theorem of_audiences (hs : d.feed.sent = c.feed.sent) (ha : d.audiences = c.audiences) : c.Lasts d := by
  refine ⟨hs ▸ List.prefix_rfl, fun i a hi => ⟨a, ?_, rfl⟩⟩
  rwa [ha]

theorem publishAll (c : Concourse) (sessions : List Session) (timetables : List Timetable)
    (es : List Event) : c.Lasts (Concourse.publishAll { c with sessions, timetables } es) := by
  rw [publishAll_eq]
  refine ⟨?_, fun i a ha => ⟨a, ha, rfl⟩⟩
  rw [Array.toList_append]
  exact List.prefix_append ..

/-- One set of subscribers has gone on. -/
theorem set {i : Nat} {a a' : Audience} (hs : d.feed.sent = c.feed.sent) (ha : c.audiences[i]? = some a)
    (hd : d.audiences = c.audiences.set i a') (hsince : a'.listener.since = a.listener.since) :
    c.Lasts d := by
  refine ⟨hs ▸ List.prefix_rfl, fun j b hb => ?_⟩
  rw [hd]
  by_cases hj : i = j
  · subst hj
    obtain rfl := Option.some.inj (ha.symm.trans hb)
    exact ⟨a', List.getElem?_set_self (List.getElem?_eq_some_iff.1 ha).1, hsince⟩
  · exact ⟨b, (List.getElem?_set_ne hj).trans hb, rfl⟩

theorem step (hx : c.Step x d) : c.Lasts d := by
  cases hx with
  | pump i cause s t hs ht => exact publishAll ..
  | schedule => exact publishAll ..
  | renewal i y t u ht hu => exact publishAll ..
  | receive i r found feed hr hl => exact of_audiences hl.sent rfl
  | attach subscribers =>
    refine ⟨List.prefix_rfl, fun i a ha => ⟨a, ?_, rfl⟩⟩
    exact (List.getElem?_append_left (List.getElem?_eq_some_iff.1 ha).1).trans ha
  | listen i a e feed roster ha hl hx => exact set hl.sent ha rfl rfl
  | skip i id found feed hl => exact of_audiences hl.sent rfl
  | attend i y a roster ha he hx => exact set rfl ha rfl rfl
  | build => exact of_audiences rfl rfl
  | elsewhere => exact of_audiences rfl rfl
  | subscribe => exact of_audiences rfl rfl
  | unsubscribe i id => exact of_audiences rfl rfl
  | detach i id => exact of_audiences rfl rfl

theorem run (hr : c.run xs = some d) : c.Lasts d :=
  run_induction (P := c.Lasts) (.refl c) (fun _ _ _ h hs => h.trans (step hs)) hr

end Lasts

theorem Sound.rising_drop (h : c.Sound) (n : Nat) : Rising (c.feed.sent.toList.drop n) :=
  h.rising.sublist (List.drop_sublist ..)

/-- A subscriber is called only on events that were sent since its set was attached. -/
theorem Sound.calls_sublist {a : Audience} {p : Post} (h : c.Sound) (ha : a ∈ c.audiences)
    (hp : p ∈ a.roster.posts) : p.calls.Sublist (c.feed.sent.toList.drop a.listener.since) := by
  obtain ⟨hserves, hhears⟩ := h.listens a ha
  exact (List.sublist_append_left ..).trans ((hhears p hp).trans hserves.got)

end Concourse

/-- In every run of any number of pumps and renewal schedules that publish on one feed, with receivers and
sets of subscribers that come at any time and fall behind by any amount: what each of them publishes is sent,
in order, and the numbers of the events sent only rise. So do the numbers of those that a receiver gets, and
of those that a subscriber is called on. A receiver gets only events that were sent since it came, and a
subscriber is called only on events that were sent since its set was attached. -/
theorem seen_in_sequence {capacity : Nat} {xs : List Incident} {c : Concourse}
    (h : (Concourse.new capacity).run xs = some c) :
    (∀ s ∈ c.sessions, (published s.history).Sublist (c.feed.sent.toList.map (·.toEvent)))
      ∧ (∀ t ∈ c.timetables, t.published.Sublist (c.feed.sent.toList.map (·.toEvent)))
      ∧ Rising c.feed.sent.toList
      ∧ (∀ r ∈ c.readers, Rising r.got ∧ r.got.Sublist (c.feed.sent.toList.drop r.since))
      ∧ (∀ a ∈ c.audiences, ∀ p ∈ a.roster.posts, Rising p.calls)
      ∧ ∀ as subscribers bs b, xs = as ++ .attach subscribers :: bs →
        (Concourse.new capacity).run as = some b →
        ∃ a later, c.audiences[b.audiences.length]? = some a
          ∧ c.feed.sent.toList = b.feed.sent.toList ++ later
          ∧ ∀ p ∈ a.roster.posts, p.calls.Sublist later := by
  have hs := (Concourse.Sound.new capacity).run h
  have hc := (Concourse.Carries.new capacity _).run h
  refine ⟨fun s hm => (hc.pumps s hm).2, hc.schedules, hs.rising, fun r hr => ?_, fun a ha p hp => ?_,
    fun as subscribers bs b hxs hb => ?_⟩
  · exact ⟨(hs.rising_drop _).sublist (hs.serves r hr).got, (hs.serves r hr).got⟩
  · exact (hs.rising_drop _).sublist (hs.calls_sublist ha hp)
  · rw [hxs, Concourse.run_append, hb, Option.bind_some] at h
    obtain ⟨d, hd, hr⟩ := Option.bind_eq_some_iff.1 h
    have hlast := Concourse.Lasts.run hr
    cases Concourse.step_of_step? hd with
    | attach =>
      obtain ⟨a, ha, hsince⟩ := hlast.since b.audiences.length _ List.getElem?_concat_length
      refine ⟨a, _, ha, (List.prefix_iff_eq_append.1 hlast.sent).symm, fun p hp => ?_⟩
      have hcalls := hs.calls_sublist (List.mem_of_getElem? ha) hp
      rwa [hsince] at hcalls

/-- Two pumps and a schedule publish on a feed that keeps two events, and one number goes to an event that is
not sent on it. A receiver misses the first two events, and a set of subscribers comes after them. -/
theorem seen_in_sequence_past_lag :
    ∃ c r a p, (Concourse.new 2).run ([
        .build ⟨"h", "g", "0", some (.timestamp ⟨0⟩), none⟩ ⟨"0", "h", 1⟩ {} "mock" fun _ => 0,
        .build ⟨"h", "g", "1", some (.timestamp ⟨0⟩), none⟩ ⟨"1", "h", 1⟩ {} "mock" fun _ => 0,
        .subscribe, .schedule "c" ⟨1⟩ true, .pump 1 .start, .pump 0 .start]
        ++ .attach [("a", 2)] :: [.elsewhere, .pump 0 (.answer 0 (.hook (.ok ()))),
        .pump 0 (.answer 0 (.client (.error ⟨.other, "busy"⟩))), .pump 0 (.wake 0), .renewal 0 (.pass 1),
        .renewal 0 (.expire 0), .receive 0, .receive 0, .receive 0, .listen 0, .listen 0,
        .attend 0 (.work 0 .take), .attend 0 (.work 0 (.finish none)), .attend 0 (.work 0 .take)]) = some c
      ∧ c.feed.sent.toList.map (·.number) = [0, 1, 3, 4] ∧ Rising c.feed.sent.toList
      ∧ r ∈ c.readers ∧ r.got.map (·.number) = [3, 4] ∧ Rising r.got
      ∧ a ∈ c.audiences ∧ p ∈ a.roster.posts ∧ p.calls.map (·.number) = [3, 4] ∧ Rising p.calls := by
  generalize hxs : (_ ++ _ : List Incident) = xs
  have hrun : ((Concourse.new 2).run xs).map (fun c => (c.feed.sent.toList.map (·.number),
      c.readers.map fun r => r.got.map (·.number),
      c.audiences.map fun a => a.roster.posts.map fun p => p.calls.map (·.number)))
      = some ([0, 1, 3, 4], [[3, 4]], [[[3, 4]]]) := by
    subst hxs
    rfl
  obtain ⟨c, hc, he⟩ := Option.map_eq_some_iff.1 hrun
  simp only [Prod.mk.injEq, List.map_eq_singleton_iff] at he
  obtain ⟨hsent, ⟨r, hr, hgot⟩, a, ha, p, hp, hcalls⟩ := he
  obtain ⟨-, -, hrising, hreaders, haudiences, -⟩ := seen_in_sequence hc
  have hrm : r ∈ c.readers := by rw [hr]; exact List.mem_singleton_self r
  have ham : a ∈ c.audiences := by rw [ha]; exact List.mem_singleton_self a
  have hpm : p ∈ a.roster.posts := by rw [hp]; exact List.mem_singleton_self p
  exact ⟨c, r, a, p, hc, hsent, hrising, hrm, hgot, (hreaders r hrm).1, ham, hpm, hcalls,
    haudiences a ham p hpm⟩

end PartitionConsumer
