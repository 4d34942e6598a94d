import Sidebar.Signal
import Sidebar.Proofs.Sharing
/-!
# Who is notified of which change

`Signal::notify` in `crates/panelkit-core/src/state.rs`, which calls a snapshot of the
subscribers, so that a subscriber added during a notification is called from the next change
on (`test_subscribe_from_callback`), and a change made from a callback runs inside the one that
called it (`test_set_from_callback`).

A traced run records what happens while changes run (`Signal.Event`): each subscription with
the position it takes, each change with the value it stores and the number of subscribers it
notifies, and each call of a subscriber with the change it is called for, counted in start
order, and its position. `tracePerform`, `traceNotifyWith` and `traceSetIn` are `perform`,
`notifyWith` and `setIn` with these records added; the run they carry is exactly the one the
untraced functions make (`traceSetIn_run`).

Each property is proved in three steps, following the definitions: for the calls of one
subscriber, given that the changes they open have it; for a notification loop, under the same
assumption; and for a change at any depth, by induction on the depth, the changes opened inside
it having it by the induction hypothesis.
-/

namespace Sidebar
namespace Signal

variable {α : Type}

/-- What happens while changes run. -/
inductive Event (α : Type) where
  /-- A subscriber was added, at this position in subscription order. -/
  | subscribed (position : Nat)
  /-- A change stored `value`; it notifies the first `snapshot` subscribers. -/
  | changed (value : α) (snapshot : Nat)
  /-- The subscriber at `position` ran for the change numbered `change`, counting changes from
  0 in the order they started, with `value`. -/
  | ran (change position : Nat) (value : α)

/-- A run with the events that happened in it, in order, and the number of changes started. -/
structure Traced (α : Type) where
  run : Run α
  events : List (Event α) := []
  changes : Nat := 0

namespace Traced

/-- The run after the subscriber at position `p` logged `v` for change `c`. -/
def log (t : Traced α) (c p : Nat) (name : String) (v : α) : Traced α :=
  { t with run := { t.run with log := t.run.log.push (name, v) }, events := t.events ++ [.ran c p v] }

/-- The run after `sub` was subscribed, after the others. -/
def subscribe (t : Traced α) (sub : Subscriber α) : Traced α :=
  { t with run := { t.run with signal := t.run.signal.subscribe sub },
           events := t.events ++ [.subscribed t.run.signal.subscribers.length] }

/-- The run after a change stored `v`; it is numbered next and notifies the subscribers there
are. -/
def store (t : Traced α) (v : α) : Traced α :=
  { run := { t.run with signal := { t.run.signal with value := v } },
    events := t.events ++ [.changed v t.run.signal.subscribers.length],
    changes := t.changes + 1 }

end Traced

/-- The calls of a subscriber, recording their events; `nested t v` makes, traced, the change to
`v` that a call opens. -/
def tracePerform (nested : Traced α → α → Option (Traced α)) (t : Traced α) :
    List (Call α) → Option (Traced α)
  | [] => some t
  | .subscribe sub :: calls => tracePerform nested (t.subscribe sub) calls
  | .update f :: calls =>
    match nested t (f t.run.signal.value) with
    | none => none
    | some t' => tracePerform nested t' calls

/-- The notification loop, recording its events: the subscribers `subs`, from position `p` on,
are called for the change numbered `c` with `v`. -/
def traceNotifyWith (nested : Traced α → α → Option (Traced α)) (t : Traced α) (c : Nat) (v : α)
    (p : Nat) : List (Subscriber α) → Option (Traced α)
  | [] => some t
  | sub :: rest =>
    match tracePerform nested (t.log c p sub.name v) (sub.react v) with
    | none => none
    | some t' => traceNotifyWith nested t' c v (p + 1) rest

/-- A change, recording its events: it stores `v`, takes the next number and notifies every
subscriber there is. -/
def traceSetIn : Nat → Traced α → α → Option (Traced α)
  | 0, t, v => traceNotifyWith (fun _ _ => none) (t.store v) t.changes v 0 t.run.signal.subscribers
  | d + 1, t, v => traceNotifyWith (traceSetIn d) (t.store v) t.changes v 0 t.run.signal.subscribers

section Runs

variable {nestedT : Traced α → α → Option (Traced α)} {nested : Run α → α → Option (Run α)}

/-- The traced calls of a subscriber make the run its calls make, when the traced changes they
open do. -/
theorem tracePerform_run (hn : ∀ t w, (nestedT t w).map (·.run) = nested t.run w)
    (t : Traced α) (calls : List (Call α)) :
    (tracePerform nestedT t calls).map (·.run) = perform nested t.run calls := by
  induction calls generalizing t with
  | nil => rfl
  | cons c calls ih =>
    cases c with
    | subscribe sub => exact ih (t.subscribe sub)
    | update f =>
      have h := hn t (f t.run.signal.value)
      simp only [tracePerform, perform]
      cases hT : nestedT t (f t.run.signal.value) with
      | none =>
        rw [hT, Option.map_none] at h
        rw [← h]
        rfl
      | some t' =>
        rw [hT, Option.map_some] at h
        rw [← h]
        exact ih t'

/-- The traced loop makes the run the loop makes, when the traced changes it opens do. -/
theorem traceNotifyWith_run (hn : ∀ t w, (nestedT t w).map (·.run) = nested t.run w)
    (t : Traced α) (c : Nat) (v : α) (p : Nat) (subs : List (Subscriber α)) :
    (traceNotifyWith nestedT t c v p subs).map (·.run) = notifyWith nested t.run v subs := by
  induction subs generalizing t p with
  | nil => rfl
  | cons sub rest ih =>
    have h := tracePerform_run hn (t.log c p sub.name v) (sub.react v)
    -- the traced call logs what the call logs
    have hlog : (t.log c p sub.name v).run = t.run.called sub.name v := rfl
    rw [hlog] at h
    simp only [traceNotifyWith, notifyWith]
    cases hT : tracePerform nestedT (t.log c p sub.name v) (sub.react v) with
    | none =>
      rw [hT, Option.map_none] at h
      rw [← h]
      rfl
    | some t' =>
      rw [hT, Option.map_some] at h
      rw [← h]
      exact ih t' (p + 1)

end Runs

/-- **A traced change makes the run the change makes**, at every depth. -/
theorem traceSetIn_run (depth : Nat) (t : Traced α) (v : α) :
    (traceSetIn depth t v).map (·.run) = setIn depth t.run v := by
  induction depth generalizing t v with
  | zero => exact traceNotifyWith_run (fun _ _ => rfl) (t.store v) _ v 0 _
  | succ d ih => exact traceNotifyWith_run ih (t.store v) _ v 0 _

namespace Event

/-- The value a change stored and the number of subscribers it notifies. -/
def change? : Event α → Option (α × Nat)
  | .changed v n => some (v, n)
  | _ => none

/-- The position of a subscriber that ran for change `c`, with the value it ran with. -/
def ranFor (c : Nat) : Event α → Option (Nat × α)
  | .ran c' p v => if c' = c then some (p, v) else none
  | _ => none

/-- Whether the event is a subscription. -/
def isSubscription : Event α → Bool
  | .subscribed _ => true
  | _ => false

/-- The log entry of a run of a subscriber: the name of the subscriber at its position among
`subs`, and the value it ran with. -/
def entry (subs : List (Subscriber α)) : Event α → Option (String × α)
  | .ran _ p v => subs[p]?.map fun sub => (sub.name, v)
  | _ => none

end Event

/-- The changes started, in order: the value each stored and the number of subscribers it
notifies. -/
def changesOf (es : List (Event α)) : List (α × Nat) := es.filterMap Event.change?

/-- The subscribers that ran for change `c`, in order: their positions and values. -/
def runsFor (c : Nat) (es : List (Event α)) : List (Nat × α) := es.filterMap (Event.ranFor c)

/-- The runs that the changes `cs`, numbered from `k`, call for, for change `c`: each
subscriber the change notifies, in subscription order, once, with the value it stored. -/
def notified (k : Nat) : List (α × Nat) → Nat → List (Nat × α)
  | [], _ => []
  | (v, n) :: rest, c => if c = k then (List.range n).map (·, v) else notified (k + 1) rest c

/-- Positions follow subscription order and every change notifies the subscribers there are:
with `n` subscribers so far, the next subscriber takes position `n`, and a change notifies
`n`. -/
def Counted : Nat → List (Event α) → Prop
  | _, [] => True
  | n, .subscribed p :: es => p = n ∧ Counted (n + 1) es
  | n, .changed _ m :: es => m = n ∧ Counted n es
  | n, .ran .. :: es => Counted n es

/-- A change numbered below the first of a list is none of its changes. -/
theorem notified_of_lt {k c : Nat} (h : c < k) (cs : List (α × Nat)) : notified k cs c = [] := by
  induction cs generalizing k with
  | nil => rfl
  | cons e cs ih =>
    obtain ⟨v, n⟩ := e
    simp only [notified, Nat.ne_of_lt h, if_false]
    exact ih (Nat.lt_succ_of_lt h)

theorem notified_append (k : Nat) (cs ds : List (α × Nat)) (c : Nat) :
    notified k (cs ++ ds) c = notified k cs c ++ notified (k + cs.length) ds c := by
  induction cs generalizing k with
  | nil => simp [notified]
  | cons e cs ih =>
    obtain ⟨v, n⟩ := e
    simp only [List.cons_append, notified, List.length_cons]
    split
    · rename_i hc
      rw [notified_of_lt (by omega), List.append_nil]
    · rw [ih, Nat.add_assoc, Nat.add_comm 1]

theorem counted_append (n : Nat) (es fs : List (Event α)) :
    Counted n (es ++ fs) ↔ Counted n es ∧ Counted (n + es.countP Event.isSubscription) fs := by
  induction es generalizing n with
  | nil => simp [Counted]
  | cons e es ih =>
    cases e with
    | subscribed p =>
      simp only [List.cons_append, Counted, ih, List.countP_cons, Event.isSubscription]
      simp only [if_true, and_assoc]
      rw [Nat.add_comm (List.countP _ es) 1, ← Nat.add_assoc]
    | changed v m => simp [Counted, ih, Event.isSubscription, and_assoc]
    | ran c p v => simp [Counted, ih, Event.isSubscription]

/-- `t'` follows `t` by the events `E`. The subscribers grow at the end, by one per
subscription; the changes of `E` are numbered next; positions and snapshots in `E` count the
subscriptions; the log grows by the entries of the runs in `E`, named after the subscribers at
their positions; and the value is the one the last change of `E` stored, if there is one. -/
structure Follows (t t' : Traced α) (E : List (Event α)) : Prop where
  events : t'.events = t.events ++ E
  subscribers : ∃ added, t'.run.signal.subscribers = t.run.signal.subscribers ++ added ∧
    added.length = E.countP Event.isSubscription
  changes : t'.changes = t.changes + (changesOf E).length
  counted : Counted t.run.signal.subscribers.length E
  log : ∀ more, t'.run.log.toList =
    t.run.log.toList ++ E.filterMap (Event.entry (t'.run.signal.subscribers ++ more))
  value : t'.run.signal.value = ((changesOf E).getLast?.map (·.1)).getD t.run.signal.value

namespace Follows

variable {t t' t'' : Traced α} {E F : List (Event α)}

theorem refl (t : Traced α) : Follows t t [] :=
  ⟨by simp, ⟨[], by simp, rfl⟩, rfl, trivial, fun _ => by simp, rfl⟩

theorem trans (h : Follows t t' E) (h' : Follows t' t'' F) : Follows t t'' (E ++ F) := by
  obtain ⟨added, hadd, hlen⟩ := h.subscribers
  obtain ⟨added', hadd', hlen'⟩ := h'.subscribers
  refine ⟨by rw [h'.events, h.events, List.append_assoc], ⟨added ++ added', ?_, ?_⟩, ?_, ?_,
    fun more => ?_, ?_⟩
  · rw [hadd', hadd, List.append_assoc]
  · simp [hlen, hlen']
  · simp [h'.changes, h.changes, changesOf, Nat.add_assoc]
  · rw [counted_append]
    refine ⟨h.counted, ?_⟩
    rw [← hlen, ← List.length_append, ← hadd]
    exact h'.counted
  · rw [h'.log more, h.log (added' ++ more), ← List.append_assoc, ← hadd', List.filterMap_append,
      List.append_assoc]
  · rw [h'.value, h.value]
    simp only [changesOf, List.filterMap_append, List.getLast?_append]
    cases (F.filterMap Event.change?).getLast? <;> rfl

end Follows

variable {t : Traced α}

/-- A subscriber logs the value of its change under its name; the event names its position. -/
theorem follows_log {c p : Nat} {sub : Subscriber α} (v : α)
    (hp : t.run.signal.subscribers[p]? = some sub) :
    Follows t (t.log c p sub.name v) [.ran c p v] := by
  refine ⟨rfl, ⟨[], by simp [Traced.log], rfl⟩, by simp [Traced.log, changesOf, Event.change?],
    trivial, fun more => ?_, rfl⟩
  have hlt : p < t.run.signal.subscribers.length := (List.getElem?_eq_some_iff.1 hp).1
  simp [Traced.log, Event.entry, List.getElem?_append_left hlt, hp]

theorem follows_subscribe (sub : Subscriber α) :
    Follows t (t.subscribe sub) [.subscribed t.run.signal.subscribers.length] :=
  ⟨rfl, ⟨[sub], rfl, rfl⟩, by simp [Traced.subscribe, changesOf, Event.change?],
    ⟨rfl, trivial⟩, fun _ => by simp [Traced.subscribe, Event.entry], rfl⟩

theorem follows_store (v : α) : Follows t (t.store v) [.changed v t.run.signal.subscribers.length] :=
  ⟨rfl, ⟨[], by simp [Traced.store], rfl⟩, by simp [Traced.store, changesOf, Event.change?],
    ⟨rfl, trivial⟩, fun _ => by simp [Traced.store, Event.entry],
    by simp [Traced.store, changesOf, Event.change?]⟩

/-- The subscribers `subs` stand at position `p` of the list `all`. -/
def PlacedAt (subs : List (Subscriber α)) (p : Nat) (all : List (Subscriber α)) : Prop :=
  ∃ pre post, all = pre ++ subs ++ post ∧ pre.length = p

theorem PlacedAt.getElem? {sub : Subscriber α} {rest all : List (Subscriber α)} {p : Nat}
    (h : PlacedAt (sub :: rest) p all) : all[p]? = some sub := by
  obtain ⟨pre, post, rfl, rfl⟩ := h
  simp

theorem PlacedAt.tail {sub : Subscriber α} {rest all : List (Subscriber α)} {p : Nat}
    (h : PlacedAt (sub :: rest) p all) : PlacedAt rest (p + 1) all := by
  obtain ⟨pre, post, rfl, rfl⟩ := h
  exact ⟨pre ++ [sub], post, by simp, by simp⟩

theorem PlacedAt.append {subs all : List (Subscriber α)} {p : Nat} (h : PlacedAt subs p all)
    (more : List (Subscriber α)) : PlacedAt subs p (all ++ more) := by
  obtain ⟨pre, post, rfl, rfl⟩ := h
  exact ⟨pre, post ++ more, by simp, rfl⟩

theorem placedAt_self (all : List (Subscriber α)) : PlacedAt all 0 all := ⟨[], [], by simp, rfl⟩

/-- Every change of the events runs exactly the subscribers it notifies, the changes being
numbered from `k`. -/
def RunsNotified (E : List (Event α)) (k : Nat) : Prop :=
  ∀ c, runsFor c E = notified k (changesOf E) c

theorem RunsNotified.append {E F : List (Event α)} {k : Nat} (hE : RunsNotified E k)
    (hF : RunsNotified F (k + (changesOf E).length)) : RunsNotified (E ++ F) k := fun c => by
  have hEc := hE c
  have hFc := hF c
  simp only [runsFor, changesOf] at hEc hFc ⊢
  rw [List.filterMap_append, List.filterMap_append, hEc, hFc, notified_append]

/-- A subscription runs no subscriber and starts no change. -/
theorem runsNotified_subscribed (q k : Nat) : RunsNotified [(.subscribed q : Event α)] k :=
  fun _ => rfl

/-- The events `E` of a notification of change `c` to `v`, over `n` subscribers from position
`p`, whose own changes are numbered from `k`: change `c` runs the positions `p` to `p + n - 1`
in order, each once, with `v`, and each change started in `E` runs the subscribers it
notifies. -/
def RunsAsNotified (E : List (Event α)) (c : Nat) (v : α) (p n k : Nat) : Prop :=
  ∀ c', runsFor c' E =
    (if c' = c then (List.range' p n).map (·, v) else []) ++ notified k (changesOf E) c'

namespace RunsAsNotified

variable {E E' : List (Event α)} {c k : Nat} {v : α} {p n : Nat}

theorem nil (c : Nat) (v : α) (p k : Nat) : RunsAsNotified [] c v p 0 k := fun c' => by
  simp [runsFor, changesOf, notified]

/-- **A subscriber is called, then the changes its calls open run, and the outer change goes on
after them.** The subscriber at `p` is called for change `c`; the events `E'` of its calls,
whose changes are numbered from `k`, after `c`, and each run the subscribers they notify, come
before the events `E` of the rest of change `c`. -/
theorem cons_called (hc : c < k) (h' : RunsNotified E' k)
    (h : RunsAsNotified E c v (p + 1) n (k + (changesOf E').length)) :
    RunsAsNotified (.ran c p v :: (E' ++ E)) c v p (n + 1) k := fun c' => by
  have hE := h c'
  have hE' := h' c'
  simp only [runsFor, changesOf, List.filterMap_cons, List.filterMap_append, Event.ranFor,
    Event.change?] at hE hE' ⊢
  rw [hE, hE', notified_append]
  by_cases hcc : c' = c
  · -- change `c` itself: the changes its subscriber opens are numbered after it
    subst hcc
    rw [notified_of_lt hc]
    simp [List.range'_succ]
  · simp [hcc, Ne.symm hcc]

end RunsAsNotified

/-- Every traced change `nested` makes, from any run, runs exactly the subscribers it notifies,
and so does every change opened inside it. -/
def ChangesRunNotified (nested : Traced α → α → Option (Traced α)) : Prop :=
  ∀ t w t', nested t w = some t' → ∃ E, Follows t t' E ∧ RunsNotified E t.changes

section Follows

variable {nestedT : Traced α → α → Option (Traced α)}

/-- **The calls of a subscriber.** When every traced change they may open runs exactly the
subscribers it notifies, and so does every change inside it, the calls of a subscriber, traced,
are followed by events in which every change runs exactly the subscribers it notifies. -/
theorem tracePerform_follows
    (hn : ChangesRunNotified nestedT)
    (t : Traced α) (calls : List (Call α)) :
    ∀ t', tracePerform nestedT t calls = some t' → ∃ E, Follows t t' E ∧ RunsNotified E t.changes := by
  induction calls generalizing t with
  | nil =>
    intro t' h
    cases h
    exact ⟨[], Follows.refl t, fun _ => rfl⟩
  | cons c calls ih =>
    intro t' h
    cases c with
    | subscribe sub =>
      obtain ⟨E, hf, hrun⟩ := ih (t.subscribe sub) t' h
      exact ⟨_, (follows_subscribe sub).trans hf, (runsNotified_subscribed _ _).append hrun⟩
    | update f =>
      simp only [tracePerform] at h
      cases hT : nestedT t (f t.run.signal.value) with
      | none =>
        rw [hT] at h
        cases h
      | some t₁ =>
        rw [hT] at h
        obtain ⟨E, hf, hrun⟩ := hn _ _ _ hT
        obtain ⟨F, hf', hrun'⟩ := ih t₁ t' h
        exact ⟨E ++ F, hf.trans hf', hrun.append (hf.changes ▸ hrun')⟩

/-- **A notification calls its subscribers once each, in order, with its value.** The traced loop
over `subs`, which stand at position `p` among the subscribers, for a change `c` that started
before, is followed by events in which change `c` runs exactly `subs`, in order, with `v`, and
every change opened inside runs exactly the subscribers it notifies, when the traced changes
the subscribers may open do. -/
theorem traceNotifyWith_follows
    (hn : ChangesRunNotified nestedT)
    (t : Traced α) (c : Nat) (v : α) (p : Nat) (subs : List (Subscriber α)) :
    ∀ t', traceNotifyWith nestedT t c v p subs = some t' → c < t.changes →
      PlacedAt subs p t.run.signal.subscribers →
      ∃ E, Follows t t' E ∧ RunsAsNotified E c v p subs.length t.changes := by
  induction subs generalizing t p with
  | nil =>
    intro t' h _ _
    cases h
    exact ⟨[], Follows.refl t, RunsAsNotified.nil c v p _⟩
  | cons sub rest ih =>
    intro t' h hc hp
    simp only [traceNotifyWith] at h
    cases hT : tracePerform nestedT (t.log c p sub.name v) (sub.react v) with
    | none =>
      rw [hT] at h
      cases h
    | some t₁ =>
      rw [hT] at h
      have hlog := follows_log (t := t) (c := c) v hp.getElem?
      -- the calls of the subscriber subscribe at the end and open changes numbered after `c`
      obtain ⟨E', hf', hrun'⟩ := tracePerform_follows hn _ _ t₁ hT
      obtain ⟨added, hadd, -⟩ := hf'.subscribers
      have hk : t₁.changes = t.changes + (changesOf E').length := hf'.changes
      obtain ⟨E, hf, hrun⟩ := ih t₁ (p + 1) t' h (by rw [hk]; omega)
        (by rw [hadd]; exact hp.tail.append added)
      refine ⟨_, (hlog.trans hf').trans hf, ?_⟩
      simp only [List.cons_append, List.nil_append]
      exact RunsAsNotified.cons_called hc hrun' (hk ▸ hrun)

/-- A change that stores `v` and calls every subscriber there is runs each of them once, and
every change opened inside runs exactly the subscribers it notifies, when the traced changes
the subscribers may open do. -/
theorem traceNotifyWith_store_follows
    (hn : ChangesRunNotified nestedT)
    {t t' : Traced α} {v : α}
    (h : traceNotifyWith nestedT (t.store v) t.changes v 0 t.run.signal.subscribers = some t') :
    ∃ E, Follows t t' E ∧ RunsNotified E t.changes := by
  obtain ⟨E, hf, hrun⟩ := traceNotifyWith_follows hn _ _ _ _ _ t' h (by simp [Traced.store])
    (placedAt_self _)
  refine ⟨_, (follows_store v).trans hf, fun c => ?_⟩
  have hc : runsFor c E = _ := hrun c
  show runsFor c (.changed v _ :: E) = notified t.changes (changesOf (.changed v _ :: E)) c
  simp only [runsFor, changesOf, List.filterMap_cons, Event.ranFor, Event.change?] at hc ⊢
  simp only [notified]
  split
  · rename_i hck
    subst hck
    rw [hc, if_pos rfl, show (t.store v).changes = t.changes + 1 from rfl,
      notified_of_lt (Nat.lt_succ_self _), List.range_eq_range', List.append_nil]
  · rename_i hck
    rw [hc, if_neg hck]
    rfl

end Follows

/-- **A change runs every subscriber it notifies once, and so does every change it opens**, at
every depth: by induction on the depth, the changes opened inside it doing so by the induction
hypothesis. -/
theorem traceSetIn_follows (depth : Nat) : ChangesRunNotified (traceSetIn (α := α) depth) := by
  induction depth with
  | zero =>
    intro t v t' h
    exact traceNotifyWith_store_follows (fun _ _ _ h => by cases h) h
  | succ d ih =>
    intro t v t' h
    exact traceNotifyWith_store_follows ih h

/-- A change made from outside any notification, traced: it stores `v`, takes the next number
and notifies every subscriber there is. -/
def traceSet (t : Traced α) (v : α) : Option (Traced α) := traceSetIn depthBound t v

/-- A call, traced. -/
def Call.trace (t : Traced α) : Call α → Option (Traced α)
  | .update f => traceSet t (f t.run.signal.value)
  | .subscribe sub => some (t.subscribe sub)

/-- Calls in order, traced. -/
def traceCalls (t : Traced α) : List (Call α) → Option (Traced α)
  | [] => some t
  | c :: cs => (Call.trace t c).bind (traceCalls · cs)

end Signal

namespace Run

variable {α : Type}

/-- The run `r` with the entries `L` logged before its own. -/
def prepend (L : Array (String × α)) (r : Run α) : Run α := { r with log := L ++ r.log }

@[simp] theorem prepend_signal (L : Array (String × α)) (r : Run α) : (r.prepend L).signal = r.signal :=
  rfl

theorem prepend_subscribe (L : Array (String × α)) (r : Run α) (sub : Subscriber α) :
    (r.prepend L).subscribe sub = (r.subscribe sub).prepend L := rfl

theorem prepend_called (L : Array (String × α)) (r : Run α) (name : String) (v : α) :
    (r.prepend L).called name v = (r.called name v).prepend L := by
  simp only [prepend, called, Array.push_append]

end Run

namespace Signal

section Prepend

variable {nested : Run α → α → Option (Run α)} {L : Array (String × α)}

/-- Entries logged before a subscriber's calls stay before the entries they log, when they stay
before those of the changes the calls open. -/
theorem perform_prepend (hn : ∀ r w, nested (r.prepend L) w = (nested r w).map (·.prepend L))
    (r : Run α) (calls : List (Call α)) :
    perform nested (r.prepend L) calls = (perform nested r calls).map (·.prepend L) := by
  induction calls generalizing r with
  | nil => rfl
  | cons c calls ih =>
    cases c with
    | subscribe sub =>
      simp only [perform, Run.prepend_subscribe, ih]
    | update f =>
      simp only [perform, Run.prepend_signal, hn]
      cases nested r (f r.signal.value) with
      | none => rfl
      | some r' => exact ih r'

/-- Entries logged before a notification stay before the entries it logs, when they stay before
those of the changes its subscribers open. -/
theorem notifyWith_prepend (hn : ∀ r w, nested (r.prepend L) w = (nested r w).map (·.prepend L))
    (r : Run α) (v : α) (subs : List (Subscriber α)) :
    notifyWith nested (r.prepend L) v subs = (notifyWith nested r v subs).map (·.prepend L) := by
  induction subs generalizing r with
  | nil => rfl
  | cons sub rest ih =>
    simp only [notifyWith, Run.prepend_called, perform_prepend hn]
    cases perform nested (r.called sub.name v) (sub.react v) with
    | none => rfl
    | some r' => exact ih r'

end Prepend

/-- **Entries logged before a change stay before the entries it logs**, at every depth. -/
theorem setIn_prepend (L : Array (String × α)) (depth : Nat) :
    ∀ (r : Run α) (v : α), setIn depth (r.prepend L) v = (setIn depth r v).map (·.prepend L) := by
  induction depth with
  | zero =>
    intro r v
    exact notifyWith_prepend (fun _ _ => rfl) (r.store v) v _
  | succ d ih =>
    intro r v
    exact notifyWith_prepend ih (r.store v) v _

/-- A traced call makes the run its call makes, after the entries logged before. -/
theorem Call.trace_run (t : Traced α) (c : Call α) :
    (Call.trace t c).map (·.run) = (Call.run t.run.signal c).map (·.prepend t.run.log) := by
  cases c with
  | update f =>
    -- the run traced so far is a new run of its signal with its log before
    have hrun : t.run = ({ signal := t.run.signal } : Run α).prepend t.run.log := by
      simp [Run.prepend]
    rw [Call.trace, traceSet, traceSetIn_run, Call.run, Signal.update, Signal.set, hrun,
      setIn_prepend]
    rfl
  | subscribe sub => simp [Call.trace, Call.run, Traced.subscribe, Run.prepend]

/-- **The traced calls make the run the calls make.** -/
theorem traceCalls_run (t : Traced α) (cs : List (Call α)) :
    (traceCalls t cs).map (·.run) = (runCalls t.run.signal cs).map (·.prepend t.run.log) := by
  induction cs generalizing t with
  | nil => simp [traceCalls, runCalls, Run.prepend]
  | cons c cs ih =>
    have hc := Call.trace_run t c
    simp only [traceCalls, runCalls]
    cases htc : Call.trace t c with
    | none =>
      rw [htc] at hc
      cases hr : Call.run t.run.signal c with
      | none => rfl
      | some r => simp [hr] at hc
    | some t₁ =>
      rw [htc] at hc
      cases hr : Call.run t.run.signal c with
      | none => simp [hr] at hc
      | some r =>
        simp only [hr, Option.map_some, Option.some.injEq] at hc
        simp only [Option.bind_some, ih, hc, Option.map_map, Function.comp_def, Run.prepend,
          Array.append_assoc]

theorem Call.trace_follows {t t' : Traced α} {c : Call α} (h : Call.trace t c = some t') :
    ∃ E, Follows t t' E ∧ RunsNotified E t.changes := by
  cases c with
  | update f => exact traceSetIn_follows _ t _ t' h
  | subscribe sub =>
    cases h
    exact ⟨_, follows_subscribe sub, runsNotified_subscribed _ _⟩

theorem traceCalls_follows {t t' : Traced α} {cs : List (Call α)} (h : traceCalls t cs = some t') :
    ∃ E, Follows t t' E ∧ RunsNotified E t.changes := by
  induction cs generalizing t with
  | nil =>
    cases h
    exact ⟨[], Follows.refl _, fun c => rfl⟩
  | cons c cs ih =>
    simp only [traceCalls, Option.bind_eq_some_iff] at h
    obtain ⟨t₁, h₁, h₂⟩ := h
    obtain ⟨E, hf, hrun⟩ := Call.trace_follows h₁
    obtain ⟨F, hf', hrun'⟩ := ih h₂
    refine ⟨E ++ F, hf.trans hf', hrun.append ?_⟩
    rw [← hf.changes]
    exact hrun'

/-- The runs that changes numbered from `k` call for, for the change `j` places further: those of
the change at place `j`, if there is one. -/
theorem notified_add (k : Nat) (cs : List (α × Nat)) (j : Nat) :
    notified k cs (k + j) = (cs[j]?).elim [] fun e => (List.range e.2).map (·, e.1) := by
  induction cs generalizing k j with
  | nil => rfl
  | cons e cs ih =>
    obtain ⟨v, n⟩ := e
    cases j with
    | zero => simp [notified]
    | succ j =>
      simp only [notified, List.getElem?_cons_succ]
      rw [if_neg (by omega), show k + (j + 1) = k + 1 + j by omega, ih]

/-- In counted events, a change notifies the subscribers there were: those of the start and one
per subscription before it. -/
theorem Counted.snapshot {n : Nat} {pre post : List (Event α)} {v : α} {m : Nat}
    (h : Counted n (pre ++ .changed v m :: post)) :
    m = n + pre.countP Event.isSubscription :=
  ((counted_append n pre _).1 h).2.1

/-- In counted events, a subscription takes the position after the subscribers there were. -/
theorem Counted.position {n : Nat} {pre post : List (Event α)} {q : Nat}
    (h : Counted n (pre ++ .subscribed q :: post)) :
    q = n + pre.countP Event.isSubscription :=
  ((counted_append n pre _).1 h).2.1

/-- What the traced calls `t` say of the run `r` that calls made on `s`. Changes are numbered in
the order they start, top-level or nested. The change numbered `c`, which stored `v` and notifies
`n` subscribers, runs the subscribers at positions `0, 1, …, n - 1` in that order, once each,
each with `v`; a number past the last change runs none. Positions are taken in subscription
order, and `n` counts the subscribers at the start and every subscription before the change.
The log is the list of runs, each under the name of the subscriber at its position, and the
value is the one the last change stored. -/
structure Notified (s : Signal α) (r : Run α) (t : Traced α) : Prop where
  run : t.run = r
  runs : ∀ c v n, (changesOf t.events)[c]? = some (v, n) →
    runsFor c t.events = (List.range n).map (·, v)
  beyond : ∀ c, (changesOf t.events).length ≤ c → runsFor c t.events = []
  snapshot : ∀ pre v n post, t.events = pre ++ .changed v n :: post →
    n = s.subscribers.length + pre.countP Event.isSubscription
  position : ∀ pre q post, t.events = pre ++ .subscribed q :: post →
    q = s.subscribers.length + pre.countP Event.isSubscription
  log : r.log.toList = t.events.filterMap (Event.entry r.signal.subscribers)
  value : r.signal.value = ((changesOf t.events).getLast?.map (·.1)).getD s.value

/-- The traced calls from the start say what `Notified` says of the run they carry. -/
theorem notified_of_traceCalls {s : Signal α} {cs : List (Call α)} {r : Run α} {t : Traced α}
    (ht : traceCalls { run := { signal := s } } cs = some t) (htr : t.run = r) :
    Notified s r t := by
  obtain ⟨E, hf, hruns⟩ := traceCalls_follows ht
  have hE : t.events = E := by rw [hf.events]; rfl
  have hcount : Counted s.subscribers.length t.events := hE ▸ hf.counted
  refine ⟨htr, fun c v n hc => ?_, fun c hc => ?_, fun pre v n post he => ?_,
    fun pre q post he => ?_, ?_, ?_⟩
  · rw [hE] at hc ⊢
    rw [hruns c, ← Nat.zero_add c, notified_add, hc]
    rfl
  · rw [hE] at hc ⊢
    rw [hruns c, ← Nat.zero_add c, notified_add, List.getElem?_eq_none hc]
    rfl
  · exact Counted.snapshot (he ▸ hcount)
  · exact Counted.position (he ▸ hcount)
  · have hlog := hf.log []
    rw [List.append_nil, htr] at hlog
    rw [hlog, hE]
    rfl
  · rw [← htr, hf.value, hE]

/-- Calls whose changes all finish are traced, and their trace says what `Notified` says of
their run. -/
theorem exists_notified {s : Signal α} {cs : List (Call α)} {r : Run α}
    (hr : runCalls s cs = some r) :
    ∃ t, traceCalls { run := { signal := s } } cs = some t ∧ Notified s r t := by
  -- the traced calls make the run the calls make
  have hrun := traceCalls_run { run := { signal := s } } cs
  rw [hr] at hrun
  obtain ⟨t, ht, htr⟩ := Option.map_eq_some_iff.1 hrun
  exact ⟨t, ht, notified_of_traceCalls ht (by rw [htr]; simp [Run.prepend])⟩

/-- **Every change notifies each subscriber subscribed before it, once, in subscription order,
with the value it stored, and no other; handles on one signal share it, and a new signal is
shared with no handle.**

For a signal and any calls made on it from outside a notification, through any handle on it,
whose changes all finish, the traced calls make exactly that run, and their events say what
`Notified` says: the change numbered `c` runs every subscriber whose subscription came before
it, once each, in subscription order, with the value it stored.

A clone of a handle reads the signal of its source and names its cell; handles that name one
cell read one signal and still name one cell after any call through any handle; a new signal
is named by a handle that names no cell that a handle reading a signal names. -/
theorem notifications :
    (∀ (s : Signal α) (cs : List (Call α)) (r : Run α), runCalls s cs = some r →
      ∃ t, traceCalls { run := { signal := s } } cs = some t ∧ Notified s r t) ∧
    (∀ (m : Shared (Signal α)) (k : Nat) (s : Signal α), m.get? k = some s →
      ∃ m', m.clone? k = some (m', m.handles.size) ∧ m'.get? m.handles.size = some s ∧
        m'.sameCell? m.handles.size k = some true) ∧
    (∀ (m : Shared (Signal α)) (j k : Nat), m.sameCell? j k = some true →
      m.get? j = m.get? k ∧ ∀ h f m', m.modify? h f = some m' → m'.sameCell? j k = some true) ∧
    (∀ (m : Shared (Signal α)) (j : Nat) (s s' : Signal α), m.get? j = some s' →
      (m.fresh s).1.sameCell? j (m.fresh s).2 = some false ∧
        (m.fresh s).1.get? (m.fresh s).2 = some s) := by
  refine ⟨fun s cs r hr => exists_notified hr, fun m k s hk => Shared.sameCell?_clone? hk,
    fun m j k h => ⟨Shared.get?_eq_of_sameCell? h, fun _ _ m' hm => ?_⟩,
    fun m j s s' hj => Shared.sameCell?_fresh hj s⟩
  rw [Shared.sameCell?_modify? hm]
  exact h

/-- A signal with a subscriber that subscribes another and one that sets the value again while
it is below 2, set to 1, then given a third subscriber, then increased: every change, nested or
not, runs the subscribers there were at its start; a clone of its handle shares it, and a new
signal does not. -/
theorem notifications_nested_chain :
    let s : Signal Int := { value := 0, subscribers :=
      [⟨"a", fun _ => [.subscribe ⟨"a/inner", fun _ => []⟩]⟩,
        ⟨"b", fun v => if v < 2 then [.set (v + 1)] else []⟩] }
    let cs : List (Call Int) := [.set 1, .subscribe ⟨"c", fun _ => []⟩, .update (· + 1)]
    (∃ r t, runCalls s cs = some r ∧ traceCalls { run := { signal := s } } cs = some t ∧
      Notified s r t) ∧
    (∃ m', (Shared.start s).clone? 0 = some (m', 1) ∧ m'.get? 1 = some s ∧
      m'.sameCell? 1 0 = some true) ∧
    ((Shared.start s).get? 0 = (Shared.start s).get? 0 ∧
      ∀ h f m', (Shared.start s).modify? h f = some m' → m'.sameCell? 0 0 = some true) ∧
    ((Shared.start s).fresh s).1.sameCell? 0 ((Shared.start s).fresh s).2 = some false ∧
      ((Shared.start s).fresh s).1.get? ((Shared.start s).fresh s).2 = some s := by
  intro s cs
  obtain ⟨r, hr⟩ : ∃ r, runCalls s cs = some r := Option.isSome_iff_exists.1 (by decide)
  obtain ⟨t, ht, hn⟩ := notifications.1 s cs r hr
  exact ⟨⟨r, t, hr, ht, hn⟩, notifications.2.1 _ 0 s rfl, notifications.2.2.1 _ 0 0 rfl,
    notifications.2.2.2 _ 0 s s rfl⟩

end Signal
end Sidebar
