import Sidebar.Signal
/-!
# The value subscribers end a change with

`Signal::set` and `Signal::update` in `crates/panelkit-core/src/state.rs`.

A set or an update stores its value and notifies the subscribers it finds; a subscriber may set
or update the value again from inside the notification, and that change runs to its end before
the subscriber's next call. So the value that stands once the outermost change returns is the
one stored by the last change to start, and that change notified every subscriber it found, in
subscription order, each with that value (`change_ends_with_final_value`). Every subscriber that
was called during the set or update is among them, so each was told the final value at least
once.

It is not always the last value it was told. When a subscriber sets the value again, the
subscribers after it in the outer change are called once the nested change returns, with the
outer change's older value (`set_ends_stale`).

The proof carries one invariant along the calls of a change (`Settles`): the subscribers only
grow at the end, and the entries logged either are those logged when no change starts, or
contain the full run of the last change started (`RanLast`). It holds of one logged call and of
one subscription, and of two runs one after the other (`Settles.trans`); so it holds of the
calls of a subscriber and of a notification loop when it holds of the changes they open, and of
every change, by induction on the depth.
-/

namespace Sidebar
namespace Signal

variable {α : Type}

/-- Every entry of `E` is logged under the name of one of the subscribers `S`. -/
def Named (S : List (Subscriber α)) (E : List (String × α)) : Prop :=
  ∀ e ∈ E, ∃ sub ∈ S, sub.name = e.1

/-- The entries `E` hold a run of the subscribers `S`, each once, in order, with the value `w`,
and every entry of `E` is a run of one of `S`. -/
def RanLast (S : List (Subscriber α)) (w : α) (E : List (String × α)) : Prop :=
  (S.map fun sub => (sub.name, w)) <:+: E ∧ Named S E

namespace Named

variable {S S' : List (Subscriber α)} {E F : List (String × α)}

theorem cons {sub : Subscriber α} (hsub : sub ∈ S) (x : α) (h : Named S E) :
    Named S ((sub.name, x) :: E) := by
  intro e he
  rcases List.mem_cons.1 he with rfl | he
  · exact ⟨sub, hsub, rfl⟩
  · exact h e he

theorem append (hE : Named S E) (hF : Named S F) : Named S (E ++ F) := by
  intro e he
  rcases List.mem_append.1 he with he | he
  · exact hE e he
  · exact hF e he

theorem mono (h : Named S E) (hS : S <+: S') : Named S' E := by
  intro e he
  obtain ⟨sub, hsub, hname⟩ := h e he
  exact ⟨sub, hS.subset hsub, hname⟩

/-- One entry per subscriber notified names those subscribers. -/
theorem of_map {subs : List (Subscriber α)} (hsubs : ∀ sub ∈ subs, sub ∈ S) (x : α) :
    Named S (subs.map fun sub => (sub.name, x)) := by
  intro e he
  obtain ⟨sub, hsub, rfl⟩ := List.mem_map.1 he
  exact ⟨sub, hsubs sub hsub, rfl⟩

end Named

theorem Named.nil {S : List (Subscriber α)} : Named S [] := fun _ he => absurd he List.not_mem_nil

/-- What a run from `r` to `r'` leaves, when the entries it logs while no change starts are
`quiet`. The subscribers grow at the end. The entries `E` logged either are `quiet`, the value
unchanged, when no change started; or they hold the full run of the last change started, which
found subscribers `S`, at least those of `r`, and ran them with the value that stands at the
end. -/
structure Settles (r r' : Run α) (quiet : List (String × α)) : Prop where
  grows : r.signal.subscribers <+: r'.signal.subscribers
  log : ∃ E, r'.log.toList = r.log.toList ++ E ∧
    ((r'.signal.value = r.signal.value ∧ E = quiet) ∨
      ∃ S, r.signal.subscribers <+: S ∧ S <+: r'.signal.subscribers ∧ RanLast S r'.signal.value E)

/-- The entries logged from `r` to `r'` hold the full run of the last change started, which
found subscribers `S`, at least those of `r`, and ran them with the value that stands at the
end. -/
def LastRan (r r' : Run α) : Prop :=
  ∃ E, r'.log.toList = r.log.toList ++ E ∧
    ∃ S, r.signal.subscribers <+: S ∧ S <+: r'.signal.subscribers ∧ RanLast S r'.signal.value E

/-- Every change `nested` makes, from any run, ends with the full run of its last change. -/
def EndsWithLastRun (nested : Run α → α → Option (Run α)) : Prop :=
  ∀ r w r', nested r w = some r' → LastRan r r'

variable {r r₁ r₂ r' : Run α} {v : α} {q₁ q₂ : List (String × α)}

theorem Settles.refl (r : Run α) : Settles r r [] :=
  ⟨List.prefix_refl _, [], by simp, .inl ⟨rfl, rfl⟩⟩

/-- A call of a subscriber logs one entry. -/
theorem settles_called (r : Run α) (name : String) (v : α) :
    Settles r (r.called name v) [(name, v)] :=
  ⟨List.prefix_refl _, [(name, v)], by simp, .inl ⟨rfl, rfl⟩⟩

/-- A subscription adds a subscriber at the end and logs nothing. -/
theorem settles_subscribe (r : Run α) (sub : Subscriber α) : Settles r (r.subscribe sub) [] :=
  ⟨List.prefix_append _ _, [], by simp, .inl ⟨rfl, rfl⟩⟩

/-- A run that ended with the full run of its last change settles, whatever it would log
without one. -/
theorem LastRan.settles (h : LastRan r r') (quiet : List (String × α)) : Settles r r' quiet := by
  obtain ⟨E, hlog, S, hS, hS', hran⟩ := h
  exact ⟨hS.trans hS', E, hlog, .inr ⟨S, hS, hS', hran⟩⟩

/-- **Two runs one after the other.** The last change of both is the second's last change, or,
when the second starts none, the first's; the entries logged without a change name subscribers
there were at the start. -/
theorem Settles.trans (h₁ : Settles r r₁ q₁) (h₂ : Settles r₁ r₂ q₂)
    (hq₁ : Named r.signal.subscribers q₁) (hq₂ : Named r.signal.subscribers q₂) :
    Settles r r₂ (q₁ ++ q₂) := by
  obtain ⟨E₁, hE₁, h₁'⟩ := h₁.log
  obtain ⟨E₂, hE₂, h₂'⟩ := h₂.log
  refine ⟨h₁.grows.trans h₂.grows, E₁ ++ E₂, by rw [hE₂, hE₁, List.append_assoc], ?_⟩
  rcases h₂' with ⟨hv₂, rfl⟩ | ⟨S₂, hS₂, hS₂', hran₂⟩
  · rcases h₁' with ⟨hv₁, rfl⟩ | ⟨S₁, hS₁, hS₁', hran₁⟩
    · exact .inl ⟨hv₂.trans hv₁, rfl⟩
    · -- the last change is the first run's; the second only logs subscribers it found
      refine .inr ⟨S₁, hS₁, hS₁'.trans h₂.grows, ?_, hran₁.2.append (hq₂.mono hS₁)⟩
      rw [hv₂]
      exact hran₁.1.trans List.infix_append_left
  · -- the last change is the second run's, and it found every subscriber of the first
    have hS : r.signal.subscribers <+: S₂ := h₁.grows.trans hS₂
    refine .inr ⟨S₂, hS, hS₂', hran₂.1.trans List.infix_append_right, ?_⟩
    refine Named.append ?_ hran₂.2
    rcases h₁' with ⟨-, rfl⟩ | ⟨S₁, -, hS₁', hran₁⟩
    · exact hq₁.mono hS
    · exact hran₁.2.mono (hS₁'.trans hS₂)

/-- **A change that notifies every subscriber there is** leaves the full run of its last change
within its entries, whether that is itself or one started inside it. -/
theorem Settles.ranLast
    (h : Settles r r' (r.signal.subscribers.map fun sub => (sub.name, r.signal.value))) :
    LastRan r r' := by
  obtain ⟨E, hlog, hE⟩ := h.log
  refine ⟨E, hlog, ?_⟩
  rcases hE with ⟨hval, rfl⟩ | hS
  · -- no change inside: the change itself ran every subscriber with its value
    refine ⟨r.signal.subscribers, List.prefix_refl _, h.grows, ?_, ?_⟩
    · exact hval ▸ List.infix_refl _
    · exact Named.of_map (fun _ hs => hs) _
  · exact hS

section Loops

variable {nested : Run α → α → Option (Run α)}

/-- **The calls of a subscriber settle**, logging nothing of their own, when every change they
may open ends with the full run of its last change. -/
theorem perform_settles (hn : EndsWithLastRun nested) (r : Run α) (calls : List (Call α)) :
    ∀ r', perform nested r calls = some r' → Settles r r' [] := by
  induction calls generalizing r with
  | nil =>
    intro r' h
    cases h
    exact Settles.refl r
  | cons c calls ih =>
    intro r' h
    cases c with
    | subscribe sub => exact (settles_subscribe r sub).trans (ih _ r' h) Named.nil Named.nil
    | update f =>
      simp only [perform] at h
      cases hr : nested r (f r.signal.value) with
      | none =>
        rw [hr] at h
        cases h
      | some r₁ =>
        rw [hr] at h
        exact ((hn _ _ _ hr).settles []).trans (ih r₁ r' h) Named.nil Named.nil

/-- **The notification loop settles**, logging one entry per subscriber called, when every
change its subscribers may open ends with the full run of its last change. -/
theorem notifyWith_settles (hn : EndsWithLastRun nested) (r : Run α) (v : α)
    (subs : List (Subscriber α)) :
    ∀ r', notifyWith nested r v subs = some r' → (∀ s ∈ subs, s ∈ r.signal.subscribers) →
      Settles r r' (subs.map fun sub => (sub.name, v)) := by
  induction subs generalizing r with
  | nil =>
    intro r' h _
    cases h
    exact Settles.refl r
  | cons sub rest ih =>
    intro r' h hsubs
    obtain ⟨hsub, hrest⟩ := List.forall_mem_cons.1 hsubs
    simp only [notifyWith] at h
    cases hp : perform nested (r.called sub.name v) (sub.react v) with
    | none =>
      rw [hp] at h
      cases h
    | some r₁ =>
      rw [hp] at h
      -- the subscriber is called and logged, then makes its calls, then the loop goes on
      have hone : Named r.signal.subscribers [(sub.name, v)] := Named.nil.cons hsub v
      have hcall : Settles r r₁ [(sub.name, v)] := by
        have h₁ := (settles_called r sub.name v).trans (perform_settles hn _ _ r₁ hp) hone
          Named.nil
        rwa [List.append_nil] at h₁
      exact hcall.trans (ih r₁ r' h fun s hs => hcall.grows.subset (hrest s hs)) hone
        (Named.of_map hrest v)

end Loops

/-- **Every change ends with the full run of its last change**, at every depth: by induction
on the depth, the changes opened inside it doing so by the induction hypothesis. -/
theorem setIn_lastRan (depth : Nat) : EndsWithLastRun (setIn (α := α) depth) := by
  induction depth with
  | zero =>
    intro r v r' h
    exact (notifyWith_settles (fun _ _ _ h => by cases h) _ v _ r' h fun _ hs => hs).ranLast
  | succ d ih =>
    intro r v r' h
    exact (notifyWith_settles ih _ v _ r' h fun _ hs => hs).ranLast

/-- **A change ends with every subscriber told the final value.** For every signal, with any
subscribers, including ones that set the value again from inside a notification: after a set or
an update that returns, the log holds the run of the last change started during it, which found
at least the subscribers the signal had, and ran every one of them, in subscription order, with
the value the signal then holds; every subscriber that ran is among them, so each was told that
value at least once. -/
theorem change_ends_with_final_value (s : Signal α) (r : Run α)
    (h : (∃ v, s.set v = some r) ∨ ∃ f, s.update f = some r) :
    ∃ S, s.subscribers <+: S ∧ S <+: r.signal.subscribers ∧
      (S.map fun sub => (sub.name, r.signal.value)) <:+: r.log.toList ∧
      (∀ e ∈ r.log.toList, ∃ sub ∈ S, sub.name = e.1) ∧
      ∀ e ∈ r.log.toList, (e.1, r.signal.value) ∈ r.log.toList := by
  -- an update is the set of the value it computes
  obtain ⟨v, hv⟩ : ∃ v, s.set v = some r := by
    rcases h with hset | ⟨f, hf⟩
    · exact hset
    · exact ⟨f s.value, hf⟩
  obtain ⟨E, hE, S, hS, hS', hran⟩ := setIn_lastRan _ _ v r hv
  have hlog : r.log.toList = E := by simpa using hE
  rw [hlog]
  refine ⟨S, hS, hS', hran.1, hran.2, fun e he => ?_⟩
  obtain ⟨sub, hsub, hname⟩ := hran.2 e he
  rw [← hname]
  exact hran.1.subset (List.mem_map.2 ⟨sub, hsub, rfl⟩)

/-- A subscriber that sets the value from 0 to 1 and one that records, set to 0: the recording
one ran with the final 1 inside the nested change. -/
theorem change_ends_with_final_value_chain :
    let s : Signal Int64 := { value := 0, subscribers :=
      [⟨"a", fun v => if v < 1 then [.set (v + 1)] else []⟩, ⟨"b", fun _ => []⟩] }
    ∃ r, ((∃ v, s.set v = some r) ∨ ∃ f, s.update f = some r) ∧
      ∃ S, s.subscribers <+: S ∧ S <+: r.signal.subscribers ∧
        (S.map fun sub => (sub.name, r.signal.value)) <:+: r.log.toList ∧
        (∀ e ∈ r.log.toList, ∃ sub ∈ S, sub.name = e.1) ∧
        ∀ e ∈ r.log.toList, (e.1, r.signal.value) ∈ r.log.toList := by
  intro s
  have hr : s.set 0 = some
      { signal := { s with value := 1 }, log := #[("a", 0), ("a", 1), ("b", 1), ("b", 0)] } := by
    rfl
  exact ⟨_, .inl ⟨0, hr⟩, change_ends_with_final_value s _ (.inl ⟨0, hr⟩)⟩

/-- **The last value a subscriber is told can be stale.** A subscriber that sets the value from 0
to 1, then one that records, set to 0: the recording one runs with 1 inside the nested change,
then with 0 once the outer change resumes, and the signal holds 1. -/
theorem set_ends_stale :
    let s : Signal Int64 := { value := 0, subscribers :=
      [⟨"a", fun v => if v < 1 then [.set (v + 1)] else []⟩, ⟨"b", fun _ => []⟩] }
    ∃ r, s.set 0 = some r ∧ r.signal.value = 1 ∧
      r.log.toList = [("a", 0), ("a", 1), ("b", 1), ("b", 0)] := by
  intro s
  refine ⟨{ signal := { s with value := 1 }, log := #[("a", 0), ("a", 1), ("b", 1), ("b", 0)] },
    rfl, rfl, rfl⟩

end Signal
end Sidebar
