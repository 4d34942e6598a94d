import Sidebar.Config.Manager
import Sidebar.Proofs.Sharing
/-!
# What the handles of shared configurations read

`ConfigManager` in `crates/panelkit-core/src/config.rs`: `clone`, `update_config`,
`set_category_level`, `get_config` and `get_category_level`.

A run of calls on configuration handles is described by its `History`: for each handle, the
handle that made the configuration it shares (the first handle and every fresh one made their
own, a clone shares its source's), and every change, with the handle that made the
configuration it went to. By the history, a handle reads the changes made to its
configuration, applied in call order to that configuration's first value (`History.view`).

After any run, every handle reads exactly that (`run_reads_history`): changes made through
handles of other configurations are not seen, the level of a category is the one in the
configuration read, and the copy that `getConfig` returns is the view at the moment of the
call, whatever calls follow.

The proof carries one invariant along the run (`Agrees`): the store has one handle per handle
of the history, two handles name one cell exactly when they share a configuration by the
history, and every handle reads its view. Each call keeps it (`Agrees.call`).
-/

namespace Sidebar
namespace Managers

/-- What a run of calls did: for each handle, in order, the handle that made the configuration
it shares, and each change made, in order, with the handle that made the configuration it went
to. -/
structure History where
  roots : Array Nat := #[0]
  changes : List (Nat × (Config → Config)) := []

namespace History

/-- The history after one more call. A call through a handle that does not exist adds
nothing. -/
def push (hist : History) : Call → History
  | .update h f => { hist with changes := hist.changes ++ (hist.roots[h]?.map (·, f)).toList }
  | .clone h =>
    match hist.roots[h]? with
    | some r => { hist with roots := hist.roots.push r }
    | none => hist
  | .fresh => { hist with roots := hist.roots.push hist.roots.size }
  | .getConfig _ | .getLevel _ _ => hist

/-- The history of a run from one handle. -/
def of (cs : List Call) : History := cs.foldl push {}

/-- The first value of the configuration that handle `r` made: `init` for the first handle,
the default for a fresh one. -/
def first (init : Config) (r : Nat) : Config := if r = 0 then init else {}

/-- The configuration that handle `r` made, after the changes made to it, in order. -/
def value (hist : History) (init : Config) (r : Nat) : Config :=
  (hist.changes.filterMap fun e => if e.1 = r then some e.2 else none).foldl (fun c f => f c)
    (first init r)

/-- The configuration a handle reads by the history. -/
def view (hist : History) (init : Config) (h : Nat) : Option Config :=
  hist.roots[h]?.map (hist.value init)

/-- A change made to the configuration of `r` is applied last to it; the others stay. -/
theorem value_change (hist : History) (init : Config) (r : Nat) (f : Config → Config) (r' : Nat) :
    ({ hist with changes := hist.changes ++ [(r, f)] } : History).value init r' =
      if r = r' then f (hist.value init r') else hist.value init r' := by
  unfold value
  by_cases hr : r = r' <;> simp [List.filterMap_append, List.foldl_append, hr]

/-- A configuration that no change went to has its first value. -/
theorem value_of_unchanged {hist : History} {init : Config} {r : Nat}
    (h : ∀ e ∈ hist.changes, e.1 ≠ r) : hist.value init r = first init r := by
  unfold value
  rw [List.filterMap_eq_nil_iff.2 fun e he => by simp [h e he]]
  rfl

end History

/-- The store agrees with a history: it has one handle per handle of the history, each naming a
cell that exists; two handles name one cell exactly when they share a configuration by the
history; and every handle reads its view. The history's roots and changes name handles made
so far. -/
structure Agrees (init : Config) (hist : History) (m : Managers) : Prop where
  size : m.handles.size = hist.roots.size
  nonempty : 0 < hist.roots.size
  cell_lt : ∀ h i : Nat, m.cellOf? h = some i → i < m.cells.size
  root_le : ∀ h r : Nat, hist.roots[h]? = some r → r ≤ h
  change_lt : ∀ e ∈ hist.changes, e.1 < hist.roots.size
  share : ∀ h k : Nat, m.cellOf? h = m.cellOf? k ↔ hist.roots[h]? = hist.roots[k]?
  view : ∀ h : Nat, m.get? h = hist.view init h

variable {init : Config} {hist : History} {m : Managers}

theorem agrees_start (init : Config) : Agrees init {} (Shared.start init) where
  size := rfl
  nonempty := by decide
  cell_lt h i hi := by
    simp only [Shared.start, Shared.cellOf?, Array.getElem?_eq_some_iff] at hi
    obtain ⟨hh, rfl⟩ := hi
    simp [Shared.start]
  root_le h r hr := by
    simp only [Array.getElem?_eq_some_iff] at hr
    obtain ⟨-, rfl⟩ := hr
    simp
  change_lt e he := absurd he List.not_mem_nil
  share h k := Iff.rfl
  view h := by
    simp only [Shared.get?, Shared.start, Shared.cellOf?, History.view]
    cases h with
    | zero => rfl
    | succ n => simp

/-- A handle that reads a configuration is a handle of the history. -/
theorem Agrees.root_of_get? (ha : Agrees init hist m) {k : Nat} {a : Config}
    (hk : m.get? k = some a) : ∃ r, hist.roots[k]? = some r ∧ hist.value init r = a := by
  rw [ha.view, History.view, Option.map_eq_some_iff] at hk
  exact hk

/-- A handle that reads nothing is no handle of the history. -/
theorem Agrees.root_of_get?_none (ha : Agrees init hist m) {k : Nat} (hk : m.get? k = none) :
    hist.roots[k]? = none := by
  rw [ha.view, History.view, Option.map_eq_none_iff] at hk
  exact hk

/-- **A change is applied to every handle of its configuration and to no other.** -/
theorem Agrees.update (ha : Agrees init hist m) (k : Nat) (f : Config → Config) :
    Agrees init (hist.push (.update k f)) (m.call (.update k f)).1 := by
  cases hk : m.get? k with
  | none =>
    -- the handle does not exist: neither the store nor the history changes
    have hr := ha.root_of_get?_none hk
    have hpush : hist.push (.update k f) = hist := by simp [History.push, hr]
    simpa only [call, Shared.modify?_eq_none hk, hpush] using ha
  | some a =>
    obtain ⟨r, hr, -⟩ := ha.root_of_get? hk
    obtain ⟨m', hm, -, -⟩ := Shared.modify?_of_get? hk f
    have hpush : hist.push (.update k f) = { hist with changes := hist.changes ++ [(r, f)] } := by
      simp [History.push, hr]
    have hr_lt : r < hist.roots.size :=
      Nat.lt_of_le_of_lt (ha.root_le k r hr) (Array.getElem?_eq_some_iff.1 hr).1
    have hcell : ∀ j, m'.cellOf? j = m.cellOf? j := fun j => by
      simp only [Shared.cellOf?, (Shared.get?_modify? hm j).1]
    simp only [call, hm, hpush]
    refine ⟨?_, ha.nonempty, ?_, ha.root_le, ?_, ?_, ?_⟩
    · rw [(Shared.get?_modify? hm 0).1, ha.size]
    · intro h i hi
      rw [(Shared.get?_modify? hm 0).2.1]
      exact ha.cell_lt h i ((hcell h).symm.trans hi)
    · intro e he
      rcases List.mem_append.1 he with he | he
      · exact ha.change_lt e he
      · rw [List.mem_singleton.1 he]
        exact hr_lt
    · intro h j
      rw [hcell, hcell]
      exact ha.share h j
    · intro j
      rw [(Shared.get?_modify? hm j).2.2, ha.view j, History.view, History.view]
      -- the handle sees the change exactly when it shares the configuration changed
      cases hj : hist.roots[j]? with
      | none => simp
      | some r' =>
        have hshare : m.cellOf? j = m.cellOf? k ↔ r = r' := by
          rw [ha.share j k, hj, hr, Option.some.injEq, eq_comm]
        by_cases hrr : r = r' <;> simp [History.value_change, hshare, hrr]

/-- **A clone shares the configuration of its source.** -/
theorem Agrees.clone (ha : Agrees init hist m) (k : Nat) :
    Agrees init (hist.push (.clone k)) (m.call (.clone k)).1 := by
  cases hk : m.get? k with
  | none =>
    have hr := ha.root_of_get?_none hk
    -- a handle with a cell would read it, so this one names none
    have hc : m.cellOf? k = none := by
      cases hi : m.cellOf? k with
      | none => rfl
      | some i =>
        have hlt := ha.cell_lt k i hi
        simp [Shared.get?, hi, Array.getElem?_eq_getElem hlt] at hk
    have hpush : hist.push (.clone k) = hist := by simp [History.push, hr]
    simpa only [call, Shared.clone?_eq_none hc, hpush] using ha
  | some a =>
    obtain ⟨r, hr, -⟩ := ha.root_of_get? hk
    obtain ⟨m', hm, -⟩ := Shared.clone?_of_get? hk
    have hcl := Shared.cellOf?_clone? hm
    have hpush : hist.push (.clone k) = { hist with roots := hist.roots.push r } := by
      simp [History.push, hr]
    have hk_lt : k < hist.roots.size := (Array.getElem?_eq_some_iff.1 hr).1
    -- the new handle is numbered after the others, in the store and in the history
    have hroot : ∀ j, (hist.roots.push r)[j]? =
        if j = m.handles.size then hist.roots[k]? else hist.roots[j]? := fun j => by
      rw [Array.getElem?_push, ha.size, hr]
    simp only [call, hm, hpush]
    refine ⟨?_, ?_, ?_, ?_, ?_, ?_, ?_⟩
    · rw [Shared.size_handles_clone? hm, ha.size, Array.size_push]
    · simp
    · intro h i hi
      rw [(hcl h).2.2] at hi
      rw [(hcl h).1]
      split at hi
      · exact ha.cell_lt k i hi
      · exact ha.cell_lt h i hi
    · intro h r' hr'
      rw [hroot] at hr'
      split at hr'
      · rename_i hh
        rw [hr] at hr'
        cases hr'
        have := ha.root_le k r hr
        have := ha.size
        omega
      · exact ha.root_le h r' hr'
    · intro e he
      simpa using Nat.lt_succ_of_lt (ha.change_lt e he)
    · intro h j
      rw [(hcl h).2.2, (hcl j).2.2, hroot, hroot]
      split <;> split
      · exact iff_of_true rfl rfl
      · exact ha.share k j
      · exact ha.share h k
      · exact ha.share h j
    · intro j
      simp only [Shared.get?, (hcl j).2.2, (hcl j).1, History.view, hroot]
      split
      · exact ha.view k
      · exact ha.view j

/-- **A fresh handle reads a new default configuration, shared with no other handle.** -/
theorem Agrees.fresh (ha : Agrees init hist m) :
    Agrees init (hist.push .fresh) (m.call .fresh).1 := by
  have hf := fun j => Shared.cellOf?_fresh (m := m) ({} : Config) j
  have hpush : hist.push .fresh = { hist with roots := hist.roots.push hist.roots.size } := rfl
  -- the new handle's number is its own root, above every root there is
  have hroot : ∀ j, (hist.roots.push hist.roots.size)[j]? =
      if j = m.handles.size then some m.handles.size else hist.roots[j]? := fun j => by
    rw [Array.getElem?_push, ha.size]
  have hnew : ∀ j, j ≠ m.handles.size → hist.roots[j]? ≠ some m.handles.size := by
    intro j hj hr
    have hle := ha.root_le j m.handles.size hr
    have hlt := (Array.getElem?_eq_some_iff.1 hr).1
    rw [← ha.size] at hlt
    omega
  have hcell : ∀ j, m.cellOf? j ≠ some m.cells.size := fun j hj =>
    Nat.lt_irrefl _ (ha.cell_lt j _ hj)
  simp only [call, hpush]
  refine ⟨?_, ?_, ?_, ?_, ?_, ?_, ?_⟩
  · simp [Shared.fresh, ha.size]
  · simp
  · intro h i hi
    rw [(hf h).2.2] at hi
    rw [(hf h).2.1, Array.size_push]
    split at hi
    · cases hi
      exact Nat.lt_succ_self _
    · exact Nat.lt_succ_of_lt (ha.cell_lt h i hi)
  · intro h r hr
    rw [hroot] at hr
    split at hr
    · cases hr
      omega
    · exact ha.root_le h r hr
  · intro e he
    simpa using Nat.lt_succ_of_lt (ha.change_lt e he)
  · intro h j
    rw [(hf h).2.2, (hf j).2.2, hroot, hroot]
    split <;> split
    · exact iff_of_true rfl rfl
    · rename_i hj
      exact ⟨fun h' => absurd h'.symm (hcell j), fun h' => absurd h'.symm (hnew j hj)⟩
    · rename_i hh _
      exact ⟨fun h' => absurd h' (hcell h), fun h' => absurd h' (hnew h hh)⟩
    · exact ha.share h j
  · intro j
    rw [Shared.get?_fresh ha.cell_lt, History.view, hroot]
    split
    · -- no change went to the new configuration yet, and it is not the first one
      rw [Option.map_some, History.value_of_unchanged fun e he hr => by
        have := ha.change_lt e he
        rw [← ha.size] at this
        omega]
      have hpos : m.handles.size ≠ 0 := by
        have := ha.nonempty
        rw [← ha.size] at this
        omega
      simp [History.first, hpos]
    · exact ha.view j

/-- **Each call keeps the store in agreement with the history.** -/
theorem Agrees.call (ha : Agrees init hist m) (c : Call) :
    Agrees init (hist.push c) (m.call c).1 := by
  cases c with
  | update k f => exact ha.update k f
  | clone k => exact ha.clone k
  | fresh => exact ha.fresh
  | getConfig h => exact ha
  | getLevel h key => exact ha

/-- The answers of a run are those of its first calls followed by those of the rest. -/
theorem foldl_step (cs : List Call) (m : Managers) (out : List Answer) :
    cs.foldl step (m, out) = ((run m cs).1, out ++ (run m cs).2) := by
  induction cs generalizing m out with
  | nil => simp [run]
  | cons c cs ih =>
    simp only [List.foldl_cons, run]
    rw [ih, ih (step (m, []) c).1 (step (m, []) c).2]
    simp [step]

theorem run_cons (m : Managers) (c : Call) (cs : List Call) :
    run m (c :: cs) = ((run (m.call c).1 cs).1, (m.call c).2 :: (run (m.call c).1 cs).2) := by
  simp only [run, List.foldl_cons]
  rw [foldl_step]
  rfl

theorem run_append (m : Managers) (cs ds : List Call) :
    run m (cs ++ ds) = ((run (run m cs).1 ds).1, (run m cs).2 ++ (run (run m cs).1 ds).2) := by
  rw [run, List.foldl_append, ← run, foldl_step]

theorem length_run (m : Managers) (cs : List Call) : (run m cs).2.length = cs.length := by
  induction cs generalizing m with
  | nil => rfl
  | cons c cs ih => simp [run_cons, ih]

/-- The agreement is kept along any calls. -/
theorem Agrees.foldl (ha : Agrees init hist m) (cs : List Call) (out : List Answer) :
    Agrees init (cs.foldl History.push hist) (cs.foldl step (m, out)).1 := by
  induction cs generalizing hist m out with
  | nil => exact ha
  | cons c cs ih => exact ih (ha.call c) _

/-- **The store agrees with the history along every run.** -/
theorem agrees_run (init : Config) (cs : List Call) :
    Agrees init (History.of cs) (run (Shared.start init) cs).1 :=
  (agrees_start init).foldl cs []

/-- **Every handle reads the changes made to its configuration, and nothing else.** Starting
from one handle on `init`, after any calls: each handle reads the changes made through the
handles that share its configuration, applied in call order to that configuration's first value
(`init`, or the default for a configuration a fresh handle made); a change through a handle of
another configuration leaves what it reads as it was; the level of a category it reads is the
one in that configuration; and `getConfig` answers the configuration read at the moment of the
call, whatever calls follow. -/
theorem run_reads_history (init : Config) (cs : List Call) :
    (∀ h, (run (Shared.start init) cs).1.get? h = (History.of cs).view init h) ∧
    (∀ h k f, (History.of cs).roots[h]? ≠ (History.of cs).roots[k]? →
      (run (Shared.start init) (cs ++ [.update k f])).1.get? h =
        (run (Shared.start init) cs).1.get? h) ∧
    (∀ h key, (run (Shared.start init) cs).1.categoryLevel? h key =
      ((History.of cs).view init h).map (·.logging.categoryLevels.get? key)) ∧
    (∀ h ds, (run (Shared.start init) (cs ++ .getConfig h :: ds)).2[cs.length]? =
      some (((History.of cs).view init h).elim .noHandle .config)) := by
  have ha := agrees_run init cs
  refine ⟨ha.view, fun h k f hne => ?_, fun h key => ?_, fun h ds => ?_⟩
  · rw [run_append, run_cons]
    show (((run (Shared.start init) cs).1.call (.update k f)).1).get? h = _
    cases hk : (run (Shared.start init) cs).1.get? k with
    | none => simp only [call, Shared.modify?_eq_none hk]
    | some a =>
      obtain ⟨m', hm, -, -⟩ := Shared.modify?_of_get? hk f
      have hcell : (run (Shared.start init) cs).1.cellOf? h ≠
          (run (Shared.start init) cs).1.cellOf? k := fun hc => hne ((ha.share h k).1 hc)
      simp only [call, hm]
      rw [(Shared.get?_modify? hm h).2.2, if_neg hcell]
  · rw [categoryLevel?, ha.view]
  · rw [run_append, run_cons]
    dsimp only
    rw [List.getElem?_append_right (Nat.le_of_eq (length_run _ cs)), length_run, Nat.sub_self]
    simp [call, ha.view]

end Managers
end Sidebar
