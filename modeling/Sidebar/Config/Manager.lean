import Sidebar.Config.Basic
import Sidebar.Shared
/-!
# Shared configurations

`ConfigManager` and the global manager (`init_config`, `init_config_with`, `get_config_manager`)
in `crates/panelkit-core/src/config.rs`.

A configuration can be shared by handles (`Shared`): a clone of a handle sees every update
made through the other, and a new handle starts from the default configuration. Reading a
configuration gives a copy that later updates do not change.
-/

namespace Sidebar

namespace Config

/-- The configuration with the level name of a category key set. -/
def setCategoryLevel (c : Config) (key level : String) : Config :=
  { c with logging := { c.logging with categoryLevels := c.logging.categoryLevels.insert key level } }

/-- The configuration with the default number of grid columns set. -/
def setColumns (c : Config) (n : UInt64) : Config := { c with grid := { c.grid with columns := n } }

/-- The configuration with the default number of visible rich-text lines set. -/
def setVisibleLines (c : Config) (n : UInt64) : Config :=
  { c with richText := { c.richText with visibleLines := n } }

/-- The configuration with the default log level name set. -/
def setDefaultLevel (c : Config) (level : String) : Config :=
  { c with logging := { c.logging with defaultLevel := level } }

/-- The configuration with no category levels. -/
def clearLevels (c : Config) : Config :=
  { c with logging := { c.logging with categoryLevels := LevelTable.empty } }

end Config

/-- Configurations shared by handles. -/
abbrev Managers := Shared Config

/-- The level name of a category key seen through a handle. -/
def Managers.categoryLevel? (m : Managers) (h : Nat) (key : String) : Option (Option String) :=
  (m.get? h).map (·.logging.categoryLevels.get? key)

namespace Managers

/-- A call made on a handle of shared configurations. -/
inductive Call where
  /-- Changes the configuration the handle names, as `update_config` does with any updater;
  setting a category level is one such change. -/
  | update (h : Nat) (change : Config → Config)
  /-- A new handle on the configuration the handle names. -/
  | clone (h : Nat)
  /-- A new handle on a new default configuration. -/
  | fresh
  /-- A copy of the configuration the handle names. -/
  | getConfig (h : Nat)
  /-- The level name of a category key in the configuration the handle names. -/
  | getLevel (h : Nat) (key : String)

/-- What a call gives back. -/
inductive Answer where
  /-- A change was made. -/
  | done
  /-- The number of a new handle. -/
  | handle (h : Nat)
  | config (c : Config)
  | level (l : Option String)
  /-- The call named a handle that does not exist; nothing changed. -/
  | noHandle

/-- Makes a call: the handles after it and its answer. -/
def call (m : Managers) : Call → Managers × Answer
  | .update h f =>
    match m.modify? h f with
    | some m' => (m', .done)
    | none => (m, .noHandle)
  | .clone h =>
    match m.clone? h with
    | some (m', i) => (m', .handle i)
    | none => (m, .noHandle)
  | .fresh => let (m', i) := m.fresh {}; (m', .handle i)
  | .getConfig h => (m, (m.get? h).elim .noHandle .config)
  | .getLevel h key => (m, (m.categoryLevel? h key).elim .noHandle .level)

/-- One call of a run: the handles after it, and the answers so far followed by its own. -/
def step (s : Managers × List Answer) (c : Call) : Managers × List Answer :=
  ((s.1.call c).1, s.2 ++ [(s.1.call c).2])

/-- Makes the calls in order: the handles after them and their answers, in order. -/
def run (m : Managers) (cs : List Call) : Managers × List Answer := cs.foldl step (m, [])

end Managers

/-- The global configuration manager of a process (`CONFIG_MANAGER`, a cell set once): the
configurations shared by handles, and the handle of the global one once it was made. -/
structure GlobalManager where
  managers : Managers := ⟨#[], #[]⟩
  global : Option Nat := none

namespace GlobalManager

/-- The handle of the global manager, made holding `c` if there is none yet; once one was made,
`c` is dropped (`init_config_with`). -/
def initWith (g : GlobalManager) (c : Config) : GlobalManager × Nat :=
  match g.global with
  | some h => (g, h)
  | none =>
    let (managers, h) := g.managers.fresh c
    ({ managers, global := some h }, h)

/-- The handle of the global manager, made holding the default configuration if there is none
yet (`init_config`). -/
def init (g : GlobalManager) : GlobalManager × Nat := g.initWith {}

/-- The handle of the global manager, if one was made (`get_config_manager`). -/
def get? (g : GlobalManager) : Option Nat := g.global

/-- **Once made, the global manager stays:** a later initialisation returns the handle of the
first and changes nothing, whatever configuration it is given. -/
theorem initWith_initWith (g : GlobalManager) (c c' : Config) :
    (g.initWith c).1.initWith c' = ((g.initWith c).1, (g.initWith c).2) := by
  obtain ⟨managers, global⟩ := g
  cases global <;> rfl

/-- After an initialisation, `get_config_manager` gives the handle it returned. -/
theorem get?_initWith (g : GlobalManager) (c : Config) :
    (g.initWith c).1.get? = some (g.initWith c).2 := by
  obtain ⟨managers, global⟩ := g
  cases global <;> rfl

end GlobalManager

end Sidebar
