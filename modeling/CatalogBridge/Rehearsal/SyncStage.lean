import CatalogBridge.Rehearsal.Faults
import CatalogBridge.Sync.Cycle

/-!
# Rehearsing cycles

One cycle after the other against a cluster in memory, with what each of them asks, tells and
counts.
-/

namespace CatalogBridge.Rehearsal

/-- The cluster between two cycles, and the metrics so far. -/
structure SyncStage where
  scope : Scope
  plant : Plant
  metrics : Metrics

/-- What a cycle has shown: its result, what it asked in order, and what it told. -/
structure SyncShown where
  result : Except Error Summary
  called : List String
  notices : List Notice

namespace SyncStage

/-- Before the first cycle. -/
def initial (scope : Scope) : SyncStage := ⟨scope, .initial, .initial⟩

/-- The plant as a behaviour that keeps a list of what it is asked, latest first. -/
def behaviour : Program.Behaviour (Plant × List String) := fun (plant, called) call =>
  let (answer, plant) := plant.perform call
  (answer, plant, call.text :: called)

/-- Sync a snapshot. -/
def sync (stage : SyncStage) (snapshot : Snapshot) : SyncShown × SyncStage :=
  let run := (Sync.cycle stage.scope snapshot).run behaviour (stage.plant, [])
  ({ result := run.value, called := run.state.2.reverse, notices := Effect.notices run.effects },
    { stage with
      plant := run.state.1
      metrics := stage.metrics.recordAll (Effect.measurements run.effects) })

end SyncStage

end CatalogBridge.Rehearsal
