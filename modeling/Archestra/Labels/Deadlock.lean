import Archestra.Db.Sched

/-!
# Deadlock between two `syncAgentLabels`

`syncAgentLabels` creates the keys and values of its labels inside its transaction, in the order of its list, and
an uncommitted row holds its unique key until the transaction ends: a second transaction inserting the same key
waits on the first.  Two syncs that create the same two new keys in opposite orders each wait on the other
(`Sys.deadlocked_of_waitsOn_pair`); neither can run (`Sys.step_run_eq_none_of_waitsOn`), and PostgreSQL's deadlock
detector aborts one of them.
-/

namespace Archestra

/-- Two agents get the labels `env` and `region`, listed in opposite orders, on an empty database. -/
def deadlockRace : Sys :=
  { db := Db.ofRows [] [] [] [] []
    clients := [(fun _ => []) <$> AgentLabelModel.syncAgentLabels "agent-a" [⟨"env", "prod"⟩, ⟨"region", "eu"⟩],
      (fun _ => []) <$> AgentLabelModel.syncAgentLabels "agent-b" [⟨"region", "us"⟩, ⟨"env", "dev"⟩]] }

/-- Six steps of each sync, `agent-a`'s first: each creates its first key and its value, `agent-b` then waits on
`agent-a`'s `env`; then `agent-a` tries to insert `region`. -/
def deadlockState : Sys :=
  deadlockRace.run (List.replicate 6 (.run 0) ++ List.replicate 6 (.run 1) ++ [.run 0])

/-- `agent-b`'s insert of `env` waits on `agent-a`'s transaction and `agent-a`'s insert of `region` waits on
`agent-b`'s: a cycle, neither can run, and the detector aborts `agent-a`'s sync. -/
theorem syncAgentLabels_deadlock :
    deadlockState.waitsOn 0 = some 1 ∧ deadlockState.waitsOn 1 = some 0 ∧ (deadlockState.step (.run 0)).isNone ∧
      (deadlockState.step (.run 1)).isNone ∧ deadlockState.deadlocked 0 ∧
      (deadlockState.run [.detect 0]).clients[0]?.bind Prog.failure? = some .deadlockDetected := by
  decide

end Archestra
