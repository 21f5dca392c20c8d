import Workflow.CommandLine
import Workflow.Proofs.Checkpoint.Persistence
import Workflow.Proofs.Session.Prompts

/-!
# What a run leaves behind

A run hands its standings over as a list, and the command line keeps them in the directory that
was asked for.  Keeping a standing can only fail for want of room, and what was kept leaves room
for the next.  So one assumption about the files before the run is enough: each standing of the run
is kept, in its turn, and whoever asks for the checkpoint afterwards is told about the last.

## Main Statements

* `CommandLine.run_saves` — a run keeps its standings, all of them and in their order.
* `CommandLine.run_saves_of_parse` — these are the standings of the walk through its graph.
* `CommandLine.checkpoint_after_run` — the last of them is the one that is described.
-/

namespace Workflow.CommandLine

open Checkpoint

variable {σ : Type} {e : Setting σ} {options : RunOptions} {source written : String}

/-- Standings are kept where there is room. -/
theorem saves_keep {directory : List String} (room : Room e.files directory)
    (standings : List Progress) :
    Saves directory e.files (standings.map e.stamp) (keep e directory standings) := by
  have saves := saves_foldl room (standings.map e.stamp)
  rwa [List.foldl_map] at saves

/-- The files after a run are those with its standings. -/
theorem run_files (asked : options.checkpointDir = some written) :
    (run e options source).files =
      keep e (FileTree.names written) (report e options source).result.state.snapshots := by
  unfold run
  rw [asked]
  dsimp only
  split
  · rfl
  · rfl

/-- **A run keeps its standings** in the directory that was asked for, all of them and in their
order. -/
theorem run_saves (asked : options.checkpointDir = some written)
    (room : Room e.files (FileTree.names written)) :
    Saves (FileTree.names written) e.files
      ((report e options source).result.state.snapshots.map e.stamp)
      (run e options source).files := by
  rw [run_files asked]
  exact saves_keep room _

/-- **The standings that are kept are those of the walk** through the graph of the source. -/
theorem run_saves_of_parse {g : Graph} (read : Source.parse source = .ok g)
    (asked : options.checkpointDir = some written)
    (room : Room e.files (FileTree.names written)) :
    Saves (FileTree.names written) e.files
      ((Run.execute ((e.setup options).plan g) e.memory).state.snapshots.map e.stamp)
      (run e options source).files := by
  rw [← Session.conduct_of_parse read]
  exact run_saves asked room

/-- **The last standing of a run is the one that is described** when the checkpoint in its directory
is asked for. -/
theorem checkpoint_after_run (asked : options.checkpointDir = some written)
    (room : Room e.files (FileTree.names written)) {last : Progress}
    (ends : (report e options source).result.state.snapshots.getLast? = some last)
    (exact : (e.stamp last).Exact) {e' : Setting σ}
    (files : e'.files = (run e options source).files) :
    checkpoint e' written = describe e' (e.stamp last) := by
  obtain ⟨earlier, split⟩ := List.getLast?_eq_some_iff.mp ends
  have saves : Saves _ _ _ (run e options source).files := run_saves asked room
  rw [split, List.map_append, List.map_singleton] at saves
  rw [checkpoint, files, (kept_of_saves saves).load?_eq exact]

end Workflow.CommandLine
