import Workflow.Proofs.Checkpoint.Exchange
import Workflow.Proofs.FileTree

/-!
# Checkpoints are kept faithfully

After any number of checkpoints have been kept in a directory, the last of them is there, as it
was, and nothing else of the work that led to it.  In a directory without such a file nothing
is found.

## Main Definitions

* `Checkpoint.Saves` — checkpoints are kept in a directory, one after the other.
* `Checkpoint.Room` — checkpoints can be kept in a directory.
* `Checkpoint.FileIn` — the text of the file in a directory.

## Main Statements

* `Checkpoint.save_spec` — what keeping a checkpoint does to files.
* `Checkpoint.saves_foldl` — where there is room for one checkpoint there is room for all.
* `Checkpoint.keeps_last` — the last checkpoint is found.
-/

namespace Workflow.Checkpoint

open FileTree Json

variable {t t' : FileTree} {directory : List String} {c : Checkpoint}

/-! ### Keeping a checkpoint -/

/-- Checkpoints are kept in a directory, one after the other and without a problem. -/
inductive Saves (directory : List String) : FileTree → List Checkpoint → FileTree → Prop
  | nil (t : FileTree) : Saves directory t [] t
  | cons {t t' t'' : FileTree} {c : Checkpoint} {more : List Checkpoint}
      (first : save t directory c = (t', none)) (others : Saves directory t' more t'') :
      Saves directory t (c :: more) t''

/-- A checkpoint is kept in three steps. -/
theorem save_eq_iff : save t directory c = (t', none) ↔
    ∃ made written path, t.makeDirs directory = .ok (made, path) ∧
      made.write (path ++ [draftName]) c.render.toUTF8 = .ok written ∧
      written.rename (path ++ [draftName]) (path ++ [fileName]) = .ok t' := by
  constructor
  · intro saved
    unfold save at saved
    split at saved
    · cases saved
    · next made path found =>
        rw [inTurn] at saved
        split at saved
        · next written write =>
            rw [inTurn] at saved
            split at saved
            · next moved rename =>
                obtain ⟨rfl, -⟩ := Prod.mk.inj saved
                exact ⟨made, written, path, found, write, rename⟩
            · cases saved
        · cases saved
  · rintro ⟨made, written, path, found, write, rename⟩
    simp only [save, found, inTurn]
    rw [write]
    dsimp only
    rw [rename]

/-- **What keeping a checkpoint does to files**: its file holds its text, there is no draft, and
else there may only be new directories. -/
theorem save_spec (saved : save t directory c = (t', none)) : ∃ made, Grows t made ∧
    t'.resolve directory = .ok (place [] directory) ∧
    t'.get? (place [] directory) = some .directory ∧
    ∀ p, t'.get? p =
      if p = place [] directory ++ [fileName] then some (.file c.render.toUTF8)
      else if p = place [] directory ++ [draftName] then none
      else made.get? p := by
  obtain ⟨made, written, path, dirs, write, rename⟩ := save_eq_iff.mp saved
  obtain ⟨grows, rfl, followed⟩ := makeDirsFrom_spec dirs
  obtain ⟨here, after, keeps⟩ := replace_spec write rename
  exact ⟨made, grows, resolveFrom_of_keeps keeps followed, keeps _ here, after⟩

/-- A checkpoint that was kept is in its directory, and no draft of it. -/
structure Kept (t : FileTree) (directory : List String) (c : Checkpoint) : Prop where
  followed : t.resolve directory = .ok (place [] directory)
  isDirectory : t.get? (place [] directory) = some .directory
  file : t.get? (place [] directory ++ [fileName]) = some (.file c.render.toUTF8)
  noDraft : t.get? (place [] directory ++ [draftName]) = none

theorem kept_of_save (saved : save t directory c = (t', none)) : Kept t' directory c := by
  obtain ⟨made, -, followed, isDirectory, after⟩ := save_spec saved
  have differ : draftName ≠ fileName := by decide
  refine ⟨followed, isDirectory, ?_, ?_⟩
  · rw [after, if_pos rfl]
  · rw [after, if_neg (by simpa using differ), if_pos rfl]

/-- What was kept before is gone: the last of several checkpoints is there. -/
theorem kept_of_saves {earlier : List Checkpoint} {last : Checkpoint}
    (saves : Saves directory t (earlier ++ [last]) t') : Kept t' directory last := by
  induction earlier generalizing t with
  | nil =>
      rcases saves with _ | ⟨saved, ⟨⟩⟩
      exact kept_of_save saved
  | cons c earlier ih =>
      rcases saves with _ | ⟨-, others⟩
      exact ih others

/-- Checkpoints can be kept in a directory: it is there or can be made, and no other directory is in
the way of its files. -/
def Room (t : FileTree) (directory : List String) : Prop :=
  ∃ made, t.makeDirs directory = .ok (made, place [] directory) ∧
    made.get? (place [] directory ++ [draftName]) ≠ some .directory ∧
    made.get? (place [] directory ++ [fileName]) ≠ some .directory

theorem Room.exists_save (room : Room t directory) (c : Checkpoint) :
    ∃ t', save t directory c = (t', none) := by
  obtain ⟨made, dirs, draftFree, free⟩ := room
  obtain ⟨written, t', write, rename⟩ :=
    exists_replace (get?_of_makeDirsFrom get?_nil dirs) draftFree free
  exact ⟨t', save_eq_iff.mpr ⟨made, written, _, dirs, write, rename⟩⟩

/-- There is room for a checkpoint where one was kept. -/
theorem Kept.room (kept : Kept t directory c) : Room t directory := by
  refine ⟨t, makeDirsFrom_of_resolveFrom kept.followed kept.isDirectory, ?_, ?_⟩
  · rw [kept.noDraft]
    exact nofun
  · rw [kept.file]
    simp

/-- **Where there is room for one checkpoint there is room for all**, one after the other. -/
theorem saves_foldl (room : Room t directory) (cs : List Checkpoint) :
    Saves directory t cs (cs.foldl (fun t c => (save t directory c).1) t) := by
  induction cs generalizing t with
  | nil => exact .nil t
  | cons c cs ih =>
      obtain ⟨t', saved⟩ := room.exists_save c
      rw [List.foldl_cons, saved]
      exact .cons saved (ih (kept_of_save saved).room)

example : Room .empty ["runs", "one"] := ⟨_, rfl, nofun, nofun⟩

/-! ### Finding a checkpoint -/

/-- The file in a directory holds a text. -/
def FileIn (t : FileTree) (directory : List String) (text : String) : Prop :=
  ∃ path, t.resolve directory = .ok path ∧ t.read (path ++ [fileName]) = .ok text

theorem Kept.fileIn (kept : Kept t directory c) : FileIn t directory c.render := by
  refine ⟨place [] directory, kept.followed,
    read_eq_ok_iff.mpr (bytes_eq_ok_iff.mpr ⟨?_, ?_, kept.file⟩)⟩
  · simp
  · rw [List.dropLast_concat, kept.isDirectory]

theorem load?_of_fileIn {text : String} (file : FileIn t directory text) :
    load? t directory = parse? text := by
  obtain ⟨path, followed, read⟩ := file
  rw [load?, followed]
  simp [Except.bind, read]

/-- **A checkpoint is found where a file spells it**, and only there. -/
theorem load?_eq_some_iff :
    load? t directory = some c ↔ ∃ text, FileIn t directory text ∧ Spelled c text := by
  unfold load? FileIn
  cases t.resolve directory with
  | error problem => simp [Except.bind]
  | ok path =>
      cases read : t.read (path ++ [fileName]) with
      | error problem => simp [Except.bind, read]
      | ok text => simp [Except.bind, read, parse?_eq_some_iff]

/-- A checkpoint that was kept is found, unless data in it nest too deep. -/
theorem Kept.load?_eq (kept : Kept t directory c) (exact : c.Exact) :
    load? t directory = some c := by
  rw [load?_of_fileIn kept.fileIn, parse?_eq_some_iff]
  exact spelled_of_reordered exact (.refl _)

/-- **Checkpoints are kept faithfully.**  After any number of checkpoints have been kept in a
directory, whatever stood there before, the last one is found exactly as it was: its file holds
its text and nothing else, and there is no draft.  This is so for all texts, whole numbers of
64 bits and moments of the calendar, and for data that nest as deep as JSON is read; deeper
data are not found at all.  A text spells a checkpoint in whatever order its members are
written, and what is found in a directory is what its file spells: nothing, when there is no
file, when its bytes are no text, or when the text spells none. -/
theorem keeps_last (directory : List String) :
    (∀ t earlier last t', Saves directory t (earlier ++ [last]) t' →
      (last.Exact → load? t' directory = some last) ∧
      (last.Integral → ¬last.Exact → load? t' directory = none) ∧
      t'.get? (place [] directory ++ [fileName]) = some (.file last.render.toUTF8) ∧
      draftName ∉ t'.list (place [] directory)) ∧
    (∀ t c, load? t directory = some c ↔ ∃ text, FileIn t directory text ∧ Spelled c text) ∧
    (∀ t, (∀ text, FileIn t directory text → ∀ c, ¬Spelled c text) → load? t directory = none) ∧
    ∀ c j, c.Exact → Reordered c.toJson j → Spelled c j.pretty := by
  refine ⟨fun t earlier last t' saves => ?_, fun t c => load?_eq_some_iff, fun t nothing => ?_,
    fun c j exact same => spelled_of_reordered exact same⟩
  · have kept := kept_of_saves saves
    refine ⟨kept.load?_eq, fun integral deep => ?_, kept.file, fun listed => ?_⟩
    · rw [load?_of_fileIn kept.fileIn, Option.eq_none_iff_forall_ne_some]
      exact fun c read => deep (integral.exact_of_read read)
    · exact get?_of_mem_list listed kept.noDraft
  · rw [Option.eq_none_iff_forall_ne_some]
    intro c found
    obtain ⟨text, file, spelled⟩ := load?_eq_some_iff.mp found
    exact nothing text file c spelled

/-- A long checkpoint, and a short one that is kept after it. -/
def longStanding : Checkpoint where
  pipelineId := "run-1"
  timestamp := ⟨19849, 25689, 123000000⟩
  progress := {
    currentNode := "review"
    completed := ["start", "plan", "review"]
    retries := .ofList [("plan", 2)]
    outcomes := .ofList [("start", .success), ("plan", .partialSuccess), ("review", .retry)]
    context := ⟨.ofList [("plan", .text "one, two and three")], ["planned", "reviewed"]⟩ }

/-- The short one; its texts have to be escaped, and its moment lies in an inserted second. -/
def shortStanding : Checkpoint where
  pipelineId := "\"\u00e9\n"
  timestamp := ⟨17166, 86399, 1500000000⟩
  progress := {
    currentNode := ""
    completed := []
    retries := .ofList [("\\", 4294967295)]
    outcomes := .empty
    context := ⟨.ofList [("low", .number (.integer (-9223372036854775808))),
      ("record", .ofFields [("", .ofFields [("high", .number (.integer 18446744073709551615))])])],
      ["\u0001"]⟩ }

/-- A directory with a file whose bytes are no text. -/
def spoilt : FileTree := ⟨[(["runs"], .directory), (["runs", "one"], .directory),
  (["runs", "one", fileName], .file ⟨#[0x7b, 0xff, 0x7d]⟩)]⟩

/-- Nothing is found at first, as the file is no text; then the short one is, and nothing of the
long one. -/
theorem shortStanding_found : load? spoilt ["runs", ".", "one"] = none ∧ ∃ t,
    Saves ["runs", ".", "one"] spoilt [longStanding, shortStanding] t ∧
      shortStanding.Exact ∧ load? t ["runs", ".", "one"] = some shortStanding := by
  have faithful := keeps_last ["runs", ".", "one"]
  have saves : Saves ["runs", ".", "one"] spoilt [longStanding, shortStanding] _ :=
    .cons (Prod.ext rfl (by decide +kernel)) (.cons (Prod.ext rfl (by decide +kernel)) (.nil _))
  have exact : shortStanding.Exact := by
    refine ⟨⟨by decide, by decide, by decide, by decide⟩, fun e mem => ?_⟩
    rcases List.mem_cons.mp (Table.mem_ofList mem) with rfl | mem
    · exact .integer _ ⟨by decide, by decide⟩
    · obtain rfl := List.mem_singleton.mp mem
      refine .ofFields (List.forall_mem_singleton.mpr ?_)
      exact .ofFields (List.forall_mem_singleton.mpr (.integer _ ⟨by decide, by decide⟩))
  refine ⟨faithful.2.2.1 _ fun text file => ?_, _, saves, exact,
    (faithful.1 _ [longStanding] _ _ saves).1 exact⟩
  obtain ⟨path, followed, read⟩ := file
  have there : spoilt.resolve ["runs", ".", "one"] = .ok ["runs", "one"] := by decide +kernel
  obtain rfl : ["runs", "one"] = path := Except.ok.inj (there.symm.trans followed)
  have refused : spoilt.read ["runs", "one", fileName] = .error .notText := by decide +kernel
  cases refused.symm.trans read

end Workflow.Checkpoint
