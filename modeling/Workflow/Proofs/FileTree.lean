import Mathlib.Data.List.Basic
import Workflow.FileTree

/-!
# What operations on files do

Each operation is described by what stands where before and after it.  No operation takes a
directory away, so a path that was followed once can be followed again and leads to the same
place.  A file is moved whatever it holds; only what is read from it has to be a text.

## Main Definitions

* `FileTree.place` — the place that names lead to, if they can be followed.
* `FileTree.Grows` — what stood somewhere still stands there, and there are no new files.

## Main Statements

* `FileTree.makeDirsFrom_spec` — directories are made and nothing else happens.
* `FileTree.resolveFrom_of_keeps` — names can be followed again.
* `FileTree.makeDirsFrom_of_resolveFrom` — directories that are there are not made again.
-/

namespace Workflow.FileTree

variable {t t' : FileTree} {path : Path} {contents : ByteArray}

/-! ### What stands at a place -/

@[simp] theorem get?_nil : t.get? [] = some .directory := rfl

/-- There is always something at the top. -/
theorem ne_nil_of_get?_eq_none (free : t.get? path = none) : path ≠ [] := by
  rintro rfl
  cases free

/-- The places that have an entry. -/
theorem get?_isSome (inside : path ≠ []) :
    (t.get? path).isSome ↔ ∃ e, (path, e) ∈ t.entries := by
  rw [get?, if_neg inside, Option.isSome_map, List.find?_isSome]
  constructor
  · rintro ⟨⟨p, e⟩, mem, same⟩
    obtain rfl : p = path := eq_of_beq same
    exact ⟨e, mem⟩
  · rintro ⟨e, mem⟩
    exact ⟨(path, e), mem, beq_self_eq_true path⟩

/-- Removing an entry leaves the others. -/
theorem get?_remove (inside : path ≠ []) (p : Path) :
    (t.remove path).get? p = if p = path then none else t.get? p := by
  by_cases root : p = []
  · rw [root, if_neg (Ne.symm inside), get?_nil, get?_nil]
  rw [get?, get?, if_neg root, if_neg root, remove, List.find?_filter]
  split
  · next same => simp [same]
  · next other =>
      refine congrArg (Option.map _) (congrArg (List.find? · t.entries) (funext fun e => ?_))
      by_cases here : e.1 = p
      · simp [here, other]
      · simp [here]

/-- Writing an entry leaves the others. -/
theorem get?_put (inside : path ≠ []) (e : Entry) (p : Path) :
    (t.put path e).get? p = if p = path then some e else t.get? p := by
  by_cases same : p = path
  · rw [if_pos same, same, get?, if_neg inside, put, List.find?_cons_of_pos (by simp)]
    rfl
  · have behind := t.get?_remove inside p
    rw [if_neg same] at behind ⊢
    rw [← behind]
    by_cases root : p = []
    · rw [root, get?_nil, get?_nil]
    · rw [get?, get?, if_neg root, if_neg root, put,
        List.find?_cons_of_neg (by simpa using Ne.symm same)]

/-! ### The operations -/

/-- One steps on from a directory only. -/
theorem enter_bind_eq_ok_iff {α : Type} {f : Unit → Except Problem α} {x : α} :
    t.enter path >>= f = .ok x ↔ t.get? path = some .directory ∧ f () = .ok x := by
  unfold enter
  cases t.get? path with
  | none => simp [bind, Except.bind]
  | some e =>
      cases e with
      | directory => simp [bind, Except.bind]
      | file contents => simp [bind, Except.bind]

/-- There are contents where a file stands in a directory. -/
theorem bytes_eq_ok_iff : t.bytes path = .ok contents ↔ path ≠ [] ∧
    t.get? path.dropLast = some .directory ∧ t.get? path = some (.file contents) := by
  unfold bytes
  split
  · simp
  · next inside =>
      rw [enter_bind_eq_ok_iff, and_iff_right inside]
      refine and_congr_right fun _ => ?_
      split
      · next found => simp [found]
      · next found => simp [found]
      · next found => simp [found]

/-- Bytes are read as the text that they encode. -/
theorem fromUTF8?_eq_some_iff {text : String} :
    String.fromUTF8? contents = some text ↔ contents = text.toUTF8 := by
  unfold String.fromUTF8?
  constructor
  · intro decoded
    split at decoded
    · rw [← Option.some.inj decoded]
      rfl
    · cases decoded
  · rintro rfl
    exact dif_pos text.isValidUTF8

/-- A text is read where a file in a directory holds its bytes. -/
theorem read_eq_ok_iff {text : String} :
    t.read path = .ok text ↔ t.bytes path = .ok text.toUTF8 := by
  unfold read
  cases t.bytes path with
  | error problem => simp [bind, Except.bind]
  | ok contents =>
      rw [Except.ok.injEq, ← fromUTF8?_eq_some_iff]
      cases decoded : String.fromUTF8? contents with
      | none => simp [bind, Except.bind, decoded]
      | some text' => simp [bind, Except.bind, decoded]

/-- A file is written where no directory stands, in a directory. -/
theorem write_eq_ok_iff : t.write path contents = .ok t' ↔ t.get? path ≠ some .directory ∧
    t.get? path.dropLast = some .directory ∧ t.put path (.file contents) = t' := by
  unfold write
  split
  · next found => simp [found]
  · next free =>
      rw [enter_bind_eq_ok_iff, and_iff_right free, Except.ok.injEq]

/-- A file is moved by writing its contents elsewhere. -/
theorem rename_eq_ok_iff {source target : Path} : t.rename source target = .ok t' ↔
    ∃ contents, t.bytes source = .ok contents ∧
      (t.remove source).write target contents = .ok t' := by
  unfold rename
  cases t.bytes source with
  | error problem => simp [bind, Except.bind]
  | ok contents => simp [bind, Except.bind]

/-- **A file is put in place by writing it beside and moving it there.**  The draft is gone then,
and no directory is lost. -/
theorem replace_spec {here : Path} {draft name : String} {written : FileTree}
    (write : t.write (here ++ [draft]) contents = .ok written)
    (rename : written.rename (here ++ [draft]) (here ++ [name]) = .ok t') :
    t.get? here = some .directory ∧
      (∀ p, t'.get? p =
        if p = here ++ [name] then some (.file contents)
        else if p = here ++ [draft] then none
        else t.get? p) ∧
      ∀ p, t.get? p = some .directory → t'.get? p = some .directory := by
  have inside (s : String) : here ++ [s] ≠ [] := List.concat_ne_nil s here
  obtain ⟨free, above, rfl⟩ := write_eq_ok_iff.mp write
  obtain ⟨moved, read, move⟩ := rename_eq_ok_iff.mp rename
  obtain ⟨-, -, found⟩ := bytes_eq_ok_iff.mp read
  rw [get?_put (inside _), if_pos rfl] at found
  obtain rfl : contents = moved := Entry.file.inj (Option.some.inj found)
  obtain ⟨noDirectory, -, rfl⟩ := write_eq_ok_iff.mp move
  have after (p : Path) : (((t.put (here ++ [draft]) (.file contents)).remove
      (here ++ [draft])).put (here ++ [name]) (.file contents)).get? p =
        if p = here ++ [name] then some (.file contents)
        else if p = here ++ [draft] then none
        else t.get? p := by
    rw [get?_put (inside _), get?_remove (inside _), get?_put (inside _)]
    split
    · rfl
    split
    · rfl
    · rfl
  rw [List.dropLast_concat] at above
  refine ⟨above, after, fun p directory => ?_⟩
  rw [get?_remove (inside _), get?_put (inside _)] at noDirectory
  have notDraft : p ≠ here ++ [draft] := by
    rintro rfl
    exact free directory
  have notFile : p ≠ here ++ [name] := by
    rintro rfl
    rw [if_neg notDraft, if_neg notDraft] at noDirectory
    exact noDirectory directory
  rw [after, if_neg notFile, if_neg notDraft, directory]

/-- A file can be put in place where no directory is in its way. -/
theorem exists_replace {here : Path} {draft name : String} (above : t.get? here = some .directory)
    (draftFree : t.get? (here ++ [draft]) ≠ some .directory)
    (free : t.get? (here ++ [name]) ≠ some .directory) :
    ∃ written t', t.write (here ++ [draft]) contents = .ok written ∧
      written.rename (here ++ [draft]) (here ++ [name]) = .ok t' := by
  have inside (s : String) : here ++ [s] ≠ [] := List.concat_ne_nil s here
  have apart (s : String) : here ≠ here ++ [s] := by simp
  refine ⟨_, _, write_eq_ok_iff.mpr ⟨draftFree, ?_, rfl⟩, rename_eq_ok_iff.mpr ⟨contents, ?_,
    write_eq_ok_iff.mpr ⟨?_, ?_, rfl⟩⟩⟩
  · rw [List.dropLast_concat, above]
  · rw [bytes_eq_ok_iff, List.dropLast_concat, get?_put (inside _), if_neg (apart _), above,
      get?_put (inside _), if_pos rfl]
    exact ⟨inside _, rfl, rfl⟩
  · rw [get?_remove (inside _), get?_put (inside _)]
    split
    · simp
    · exact free
  · rw [List.dropLast_concat, get?_remove (inside _), if_neg (apart _), get?_put (inside _),
      if_neg (apart _), above]

/-! ### Following names -/

/-- The place that names lead to from a place, if they can be followed. -/
def place (path : Path) (names : List String) : Path := names.foldl step path

/-- What stands somewhere in a tree still stands there in another, which has no more files. -/
structure Grows (t t' : FileTree) : Prop where
  keeps : ∀ p e, t.get? p = some e → t'.get? p = some e
  noFile : ∀ p contents, t'.get? p = some (.file contents) → t.get? p = some (.file contents)

namespace Grows

theorem refl (t : FileTree) : Grows t t := ⟨fun _ _ found => found, fun _ _ found => found⟩

theorem trans {t'' : FileTree} (first : Grows t t') (second : Grows t' t'') : Grows t t'' :=
  ⟨fun p e found => second.keeps p e (first.keeps p e found),
    fun p contents found => first.noFile p contents (second.noFile p contents found)⟩

theorem put (free : t.get? path = none) : Grows t (t.put path .directory) := by
  have inside := ne_nil_of_get?_eq_none free
  constructor
  · intro p e found
    have other : p ≠ path := by
      rintro rfl
      rw [free] at found
      cases found
    rw [get?_put inside, if_neg other, found]
  · intro p contents found
    rw [get?_put inside] at found
    split at found
    · cases found
    · exact found

end Grows

/-- **Names that were followed can be followed again** as long as there are still those
directories. -/
theorem resolveFrom_of_keeps {names : List String}
    (keeps : ∀ p, t.get? p = some .directory → t'.get? p = some .directory)
    {found : Path} (followed : t.resolveFrom path names = .ok found) :
    t'.resolveFrom path names = .ok found := by
  induction names generalizing path with
  | nil => exact followed
  | cons name names ih =>
      rw [resolveFrom, enter_bind_eq_ok_iff] at followed ⊢
      exact ⟨keeps path followed.1, ih followed.2⟩

/-- A step along names goes through a directory that is there, or through one that is made. -/
theorem makeDirsFrom_cons_eq_ok_iff {name : String} {names : List String}
    {result : FileTree × Path} :
    t.makeDirsFrom path (name :: names) = .ok result ↔ t.get? path = some .directory ∧
      (t.get? (step path name) = some .directory ∧
          t.makeDirsFrom (step path name) names = .ok result ∨
        t.get? (step path name) = none ∧
          (t.put (step path name) .directory).makeDirsFrom (step path name) names =
            .ok result) := by
  rw [makeDirsFrom, enter_bind_eq_ok_iff]
  refine and_congr_right fun _ => ?_
  dsimp only
  split
  · next there => simp [there]
  · next there => simp [there]
  · next free => simp [free]

/-- **Directories are made and nothing else happens.** -/
theorem makeDirsFrom_spec {names : List String} {found : Path}
    (made : t.makeDirsFrom path names = .ok (t', found)) :
    Grows t t' ∧ found = place path names ∧ t'.resolveFrom path names = .ok found := by
  induction names generalizing t path with
  | nil =>
      obtain ⟨rfl, rfl⟩ := Prod.mk.inj (Except.ok.inj made)
      exact ⟨.refl t, rfl, rfl⟩
  | cons name names ih =>
      obtain ⟨here, made⟩ := makeDirsFrom_cons_eq_ok_iff.mp made
      have onwards {t₀ : FileTree} (grows : Grows t t₀)
          (made : t₀.makeDirsFrom (step path name) names = .ok (t', found)) :
          Grows t t' ∧ found = place path (name :: names) ∧
            t'.resolveFrom path (name :: names) = .ok found := by
        obtain ⟨more, eq, followed⟩ := ih made
        refine ⟨grows.trans more, eq, ?_⟩
        rw [resolveFrom, enter_bind_eq_ok_iff]
        exact ⟨(grows.trans more).keeps path _ here, followed⟩
      rcases made with ⟨-, made⟩ | ⟨free, made⟩
      · exact onwards (.refl t) made
      · exact onwards (.put free) made

/-- Names that start at a directory lead to one, once the directories on the way are made. -/
theorem get?_of_makeDirsFrom {names : List String} {found : Path}
    (here : t.get? path = some .directory)
    (made : t.makeDirsFrom path names = .ok (t', found)) : t'.get? found = some .directory := by
  induction names generalizing t path with
  | nil =>
      obtain ⟨rfl, rfl⟩ := Prod.mk.inj (Except.ok.inj made)
      exact here
  | cons name names ih =>
      rcases (makeDirsFrom_cons_eq_ok_iff.mp made).2 with ⟨there, made⟩ | ⟨free, made⟩
      · exact ih there made
      · refine ih ?_ made
        rw [get?_put (ne_nil_of_get?_eq_none free), if_pos rfl]

/-- **Directories that are there are not made again.** -/
theorem makeDirsFrom_of_resolveFrom {names : List String} {found : Path}
    (followed : t.resolveFrom path names = .ok found) (there : t.get? found = some .directory) :
    t.makeDirsFrom path names = .ok (t, found) := by
  induction names generalizing path with
  | nil =>
      rw [makeDirsFrom, Except.ok.inj followed]
  | cons name names ih =>
      rw [resolveFrom, enter_bind_eq_ok_iff] at followed
      obtain ⟨here, followed⟩ := followed
      have onwards : t.get? (step path name) = some .directory := by
        cases names with
        | nil => rw [Except.ok.inj followed, there]
        | cons next names =>
            rw [resolveFrom, enter_bind_eq_ok_iff] at followed
            exact followed.1
      exact makeDirsFrom_cons_eq_ok_iff.mpr ⟨here, .inl ⟨onwards, ih followed⟩⟩

/-! ### Directories -/

/-- What is listed is there. -/
theorem get?_of_mem_list {name : String} (listed : name ∈ t.list path) :
    t.get? (path ++ [name]) ≠ none := by
  unfold list at listed
  split at listed
  · rw [List.mem_mergeSort, List.mem_filterMap] at listed
    obtain ⟨⟨p, e⟩, mem, eq⟩ := listed
    dsimp only at eq
    split at eq
    · next last found =>
        split at eq
        · next above =>
            obtain rfl := Option.some.inj eq
            have whole := List.dropLast_append_getLast? _ found
            rw [above] at whole
            rw [whole, ← Option.isSome_iff_ne_none, get?_isSome (by simp [← whole])]
            exact ⟨e, mem⟩
        · cases eq
    · cases eq
  · cases listed

end Workflow.FileTree
