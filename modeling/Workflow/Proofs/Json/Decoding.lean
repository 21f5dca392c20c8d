import Workflow.Proofs.Json.Order

/-!
# What is read as data

What the readers of texts, words, lists, tables and records accept, said without them.

## Main Definitions

* `Json.Listed`, `Json.Tabled` — arrays and objects whose parts stand for data.
* `Json.Parts` — the values under some names, in an object or by position.

## Main Statements

* `Json.list?_eq_some_iff`, `Json.table?_eq_some_iff`, `Json.record?_eq_some_iff` — those and
  no others are read.
* `Json.list?_map`, `Json.table?_ofTable` — lists and tables are read back as they were written.
-/

namespace Workflow.Json

variable {α : Type} {r : Json → α → Prop} {f : Json → Option α} {j : Json}

/-! ### Single values -/

theorem text?_eq_some_iff {s : String} : j.text? = some s ↔ j = .string s := by
  cases j with
  | string t => simp [text?]
  | _ => simp [text?]

theorem integer?_eq_some_iff {n : Int} : j.integer? = some n ↔ j = .number (.integer n) := by
  cases j with
  | number m =>
      cases m with
      | integer m => simp [integer?]
      | float x => simp [integer?]
  | _ => simp [integer?]

/-- A word is read from its number. -/
theorem uint32?_eq_some_iff {n : UInt32} : j.uint32? = some n ↔ j = .ofNat n.toNat := by
  simp only [uint32?, natBelow?, Option.map_eq_some_iff, Option.bind_eq_some_iff,
    integer?_eq_some_iff]
  constructor
  · rintro ⟨m, ⟨i, rfl, small⟩, rfl⟩
    split at small
    · next range =>
        obtain rfl := Option.some.inj small
        rw [ofNat, UInt32.toNat_ofNat_of_lt' (by omega), Int.toNat_of_nonneg range.1]
    · cases small
  · rintro rfl
    have small := n.toNat_lt
    exact ⟨n.toNat, ⟨n.toNat, rfl, if_pos ⟨by omega, Int.ofNat_lt.mpr small⟩⟩, UInt32.ofNat_toNat⟩

/-! ### Lists and tables -/

theorem mapM_eq_some_iff {β : Type} {g : α → Option β} {xs : List α} {ys : List β} :
    xs.mapM g = some ys ↔ List.Forall₂ (fun x y => g x = some y) xs ys := by
  induction xs generalizing ys with
  | nil => simp [eq_comm]
  | cons x xs ih =>
      simp only [List.mapM_cons, Option.bind_eq_bind, Option.bind_eq_some_iff, ih,
        List.forall₂_cons_left_iff, Option.pure_def, Option.some.injEq]
      constructor
      · rintro ⟨y, first, ys, others, rfl⟩
        exact ⟨y, ys, first, others, rfl⟩
      · rintro ⟨y, ys, first, others, rfl⟩
        exact ⟨y, first, ys, others, rfl⟩

/-- An array whose items stand for the items of a list. -/
inductive Listed (r : Json → α → Prop) : Json → List α → Prop
  | mk {items : List Json} {xs : List α} (each : List.Forall₂ r items xs) :
      Listed r (.array items) xs

/-- An object whose members stand for entries of a table.  If a name repeats, the last one
counts. -/
inductive Tabled (r : Json → α → Prop) : Json → Table α → Prop
  | mk {members : List (String × Json)} {entries : List (String × α)}
      (each : List.Forall₂ (fun m e => m.1 = e.1 ∧ r m.2 e.2) members entries) :
      Tabled r (.object members) (.ofList entries)

/-- **Lists** are read from arrays of their items. -/
theorem list?_eq_some_iff (each : ∀ j x, f j = some x ↔ r j x) {xs : List α} :
    list? f j = some xs ↔ Listed r j xs := by
  obtain rfl : (fun j x => f j = some x) = r := funext₂ fun j x => propext (each j x)
  constructor
  · intro read
    cases j with
    | array items => exact .mk (mapM_eq_some_iff.mp read)
    | _ => cases read
  · rintro ⟨items⟩
    exact mapM_eq_some_iff.mpr items

/-- **Tables** are read from objects of their entries. -/
theorem table?_eq_some_iff (each : ∀ j x, f j = some x ↔ r j x) {t : Table α} :
    table? f j = some t ↔ Tabled r j t := by
  have entry : (fun (m : String × Json) (e : String × α) => (f m.2).map (m.1, ·) = some e) =
      fun m e => m.1 = e.1 ∧ r m.2 e.2 := by
    funext m e
    obtain ⟨name, x⟩ := e
    simp only [Option.map_eq_some_iff, Prod.mk.injEq, each, eq_iff_iff]
    constructor
    · rintro ⟨y, here, same, rfl⟩
      exact ⟨same, here⟩
    · rintro ⟨same, here⟩
      exact ⟨x, here, same, rfl⟩
  constructor
  · intro read
    cases j with
    | object members =>
        obtain ⟨entries, members, rfl⟩ := Option.map_eq_some_iff.mp read
        exact .mk (entry ▸ mapM_eq_some_iff.mp members)
    | _ => cases read
  · rintro ⟨members⟩
    exact Option.map_eq_some_iff.mpr ⟨_, mapM_eq_some_iff.mpr (entry ▸ members), rfl⟩

/-- Every member of an object that is read as a table is read. -/
theorem isSome_of_table? {members : List (String × Json)} {t : Table α}
    (read : table? f (.object members) = some t) {m : String × Json} (mem : m ∈ members) :
    (f m.2).isSome := by
  obtain ⟨entries, found, -⟩ := Option.map_eq_some_iff.mp read
  by_contra absent
  have none : (f m.2).map (m.1, ·) = none := by
    rw [Option.not_isSome_iff_eq_none.mp absent, Option.map_none]
  rw [mapM_eq_ite, if_neg] at found
  · cases found
  · intro all
    have here := List.all_eq_true.mp all m mem
    rw [none] at here
    cases here

/-- Texts are read from an array of them. -/
theorem list?_text?_eq_some_iff {texts : List String} :
    list? text? j = some texts ↔ j = ofTexts texts := by
  rw [list?_eq_some_iff fun _ _ => text?_eq_some_iff]
  constructor
  · rintro ⟨items⟩
    refine congrArg array ?_
    induction items with
    | nil => rfl
    | cons first _ ih => rw [first, ih, List.map_cons]
  · rintro rfl
    exact .mk (List.forall₂_map_left_iff.mpr (List.forall₂_same.mpr fun _ _ => rfl))

/-! ### What was written as data -/

variable {item : α → Json}

/-- What is read item by item. -/
theorem mapM_map_eq_some {β : Type} {g : α → β} {h : β → Option α} {xs : List α}
    (each : ∀ x ∈ xs, h (g x) = some x) : (xs.map g).mapM h = some xs :=
  mapM_eq_some_iff.mpr (List.forall₂_map_left_iff.mpr (List.forall₂_same.mpr each))

/-- Lists are read back from arrays. -/
theorem list?_map {xs : List α} (each : ∀ x ∈ xs, f (item x) = some x) :
    list? f (.array (xs.map item)) = some xs := mapM_map_eq_some each

/-- **Tables are read back from objects.** -/
theorem table?_ofTable {t : Table α} (each : ∀ e ∈ t.entries, f (item e.2) = some e.2) :
    table? f (ofTable item t) = some t := by
  have entries : (t.entries.map fun e => (e.1, item e.2)).mapM
      (fun m => (f m.2).map (m.1, ·)) = some t.entries := by
    refine mapM_map_eq_some fun e mem => ?_
    rw [each e mem]
    rfl
  rw [ofTable, table?, entries]
  exact congrArg some (Table.ofList_of_perm .rfl)

theorem Plain.ofTable {t : Table α} (each : ∀ e ∈ t.entries, Plain (item e.2)) :
    Plain (Json.ofTable item t) := by
  refine .object fun m mem => ?_
  obtain ⟨e, found, rfl⟩ := List.mem_map.mp mem
  exact each e found

theorem Plain.arrayMap {xs : List α} (each : ∀ x ∈ xs, Plain (item x)) :
    Plain (.array (xs.map item)) := by
  refine .array fun j mem => ?_
  obtain ⟨x, found, rfl⟩ := List.mem_map.mp mem
  exact each x found

/-- A signed word fits. -/
theorem fits_toInt (w : Int64) : Fits w.toInt := by
  have lower := w.minValue_le_toInt
  have upper := w.toInt_lt
  have size : (UInt64.size : Int) = 2 ^ 64 := rfl
  exact ⟨lower, by omega⟩

/-- An unsigned word fits. -/
theorem fits_of_lt {n : Nat} (small : n < UInt64.size) : Fits n := by
  have lower : Int64.minValue.toInt = -2 ^ 63 := rfl
  exact ⟨by omega, Int.ofNat_lt.mpr small⟩

/-- A word of 32 bits fits. -/
theorem fits_toNat (n : UInt32) : Fits n.toNat :=
  fits_of_lt (Nat.lt_trans n.toNat_lt (by decide))

/-! ### Records -/

/-- The values under some names: those of the only members with these names, or the items of an
array. -/
inductive Parts (names : List String) (values : List Json) : Json → Prop
  | object {members : List (String × Json)} (each : List.Forall₂
      (fun name value => members.filter (·.1 == name) = [(name, value)]) names values) :
      Parts names values (.object members)
  | array (length : values.length = names.length) : Parts names values (.array values)

theorem member?_eq_some_iff {name : String} {members : List (String × Json)} :
    member? name members = some (some j) ↔ members.filter (·.1 == name) = [(name, j)] := by
  unfold member?
  have named : ∀ m ∈ members.filter (·.1 == name), m.1 = name :=
    fun m mem => eq_of_beq (List.mem_filter.mp mem).2
  generalize members.filter (·.1 == name) = found at named
  match found with
  | [] => simp
  | [(key, k)] =>
      obtain rfl : key = name := named _ List.mem_cons_self
      simp
  | _ :: _ :: _ => simp

/-- **Records** are read from the values under their names. -/
theorem record?_eq_some_iff {names : List String} {values : List Json} :
    j.record? names = some (values.map some) ↔ Parts names values j := by
  constructor
  · intro read
    cases j with
    | object members =>
        refine .object ((List.forall₂_map_right_iff.mp (mapM_eq_some_iff.mp read)).imp ?_)
        exact fun _ _ => member?_eq_some_iff.mp
    | array items =>
        rw [record?] at read
        split at read
        · next short =>
            have whole := Option.some.inj read
            have full : names.length - items.length = 0 := by
              by_contra missing
              have absent : none ∈ values.map some := by
                rw [← whole]
                exact List.mem_append_right _ (List.mem_replicate.mpr ⟨missing, rfl⟩)
              obtain ⟨_, -, eq⟩ := List.mem_map.mp absent
              cases eq
            rw [full, List.replicate_zero, List.append_nil] at whole
            obtain rfl := List.map_injective_iff.mpr (fun _ _ => Option.some.inj) whole
            exact .array (by omega)
        · cases read
    | _ => cases read
  · rintro (⟨each⟩ | ⟨length⟩)
    · refine mapM_eq_some_iff.mpr (List.forall₂_map_right_iff.mpr (each.imp ?_))
      exact fun _ _ => member?_eq_some_iff.mpr
    · rw [record?, if_pos length.le, length, Nat.sub_self, List.replicate_zero, List.append_nil]

theorem required?_eq_some_iff {α : Type} {f : Json → Option α} {j : Option Json} {x : α} :
    required? f j = some x ↔ ∃ k, j = some k ∧ f k = some x := by
  rw [required?, Option.bind_eq_some_iff]

end Workflow.Json
