import Mathlib.Data.List.Forall2
import Workflow.Json.Decoding
import Workflow.Proofs.Json.Writing
import Workflow.Proofs.Tables

/-!
# The order of members

A table has no order of its own, and whoever writes it as an object may write its members in
any.  The readers of data must not depend on it.  They do depend on the order of an array,
and on the order of members that repeat a name, where the last one counts.

## Main Definitions

* `Json.Reordered` — the same value with the members of some objects in another order.
* `Json.Orderless` — a reader of data that cannot tell the difference.

## Main Statements

* `Json.Orderless.list?`, `Json.Orderless.table?`, `Json.Orderless.record?` — readers made
  of orderless readers are orderless.
* `Json.Plain.reordered` — a plain value stays plain.
-/

namespace Workflow.Json

/-- The same value with the members of some objects in another order.  No object in which the order
changes repeats a name. -/
inductive Reordered : Json → Json → Prop
  | refl (j : Json) : Reordered j j
  | trans {i j k : Json} (first : Reordered i j) (second : Reordered j k) : Reordered i k
  | members {ms ns : List (String × Json)} (distinct : (ms.map (·.1)).Nodup) (perm : ms.Perm ns) :
      Reordered (.object ms) (.object ns)
  /-- Inside an array. -/
  | item {front back : List Json} {j k : Json} (inner : Reordered j k) :
      Reordered (.array (front ++ j :: back)) (.array (front ++ k :: back))
  /-- Inside an object. -/
  | member {front back : List (String × Json)} {name : String} {j k : Json}
      (inner : Reordered j k) :
      Reordered (.object (front ++ (name, j) :: back)) (.object (front ++ (name, k) :: back))

/-- A plain value stays plain. -/
theorem Plain.reordered {j k : Json} (plain : Plain j) (same : Reordered j k) : Plain k := by
  induction same with
  | refl => exact plain
  | trans _ _ first second => exact second (first plain)
  | members _ perm =>
      cases plain with
      | object plain => exact .object fun m mem => plain m (perm.mem_iff.mpr mem)
  | @item front back j k _ ih =>
      cases plain with
      | array plain =>
          rw [List.forall_mem_append, List.forall_mem_cons] at plain
          refine .array ?_
          rw [List.forall_mem_append, List.forall_mem_cons]
          exact ⟨plain.1, ih plain.2.1, plain.2.2⟩
  | @member front back name j k _ ih =>
      cases plain with
      | object plain =>
          rw [List.forall_mem_append, List.forall_mem_cons] at plain
          refine .object ?_
          rw [List.forall_mem_append, List.forall_mem_cons]
          exact ⟨plain.1, ih plain.2.1, plain.2.2⟩

/-! ### Lists that may fail -/

/-- All items are read, or none. -/
theorem mapM_eq_ite {α β : Type} (g : α → Option β) (xs : List α) :
    xs.mapM g = if xs.all fun x => (g x).isSome then some (xs.filterMap g) else none := by
  induction xs with
  | nil => rfl
  | cons x xs ih =>
      rw [List.mapM_cons, ih, List.all_cons, List.filterMap_cons]
      cases g x with
      | none => rfl
      | some y =>
          cases xs.all fun x => (g x).isSome with
          | true => rfl
          | false => rfl

/-- Reading the values of members leaves their names. -/
theorem keys_filterMap_sublist {α : Type} (f : Json → Option α) (ms : List (String × Json)) :
    ((ms.filterMap fun m => (f m.2).map (m.1, ·)).map (·.1)).Sublist (ms.map (·.1)) := by
  induction ms with
  | nil => exact .slnil
  | cons m ms ih =>
      rw [List.filterMap_cons]
      cases f m.2 with
      | none => exact ih.cons _
      | some x => exact ih.cons_cons _

/-! ### Readers of data -/

/-- A reader of data to which the order of members makes no difference. -/
def Orderless {α : Type} (f : Json → Option α) : Prop := ∀ j k, Reordered j k → f j = f k

namespace Orderless

variable {α β : Type} {f : Json → Option α}

/-- What neither arrays nor objects hold. -/
theorem of_scalar (arrays : ∀ items, f (.array items) = none)
    (objects : ∀ members, f (.object members) = none) : Orderless f := by
  intro j k same
  induction same with
  | refl => rfl
  | trans _ _ first second => exact first.trans second
  | members => rw [objects, objects]
  | item => rw [arrays, arrays]
  | member => rw [objects, objects]

theorem text? : Orderless Json.text? := of_scalar (fun _ => rfl) fun _ => rfl

theorem boolean? : Orderless Json.boolean? := of_scalar (fun _ => rfl) fun _ => rfl

theorem float? : Orderless Json.float? := of_scalar (fun _ => rfl) fun _ => rfl

theorem int64? : Orderless Json.int64? := of_scalar (fun _ => rfl) fun _ => rfl

theorem uint32? : Orderless Json.uint32? := of_scalar (fun _ => rfl) fun _ => rfl

/-- What objects with a single member hold, and no others. -/
theorem of_single {g : String → Json → Option α} (inner : ∀ name, Orderless (g name))
    (arrays : ∀ items, f (.array items) = none)
    (single : ∀ name j, f (.object [(name, j)]) = g name j)
    (several : ∀ ms, ms.length ≠ 1 → f (.object ms) = none) : Orderless f := by
  intro j k same
  induction same with
  | refl => rfl
  | trans _ _ first second => exact first.trans second
  | @members ms ns _ perm =>
      by_cases one : ms.length = 1
      · obtain ⟨m, rfl⟩ := List.length_eq_one_iff.mp one
        rw [List.perm_singleton.mp perm.symm]
      · rw [several ms one, several ns (perm.length_eq ▸ one)]
  | item => rw [arrays, arrays]
  | @member front back name j k same =>
      by_cases alone : front = [] ∧ back = []
      · obtain ⟨rfl, rfl⟩ := alone
        exact (single name j).trans ((inner name _ _ same).trans (single name k).symm)
      · have others (l : Json) : (front ++ (name, l) :: back).length ≠ 1 := by
          rw [List.length_append, List.length_cons]
          intro one
          exact alone ⟨List.length_eq_zero_iff.mp (by omega),
            List.length_eq_zero_iff.mp (by omega)⟩
        rw [several _ (others j), several _ (others k)]

theorem map (orderless : Orderless f) (g : α → β) : Orderless fun j => (f j).map g :=
  fun _ _ same => congrArg (Option.map g) (orderless _ _ same)

theorem bind (orderless : Orderless f) (g : α → Option β) : Orderless fun j => (f j).bind g :=
  fun _ _ same => congrArg (Option.bind · g) (orderless _ _ same)

/-- Lists of data. -/
theorem list? (orderless : Orderless f) : Orderless (Json.list? f) := by
  intro j k same
  induction same with
  | refl => rfl
  | trans _ _ first second => exact first.trans second
  | members => rfl
  | item inner =>
      simp only [Json.list?, List.mapM_append, List.mapM_cons, orderless _ _ inner]
  | member => rfl

/-- Tables of data. -/
theorem table? (orderless : Orderless f) : Orderless (Json.table? f) := by
  intro j k same
  induction same with
  | refl => rfl
  | trans _ _ first second => exact first.trans second
  | @members ms ns distinct perm =>
      have keys := distinct.sublist (keys_filterMap_sublist f ms)
      simp only [Json.table?, mapM_eq_ite, perm.all_eq]
      split
      · exact congrArg some (Table.ofList_perm keys (perm.filterMap _))
      · rfl
  | item => rfl
  | member inner =>
      simp only [Json.table?, List.mapM_append, List.mapM_cons, orderless _ _ inner]

end Orderless

/-! ### Records -/

/-- Parts of two records that hold the same up to order. -/
abbrev Alike : List (Option Json) → List (Option Json) → Prop :=
  List.Forall₂ (Option.Rel Reordered)

theorem Alike.refl (parts : List (Option Json)) : Alike parts parts := by
  refine List.forall₂_same.mpr fun part _ => ?_
  cases part with
  | none => exact .none
  | some j => exact .some (.refl j)

/-- What is looked up in two lists of members that differ in the order inside one of them. -/
theorem rel_member? {front back : List (String × Json)} {key : String} {j k : Json}
    (inner : Reordered j k) (name : String) :
    Option.Rel (Option.Rel Reordered) (member? name (front ++ (key, j) :: back))
      (member? name (front ++ (key, k) :: back)) := by
  have refl (found : Option (Option Json)) :
      Option.Rel (Option.Rel Reordered) found found := by
    rcases found with _ | _ | j
    · exact .none
    · exact .some .none
    · exact .some (.some (.refl j))
  unfold member?
  by_cases same : (key == name) = true
  · simp only [List.filter_append, List.filter_cons, same, if_true]
    cases front.filter (·.1 == name) with
    | nil =>
        cases back.filter (·.1 == name) with
        | nil => exact .some (.some inner)
        | cons m more => exact .none
    | cons m more =>
        cases more with
        | nil => exact .none
        | cons n more => exact .none
  · simp only [List.filter_append, List.filter_cons, same]
    exact refl _

/-- The order of members does not change what is looked up. -/
theorem member?_perm {ms ns : List (String × Json)} (perm : ms.Perm ns) (name : String) :
    member? name ms = member? name ns := by
  have found := perm.filter (·.1 == name)
  unfold member?
  generalize ms.filter (·.1 == name) = first, ns.filter (·.1 == name) = second at found
  have length := found.length_eq
  match first, second with
  | [], [] => rfl
  | [m], [n] => rw [List.perm_singleton.mp found.symm |> List.cons.inj |>.1]
  | _ :: _ :: _, _ :: _ :: _ => rfl
  | [], _ :: _ | _ :: _, [] | [_], _ :: _ :: _ | _ :: _ :: _, [_] => simp at length

theorem rel_mapM {α β γ : Type} {r : β → γ → Prop} {f : α → Option β} {g : α → Option γ}
    {xs : List α} (each : ∀ x, Option.Rel r (f x) (g x)) :
    Option.Rel (List.Forall₂ r) (xs.mapM f) (xs.mapM g) := by
  induction xs with
  | nil => exact .some .nil
  | cons x xs ih =>
      rw [List.mapM_cons, List.mapM_cons]
      have first := each x
      generalize f x = y, g x = z at first
      cases first with
      | none => exact .none
      | some first =>
          generalize xs.mapM f = ys, xs.mapM g = zs at ih
          cases ih with
          | none => exact .none
          | some others => exact .some (.cons first others)

/-- **Records of data**, if they are made of parts that are read without regard to order. -/
theorem Orderless.record? {α : Type} {f : List (Option Json) → Option α} (names : List String)
    (parts : ∀ xs ys, Alike xs ys → f xs = f ys) :
    Orderless fun j => (j.record? names).bind f := by
  intro j k same
  induction same with
  | refl => rfl
  | trans _ _ first second => exact first.trans second
  | @members ms ns _ perm =>
      simp only [Json.record?, member?_perm perm]
  | @item front back j k inner =>
      have length : (front ++ j :: back).length = (front ++ k :: back).length := by simp
      simp only [Json.record?, length]
      split
      · refine parts _ _ (List.rel_append ?_ (Alike.refl _))
        rw [List.map_append, List.map_append]
        exact List.rel_append (Alike.refl _) (.cons (.some inner) (Alike.refl _))
      · rfl
  | @member front back key j k inner =>
      have looked : Option.Rel Alike
          (names.mapM fun name => member? name (front ++ (key, j) :: back))
          (names.mapM fun name => member? name (front ++ (key, k) :: back)) :=
        rel_mapM fun name => rel_member? inner name
      simp only [Json.record?]
      generalize (names.mapM fun name => member? name (front ++ (key, j) :: back)) = xs,
        (names.mapM fun name => member? name (front ++ (key, k) :: back)) = ys at looked ⊢
      cases looked with
      | none => rfl
      | some same => exact parts _ _ same

theorem Orderless.required? {α : Type} {f : Json → Option α} (orderless : Orderless f)
    {x y : Option Json} (same : Option.Rel Reordered x y) :
    Json.required? f x = Json.required? f y := by
  cases same with
  | none => rfl
  | some same => exact orderless _ _ same

end Workflow.Json
