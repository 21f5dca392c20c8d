import Workflow.Table

/-!
# Tables from pairs

A table is built by writing pair after pair into it.  Where every key is written once, the
order in which this happens makes no difference.

## Main Statements

* `Table.insertAll_perm` — pairs with different keys are written in any order.
* `Table.ofList_of_perm` — a table is read back from its entries in any order.
-/

namespace Workflow

namespace Table

variable {β : Type}

/-- Where keys are written once each, every pair is found, and else what was there before. -/
theorem get?_insertAll_eq_some_iff (t : Table β) {pairs : List (String × β)}
    (distinct : (pairs.map (·.1)).Nodup) {key : String} {value : β} :
    (t.insertAll pairs).get? key = some value ↔
      (key, value) ∈ pairs ∨ key ∉ pairs.map (·.1) ∧ t.get? key = some value := by
  induction pairs generalizing t with
  | nil => simp [insertAll]
  | cons pair pairs ih =>
      obtain ⟨k, v⟩ := pair
      rw [List.map_cons, List.nodup_cons] at distinct
      obtain ⟨fresh, distinct⟩ := distinct
      rw [insertAll, List.foldl_cons, ← insertAll, ih (t.insert k v) distinct, get?_insert]
      by_cases same : k = key
      · -- the key is not written again
        subst same
        have absent : (k, value) ∉ pairs := fun mem => fresh (List.mem_map.mpr ⟨_, mem, rfl⟩)
        simp [absent, fresh, eq_comm]
      · have other : key ≠ k := Ne.symm same
        simp [same, other]

/-- Pairs with different keys may be written in any order. -/
theorem insertAll_perm (t : Table β) {pairs pairs' : List (String × β)}
    (distinct : (pairs.map (·.1)).Nodup) (all : pairs.Perm pairs') :
    t.insertAll pairs = t.insertAll pairs' := by
  have distinct' : (pairs'.map (·.1)).Nodup := (all.map _).nodup_iff.mp distinct
  refine ext_get? fun key => Option.ext fun value => ?_
  rw [get?_insertAll_eq_some_iff t distinct, get?_insertAll_eq_some_iff t distinct', all.mem_iff,
    (all.map (·.1)).mem_iff]

/-- Pairs with different keys make the same table in any order. -/
theorem ofList_perm {pairs pairs' : List (String × β)} (distinct : (pairs.map (·.1)).Nodup)
    (all : pairs.Perm pairs') : ofList pairs = ofList pairs' :=
  insertAll_perm empty distinct all

/-- A key that is not written keeps what is under it. -/
theorem get?_insertAll_of_notMem (t : Table β) {pairs : List (String × β)} {key : String}
    (absent : key ∉ pairs.map (·.1)) : (t.insertAll pairs).get? key = t.get? key := by
  induction pairs generalizing t with
  | nil => rfl
  | cons pair pairs ih =>
      rw [List.map_cons, List.mem_cons, not_or] at absent
      exact (ih (t.insert pair.1 pair.2) absent.2).trans (t.get?_insert_of_ne (Ne.symm absent.1) _)

/-- What is in a table was in it before or is among the pairs. -/
theorem mem_insertAll {t : Table β} {pairs : List (String × β)} {e : String × β}
    (mem : e ∈ (t.insertAll pairs).entries) : e ∈ pairs ∨ e ∈ t.entries := by
  induction pairs generalizing t with
  | nil => exact .inr mem
  | cons pair pairs ih =>
      rcases ih mem with later | earlier
      · exact .inl (List.mem_cons_of_mem _ later)
      · rcases mem_put earlier with rfl | before
        · exact .inl List.mem_cons_self
        · exact .inr before

theorem mem_ofList {pairs : List (String × β)} {e : String × β}
    (mem : e ∈ (ofList pairs).entries) : e ∈ pairs :=
  (mem_insertAll mem).resolve_right List.not_mem_nil

/-- The entries of a table have different keys. -/
theorem nodup_keys (t : Table β) : (t.entries.map (·.1)).Nodup := by
  refine List.pairwise_map.mpr (t.ordered.imp fun lt eq => ?_)
  exact String.lt_irrefl _ (eq ▸ lt)

/-- **A table is read back from its entries in any order.** -/
theorem ofList_of_perm {t : Table β} {pairs : List (String × β)} (all : pairs.Perm t.entries) :
    ofList pairs = t := by
  rw [← ofList_perm t.nodup_keys all.symm]
  refine ext_get? fun key => Option.ext fun value => ?_
  rw [ofList, get?_insertAll_eq_some_iff empty t.nodup_keys, get?_empty, get?_eq_some_iff]
  simp

end Table

end Workflow
