/-!
# Tables: finite maps with text keys

A workflow is full of maps whose keys are texts: the attributes of a node, the
nodes of a graph, the values of a context.  `Table β` is such a map, kept as a
list of entries in strictly increasing key order.

## Main Definitions

* `Table` — entries together with the fact that their keys increase.
* `Table.get?`, `Table.insert`, `Table.merge` — reading, writing, and writing
  every entry of another table over this one.

## Design Notes

The order is load-bearing twice.  Whatever lists a table lists it by key, so
no answer depends on the order in which entries were written.  And two tables
that answer every `get?` alike are equal (`Table.ext_get?`), so equality of
tables is equality of what they hold.
-/

namespace Workflow

/-- A finite map from texts to `β`, its entries in strictly increasing key order. -/
structure Table (β : Type) where
  /-- The entries, in key order. -/
  entries : List (String × β)
  /-- Keys increase strictly, so each occurs once. -/
  ordered : entries.Pairwise (fun a b => a.1 < b.1)

namespace Table

variable {β γ : Type}

/-! ### Entry lists -/

/-- The value of the first entry under `key`. -/
def find? (key : String) : List (String × β) → Option β
  | [] => none
  | (k, v) :: rest => if k = key then some v else find? key rest

/-- Write `value` under `key`, in place of an entry with that key or at its place in the order. -/
def put (key : String) (value : β) : List (String × β) → List (String × β)
  | [] => [(key, value)]
  | (k, v) :: rest =>
    if key < k then (key, value) :: (k, v) :: rest
    else if k = key then (key, value) :: rest
    else (k, v) :: put key value rest

theorem lt_of_not_lt_of_ne {a b : String} (notLt : ¬a < b) (ne : b ≠ a) : b < a := by
  rcases Classical.em (b < a) with h | h
  · exact h
  · exact absurd (String.le_antisymm (String.not_lt.mp notLt) (String.not_lt.mp h)) ne

theorem mem_put {key : String} {value : β} {entries : List (String × β)} {e : String × β}
    (h : e ∈ put key value entries) : e = (key, value) ∨ e ∈ entries := by
  induction entries with
  | nil => exact .inl (List.mem_singleton.mp h)
  | cons head rest ih =>
    obtain ⟨k, v⟩ := head
    simp only [put] at h
    split at h
    · rcases List.mem_cons.mp h with rfl | h
      · exact .inl rfl
      · exact .inr h
    · split at h
      · rcases List.mem_cons.mp h with rfl | h
        · exact .inl rfl
        · exact .inr (List.mem_cons_of_mem _ h)
      · rcases List.mem_cons.mp h with rfl | h
        · exact .inr List.mem_cons_self
        · exact (ih h).imp_right (List.mem_cons_of_mem _)

theorem pairwise_put {entries : List (String × β)}
    (ordered : entries.Pairwise (fun a b => a.1 < b.1)) (key : String) (value : β) :
    (put key value entries).Pairwise (fun a b => a.1 < b.1) := by
  induction entries with
  | nil => exact List.pairwise_singleton _ _
  | cons head rest ih =>
    obtain ⟨k, v⟩ := head
    obtain ⟨below, rest_ordered⟩ := List.pairwise_cons.mp ordered
    simp only [put]
    split
    · next lt =>
      refine List.pairwise_cons.mpr ⟨fun e mem => ?_, ordered⟩
      rcases List.mem_cons.mp mem with rfl | mem
      · exact lt
      · exact String.lt_trans lt (below e mem)
    · next notLt =>
      split
      · next eq =>
        subst eq
        exact List.pairwise_cons.mpr ⟨below, rest_ordered⟩
      · next ne =>
        refine List.pairwise_cons.mpr ⟨fun e mem => ?_, ih rest_ordered⟩
        rcases mem_put mem with rfl | mem
        · exact lt_of_not_lt_of_ne notLt ne
        · exact below e mem

theorem find?_put (key key' : String) (value : β) (entries : List (String × β)) :
    find? key' (put key value entries) = if key = key' then some value else find? key' entries := by
  induction entries with
  | nil => rfl
  | cons head rest ih =>
    obtain ⟨k, v⟩ := head
    simp only [put]
    split
    · rfl
    · split
      · next eq =>
        subst eq
        simp only [find?]
        split <;> rfl
      · next ne =>
        simp only [find?, ih]
        by_cases hk : k = key'
        · subst hk
          rw [if_pos rfl, if_neg (Ne.symm ne)]
          exact (if_pos rfl).symm
        · rw [if_neg hk, if_neg hk]

/-! ### Tables -/

/-- The table without entries. -/
def empty : Table β := ⟨[], List.Pairwise.nil⟩

instance : EmptyCollection (Table β) := ⟨empty⟩

instance : Inhabited (Table β) := ⟨empty⟩

/-- The value under `key`. -/
def get? (t : Table β) (key : String) : Option β := find? key t.entries

/-- Whether there is an entry under `key`. -/
def contains (t : Table β) (key : String) : Bool := (t.get? key).isSome

/-- Write `value` under `key`; an earlier value is replaced. -/
def insert (t : Table β) (key : String) (value : β) : Table β :=
  ⟨put key value t.entries, pairwise_put t.ordered key value⟩

/-- Write every pair in turn; the last write of a key wins. -/
def insertAll (t : Table β) (pairs : List (String × β)) : Table β :=
  pairs.foldl (fun t pair => t.insert pair.1 pair.2) t

/-- Write every entry of `updates` over this table. -/
def merge (t updates : Table β) : Table β := t.insertAll updates.entries

/-- The table of some pairs; the last write of a key wins. -/
def ofList (pairs : List (String × β)) : Table β := empty.insertAll pairs

/-- The keys in increasing order. -/
def keys (t : Table β) : List String := t.entries.map (·.1)

/-- The values, by increasing key. -/
def values (t : Table β) : List β := t.entries.map (·.2)

/-- The number of entries. -/
def size (t : Table β) : Nat := t.entries.length

/-- Apply `f` to each value. -/
def map (f : β → γ) (t : Table β) : Table γ :=
  ⟨t.entries.map fun e => (e.1, f e.2), by
    rw [List.pairwise_map]
    exact t.ordered⟩

/-- The table with the entries whose key and value pass the test. -/
def filter (p : String → β → Bool) (t : Table β) : Table β :=
  ⟨t.entries.filter fun e => p e.1 e.2, t.ordered.filter _⟩

instance [BEq β] : BEq (Table β) := ⟨fun a b => a.entries == b.entries⟩

instance [DecidableEq β] : DecidableEq (Table β) := fun a b =>
  decidable_of_iff (a.entries = b.entries) <| by
    cases a
    cases b
    simp

/-! ### What reading sees -/

@[simp] theorem get?_empty (key : String) : (empty : Table β).get? key = none := rfl

/-- Reading after a write. -/
theorem get?_insert (t : Table β) (key key' : String) (value : β) :
    (t.insert key value).get? key' = if key = key' then some value else t.get? key' :=
  find?_put key key' value t.entries

@[simp] theorem get?_insert_self (t : Table β) (key : String) (value : β) :
    (t.insert key value).get? key = some value := by
  simp [get?_insert]

theorem get?_insert_of_ne (t : Table β) {key key' : String} (ne : key ≠ key') (value : β) :
    (t.insert key value).get? key' = t.get? key' := by
  simp [get?_insert, ne]

@[simp] theorem contains_insert (t : Table β) (key key' : String) (value : β) :
    (t.insert key value).contains key' = (decide (key = key') || t.contains key') := by
  unfold contains
  rw [get?_insert]
  split
  · next eq => simp [eq]
  · next ne => simp [ne]

/-- Below the first key of an ordered list nothing is found. -/
theorem find?_eq_none_of_lt {entries : List (String × β)} {key : String}
    (below : ∀ e ∈ entries, key < e.1) : find? key entries = none := by
  induction entries with
  | nil => rfl
  | cons head rest ih =>
    obtain ⟨k, v⟩ := head
    have ne : k ≠ key := fun eq =>
      String.lt_irrefl key (by simpa [eq] using below (k, v) List.mem_cons_self)
    simp only [find?, if_neg ne]
    exact ih fun e mem => below e (List.mem_cons_of_mem _ mem)

/-- A found value comes from an entry. -/
theorem mem_of_find? {entries : List (String × β)} {key : String} {value : β}
    (h : find? key entries = some value) : (key, value) ∈ entries := by
  induction entries with
  | nil => simp [find?] at h
  | cons head rest ih =>
    obtain ⟨k, v⟩ := head
    simp only [find?] at h
    split at h
    · next eq =>
      subst eq
      simp_all
    · exact List.mem_cons_of_mem _ (ih h)

/-- Every entry of an ordered list is found. -/
theorem find?_of_mem {entries : List (String × β)}
    (ordered : entries.Pairwise (fun a b => a.1 < b.1)) {key : String} {value : β}
    (mem : (key, value) ∈ entries) : find? key entries = some value := by
  induction entries with
  | nil => simp at mem
  | cons head rest ih =>
    obtain ⟨k, v⟩ := head
    obtain ⟨below, rest_ordered⟩ := List.pairwise_cons.mp ordered
    simp only [find?]
    rcases List.mem_cons.mp mem with eq | mem
    · obtain ⟨rfl, rfl⟩ := Prod.mk.injEq .. ▸ eq
      exact if_pos rfl
    · have ne : k ≠ key := fun eq =>
        String.lt_irrefl k (by simpa [eq] using below _ mem)
      rw [if_neg ne]
      exact ih rest_ordered mem

theorem get?_eq_some_iff {t : Table β} {key : String} {value : β} :
    t.get? key = some value ↔ (key, value) ∈ t.entries :=
  ⟨mem_of_find?, find?_of_mem t.ordered⟩

theorem contains_iff_mem_keys {t : Table β} {key : String} :
    t.contains key = true ↔ key ∈ t.keys := by
  unfold contains keys
  rw [Option.isSome_iff_exists, List.mem_map]
  constructor
  · rintro ⟨value, h⟩
    exact ⟨(key, value), get?_eq_some_iff.mp h, rfl⟩
  · rintro ⟨⟨k, value⟩, mem, rfl⟩
    exact ⟨value, get?_eq_some_iff.mpr mem⟩

/-- Ordered lists that answer every look-up alike are equal. -/
theorem eq_of_find?_eq {a b : List (String × β)} (orderedA : a.Pairwise (fun a b => a.1 < b.1))
    (orderedB : b.Pairwise (fun a b => a.1 < b.1)) (same : ∀ key, find? key a = find? key b) :
    a = b := by
  induction a generalizing b with
  | nil =>
    cases b with
    | nil => rfl
    | cons head rest => simpa [find?] using same head.1
  | cons headA restA ih =>
    cases b with
    | nil => simpa [find?] using same headA.1
    | cons headB restB =>
      obtain ⟨ka, va⟩ := headA
      obtain ⟨kb, vb⟩ := headB
      obtain ⟨belowA, tailA⟩ := List.pairwise_cons.mp orderedA
      obtain ⟨belowB, tailB⟩ := List.pairwise_cons.mp orderedB
      have eq : ka = kb := by
        apply Classical.byContradiction
        intro ne
        rcases Classical.em (ka < kb) with lt | notLt
        · have missing : find? ka ((kb, vb) :: restB) = none :=
            find?_eq_none_of_lt fun e mem => by
              rcases List.mem_cons.mp mem with rfl | mem
              · exact lt
              · exact String.lt_trans lt (belowB e mem)
          have found : find? ka ((kb, vb) :: restB) = some va :=
            (same ka).symm.trans (if_pos rfl)
          rw [missing] at found
          cases found
        · have gt := lt_of_not_lt_of_ne notLt (Ne.symm ne)
          have missing : find? kb ((ka, va) :: restA) = none :=
            find?_eq_none_of_lt fun e mem => by
              rcases List.mem_cons.mp mem with rfl | mem
              · exact gt
              · exact String.lt_trans gt (belowA e mem)
          have found : find? kb ((ka, va) :: restA) = some vb :=
            (same kb).trans (if_pos rfl)
          rw [missing] at found
          cases found
      subst eq
      have headEq : va = vb := by simpa [find?] using same ka
      subst headEq
      have tails : ∀ key, find? key restA = find? key restB := fun key => by
        by_cases h : ka = key
        · subst h
          rw [find?_eq_none_of_lt belowA, find?_eq_none_of_lt belowB]
        · simpa [find?, h] using same key
      rw [ih tailA tailB tails]

/-- Two tables that hold the same values under the same keys are equal. -/
@[ext] theorem ext_get? {a b : Table β} (same : ∀ key, a.get? key = b.get? key) : a = b := by
  obtain ⟨entriesA, orderedA⟩ := a
  obtain ⟨entriesB, orderedB⟩ := b
  obtain rfl := eq_of_find?_eq orderedA orderedB same
  rfl

end Table

end Workflow
