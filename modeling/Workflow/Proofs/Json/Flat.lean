import Workflow.Proofs.Json.Decoding

/-!
# Flat objects

An object in which there are no others: its members are texts, whole numbers and sequences of
texts, each under a name of its own.  There is nothing inside the members that could stand in
another order, so whoever writes such an object can only choose the order of its members.

## Main Definitions

* `Json.Leaf` — values without objects in them.
* `Json.Flat` — the members of a flat object.

## Main Statements

* `Json.exists_perm_of_reordered` — a flat object in another order is the same members in
  another order.
* `Json.Flat.member?_of_mem` — every member is found under its name.
-/

namespace Workflow.Json

/-- A value without objects in it: a text, a whole number, or a sequence of texts. -/
inductive Leaf : Json → Prop
  | text (s : String) : Leaf (.string s)
  | integer (n : Int) : Leaf (.number (.integer n))
  | texts (texts : List String) : Leaf (.array (texts.map .string))

/-- The members of an object have different names and hold no object. -/
structure Flat (members : List (String × Json)) : Prop where
  distinct : (members.map (·.1)).Nodup
  leaves : ∀ m ∈ members, Leaf m.2

variable {ms ns : List (String × Json)} {name : String} {j k : Json}

/-! ### The order of members -/

/-- A value without objects has no other order. -/
theorem Leaf.eq_of_reordered (leaf : Leaf j) (same : Reordered j k) : k = j := by
  induction same with
  | refl => rfl
  | trans _ _ first second =>
      obtain rfl := first leaf
      exact second leaf
  | members => cases leaf
  | @item front back j k _ ih =>
      generalize items : front ++ j :: back = all at leaf
      cases leaf with
      | texts texts =>
          have mem : j ∈ texts.map Json.string := items ▸ List.mem_append_right _ List.mem_cons_self
          obtain ⟨s, -, rfl⟩ := List.mem_map.mp mem
          rw [ih (.text s), items]
  | member => cases leaf

/-- **A flat object in another order** is the same members in another order. -/
theorem exists_perm_of_reordered (leaves : ∀ m ∈ ms, Leaf m.2)
    (same : Reordered (.object ms) j) : ∃ ns, j = .object ns ∧ ms.Perm ns := by
  generalize start : Json.object ms = i at same
  induction same generalizing ms with
  | refl => exact ⟨ms, start.symm, .rfl⟩
  | trans _ _ first second =>
      obtain ⟨ns, rfl, perm⟩ := first leaves start
      obtain ⟨os, rfl, perm'⟩ := second (fun m mem => leaves m (perm.mem_iff.mpr mem)) rfl
      exact ⟨os, rfl, perm.trans perm'⟩
  | members _ perm =>
      obtain rfl := Json.object.inj start
      exact ⟨_, rfl, perm⟩
  | item => cases start
  | @member front back name j k inner =>
      obtain rfl := Json.object.inj start
      have leaf : Leaf j := leaves (name, j) (List.mem_append_right _ List.mem_cons_self)
      exact ⟨_, by rw [leaf.eq_of_reordered inner], .rfl⟩

theorem Flat.perm (flat : Flat ms) (perm : ms.Perm ns) : Flat ns :=
  ⟨(perm.map (·.1)).nodup_iff.mp flat.distinct, fun m mem => flat.leaves m (perm.mem_iff.mpr mem)⟩

/-! ### Looking members up -/

/-- **Every member is found under its name.** -/
theorem Flat.member?_of_mem (flat : Flat ms) (mem : (name, j) ∈ ms) :
    member? name ms = some (some j) := by
  refine member?_eq_some_iff.mpr ?_
  obtain ⟨front, back, rfl⟩ := List.append_of_mem mem
  have distinct := flat.distinct
  rw [List.map_append, List.map_cons, List.nodup_append, List.nodup_cons] at distinct
  obtain ⟨-, ⟨notBack, -⟩, apart⟩ := distinct
  have before : front.filter (·.1 == name) = [] := by
    refine List.filter_eq_nil_iff.mpr fun m mem same => ?_
    exact apart m.1 (List.mem_map.mpr ⟨m, mem, rfl⟩) name List.mem_cons_self (eq_of_beq same)
  have behind : back.filter (·.1 == name) = [] := by
    refine List.filter_eq_nil_iff.mpr fun m mem same => ?_
    exact notBack (List.mem_map.mpr ⟨m, mem, eq_of_beq same⟩)
  rw [List.filter_append, List.filter_cons, before, behind]
  simp

variable {α : Type} {f : Json → Option α} {x : α}

/-- What is found under a name is what is read of it. -/
theorem required?_of_found (found : member? name ms = some (some j)) (read : f j = some x) :
    (member? name ms).bind (required? f) = some x := by
  rw [found]
  exact read

theorem text_of_found {s : String} (found : member? name ms = some (some (.string s))) :
    (member? name ms).bind (required? text?) = some s :=
  required?_of_found found rfl

theorem texts_of_found {texts : List String}
    (found : member? name ms = some (some (ofTexts texts))) :
    (member? name ms).bind (required? (list? text?)) = some texts :=
  required?_of_found found (list?_text?_eq_some_iff.mpr rfl)

theorem count_of_found {n : Nat} (found : member? name ms = some (some (.ofNat n)))
    (small : n < UInt64.size) : (member? name ms).bind (required? count?) = some n := by
  refine required?_of_found found ?_
  rw [count?, natBelow?, ofNat, integer?, Option.bind_some,
    if_pos ⟨Int.natCast_nonneg n, Int.ofNat_lt.mpr small⟩, Int.toNat_natCast]

/-- What is read as a count is a word. -/
theorem lt_of_count {j : Option Json} {n : Nat} (read : required? count? j = some n) :
    n < UInt64.size := by
  obtain ⟨k, -, counted⟩ := required?_eq_some_iff.mp read
  obtain ⟨i, -, word⟩ := Option.bind_eq_some_iff.mp counted
  split at word
  · next range =>
      obtain rfl := Option.some.inj word
      omega
  · cases word

theorem uint32_of_found {n : UInt32} (found : member? name ms = some (some (.ofNat n.toNat))) :
    (member? name ms).bind (required? uint32?) = some n :=
  required?_of_found found (uint32?_eq_some_iff.mpr rfl)

end Workflow.Json
