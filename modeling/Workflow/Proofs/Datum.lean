import Workflow.Context
import Workflow.Proofs.Json.Decoding

/-!
# Data are exchanged without loss

A datum stands for itself in JSON: a text for a text, a number for a number and an object for
a record.  So no datum is mistaken for one of another kind.  Records may nest only as deep as
there is room.

## Main Definitions

* `Datum.Denoted` — the values that stand for a datum.
* `Datum.Exact` — data without doubles that fit the room.

## Main Statements

* `Datum.ofJson?_eq_some_iff` — exactly what a value stands for is read.
* `Datum.ofJson?_toJson` — exact data are read back.
-/

namespace Workflow.Datum

open Json

/-- A value stands for a text or for a number. -/
inductive Simple : Json → Datum → Prop
  | text (s : String) : Simple (.string s) (.text s)
  | number (n : Json.Number) : Simple (.number n) (.number n)

/-- A value stands for a datum whose records nest no deeper than `room`. -/
def Denoted : Nat → Json → Datum → Prop
  | 0, j, d => Simple j d
  | room + 1, j, d =>
    Simple j d ∨ ∃ t : Table Datum, Tabled (Denoted room) j t ∧ d = .record t.entries

/-- Data without doubles whose records nest no deeper than `room`. -/
inductive Exact : Nat → Datum → Prop
  | text (room : Nat) (s : String) : Exact room (.text s)
  | integer (room : Nat) {n : Int} (fits : Fits n) : Exact room (.number (.integer n))
  | record {room : Nat} (t : Table Datum) (each : ∀ e ∈ t.entries, Exact room e.2) :
      Exact (room + 1) (.record t.entries)

theorem Exact.ofFields {room : Nat} {fields : List (String × Datum)}
    (each : ∀ f ∈ fields, Exact room f.2) : Exact (room + 1) (ofFields fields) :=
  .record (.ofList fields) fun f mem => each f (Table.mem_ofList mem)

/-! ### Objects -/

theorem fieldsOf?_eq (room : Nat) (members : List (String × Json)) :
    fieldsOf? room members = members.mapM fun m => (ofJson? room m.2).map (m.1, ·) := by
  induction members with
  | nil => rfl
  | cons m members ih =>
      rw [fieldsOf?, List.mapM_cons, ← ih]
      cases ofJson? room m.2 with
      | none => rfl
      | some d =>
          cases fieldsOf? room members with
          | none => rfl
          | some fields => rfl

/-- **Records are tables**, and what is no record needs no room. -/
theorem ofJson?_succ (room : Nat) (j : Json) : ofJson? (room + 1) j =
    (ofJson? 0 j).or ((table? (ofJson? room) j).map fun t => .record t.entries) := by
  cases j with
  | object members =>
      have none : ofJson? 0 (.object members) = none := rfl
      rw [none, Option.none_or, ofJson?, fieldsOf?_eq, table?, Option.map_map]
      rfl
  | _ => rfl

theorem membersOf_eq (fields : List (String × Datum)) :
    membersOf fields = fields.map fun f => (f.1, toJson f.2) := by
  induction fields with
  | nil => rfl
  | cons f fields ih => rw [membersOf, ih, List.map_cons]

theorem toJson_record (t : Table Datum) : toJson (.record t.entries) = ofTable toJson t := by
  rw [toJson, membersOf_eq, ofTable]

/-! ### What is read -/

theorem ofJson?_zero_eq_some_iff {j : Json} {d : Datum} :
    ofJson? 0 j = some d ↔ Simple j d := by
  constructor
  · intro read
    cases j with
    | string s =>
        obtain rfl := Option.some.inj read
        exact .text s
    | number n =>
        obtain rfl := Option.some.inj read
        exact .number n
    | _ => cases read
  · rintro (s | n)
    · rfl
    · rfl

/-- **Exactly what a value stands for is read.** -/
theorem ofJson?_eq_some_iff (room : Nat) (j : Json) (d : Datum) :
    ofJson? room j = some d ↔ Denoted room j d := by
  induction room generalizing j d with
  | zero => exact ofJson?_zero_eq_some_iff
  | succ room ih =>
      have table (t : Table Datum) : table? (ofJson? room) j = some t ↔ Tabled (Denoted room) j t :=
        table?_eq_some_iff ih
      rw [ofJson?_succ, Option.or_eq_some_iff, ofJson?_zero_eq_some_iff, Option.map_eq_some_iff,
        Denoted]
      refine or_congr_right ⟨?_, ?_⟩
      · rintro ⟨-, t, read, rfl⟩
        exact ⟨t, (table t).mp read, rfl⟩
      · rintro ⟨t, ⟨each⟩, rfl⟩
        exact ⟨rfl, _, (table _).mpr ⟨each⟩, rfl⟩

/-- The order of members makes no difference to a datum. -/
theorem ofJson?_orderless (room : Nat) : Orderless (ofJson? room) := by
  have simple : Orderless (ofJson? 0) := .of_scalar (fun _ => rfl) fun _ => rfl
  induction room with
  | zero => exact simple
  | succ room ih =>
      intro j k same
      rw [ofJson?_succ, ofJson?_succ, simple _ _ same, ih.table? _ _ same]

/-! ### What is written -/

theorem Exact.plain {room : Nat} {d : Datum} (exact : Exact room d) : Plain d.toJson := by
  induction exact with
  | text => exact .string _
  | integer _ fits => exact .integer fits
  | record t _ ih => exact toJson_record t ▸ .ofTable ih

/-- What is simple needs no room. -/
theorem ofJson?_of_simple {j : Json} {d : Datum} (simple : Simple j d) (room : Nat) :
    ofJson? room j = some d := by
  cases room with
  | zero => exact ofJson?_zero_eq_some_iff.mpr simple
  | succ room => rw [ofJson?_succ, ofJson?_zero_eq_some_iff.mpr simple, Option.some_or]

/-- **Exact data are read back.** -/
theorem ofJson?_toJson {room : Nat} {d : Datum} (exact : Exact room d) :
    ofJson? room d.toJson = some d := by
  induction exact with
  | text room s => exact ofJson?_of_simple (.text s) room
  | integer room => exact ofJson?_of_simple (.number _) room
  | record t _ ih =>
      rw [ofJson?_succ, toJson_record, table?_ofTable ih]
      rfl

/-- **Nothing deeper is read.** -/
theorem Exact.of_isSome {depth room : Nat} {d : Datum} (exact : Exact depth d)
    (read : (ofJson? room d.toJson).isSome) : Exact room d := by
  induction exact generalizing room with
  | text _ s => exact .text room s
  | integer _ fits => exact .integer room fits
  | record t _ ih =>
      cases room with
      | zero => cases read
      | succ room =>
          rw [ofJson?_succ, toJson_record] at read
          obtain ⟨t', found⟩ : ∃ t', table? (ofJson? room) (ofTable toJson t) = some t' := by
            simpa [ofTable, ofJson?, Option.isSome_iff_exists] using read
          refine .record t fun e mem => ih e mem ?_
          exact isSome_of_table? found (List.mem_map.mpr ⟨e, mem, rfl⟩)

end Workflow.Datum
