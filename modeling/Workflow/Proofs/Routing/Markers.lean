import Mathlib.Data.List.Forall2
import Workflow.Proofs.Labels
import Workflow.Proofs.Routing.Precedence

/-!
# Routing and the markers of labels

A label may show the key that picks a choice.  What routing reads of an edge is where it leads,
its condition, its weight, whether it has a label, and what that label is compared by.  A marker
in front of a label leaves all of this as it is, so routing does not see it.

## Main Definitions

* `Routing.Alike` — edges that routing cannot tell apart.
* `Routing.Decorated` — an edge with or without one more marker in its label.
* `Routing.SamePlace` — the same place in two lists of edges.

## Main Statements

* `Routing.Preferred.alike` — what is preferred among some edges is preferred among edges like
  them.
* `Routing.markers_never_matter` — markers change neither what a label is compared by nor where
  a run goes.
-/

namespace Workflow

/-- The edge with a marker in front of its label. -/
def Edge.withMarker (e : Edge) (mark : List Char) : Edge :=
  { e with attributes :=
      e.attributes.insert "label" (.text (String.ofList mark ++ " " ++ e.label)) }

namespace Routing

open Text Label

/-! ### Edges that routing cannot tell apart -/

/-- Two edges of which routing reads the same. -/
structure Alike (e e' : Edge) : Prop where
  source : e.source = e'.source
  target : e.target = e'.target
  condition : e.condition = e'.condition
  weight : e.weight = e'.weight
  /-- Both have a label or neither has. -/
  stated : e.label = "" ↔ e'.label = ""
  /-- Their labels name the same choice. -/
  choice : normalize e.label = normalize e'.label

/-- Two choices fall on the same place of two lists, or both on none.  Of equal edges the first is
meant. -/
inductive SamePlace (edges edges' : List Edge) : Option Edge → Option Edge → Prop
  /-- Nothing is chosen. -/
  | nowhere : SamePlace edges edges' none none
  /-- As many edges stand in front of the one as of the other. -/
  | here {before after before' after' : List Edge} {e e' : Edge}
      (left : edges = before ++ e :: after) (right : edges' = before' ++ e' :: after')
      (level : before.length = before'.length) (first : e ∉ before) (first' : e' ∉ before') :
      SamePlace edges edges' (some e) (some e')

section Choices

variable {edges edges' : List Edge} {P Q : Edge → Prop} {e : Edge} {outcome : Outcome}
  {context : Context}

/-- What stands at a place of the one list is like what stands there in the other. -/
theorem exists_append_of_alike {before after : List Edge}
    (alike : List.Forall₂ Alike (before ++ e :: after) edges') :
    ∃ before' e' after', edges' = before' ++ e' :: after' ∧ List.Forall₂ Alike before before' ∧
      Alike e e' := by
  induction before generalizing edges' with
  | nil =>
      obtain ⟨e', after', one, -, rfl⟩ := List.forall₂_cons_left_iff.mp alike
      exact ⟨[], e', after', rfl, .nil, one⟩
  | cons f before ih =>
      obtain ⟨f', others, one, rest, rfl⟩ := List.forall₂_cons_left_iff.mp alike
      obtain ⟨before', e', after', rfl, front, here⟩ := ih rest
      exact ⟨f' :: before', e', after', rfl, .cons one front, here⟩

theorem forall_mem_of_alike (alike : List.Forall₂ Alike edges edges')
    (reads : ∀ f f', Alike f f' → P f → Q f') (all : ∀ f ∈ edges, P f) : ∀ f ∈ edges', Q f := by
  induction alike with
  | nil => exact List.forall_mem_nil Q
  | cons one _ ih =>
      obtain ⟨first, others⟩ := List.forall_mem_cons.mp all
      exact List.forall_mem_cons.mpr ⟨reads _ _ one first, ih others⟩

/-- The first edge with a property that edges alike share stands at the same place. -/
theorem IsFirst.alike (alike : List.Forall₂ Alike edges edges')
    (reads : ∀ f f', Alike f f' → (P f ↔ Q f')) (first : IsFirst P edges e) :
    ∃ e', Alike e e' ∧ IsFirst Q edges' e' ∧ SamePlace edges edges' (some e) (some e') := by
  obtain ⟨holds, before, after, rfl, others⟩ := first
  obtain ⟨before', e', after', rfl, front, here⟩ := exists_append_of_alike alike
  have holds' : Q e' := (reads e e' here).mp holds
  have others' : ∀ f ∈ before', ¬Q f :=
    forall_mem_of_alike front (fun f f' one => mt (reads f f' one).mpr) others
  exact ⟨e', here, ⟨holds', before', after', rfl, others'⟩, .here rfl rfl front.length_eq
    (fun mem => others e mem holds) fun mem => others' e' mem holds'⟩

/-- The best edge with a property that edges alike share stands at the same place. -/
theorem IsBest.alike (alike : List.Forall₂ Alike edges edges')
    (reads : ∀ f f', Alike f f' → (P f ↔ Q f')) (best : IsBest P edges e) :
    ∃ e', IsBest Q edges' e' ∧ SamePlace edges edges' (some e) (some e') := by
  obtain ⟨e', here, first, place⟩ := best.first.alike
    (Q := fun f => Q f ∧ f.weight = e.weight ∧ f.target = e.target) alike fun f f' one => by
      rw [reads f f' one, one.weight, one.target]
  refine ⟨e', ⟨?_, ?_, ?_⟩, place⟩
  · refine forall_mem_of_alike alike (fun f f' one le holds => ?_) best.heaviest
    rw [← one.weight, ← here.weight]
    exact le ((reads f f' one).mpr holds)
  · refine forall_mem_of_alike alike (fun f f' one le holds => ?_) best.smallest
    rw [← one.weight, ← here.weight, ← one.target, ← here.target]
    exact le ((reads f f' one).mpr holds)
  · rwa [here.weight, here.target] at first

/-! ### The five preferences -/

theorem Alike.applies {e e' : Edge} (one : Alike e e') :
    Applies outcome context e ↔ Applies outcome context e' := by
  rw [Applies, Applies, one.condition]

theorem Alike.named {label : String} {e e' : Edge} (one : Alike e e') :
    Named label e ↔ Named label e' := by
  rw [Named, Named, one.condition, one.choice, ne_eq, ne_eq, ne_eq, one.stated]

theorem Alike.freelyTo {id : String} {e e' : Edge} (one : Alike e e') :
    FreelyTo id e ↔ FreelyTo id e' := by
  rw [FreelyTo, FreelyTo, one.condition, one.target]

/-- **What is preferred among some edges** is preferred at the same place among edges like them. -/
theorem Preferred.alike (alike : List.Forall₂ Alike edges edges')
    (preferred : Preferred edges outcome context e) :
    ∃ e', Preferred edges' outcome context e' ∧ SamePlace edges edges' (some e) (some e') := by
  have none {P : Edge → Prop} (reads : ∀ f f', Alike f f' → (P f ↔ P f')) :
      (∀ f ∈ edges, ¬P f) → ∀ f ∈ edges', ¬P f :=
    forall_mem_of_alike alike fun f f' one => mt (reads f f' one).mpr
  cases preferred with
  | applies best =>
      obtain ⟨e', best, place⟩ := best.alike alike fun _ _ one => one.applies
      exact ⟨e', .applies best, place⟩
  | named noneApplies first =>
      obtain ⟨e', -, first, place⟩ := first.alike alike fun _ _ one => one.named
      exact ⟨e', .named (none (fun _ _ one => one.applies) noneApplies) first, place⟩
  | suggested noneApplies noneNamed suggestions first noneSkipped =>
      obtain ⟨e', -, first, place⟩ := first.alike alike fun _ _ one => one.freelyTo
      exact ⟨e', .suggested (none (fun _ _ one => one.applies) noneApplies)
        (none (fun _ _ one => one.named) noneNamed) suggestions first
        fun s mem => none (fun _ _ one => one.freelyTo) (noneSkipped s mem), place⟩
  | free noneApplies noneNamed noneSuggested best =>
      obtain ⟨e', best, place⟩ := best.alike (Q := (·.condition = "")) alike
        fun _ _ one => by rw [one.condition]
      exact ⟨e', .free (none (fun _ _ one => one.applies) noneApplies)
        (none (fun _ _ one => one.named) noneNamed)
        (fun s mem => none (fun _ _ one => one.freelyTo) (noneSuggested s mem)) best, place⟩
  | any noneApplies noneFree best =>
      obtain ⟨e', best, place⟩ := best.alike alike fun _ _ _ => Iff.rfl
      exact ⟨e', .any (none (fun _ _ one => one.applies) noneApplies)
        (none (fun _ _ one => by rw [one.condition]) noneFree) best, place⟩

/-- **Routing cannot tell edges apart that are alike.** -/
theorem choose?_alike (alike : List.Forall₂ Alike edges edges') (outcome : Outcome)
    (context : Context) :
    SamePlace edges edges' (choose? edges outcome context) (choose? edges' outcome context) := by
  cases chosen : choose? edges outcome context with
  | none =>
      obtain rfl := choose?_eq_none_iff.mp chosen
      obtain rfl := List.forall₂_nil_left_iff.mp alike
      rw [chosen]
      exact .nowhere
  | some e =>
      obtain ⟨e', preferred, place⟩ := (choose?_eq_some_iff.mp chosen).alike alike
      rw [choose?_eq_some_iff.mpr preferred]
      exact place

end Choices

/-! ### Markers -/

/-- The edge is left as it is, or a marker is put in front of its label, which is in ASCII and has
none. -/
inductive Decorated (e : Edge) : Edge → Prop
  | same : Decorated e e
  | marked {c : Char} {mark : List Char} (known : mark ∈ markers c) (asciiMark : c.toNat < 128)
      (solid : isBlank c = false) (stated : e.label ≠ "") (ascii : IsAscii e.label.toList)
      (bare : ¬Accelerated (plain e.label)) : Decorated e (e.withMarker mark)

/-- A marker shows in the label and nowhere else. -/
theorem Decorated.alike {e e' : Edge} (decorated : Decorated e e') : Alike e e' := by
  cases decorated with
  | same => exact ⟨rfl, rfl, rfl, rfl, Iff.rfl, rfl⟩
  | @marked c mark known asciiMark solid stated ascii bare =>
      have label : (e.withMarker mark).label = String.ofList mark ++ " " ++ e.label := by
        rw [Edge.label, Attributes.text, Edge.withMarker, Table.get?_insert, if_pos rfl]
      have others {name : String} (other : "label" ≠ name) :
          (e.withMarker mark).attributes.get? name = e.attributes.get? name :=
        Table.get?_insert_of_ne _ other _
      refine ⟨rfl, rfl, ?condition, ?weight, ?stated, ?choice⟩
      case condition =>
        rw [Edge.condition, Edge.condition, Attributes.text, Attributes.text,
          others (by decide)]
      case weight =>
        rw [Edge.weight, Edge.weight, Attributes.integer, Attributes.integer,
          others (by decide)]
      case stated =>
        rw [label]
        exact iff_of_false stated (by simp)
      case choice =>
        rw [label, normalize_marker_append ascii bare asciiMark solid known]

/-- **Markers never matter.**  In front of a label in ASCII that has none, a marker makes no
difference to what the label is compared by.  And however such labels of a graph are decorated,
from every node the edge at the same place is followed. -/
theorem markers_never_matter :
    (∀ (label : String) (c : Char), IsAscii label.toList → ¬Accelerated (plain label) →
      c.toNat < 128 → isBlank c = false →
      ∀ mark ∈ markers c, normalize (String.ofList mark ++ " " ++ label) = normalize label) ∧
    ∀ (g : Graph) (edges : List Edge), List.Forall₂ Decorated g.edges edges →
      ∀ (id : String) (outcome : Outcome) (context : Context),
        SamePlace (g.outgoing id) ({ g with edges }.outgoing id) (select? g id outcome context)
          (select? { g with edges } id outcome context) := by
  refine ⟨fun label c ascii bare asciiMark solid mark known => ?_,
    fun g edges decorated id outcome context => ?_⟩
  · exact normalize_marker_append ascii bare asciiMark solid known
  · have alike : List.Forall₂ Alike g.edges edges := decorated.imp fun _ _ one => one.alike
    refine choose?_alike (List.rel_filter (fun f f' one => ?_) alike) outcome context
    show (f.source == id) = true ↔ (f'.source == id) = true
    rw [one.source]

/-- An edge with a label and nothing else. -/
def offer (target label : String) : Edge := ⟨"a", target, .ofList [("label", .text label)]⟩

/-- The answers to a question. -/
def offers : List Edge := [offer "b" "Yes", offer "c" "No"]

/-- The same answers, with the keys that pick them. -/
def keyedOffers : List Edge :=
  [(offer "b" "Yes").withMarker ['[', 'Y', ']'], (offer "c" "No").withMarker ['n', ' ', '-']]

theorem decorated_keyedOffers : List.Forall₂ Decorated offers keyedOffers := by
  have bareYes : ¬Accelerated (plain (offer "b" "Yes").label) := fun accelerated =>
    absurd accelerated.visible (by decide +kernel)
  have bareNo : ¬Accelerated (plain (offer "c" "No").label) := fun accelerated =>
    absurd accelerated.visible (by decide +kernel)
  refine .cons ?yes (.cons ?no .nil)
  case yes =>
    exact .marked (c := 'Y') (by decide) (by decide) (by decide) (by decide +kernel)
      (by decide +kernel) bareYes
  case no =>
    exact .marked (c := 'n') (by decide) (by decide) (by decide) (by decide +kernel)
      (by decide +kernel) bareNo

/-- The answer `No` leads to the same node, whether or not the answers show their keys. -/
theorem keyedOffers_followed :
    (IsAscii "No".toList ∧ ¬Accelerated (plain "No") ∧ 'n'.toNat < 128 ∧ isBlank 'n' = false ∧
      ['n', ' ', '-'] ∈ markers 'n' ∧ List.Forall₂ Decorated offers keyedOffers) ∧
    normalize "n - No" = normalize "No" ∧
    SamePlace offers keyedOffers
      (select? ⟨"g", .empty, .empty, offers⟩ "a" (.withLabel .success "No") .empty)
      (select? ⟨"g", .empty, .empty, keyedOffers⟩ "a" (.withLabel .success "No") .empty) ∧
    (select? ⟨"g", .empty, .empty, keyedOffers⟩ "a" (.withLabel .success "No") .empty).map
      (·.target) = some "c" := by
  have bare : ¬Accelerated (plain "No") := fun accelerated =>
    absurd accelerated.visible (by decide +kernel)
  obtain ⟨labels, graphs⟩ := markers_never_matter
  refine ⟨⟨by decide, bare, by decide, by decide, by decide, decorated_keyedOffers⟩, ?_, ?_, ?_⟩
  · exact labels "No" 'n' (by decide) bare (by decide) (by decide) ['n', ' ', '-'] (by decide)
  · exact graphs ⟨"g", .empty, .empty, offers⟩ keyedOffers decorated_keyedOffers "a"
      (.withLabel .success "No") .empty
  · decide +kernel

end Routing

end Workflow
