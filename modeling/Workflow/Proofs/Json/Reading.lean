import Workflow.Proofs.Json.Tokens

/-!
# The reader of JSON reads its grammar

The reader decides at every character what comes next, and carries a bound for the nesting.
The grammar does neither.  That they agree comes down to two facts about texts: the first
character of a value says what kind of value it is, and what follows a value in a sequence
or an object cannot belong to a number.

## Main Definitions

* `Json.Reading.Branch` — what the first character of a value decides.

## Main Statements

* `Json.Reading.written_of_takes`, `Json.Reading.takes_of_written` — values are taken as
  they are written.
* `Json.parse?_eq_some_iff` — a text is read as a value if and only if it holds the value.

## Design Notes

Each reader is opened once, by a lemma that says what it takes in terms of the readers it is
made of.  The other lemmas are about `Takes` only.
-/

namespace Workflow.Json

namespace Reading

/-! ### Blanks -/

/-- What is skipped is blank. -/
theorem blanks_skip (cs : List Char) : ∃ a, cs = a ++ skip cs ∧ Blanks a :=
  ⟨cs.takeWhile isSpace, (List.takeWhile_append_dropWhile).symm,
    fun _ mem => List.mem_takeWhile_imp mem⟩

/-- Blanks are skipped, and nothing else. -/
theorem skip_append {a : List Char} (blank : Blanks a) {rest : List Char}
    (solid : ∀ c ∈ rest.head?, isSpace c = false) : skip (a ++ rest) = rest :=
  Text.dropWhile_append_of_ends blank solid

/-- A number ends in front of a blank. -/
theorem ends_of_isSpace {c : Char} (blank : isSpace c = true) (rest : List Char) :
    Ends (c :: rest) := by
  rintro d ⟨⟩
  simp only [isSpace, Bool.or_eq_true, beq_iff_eq] at blank
  rcases blank with ((rfl | rfl) | rfl) | rfl <;> decide

theorem ends_append {b rest : List Char} (blank : Blanks b) (ends : Ends rest) :
    Ends (b ++ rest) := by
  cases b with
  | nil => exact ends
  | cons c b => exact ends_of_isSpace (blank c List.mem_cons_self) _

/-! ### Sequences -/

section Sequences

variable {α : Type} {item : Reader α} {close : Char}

/-- What a reader takes makes the text shorter. -/
theorem Takes.shorter {cs rest : List Char} {x : α} (takes : Takes item cs x rest) :
    rest.length < cs.length := by
  obtain ⟨r, -, -, rfl⟩ := takes
  exact r.shorter

/-- Items are taken one by one: behind an item stands the mark that closes them, or a comma and
others. -/
theorem takes_items_iff {cs rest : List Char} {xs : List α} :
    Takes (items item close) cs xs rest ↔
      ∃ x behind c more, Takes item (skip cs) x behind ∧ skip behind = c :: more ∧
        (c = close ∧ xs = [x] ∧ more = rest ∨
          c ≠ close ∧ c = ',' ∧ ∃ ys, Takes (items item close) more ys rest ∧ xs = x :: ys) := by
  constructor
  · rintro ⟨taken, read, rfl, rfl⟩
    rw [items] at read
    split at read
    · cases read
    · next first found =>
      dsimp only at read
      split at read
      · cases read
      · next c more next =>
        refine ⟨first.value, first.rest, c, more, ⟨first, found, rfl, rfl⟩, next, ?_⟩
        split at read
        · next closes =>
          cases read
          exact .inl ⟨closes, rfl, rfl⟩
        · next goes =>
          split at read
          · next comma =>
            split at read
            · cases read
            · next others found =>
              cases read
              exact .inr ⟨goes, comma, others.value, ⟨others, found, rfl, rfl⟩, rfl⟩
          · cases read
  · rintro ⟨x, behind, c, more, ⟨first, found, rfl, rfl⟩, next, tail⟩
    rw [Takes, items]
    split
    · next none =>
      rw [found] at none
      cases none
    · next first' found' =>
      rw [found] at found'
      cases found'
      dsimp only
      split
      · next none =>
        rw [next] at none
        cases none
      · next c' more' next' =>
        rw [next] at next'
        cases next'
        rcases tail with ⟨closes, rfl, rfl⟩ | ⟨goes, comma, ys, ⟨others, found, rfl, rfl⟩, rfl⟩
        · rw [if_pos closes]
          exact ⟨_, rfl, rfl, rfl⟩
        · rw [if_neg goes, if_pos comma, found]
          exact ⟨_, rfl, rfl, rfl⟩

/-- A sequence is closed at once, or there are items. -/
theorem takes_sequence_iff {cs rest : List Char} {xs : List α} :
    Takes (sequence item close) cs xs rest ↔
      ∃ c more, skip cs = c :: more ∧
        (c = close ∧ xs = [] ∧ more = rest ∨ c ≠ close ∧ Takes (items item close) cs xs rest) := by
  constructor
  · rintro ⟨taken, read, rfl, rfl⟩
    unfold sequence at read
    split at read
    · cases read
    · next c more next =>
      refine ⟨c, more, next, ?_⟩
      split at read
      · next closes =>
        cases read
        exact .inl ⟨closes, rfl, rfl⟩
      · next goes => exact .inr ⟨goes, taken, read, rfl, rfl⟩
  · rintro ⟨c, more, next, tail⟩
    unfold Takes sequence
    split
    · next none =>
      rw [next] at none
      cases none
    · next c' more' next' =>
      rw [next] at next'
      cases next'
      rcases tail with ⟨closes, rfl, rfl⟩ | ⟨goes, taken, read, rfl, rfl⟩
      · rw [if_pos closes]
        exact ⟨_, rfl, rfl, rfl⟩
      · rw [if_neg goes]
        exact ⟨taken, read, rfl, rfl⟩

/-- A member is a name, a colon and a value. -/
theorem takes_member_iff {item : Reader Json} {cs rest : List Char} {m : Option String × Json} :
    Takes (member item) cs m rest ↔
      ∃ behind more, Takes string cs m.1 behind ∧ skip behind = ':' :: more ∧
        Takes item (skip more) m.2 rest := by
  constructor
  · rintro ⟨taken, read, rfl, rfl⟩
    unfold member at read
    split at read
    · cases read
    · next name named =>
      split at read
      · cases read
      · next c more next =>
        split at read
        · next colon =>
          split at read
          · cases read
          · next value found =>
            cases read
            exact ⟨name.rest, more, ⟨name, named, rfl, rfl⟩, colon ▸ next, value, found, rfl, rfl⟩
        · cases read
  · rintro ⟨behind, more, ⟨name, named, first, rfl⟩, next, value, found, second, rfl⟩
    unfold Takes member
    split
    · next none =>
      rw [named] at none
      cases none
    · next name' named' =>
      rw [named] at named'
      cases named'
      split
      · next none =>
        rw [next] at none
        cases none
      · next c more' next' =>
        rw [next] at next'
        cases next'
        rw [if_pos rfl, found]
        exact ⟨_, rfl, Prod.ext first second, rfl⟩

/-! #### What is taken is written -/

variable {r : α → List Char → Prop}

/-- What the reader takes is written so. -/
def Sound (item : Reader α) (r : α → List Char → Prop) : Prop :=
  ∀ cs x rest, Takes item cs x rest → ∃ w, cs = w ++ rest ∧ r x w

/-- What is taken as items is written so, if this is true of each item. -/
theorem separated_of_takes (sound : Sound item r) {cs rest : List Char} {xs : List α}
    (takes : Takes (items item close) cs xs rest) :
    ∃ w, cs = w ++ rest ∧ Separated r close xs w := by
  obtain ⟨x, behind, c, more, first, next, tail⟩ := takes_items_iff.mp takes
  obtain ⟨a, front, before⟩ := blanks_skip cs
  obtain ⟨w, taken, written⟩ := sound _ _ _ first
  obtain ⟨b, gap, after⟩ := blanks_skip behind
  have text : cs = a ++ (w ++ (b ++ c :: more)) := by rw [← next, ← gap, ← taken, ← front]
  have shorter : more.length < cs.length := by
    rw [text]
    simp
    omega
  rcases tail with ⟨rfl, rfl, rfl⟩ | ⟨-, rfl, ys, others, rfl⟩
  · exact ⟨_, by simpa using text, .last before written after⟩
  · obtain ⟨v, rfl, separated⟩ := separated_of_takes sound others
    exact ⟨_, by simpa using text, .more before written after separated⟩
termination_by cs.length

theorem sequence_of_takes (sound : Sound item r) {cs rest : List Char} {xs : List α}
    (takes : Takes (sequence item close) cs xs rest) :
    ∃ w, cs = w ++ rest ∧ Sequence r close xs w := by
  obtain ⟨c, more, next, ⟨rfl, rfl, rfl⟩ | ⟨-, takes⟩⟩ := takes_sequence_iff.mp takes
  · obtain ⟨a, front, blank⟩ := blanks_skip cs
    exact ⟨a ++ [c], by rw [front, next]; simp, .empty blank⟩
  · obtain ⟨w, eq, separated⟩ := separated_of_takes sound takes
    exact ⟨w, eq, .items separated⟩

theorem sound_member {item : Reader Json} {r : Json → List Char → Prop} (sound : Sound item r) :
    Sound (member item) (Member r) := by
  intro cs m rest takes
  obtain ⟨behind, more, named, next, valued⟩ := takes_member_iff.mp takes
  obtain ⟨q, rfl, quoted⟩ := takes_string_iff.mp named
  obtain ⟨a, gap, before⟩ := blanks_skip behind
  obtain ⟨b, gap', after⟩ := blanks_skip more
  obtain ⟨w, taken, written⟩ := sound _ _ _ valued
  refine ⟨_, ?_, .mk quoted before after written⟩
  rw [gap, next, gap', taken]
  simp

/-! #### What is written is taken -/

section Complete

variable {bound : Nat}

/-- The marks that close a sequence. -/
def Closes (close : Char) : Prop := close = ']' ∨ close = '\x7d'

instance (close : Char) : Decidable (Closes close) :=
  inferInstanceAs (Decidable (close = ']' ∨ close = '\x7d'))

theorem Closes.isSpace (closes : Closes close) : Reading.isSpace close = false := by
  rcases closes with rfl | rfl <;> decide

theorem Closes.ends (closes : Closes close) (rest : List Char) : Ends (close :: rest) := by
  rintro d ⟨⟩
  rcases closes with rfl | rfl <;> decide

theorem ends_comma (rest : List Char) : Ends (',' :: rest) := by
  rintro d ⟨⟩
  decide

/-- The text of an item begins with something that is no blank and does not close the sequence. -/
def Solid (r : α → List Char → Prop) (close : Char) : Prop :=
  ∀ {x w}, r x w → ∃ c cs, w = c :: cs ∧ isSpace c = false ∧ c ≠ close

/-- What is written so is taken, if it is not too long and ends where the text goes on. -/
def Complete (item : Reader α) (r : α → List Char → Prop) (bound : Nat) : Prop :=
  ∀ x w rest, r x w → w.length ≤ bound → Ends rest → Takes item (w ++ rest) x rest

/-- **What is written as items is taken**, if this is true of each item that is not too long. -/
theorem takes_of_separated (complete : Complete item r bound) (solid : Solid r close)
    (closes : Closes close) {xs : List α} {w : List Char}
    (separated : Separated r close xs w) (short : w.length ≤ bound) (rest : List Char) :
    Takes (items item close) (w ++ rest) xs rest := by
  induction separated with
  | @last x a w b before written behind =>
      obtain ⟨c, cs, rfl, ink, -⟩ := solid written
      refine takes_items_iff.mpr ⟨x, b ++ close :: rest, close, rest, ?_,
        skip_append behind (by simp [closes.isSpace]), .inl ⟨rfl, rfl, rfl⟩⟩
      have front : skip (a ++ (c :: cs ++ (b ++ close :: rest))) = _ :=
        skip_append before (by simp [ink])
      have text : a ++ (c :: cs ++ (b ++ [close])) ++ rest =
          a ++ (c :: cs ++ (b ++ close :: rest)) := by simp
      rw [text, front]
      refine complete _ _ _ written ?_ (ends_append behind (closes.ends rest))
      simp only [List.length_append] at short ⊢
      omega
  | @more x xs a w b cs' before written behind others ih =>
      obtain ⟨c, cs, rfl, ink, -⟩ := solid written
      have noComma : ',' ≠ close := by rcases closes with rfl | rfl <;> decide
      have inner : cs'.length ≤ bound := by
        simp only [List.length_append, List.length_cons] at short
        omega
      refine takes_items_iff.mpr ⟨x, b ++ ',' :: (cs' ++ rest), ',', cs' ++ rest, ?_,
        skip_append behind (by simp [isSpace]), .inr ⟨noComma, rfl, xs, ih inner, rfl⟩⟩
      have front : skip (a ++ (c :: cs ++ (b ++ ',' :: (cs' ++ rest)))) = _ :=
        skip_append before (by simp [ink])
      have text : a ++ (c :: cs ++ (b ++ ',' :: cs')) ++ rest =
          a ++ (c :: cs ++ (b ++ ',' :: (cs' ++ rest))) := by simp
      rw [text, front]
      refine complete _ _ _ written ?_ (ends_append behind (ends_comma _))
      simp only [List.length_append] at short ⊢
      omega

/-- Items do not begin with the mark that closes them. -/
theorem skip_of_separated (solid : Solid r close) {xs : List α} {w : List Char}
    (separated : Separated r close xs w) (rest : List Char) :
    ∃ c more, skip (w ++ rest) = c :: more ∧ c ≠ close := by
  have front : ∀ {a w : List Char} {x : α} (cs : List Char), Blanks a → r x w →
      ∃ c more, skip (a ++ (w ++ cs)) = c :: more ∧ c ≠ close := by
    intro a w x cs before written
    obtain ⟨c, more, rfl, ink, open_⟩ := solid written
    exact ⟨c, more ++ cs, skip_append before (by simp [ink]), open_⟩
  cases separated with
  | last before written behind | more before written behind others =>
      rw [List.append_assoc, List.append_assoc]
      exact front _ before written

theorem takes_of_sequence (complete : Complete item r bound) (solid : Solid r close)
    (closes : Closes close) {xs : List α} {w : List Char}
    (written : Sequence r close xs w) (short : w.length ≤ bound) (rest : List Char) :
    Takes (sequence item close) (w ++ rest) xs rest := by
  cases written with
  | @empty a blank =>
      refine takes_sequence_iff.mpr ⟨close, rest, ?_, .inl ⟨rfl, rfl, rfl⟩⟩
      rw [List.append_assoc]
      exact skip_append blank (by simp [closes.isSpace])
  | items separated =>
      obtain ⟨c, more, next, goes⟩ := skip_of_separated solid separated rest
      exact takes_sequence_iff.mpr ⟨c, more, next, .inr ⟨goes,
        takes_of_separated complete solid closes separated short rest⟩⟩

theorem complete_member {item : Reader Json} {r : Json → List Char → Prop}
    (complete : Complete item r bound) (solid : Solid r '\x7d') :
    Complete (member item) (Member r) bound := by
  intro m w rest written short ends
  cases written with
  | @mk name j q a b w named before behind value =>
      obtain ⟨c, cs, rfl, ink, -⟩ := solid value
      refine takes_member_iff.mpr ⟨a ++ ':' :: (b ++ (c :: cs ++ rest)), b ++ (c :: cs ++ rest),
        takes_string_iff.mpr ⟨q, by simp, named⟩, skip_append before (by simp [isSpace]), ?_⟩
      rw [skip_append behind (by simp [ink])]
      refine complete _ _ _ value ?_ ends
      simp only [List.length_append, List.length_cons] at short ⊢
      omega

end Complete

end Sequences

/-! ### Values -/

theorem takes_word {spelling : List Char} (nonempty : spelling ≠ []) {j k : Json}
    {cs rest : List Char} :
    Takes (word spelling nonempty j) cs k rest ↔ cs = spelling ++ rest ∧ k = j := by
  constructor
  · rintro ⟨taken, read, rfl, rfl⟩
    unfold word at read
    split at read
    · cases read
    · next rest found =>
      cases read
      exact ⟨Text.after?_eq_some_iff.mp found, rfl⟩
  · rintro ⟨rfl, rfl⟩
    unfold Takes word
    split
    · next none =>
      rw [Text.after?_eq_some_iff.mpr rfl] at none
      cases none
    · next rest' found =>
      rw [Text.after?_eq_some_iff.mpr rfl] at found
      cases found
      exact ⟨_, rfl, rfl, rfl⟩

/-- The first character of a value says what it is. -/
inductive Branch (depth : Nat) (c : Char) (cs : List Char) : Json → List Char → Prop
  | string {text : Option String} {rest : List Char} (first : c = '"')
      (takes : Takes string (c :: cs) text rest) :
      Branch depth c cs ((text.map Json.string).getD .unreadable) rest
  | array {room : Nat} {items : List Json} {rest : List Char} (first : c = '[')
      (deep : depth = room + 1) (takes : Takes (sequence (value room) ']') cs items rest) :
      Branch depth c cs (.array items) rest
  | object {room : Nat} {members : List (Option String × Json)} {rest : List Char}
      (first : c = '\x7b') (deep : depth = room + 1)
      (takes : Takes (sequence (member (value room)) '\x7d') cs members rest) :
      Branch depth c cs (objectOf members) rest
  | null {rest : List Char} (text : c :: cs = "null".toList ++ rest) : Branch depth c cs .null rest
  | true {rest : List Char} (text : c :: cs = "true".toList ++ rest) :
      Branch depth c cs (.boolean true) rest
  | false {rest : List Char} (text : c :: cs = "false".toList ++ rest) :
      Branch depth c cs (.boolean false) rest
  | number {j : Json} {rest : List Char} (other : c ∉ ['"', '[', '\x7b', 'n', 't', 'f'])
      (takes : Takes number (c :: cs) j rest) : Branch depth c cs j rest

/-- A value is taken as its first character says. -/
theorem takes_value_iff {depth : Nat} {c : Char} {cs rest : List Char} {j : Json} :
    Takes (value depth) (c :: cs) j rest ↔ Branch depth c cs j rest := by
  constructor
  · rintro ⟨taken, read, rfl, rfl⟩
    rw [value.eq_def] at read
    dsimp only at read
    split at read
    · next quote =>
      obtain ⟨text, found, rfl⟩ := Option.map_eq_some_iff.mp read
      exact .string quote ⟨text, found, rfl, rfl⟩
    · next quote =>
      split at read
      · next bracket =>
        split at read
        · cases read
        · next room =>
          obtain ⟨items, found, rfl⟩ := Option.map_eq_some_iff.mp read
          exact .array bracket rfl ⟨items, found, rfl, rfl⟩
      · next bracket =>
        split at read
        · next brace =>
          split at read
          · cases read
          · next room =>
            obtain ⟨members, found, rfl⟩ := Option.map_eq_some_iff.mp read
            exact .object brace rfl ⟨members, found, rfl, rfl⟩
        · next brace =>
          split at read
          · obtain ⟨text, eq⟩ := (takes_word _).mp ⟨taken, read, rfl, rfl⟩
            exact eq ▸ .null text
          · next n =>
            split at read
            · obtain ⟨text, eq⟩ := (takes_word _).mp ⟨taken, read, rfl, rfl⟩
              exact eq ▸ .true text
            · next t =>
              split at read
              · obtain ⟨text, eq⟩ := (takes_word _).mp ⟨taken, read, rfl, rfl⟩
                exact eq ▸ .false text
              · next f =>
                exact .number (by simp [quote, bracket, brace, n, t, f]) ⟨taken, read, rfl, rfl⟩
  · intro branch
    unfold Takes
    rw [value.eq_def]
    dsimp only
    cases branch with
    | string first takes =>
        obtain ⟨taken, read, rfl, rfl⟩ := takes
        rw [if_pos first, read]
        exact ⟨_, rfl, rfl, rfl⟩
    | array first deep takes =>
        obtain ⟨taken, read, rfl, rfl⟩ := takes
        subst first deep
        simp [read, Read.map, Read.widen]
    | object first deep takes =>
        obtain ⟨taken, read, rfl, rfl⟩ := takes
        subst first deep
        simp [read, Read.map, Read.widen]
    | null text =>
        obtain rfl : c = 'n' := (List.cons.inj text).1
        exact (takes_word (by decide)).mpr ⟨text, rfl⟩
    | true text =>
        obtain rfl : c = 't' := (List.cons.inj text).1
        exact (takes_word (by decide)).mpr ⟨text, rfl⟩
    | false text =>
        obtain rfl : c = 'f' := (List.cons.inj text).1
        exact (takes_word (by decide)).mpr ⟨text, rfl⟩
    | number other takes =>
        simp only [List.mem_cons, List.not_mem_nil, or_false, not_or] at other
        obtain ⟨quote, bracket, brace, n, t, f⟩ := other
        rw [if_neg quote, if_neg bracket, if_neg brace, if_neg n, if_neg t, if_neg f]
        exact takes

/-- **What is taken as a value is written so.** -/
theorem written_of_takes {depth : Nat} {cs rest : List Char} {j : Json}
    (takes : Takes (value depth) cs j rest) : ∃ w, cs = w ++ rest ∧ Written j w := by
  induction depth using Nat.strong_induction_on generalizing cs rest j with
  | _ depth ih =>
  cases cs with
  | nil =>
      obtain ⟨taken, read, -, -⟩ := takes
      rw [value.eq_def] at read
      cases read
  | cons c cs =>
      cases takes_value_iff.mp takes with
      | string first takes =>
          obtain ⟨w, eq, quoted⟩ := takes_string_iff.mp takes
          exact ⟨w, eq, .string quoted⟩
      | @array room _ _ first deep takes =>
          have inner : Sound (value room) Written := fun _ _ _ => ih room (by omega)
          obtain ⟨w, rfl, written⟩ := sequence_of_takes inner takes
          exact ⟨_, by rw [first]; rfl, .array written⟩
      | @object room _ _ first deep takes =>
          have inner : Sound (value room) Written := fun _ _ _ => ih room (by omega)
          obtain ⟨w, rfl, written⟩ := sequence_of_takes (sound_member inner) takes
          exact ⟨_, by rw [first]; rfl, .object written⟩
      | null text => exact ⟨_, text, .null⟩
      | true text => exact ⟨_, text, .true⟩
      | false text => exact ⟨_, text, .false⟩
      | number other takes =>
          obtain ⟨l, w, eq, written, rfl⟩ := written_of_takes_number takes
          exact ⟨w, eq, .number written⟩

/-- A number begins with its sign or a digit. -/
theorem exists_front_of_literal {l : Literal} {w : List Char} (written : l.Written w) :
    ∃ c cs, w = c :: cs ∧ (c = '-' ∨ c.isDigit = true) := by
  cases written with
  | mk signed digits =>
      obtain ⟨d, ds, rfl⟩ := List.exists_cons_of_ne_nil digits.1
      simp only [List.mem_cons, Prod.mk.injEq, List.not_mem_nil, or_false] at signed
      rcases signed with ⟨-, rfl⟩ | ⟨-, rfl⟩
      · exact ⟨d, _, rfl, .inr (digits.2 d List.mem_cons_self)⟩
      · exact ⟨'-', _, rfl, .inl rfl⟩

/-- The first character of a number is no other value's. -/
theorem number_front {c : Char} (front : c = '-' ∨ c.isDigit = true) :
    c ∉ ['"', '[', '\x7b', 'n', 't', 'f'] ∧ isSpace c = false ∧ ¬Closes c := by
  have other : ∀ d ∈
      ['"', '[', '\x7b', 'n', 't', 'f', ' ', '\n', '\t', '\r', ']', '\x7d'], c ≠ d := by
    rintro d mem rfl
    have none : ∀ d ∈ ['"', '[', '\x7b', 'n', 't', 'f', ' ', '\n', '\t', '\r', ']', '\x7d'],
        (!(d == '-' || d.isDigit)) = true := List.all_eq_true.mp rfl
    have other := none c mem
    simp only [Bool.not_eq_true', Bool.or_eq_false_iff, beq_eq_false_iff_ne] at other
    rcases front with dash | digit
    · exact other.1 dash
    · rw [other.2] at digit
      cases digit
  simp only [List.mem_cons, List.not_mem_nil, or_false, forall_eq_or_imp, forall_eq] at other
  simp [isSpace, Closes, other]

/-- The text of a value begins with something that is no blank and closes no sequence. -/
theorem exists_front_of_written {j : Json} {w : List Char} (written : Written j w) :
    ∃ c cs, w = c :: cs ∧ isSpace c = false ∧ ¬Closes c := by
  cases written with
  | null | true | false => exact ⟨_, _, rfl, by decide, by decide⟩
  | number literal =>
      obtain ⟨c, cs, rfl, front⟩ := exists_front_of_literal literal
      exact ⟨c, cs, rfl, (number_front front).2⟩
  | string quoted =>
      obtain ⟨units, body, -, rfl, -⟩ := quoted
      exact ⟨_, _, rfl, by decide, by decide⟩
  | array | object => exact ⟨_, _, rfl, by decide, by decide⟩

theorem solid_written (close : Char) (closes : Closes close) : Solid Written close := by
  intro j w written
  obtain ⟨c, cs, rfl, ink, goes⟩ := exists_front_of_written written
  exact ⟨c, cs, rfl, ink, fun eq => goes (eq ▸ closes)⟩

theorem solid_member : Solid (Member Written) '\x7d' := by
  intro m w written
  cases written with
  | mk named =>
      obtain ⟨units, body, -, rfl, -⟩ := named
      exact ⟨_, _, rfl, by decide, by decide⟩

/-- **What is written as a value is taken**, if it is no longer than the bound and ends where the
text goes on. -/
theorem takes_of_written {depth : Nat} {j : Json} {w rest : List Char} (written : Written j w)
    (short : w.length ≤ depth) (ends : Ends rest) : Takes (value depth) (w ++ rest) j rest := by
  induction depth generalizing j w rest with
  | zero =>
      obtain ⟨c, cs, rfl, -⟩ := exists_front_of_written written
      exact absurd short (by simp)
  | succ depth ih =>
      have inner : Complete (value depth) Written depth := fun _ _ _ => ih
      cases written with
      | null => exact takes_value_iff.mpr (.null rfl)
      | true => exact takes_value_iff.mpr (.true rfl)
      | false => exact takes_value_iff.mpr (.false rfl)
      | number literal =>
          obtain ⟨c, cs, rfl, front⟩ := exists_front_of_literal literal
          exact takes_value_iff.mpr (.number (number_front front).1 (takes_number literal ends))
      | string quoted =>
          obtain ⟨units, body, written, rfl, eq⟩ := quoted
          exact takes_value_iff.mpr
            (.string rfl (takes_string_iff.mpr ⟨_, rfl, units, body, written, rfl, eq⟩))
      | array sequence =>
          refine takes_value_iff.mpr (.array rfl rfl (takes_of_sequence inner
            (solid_written _ (.inl rfl)) (.inl rfl) sequence ?_ rest))
          exact Nat.le_of_succ_le_succ short
      | object sequence =>
          refine takes_value_iff.mpr (.object rfl rfl (takes_of_sequence
            (complete_member inner (solid_written _ (.inr rfl))) solid_member (.inr rfl)
            sequence ?_ rest))
          exact Nat.le_of_succ_le_succ short

end Reading

/-! ### Whole texts -/

open Reading

theorem ends_of_blanks {b : List Char} (blank : Blanks b) : Ends b := by
  have ends : Ends (b ++ []) := ends_append blank fun c front => nomatch front
  rwa [List.append_nil] at ends

/-- **A text is read as a value if and only if it holds the value.** -/
theorem parse?_eq_some_iff {text : String} {j : Json} : parse? text = some j ↔ Holds text j := by
  unfold parse?
  dsimp only
  constructor
  · intro read
    obtain ⟨a, front, before⟩ := blanks_skip text.toList
    split at read
    · cases read
    · next taken found =>
      split at read
      · next nothing =>
        cases read
        obtain ⟨w, eq, written⟩ := written_of_takes ⟨taken, found, rfl, rfl⟩
        obtain ⟨b, gap, behind⟩ := blanks_skip taken.rest
        rw [nothing, List.append_nil] at gap
        exact ⟨a, w, taken.rest, by rw [← eq, ← front], before, written, gap ▸ behind⟩
      · cases read
  · rintro ⟨a, w, b, text_eq, before, written, behind⟩
    obtain ⟨c, cs, rfl, ink, -⟩ := exists_front_of_written written
    have front : skip text.toList = c :: cs ++ b := by
      rw [text_eq]
      exact skip_append before (by simp [ink])
    have taken : Takes (value (skip text.toList).length) (skip text.toList) j b := by
      rw [front]
      exact takes_of_written written (by simp) (ends_of_blanks behind)
    obtain ⟨read, found, rfl, rfl⟩ := taken
    have nothing : skip read.rest = [] := by
      have skipped : skip (read.rest ++ []) = [] :=
        skip_append behind fun c front => nomatch front
      rwa [List.append_nil] at skipped
    rw [found]
    exact if_pos nothing

/-- A text holds one value at most. -/
theorem Holds.unique {text : String} {j k : Json} (first : Holds text j) (second : Holds text k) :
    j = k :=
  Option.some.inj ((parse?_eq_some_iff.mpr first).symm.trans (parse?_eq_some_iff.mpr second))

end Workflow.Json
