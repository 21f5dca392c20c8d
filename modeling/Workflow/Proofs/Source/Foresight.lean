import Workflow.Proofs.Source.Exactness
import Workflow.Proofs.Source.Places

/-!
# Readers stop at the first wrong token

A reader of tokens looks one token ahead and never back.  What it has read it has read for
good: the tokens behind, all but the next one, make no difference to that.  And while it
goes on, there is always a way to complete what it has read, so when it fails, then at the
first token behind which there is none.

## Main Definitions

* `Grammar.Viable` — tokens that can be completed to what a production spells.
* `Grammar.Timely` — how a reader fares that looks one token ahead.

## Main Statements

* `Grammar.Timely.bind` — readers that follow one another are timely if each of them is.
* `Grammar.timely_statement`, `Grammar.timely_blockParts` — statements and blocks are
  read timely.

## Design Notes

Viability is a matter of the grammar and not of the readers: a completion must do whatever
follows it, and productions do not look at what follows.  Of a production only the tokens
count here, not what they spell, so it appears as a relation between tokens and the tokens
left behind it.
-/

namespace Workflow.Grammar

/-- Takes something off the front of a token list; the token behind the list comes first. -/
abbrev Taker (α : Type) := Token → List Token → Except Failure (α × List Token)

/-- The tokens can be completed to what `R` spells, whatever follows. -/
def Viable (R : List Token → List Token → Prop) (before : List Token) : Prop :=
  ∃ more, (∀ t ∈ more, t.kind ≠ .eof) ∧ ∀ rest, R (before ++ (more ++ rest)) rest

/-- How a reader fares that looks one token ahead, reading what `R` spells. -/
inductive Timely {α : Type} (x : Taker α) (R : List Token → List Token → Prop) (stop : Token)
    (ts : List Token) : Prop
  /-- It takes some tokens, and would take them in front of any others that begin alike. -/
  | reads (a : α) (taken : List Token) {rest : List Token} (eq : ts = taken ++ rest)
      (read : ∀ stop' rest', rest'.head? = rest.head? → x stop' (taken ++ rest') = .ok (a, rest'))
      (spelled : ∀ rest', R (taken ++ rest') rest')
  /-- It blames a token, and would do so whatever is behind it; what is before is viable. -/
  | blames (failure : Failure) (before : List Token) {behind : List Token}
      (eq : ts = before ++ failure.token :: behind)
      (failed : ∀ stop' behind', x stop' (before ++ failure.token :: behind') = .error failure)
      (viable : Viable R before)
  /-- It runs out of tokens, all of which are viable. -/
  | ends (problem : Problem) (failed : x stop ts = .error ⟨problem, stop⟩) (viable : Viable R ts)

namespace Viable

variable {R S T : List Token → List Token → Prop} {before : List Token}

/-- What is viable behind some tokens is viable together with them. -/
theorem append (viable : Viable R before) (front : List Token)
    (sub : ∀ us rest, R us rest → S (front ++ us) rest) : Viable S (front ++ before) := by
  obtain ⟨more, inside, completed⟩ := viable
  refine ⟨more, inside, fun rest => ?_⟩
  rw [List.append_assoc]
  exact sub _ _ (completed rest)

theorem mono (viable : Viable R before) (sub : ∀ us rest, R us rest → S us rest) :
    Viable S before :=
  viable.append [] sub

/-- What is viable stays so when something has to follow it that can be written. -/
theorem followed (viable : Viable R before) (starts : Viable S [])
    (chain : ∀ us vs rest, R us vs → S vs rest → T us rest) : Viable T before := by
  obtain ⟨more, inside, completed⟩ := viable
  obtain ⟨others, inside', started⟩ := starts
  refine ⟨more ++ others, fun t mem => ?_, fun rest => ?_⟩
  · exact (List.mem_append.mp mem).elim (inside t) (inside' t)
  · rw [List.append_assoc more]
    exact chain _ _ _ (completed _) (started rest)

end Viable

namespace Timely

variable {α β : Type} {x : Taker α} {y : Taker β} {R S T : List Token → List Token → Prop}
variable {stop : Token} {ts : List Token}

theorem head?_append_congr {taken rest rest' : List Token} (same : rest'.head? = rest.head?) :
    (taken ++ rest').head? = (taken ++ rest).head? := by
  rw [List.head?_append, List.head?_append, same]

theorem head?_append_cons {before us vs : List Token} {t : Token} :
    (before ++ t :: us).head? = (before ++ t :: vs).head? :=
  head?_append_congr rfl

/-- A reader that does what another one does with lists that begin alike. -/
theorem congr (timely : Timely x R stop ts) {y : Taker α}
    (same : ∀ stop' us, us.head? = ts.head? → y stop' us = x stop' us)
    (sub : ∀ us rest, R us rest → S us rest) : Timely y S stop ts := by
  cases timely with
  | reads a taken eq read spelled =>
      subst eq
      exact .reads a taken rfl
        (fun stop' rest' alike => (same _ _ (head?_append_congr alike)).trans (read _ _ alike))
        fun rest' => sub _ _ (spelled rest')
  | blames failure before eq failed viable =>
      subst eq
      exact .blames failure before rfl
        (fun stop' behind' => (same _ _ head?_append_cons).trans (failed _ _)) (viable.mono sub)
  | ends problem failed viable =>
      exact .ends problem ((same _ _ rfl).trans failed) (viable.mono sub)

/-- A reader that goes on, behind some tokens, as another one. -/
theorem behind (timely : Timely x R stop ts) {y : Taker α} (front : List Token)
    (same : ∀ stop' us, y stop' (front ++ us) = x stop' us)
    (sub : ∀ us rest, R us rest → S (front ++ us) rest) : Timely y S stop (front ++ ts) := by
  cases timely with
  | reads a taken eq read spelled =>
      subst eq
      refine .reads a (front ++ taken) (List.append_assoc _ _ _).symm (fun stop' rest' alike => ?_)
        fun rest' => ?_
      · rw [List.append_assoc, same, read _ _ alike]
      · rw [List.append_assoc]
        exact sub _ _ (spelled rest')
  | blames failure before eq failed viable =>
      subst eq
      refine .blames failure (front ++ before) (List.append_assoc _ _ _).symm
        (fun stop' behind' => ?_) (viable.append front sub)
      rw [List.append_assoc, same, failed]
  | ends problem failed viable =>
      exact .ends problem ((same _ _).trans failed) (viable.append front sub)

/-- A reader that makes something else of what another one reads. -/
theorem map (timely : Timely x R stop ts) (f : α → β)
    (same : ∀ stop' us, y stop' us = (x stop' us).map (Prod.map f id)) : Timely y R stop ts := by
  cases timely with
  | reads a taken eq read spelled =>
      exact .reads (f a) taken eq (fun stop' rest' alike => by rw [same, read _ _ alike]; rfl)
        spelled
  | blames failure before eq failed viable =>
      exact .blames failure before eq (fun stop' behind' => by rw [same, failed]; rfl) viable
  | ends problem failed viable => exact .ends problem (by rw [same, failed]; rfl) viable

/-- **Readers that follow one another are timely if each of them is.**  The second must be able to
succeed at all, for else the first could not be completed. -/
theorem bind (first : Timely x R stop ts) (more : α → Taker β)
    (second : ∀ a rest, x stop ts = .ok (a, rest) → Timely (more a) S stop rest)
    (starts : Viable S [])
    (same : ∀ stop' us, y stop' us = x stop' us >>= fun read => more read.1 stop' read.2)
    (chain : ∀ us vs rest, R us vs → S vs rest → T us rest) : Timely y T stop ts := by
  cases first with
  | @reads a taken rest eq read spelled =>
      subst eq
      -- what the first has taken stays taken, since the second keeps the token behind it
      have onward (stop' : Token) (rest' : List Token) (alike : rest'.head? = rest.head?) :
          y stop' (taken ++ rest') = more a stop' rest' := by
        rw [same, read stop' rest' alike]
        rfl
      cases second a rest (read stop rest rfl) with
      | reads b others eq readMore spelledMore =>
          subst eq
          refine .reads b (taken ++ others) (List.append_assoc _ _ _).symm
            (fun stop' rest' alike => ?_) fun rest' => ?_
          · rw [List.append_assoc, onward _ _ (head?_append_congr alike), readMore _ _ alike]
          · rw [List.append_assoc]
            exact chain _ _ _ (spelled _) (spelledMore rest')
      | blames failure before eq failed viable =>
          subst eq
          refine .blames failure (taken ++ before) (List.append_assoc _ _ _).symm
            (fun stop' behind' => ?_) (viable.append taken fun us _ => chain _ us _ (spelled us))
          rw [List.append_assoc, onward _ _ head?_append_cons, failed]
      | ends problem failed viable =>
          exact .ends problem ((onward _ _ rfl).trans failed)
            (viable.append taken fun us _ => chain _ us _ (spelled us))
  | blames failure before eq failed viable =>
      exact .blames failure before eq (fun stop' behind' => by rw [same, failed]; rfl)
        (viable.followed starts chain)
  | ends problem failed viable =>
      exact .ends problem (by rw [same, failed]; rfl) (viable.followed starts chain)

/-- Nothing is taken where nothing begins that could be. -/
theorem nothing (a : α)
    (read : ∀ stop' us, us.head? = ts.head? → x stop' us = .ok (a, us))
    (spelled : ∀ rest, R rest rest) : Timely x R stop ts :=
  .reads a [] rfl read spelled

/-- The first token is taken. -/
theorem token {t : Token} (a : α) (read : ∀ stop' us, x stop' (t :: us) = .ok (a, us))
    (spelled : ∀ rest, R (t :: rest) rest) : Timely x R stop (t :: ts) :=
  .reads a [t] rfl (fun stop' rest' _ => read stop' rest') spelled

/-- The first token is blamed. -/
theorem blamed {t : Token} (problem : Problem)
    (failed : ∀ stop' us, x stop' (t :: us) = .error ⟨problem, t⟩) (starts : Viable R []) :
    Timely x R stop (t :: ts) :=
  .blames ⟨problem, t⟩ [] rfl failed starts

end Timely

/-! ### Names and values -/

variable (stop : Token) (ts : List Token)

/-- A token of a kind, whatever else it says. -/
def mark (kind : Kind) : Token := ⟨kind, "", .start⟩

/-- A token of the kind stands in front. -/
def Marked (kind : Kind) (ts rest : List Token) : Prop := ∃ t, t.kind = kind ∧ ts = t :: rest

theorem viable_marked {kind : Kind} (inside : kind ≠ .eof) : Viable (Marked kind) [] :=
  ⟨[mark kind], by simpa [mark] using inside, fun _ => ⟨mark kind, rfl, rfl⟩⟩

theorem timely_expect (kind : Kind) (inside : kind ≠ .eof) :
    Timely (fun stop ts => expect stop kind ts) (Marked kind) stop ts := by
  cases ts with
  | nil => exact .ends _ rfl (viable_marked inside)
  | cons t ts =>
      by_cases due : t.kind = kind
      · exact .token t (fun _ _ => if_pos due) fun rest => ⟨t, due, rfl⟩
      · exact .blamed (.expected kind) (fun _ _ => if_neg due) (viable_marked inside)

/-- What a list begins with is seen from its first token. -/
theorem not_beginsWith_congr {kinds : List Kind} {us vs : List Token} (same : us.head? = vs.head?)
    (not : ¬BeginsWith kinds vs) : ¬BeginsWith kinds us := by
  cases us with
  | nil => exact id
  | cons u us =>
      cases vs with
      | nil => cases same
      | cons v vs =>
          rw [List.head?_cons, List.head?_cons, Option.some.injEq] at same
          rw [beginsWith_cons, same]
          exact not

theorem timely_dotted (name : String) :
    Timely (fun stop ts => dotted stop name ts) (fun ts rest => ∃ others, Dotted ts others rest)
      stop ts := by
  -- where no point stands in front, nothing is read
  have done {ts : List Token} (name : String) (ends : ¬BeginsWith [.dot] ts) :
      Timely (fun stop ts => dotted stop name ts) (fun ts rest => ∃ others, Dotted ts others rest)
        stop ts :=
    .nothing name (fun stop' us alike =>
      dotted_of_not_beginsWith stop' (not_beginsWith_congr alike ends)) fun _ => ⟨"", .done⟩
  have part? (point : Token) (isPoint : point.kind = .dot) :
      Viable (fun ts rest => ∃ others, Dotted ts others rest) [point] :=
    ⟨[mark .identifier], by decide, fun _ => ⟨_, .more isPoint rfl .done⟩⟩
  fun_induction dotted stop name ts with
  | case1 name => exact done name id
  | case2 name point isPoint =>
      exact .ends (.expected .identifier) (by rw [dotted, if_pos isPoint])
        (part? point isPoint)
  | case3 name t noPoint => exact done name (by simpa using noPoint)
  | case4 name point part ts isPoint isPart ih =>
      refine ih.behind [point, part] (fun stop' us => ?_)
        fun us rest read =>
          read.elim fun _ dotted => ⟨_, .more isPoint isPart dotted⟩
      exact (if_pos isPoint).trans (if_pos isPart)
  | case5 name point part ts isPoint noPart =>
      exact .blames ⟨.expected .identifier, part⟩ [point] rfl
        (fun _ _ => by
          simp only [List.singleton_append]
          rw [dotted, if_pos isPoint, if_neg noPart])
        (part? point isPoint)
  | case6 name t part ts noPoint => exact done name (by simpa using noPoint)

theorem timely_key {t : Token} (named : isName t = true) :
    Timely (fun stop ts => key stop t ts) (fun ts rest => ∃ name, Key (t :: ts) name rest)
      stop ts := by
  by_cases quoted : t.kind = .string
  · exact .nothing t.value (fun _ _ _ => if_pos quoted) fun _ => ⟨_, .quoted quoted⟩
  · have word : t.kind = .identifier := (kind_of_isName named).resolve_right quoted
    exact (timely_dotted stop ts t.value).congr (fun _ _ _ => if_neg quoted)
      fun _ _ read => read.elim fun _ others => ⟨_, .dotted word others⟩

theorem viable_written : Viable (fun ts rest => ∃ v, Written ts v rest) [] :=
  ⟨[mark .string], by decide, fun _ => ⟨_, .literal (.text rfl)⟩⟩

theorem timely_value :
    Timely (fun stop ts => value stop ts) (fun ts rest => ∃ v, Written ts v rest) stop ts := by
  cases ts with
  | nil => exact .ends _ rfl viable_written
  | cons t ts =>
      by_cases word : t.kind = .identifier
      · have named : Timely (fun stop us => value stop (t :: us))
            (fun us rest => ∃ others, Dotted us others rest) stop ts :=
          (timely_dotted stop ts t.value).map Value.text fun _ _ => if_pos word
        exact named.behind [t] (fun _ _ => rfl) fun _ _ read =>
          read.elim fun _ others => ⟨_, .name word others⟩
      · cases spells : literal t with
        | ok v =>
            refine .token v (fun stop' us => ?_) fun _ =>
              ⟨v, .literal (literal_eq_ok_iff.mp spells)⟩
            rw [value, if_neg word, spells]
        | error problem =>
            refine .blamed problem (fun stop' us => ?_) viable_written
            rw [value, if_neg word, spells]

/-- A sign of equality and a value. -/
def SignedValue (ts rest : List Token) : Prop :=
  ∃ us, Marked .equals ts us ∧ ∃ v, Written us v rest

theorem viable_signedValue : Viable SignedValue [] :=
  ⟨[mark .equals, mark .string], by decide, fun _ =>
    ⟨_, ⟨mark .equals, rfl, rfl⟩, _, .literal (t := mark .string) (.text rfl)⟩⟩

theorem timely_namedValue {t : Token} (named : isName t = true) :
    Timely (fun stop ts => namedValue stop t ts)
      (fun ts rest => ∃ pair, Assignment (t :: ts) pair rest) stop ts := by
  refine (timely_key stop ts named).bind
    (fun name stop us => expect stop .equals us >>= fun sign =>
      value stop sign.2 >>= fun v => .ok ((name, v.1), v.2))
    (fun name rest _ => ?_) viable_signedValue (fun _ _ => rfl) ?_
  · refine (timely_expect stop rest .equals (by decide)).bind
      (fun _ stop us => value stop us >>= fun v => .ok ((name, v.1), v.2))
      (fun sign rest _ => ?_) viable_written (fun _ _ => rfl) fun us vs rest marked written =>
        ⟨vs, marked, written⟩
    exact (timely_value stop rest).map (fun v => (name, v)) fun stop' us => by
      cases value stop' us <;> rfl
  · rintro us vs rest ⟨name, key⟩ ⟨ws, ⟨sign, equals, rfl⟩, v, written⟩
    exact ⟨_, .assign key equals written⟩

/-! ### Lists of attributes -/

theorem viable_pairs : Viable (fun ts rest => ∃ pairs, Pairs ts pairs rest) [] :=
  ⟨[mark .rbracket], by decide, fun _ => ⟨_, .close rfl⟩⟩

theorem timely_attributes :
    Timely (fun stop ts => attributes stop ts) (fun ts rest => ∃ pairs, Pairs ts pairs rest)
      stop ts := by
  induction length : ts.length using Nat.strongRecOn generalizing ts with
  | ind n ih =>
      cases ts with
      | nil => exact .ends .attributeName (by rw [attributes]) viable_pairs
      | cons t ts =>
          by_cases bracket : t.kind = .rbracket
          · exact .token [] (fun _ _ => by rw [attributes_cons, if_pos bracket])
              fun _ => ⟨_, .close bracket⟩
          by_cases separates : t.kind = .comma ∨ t.kind = .semicolon
          · refine (ih ts.length (by rw [← length]; exact Nat.lt_succ_self _) ts rfl).behind [t]
              (fun stop' us => ?_) fun us rest read =>
                read.elim fun _ others => ⟨_, .separator separates others⟩
            exact (attributes_cons stop' t us).trans ((if_neg bracket).trans (if_pos separates))
          by_cases named : isName t
          · have more : Timely (fun stop us => attributes stop (t :: us))
                (fun us rest => ∃ pairs, Pairs (t :: us) pairs rest) stop ts := by
              refine (timely_namedValue stop ts named).bind
                (fun pair stop us => attributes stop us >>= fun pairs =>
                  .ok (pair :: pairs.1, pairs.2))
                (fun pair rest read => ?_) viable_pairs (fun stop' us => ?_)
                fun us vs rest first others =>
                  first.elim fun _ first => others.elim fun _ others => ⟨_, .more first others⟩
              · have shorter := namedValue_shorter stop read
                refine (ih rest.length (by rw [← length, List.length_cons]; omega) rest rfl).map
                  (pair :: ·) fun stop' us => ?_
                cases attributes stop' us <;> rfl
              · rw [attributes_cons, if_neg bracket, if_neg separates, if_pos named]
                rfl
            exact more.behind [t] (fun _ _ => rfl) fun _ _ => id
          · refine .blamed .attributeName (fun stop' us => ?_) viable_pairs
            rw [attributes_cons, if_neg bracket, if_neg separates, if_neg named]

theorem timely_attributeList :
    Timely (fun stop ts => attributeList stop ts)
      (fun ts rest => ∃ pairs, AttributeList ts pairs rest) stop ts := by
  refine (timely_expect stop ts .lbracket (by decide)).bind (fun _ stop us => attributes stop us)
    (fun _ rest _ => timely_attributes stop rest) viable_pairs (fun _ _ => rfl) ?_
  rintro us vs rest ⟨bracket, opens, rfl⟩ ⟨pairs, inside⟩
  exact ⟨pairs, .opened opens inside⟩

theorem viable_optionalList : Viable (fun ts rest => ∃ pairs, OptionalList ts pairs rest) [] :=
  ⟨[], by decide, fun _ => ⟨_, .missing⟩⟩

theorem timely_attributeList? :
    Timely (fun stop ts => attributeList? stop ts)
      (fun ts rest => ∃ pairs, OptionalList ts pairs rest) stop ts := by
  by_cases bracket : BeginsWith [.lbracket] ts
  · cases ts with
    | nil => exact absurd bracket (not_beginsWith_nil _)
    | cons t ts =>
        have opens : t.kind = .lbracket := by simpa using bracket
        exact (timely_attributes stop ts).behind [t] (fun _ _ => if_pos opens)
          fun _ _ read => read.elim fun _ inside => ⟨_, .present (.opened opens inside)⟩
  · refine .nothing [] (fun stop' us alike => ?_) fun _ => ⟨_, .missing⟩
    exact OptionalList.missing.eq_ok stop' (not_beginsWith_congr alike bracket)

/-! ### Statements -/

theorem timely_targets :
    Timely (fun stop ts => targets stop ts) (fun ts rest => ∃ ids, Targets ts ids rest)
      stop ts := by
  have done {ts : List Token} (ends : ¬BeginsWith [.arrow] ts) :
      Timely (fun stop ts => targets stop ts) (fun ts rest => ∃ ids, Targets ts ids rest)
        stop ts :=
    .nothing [] (fun stop' us alike => Targets.done.eq_ok stop' (not_beginsWith_congr alike ends))
      fun _ => ⟨_, .done⟩
  have target? (arrow : Token) (isArrow : arrow.kind = .arrow) :
      Viable (fun ts rest => ∃ ids, Targets ts ids rest) [arrow] :=
    ⟨[mark .identifier], by decide, fun _ => ⟨_, .more isArrow rfl .done⟩⟩
  fun_induction targets stop ts with
  | case1 => exact done id
  | case2 arrow isArrow =>
      exact .ends .nodeId (by rw [targets, if_pos isArrow]) (target? arrow isArrow)
  | case3 t noArrow => exact done (by simpa using noArrow)
  | case4 arrow id ts isArrow isId ih =>
      have more : Timely (fun stop us => targets stop (arrow :: id :: us))
          (fun us rest => ∃ ids, Targets us ids rest) stop ts :=
        ih.map (id.value :: ·) fun stop' us => (if_pos isArrow).trans (if_pos isId)
      exact more.behind [arrow, id] (fun _ _ => rfl)
        fun us rest read =>
          read.elim fun _ others => ⟨_, .more isArrow isId others⟩
  | case5 arrow id ts isArrow noId =>
      exact .blames ⟨.nodeId, id⟩ [arrow] rfl
        (fun _ _ => (if_pos isArrow).trans (if_neg noId)) (target? arrow isArrow)
  | case6 t id ts noArrow => exact done (by simpa using noArrow)

theorem timely_nodeOrChain {t : Token} (named : isName t = true) :
    Timely (fun stop ts => nodeOrChain stop t.value ts)
      (fun ts rest => ∃ s, Plain (t :: ts) s rest) stop ts := by
  refine (timely_targets stop ts).bind
    (fun others stop us => attributeList? stop us >>= fun pairs =>
      .ok (if others = [] then .node t.value pairs.1 else .chain t.value others pairs.1, pairs.2))
    (fun others rest _ => ?_) viable_optionalList (fun _ _ => rfl) ?_
  · refine (timely_attributeList? stop rest).map
      (fun pairs => if others = [] then .node t.value pairs else .chain t.value others pairs)
      fun stop' us => ?_
    cases attributeList? stop' us <;> rfl
  · rintro us vs rest ⟨ids, targets⟩ ⟨pairs, list⟩
    cases ids with
    | nil =>
        cases targets
        exact ⟨_, .node named list⟩
    | cons id ids => exact ⟨_, .chain named targets list⟩

/-- No statement begins with a token of another kind. -/
theorem statement_eq_error {t : Token} (other : t.kind ∉ statementKinds) :
    statement stop t ts = .error ⟨.statement, t⟩ := by
  unfold statement
  split
  case h_6 => rfl
  all_goals simp_all [statementKinds]

/-- Statements are read timely, once their first token can begin one. -/
theorem timely_statement {t : Token} (begins : t.kind ∈ statementKinds) :
    Timely (fun stop ts => statement stop t ts) (fun ts rest => ∃ s, Plain (t :: ts) s rest)
      stop ts := by
  -- three kinds of statement are a word and a list of attributes
  have listed (make : List (String × Value) → Statement)
      (same : ∀ stop' us,
        statement stop' t us = (attributeList stop' us).map (Prod.map make id))
      (spells : ∀ us pairs rest, AttributeList us pairs rest → Plain (t :: us) (make pairs) rest) :
      Timely (fun stop ts => statement stop t ts) (fun ts rest => ∃ s, Plain (t :: ts) s rest)
        stop ts :=
    ((timely_attributeList stop ts).map make same).congr (fun _ _ _ => rfl)
      fun _ _ read => read.elim fun _ list => ⟨_, spells _ _ _ list⟩
  simp only [statementKinds, List.mem_cons, List.not_mem_nil, or_false] at begins
  rcases begins with word | word | word | word | word
  · exact listed .graphAttributes (fun _ _ => by simp only [statement, word])
      fun _ _ _ list => .graphAttributes word list
  · exact listed .nodeDefaults (fun _ _ => by simp only [statement, word])
      fun _ _ _ list => .nodeDefaults word list
  · exact listed .edgeDefaults (fun _ _ => by simp only [statement, word])
      fun _ _ _ list => .edgeDefaults word list
  · have named : isName t = true := by simp [isName, word]
    -- whether it is an assignment is seen from the token behind the first
    have alike {us : List Token} (same : us.head? = ts.head?) : assigns us = assigns ts := by
      cases us <;> cases ts <;> simp_all [assigns]
    cases assigned : assigns ts with
    | true =>
        have assignment : Timely (fun stop us => (namedValue stop t us).map
            (Prod.map (fun pair => Statement.graphAttributes [pair]) id)) _ stop ts :=
          (timely_namedValue stop ts named).map (fun pair => Statement.graphAttributes [pair])
            fun _ _ => rfl
        refine assignment.congr (fun stop' us same => ?_)
          fun _ _ read => read.elim fun _ pair => ⟨_, .assignment word pair⟩
        simp only [statement, word, (alike same).trans assigned, if_true]
    | false =>
        refine (timely_nodeOrChain stop ts named).congr (fun stop' us same => ?_) fun _ _ => id
        simp only [statement, word, (alike same).trans assigned]
        rfl
  · exact (timely_nodeOrChain stop ts (by simp [isName, word])).congr
      (fun _ _ _ => by simp only [statement, word]) fun _ _ => id

/-! ### Blocks -/

/-- The brace that opens a block, behind its name if it has one. -/
def Opened (ts rest : List Token) : Prop := ∃ us, BlockName ts us ∧ Marked .lbrace us rest

theorem timely_opened :
    Timely (fun stop ts => expect stop .lbrace (afterBlockName ts)) Opened stop ts := by
  have bare : Timely (fun stop ts => expect stop .lbrace ts) Opened stop ts :=
    (timely_expect stop ts .lbrace (by decide)).congr (fun _ _ _ => rfl) fun us _ marked =>
      ⟨us, .missing, marked⟩
  cases ts with
  | nil =>
      exact .ends _ rfl ⟨[mark .lbrace], by decide, fun _ => ⟨_, .missing, mark .lbrace, rfl, rfl⟩⟩
  | cons t ts =>
      by_cases named : isName t
      · exact (timely_expect stop ts .lbrace (by decide)).behind [t]
          (fun stop' us => congrArg (expect stop' .lbrace) (if_pos named))
          fun us rest marked => ⟨us, .present named, marked⟩
      · refine bare.congr (fun stop' us alike => ?_) fun _ _ => id
        obtain ⟨us, rfl⟩ := List.head?_eq_some_iff.mp alike
        exact congrArg (expect stop' .lbrace) (if_neg named)

/-- What stands behind the opening brace of a block, with the brace that closes it. -/
def Enclosed (ts rest : List Token) : Prop :=
  ∃ body closing, closing.kind = .rbrace ∧ Items ts body (closing :: rest)

theorem viable_enclosed : Viable Enclosed [] :=
  ⟨[mark .rbrace], by decide, fun _ => ⟨.done, mark .rbrace, rfl, .done⟩⟩

/-- **Blocks are read timely**, on whatever draft. -/
theorem timely_blockParts (d : Draft) :
    Timely (fun stop ts => blockParts stop d ts) Enclosed stop ts := by
  induction length : ts.length using Nat.strongRecOn generalizing d ts with
  | ind n ih =>
      cases ts with
      | nil =>
          exact .ends (.expected .rbrace) (by rw [blockParts, block]; rfl) viable_enclosed
      | cons t ts =>
          -- the blocks inside and what follows them have fewer tokens
          have shorter (d : Draft) (us : List Token) (fewer : us.length ≤ ts.length) :
              Timely (fun stop ts => blockParts stop d ts) Enclosed stop us :=
            ih us.length (by rw [← length, List.length_cons]; omega) us d rfl
          have inside (us : List Token) (fewer : us.length ≤ ts.length) :
              Timely (fun stop ts => blockParts stop d.enter ts >>= fun inner =>
                blockParts stop inner.1.leave inner.2)
              (fun ts rest => ∃ vs, Enclosed ts vs ∧ Enclosed vs rest) stop us := by
            refine (shorter d.enter us fewer).bind
              (fun inner stop rest => blockParts stop inner.leave rest)
              (fun inner rest read => ?_) viable_enclosed (fun _ _ => rfl)
              fun _ vs _ first second => ⟨vs, first, second⟩
            have := blockParts_shorter stop read
            exact shorter _ rest (by omega)
          by_cases brace : t.kind = .rbrace
          · exact .token d (fun _ _ => by rw [blockParts_cons, if_pos brace])
              fun rest => ⟨.done, t, brace, .done⟩
          by_cases separates : t.kind = .semicolon ∨ t.kind = .comma
          · refine (shorter d ts (Nat.le_refl _)).behind [t] (fun stop' us => ?_) ?_
            · exact (blockParts_cons stop' d t us).trans ((if_neg brace).trans (if_pos separates))
            · rintro us rest ⟨body, closing, closes, items⟩
              exact ⟨body, closing, closes, .separator separates.symm items⟩
          by_cases opens : t.kind = .lbrace
          · refine (inside ts (Nat.le_refl _)).behind [t] (fun stop' us => ?_) ?_
            · exact (blockParts_cons stop' d t us).trans
                ((if_neg brace).trans ((if_neg separates).trans (if_pos opens)))
            · rintro us rest ⟨vs, ⟨block, close, isClose, items⟩, body, closing, closes, others⟩
              exact ⟨_, closing, closes, .inner opens items isClose others⟩
          have other (stop' : Token) (us : List Token) := (blockParts_cons stop' d t us).trans
            ((if_neg brace).trans ((if_neg separates).trans (if_neg opens)))
          by_cases word : t.kind = .subgraph
          · have named : Timely (fun stop us => blockParts stop d (t :: us))
                (fun us rest => Enclosed (t :: us) rest) stop ts := by
              refine (timely_opened stop ts).bind
                (fun _ stop us => blockParts stop d.enter us >>= fun inner =>
                  blockParts stop inner.1.leave inner.2)
                (fun opening body read => inside body ?_) ?_
                (fun stop' us => (other stop' us).trans (if_pos word)) ?_
              · have := expect_shorter stop read
                have := length_afterBlockName ts
                omega
              · exact ⟨[mark .rbrace, mark .rbrace], by decide, fun rest => ⟨mark .rbrace :: rest,
                  ⟨.done, mark .rbrace, rfl, .done⟩, .done, mark .rbrace, rfl, .done⟩⟩
              · rintro us vs rest ⟨_, name, opening, isOpening, rfl⟩
                  ⟨ws, ⟨block, close, isClose, items⟩, body, closing, closes, others⟩
                exact ⟨_, closing, closes, .subgraph word name isOpening items isClose others⟩
            exact named.behind [t] (fun _ _ => rfl) fun _ _ => id
          by_cases begins : t.kind ∈ statementKinds
          · have stated : Timely (fun stop us => blockParts stop d (t :: us))
                (fun us rest => Enclosed (t :: us) rest) stop ts := by
              refine (timely_statement stop ts begins).bind
                (fun s stop us => blockParts stop (d.run s) us)
                (fun s rest read => shorter _ rest (statement_shorter stop read)) viable_enclosed
                (fun stop' us => (other stop' us).trans (if_neg word)) ?_
              rintro us vs rest ⟨s, first⟩ ⟨body, closing, closes, others⟩
              exact ⟨_, closing, closes, .plain first others⟩
            exact stated.behind [t] (fun _ _ => rfl) fun _ _ => id
          · refine .blamed .statement (fun stop' us => ?_) viable_enclosed
            rw [other, if_neg word, statement_eq_error stop' us begins]
            rfl

end Workflow.Grammar
