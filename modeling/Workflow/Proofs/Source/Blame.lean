import Workflow.Proofs.Source.Foresight

/-!
# Failures name the first wrong token

When tokens are no workflow, the failure names one of them, and it is the first that can be
blamed: the tokens before it begin some workflow, and together with it they begin none.

## Main Statements

* `Source.graphOf_eq_error` — what a failure says about the tokens before it and behind it.
* `Source.blames_first_wrong_token` — failures name the first wrong token.
-/

namespace Workflow.Source

open Grammar

variable {stop : Token} {ts : List Token}

/-! ### Whole workflows -/

/-- A name stands in front. -/
def Titled (ts rest : List Token) : Prop := ∃ t, isName t = true ∧ ts = t :: rest

theorem viable_titled : Viable Titled [] :=
  ⟨[mark .identifier], by decide, fun _ => ⟨mark .identifier, rfl, rfl⟩⟩

theorem timely_graphName (stop : Token) (ts : List Token) :
    Timely (fun stop ts => graphName stop ts) Titled stop ts := by
  cases ts with
  | nil => exact .ends _ rfl viable_titled
  | cons t ts =>
      by_cases named : isName t
      · exact .token t.value (fun _ _ => if_pos named) fun _ => ⟨t, named, rfl⟩
      · exact .blamed .graphName (fun _ _ => if_neg named) viable_titled

/-- A workflow up to the brace that closes it. -/
def framed (stop : Token) (ts : List Token) : Except Failure (Draft × List Token) := do
  let (_, ts) ← expect stop .digraph ts
  let (name, ts) ← graphName stop ts
  let (_, ts) ← expect stop .lbrace ts
  blockParts stop (.start name) ts

/-- A block stands in front, behind its opening brace. -/
def Braced (ts rest : List Token) : Prop := ∃ us, Marked .lbrace ts us ∧ Enclosed us rest

/-- A name and a block. -/
def TitledBlock (ts rest : List Token) : Prop := ∃ us, Titled ts us ∧ Braced us rest

/-- A workflow stands in front. -/
def Framed (ts rest : List Token) : Prop := ∃ us, Marked .digraph ts us ∧ TitledBlock us rest

theorem viable_braced : Viable Braced [] :=
  ⟨[mark .lbrace, mark .rbrace], by decide, fun _ =>
    ⟨_, ⟨mark .lbrace, rfl, rfl⟩, .done, mark .rbrace, rfl, .done⟩⟩

theorem viable_titledBlock : Viable TitledBlock [] :=
  ⟨[mark .identifier, mark .lbrace, mark .rbrace], by decide, fun _ =>
    ⟨_, ⟨mark .identifier, rfl, rfl⟩, _, ⟨mark .lbrace, rfl, rfl⟩, .done, mark .rbrace, rfl, .done⟩⟩

theorem timely_framed (stop : Token) (ts : List Token) :
    Timely (fun stop ts => framed stop ts) Framed stop ts := by
  refine (timely_expect stop ts .digraph (by decide)).bind
    (fun _ stop us => graphName stop us >>= fun name =>
      expect stop .lbrace name.2 >>= fun opening => blockParts stop (.start name.1) opening.2)
    (fun _ us _ => ?_) viable_titledBlock (fun _ _ => rfl)
    fun _ vs _ word block => ⟨vs, word, block⟩
  refine (timely_graphName stop us).bind
    (fun name stop us => expect stop .lbrace us >>= fun opening =>
      blockParts stop (.start name) opening.2)
    (fun name us _ => ?_) viable_braced (fun _ _ => rfl)
    fun _ vs _ title block => ⟨vs, title, block⟩
  exact (timely_expect stop us .lbrace (by decide)).bind
    (fun _ stop us => blockParts stop (.start name) us)
    (fun _ us _ => timely_blockParts stop us (.start name)) viable_enclosed (fun _ _ => rfl)
    fun _ vs _ opens block => ⟨vs, opens, block⟩

/-- Behind a workflow nothing may stand. -/
theorem graphOf_eq_bind (stop : Token) (ts : List Token) :
    graphOf stop ts = framed stop ts >>= fun read =>
      match read.2 with
      | [] => .ok read.1.graph
      | t :: _ => .error ⟨.trailing, t⟩ := by
  have parts : graphParts stop ts = framed stop ts >>= fun read =>
      match read.2 with
      | [] => .ok (read.1.graph, [])
      | t :: _ => .error ⟨.trailing, t⟩ := by
    unfold graphParts framed
    cases expect stop .digraph ts with
    | error failure => rfl
    | ok word =>
        simp only [bind, Except.bind]
        cases graphName stop word.2 with
        | error failure => rfl
        | ok name =>
            dsimp only
            cases expect stop .lbrace name.2 with
            | error failure => rfl
            | ok opening => rfl
  rw [graphOf_eq, parts]
  rcases framed stop ts with failure | ⟨d, _ | ⟨t, rest⟩⟩ <;> rfl

theorem exists_whole_of_framed (frame : Framed ts []) : ∃ name body, Whole ts name body := by
  obtain ⟨us, ⟨word, isWord, rfl⟩, vs, ⟨title, named, rfl⟩, ws, ⟨opening, opens, rfl⟩, body,
    closing, closes, items⟩ := frame
  exact ⟨_, body, .digraph isWord named opens items closes⟩

/-- **What a failure says.**  Either it blames one of the tokens, and would do so whatever were
behind that one, or it finds that there are too few; and what is before can be completed. -/
theorem graphOf_eq_error {failure : Failure} (failed : graphOf stop ts = .error failure) :
    (∃ before behind, ts = before ++ failure.token :: behind ∧
      (∀ stop' behind', graphOf stop' (before ++ failure.token :: behind') = .error failure) ∧
      ∃ more, (∀ t ∈ more, t.kind ≠ .eof) ∧ ∃ name body, Whole (before ++ more) name body) ∨
    failure.token = stop ∧
      ∃ more, (∀ t ∈ more, t.kind ≠ .eof) ∧ ∃ name body, Whole (ts ++ more) name body := by
  rw [graphOf_eq_bind] at failed
  cases timely_framed stop ts with
  | @reads d taken rest eq read spelled =>
      subst eq
      rw [read stop rest rfl] at failed
      cases rest with
      | nil => cases failed
      | cons t behind =>
          cases failed
          refine .inl ⟨taken, behind, rfl, fun stop' behind' => ?_, [], List.forall_mem_nil _,
            exists_whole_of_framed (spelled [])⟩
          exact (graphOf_eq_bind stop' _).trans (by rw [read stop' (t :: behind') rfl]; rfl)
  | @blames found before behind eq refused viable =>
      subst eq
      rw [refused] at failed
      cases failed
      obtain ⟨more, inside, completed⟩ := viable
      refine .inl ⟨before, behind, rfl, fun stop' behind' => ?_, more ++ [], by simpa using inside,
        exists_whole_of_framed (completed [])⟩
      rw [graphOf_eq_bind, refused]
      rfl
  | ends problem ended viable =>
      rw [ended] at failed
      cases failed
      obtain ⟨more, inside, completed⟩ := viable
      exact .inr ⟨rfl, more ++ [], by simpa using inside, exists_whole_of_framed (completed [])⟩

/-! ### The end of the input -/

/-- Whether a token that says this stands before the end of the input. -/
def goesOn (content : Kind × String) : Bool := content.1 != .eof

theorem goesOn_content {t : Token} (other : t.kind ≠ .eof) : goesOn t.content = true := by
  simpa [goesOn, Token.content] using other

theorem goesOn_end {t : Token} (isEnd : t.kind = .eof) : ¬goesOn t.content = true := by
  simp [goesOn, Token.content, isEnd]

/-- Some tokens and what is said up to the end behind them. -/
theorem takeWhile_goesOn {before : List Token} (inside : ∀ t ∈ before, t.kind ≠ .eof)
    (behind : List (Kind × String)) :
    (before.map (·.content) ++ behind).takeWhile goesOn =
      before.map (·.content) ++ behind.takeWhile goesOn := by
  refine List.takeWhile_append_of_pos fun content mem => ?_
  obtain ⟨t, isInside, rfl⟩ := List.mem_map.mp mem
  exact goesOn_content (inside t isInside)

/-- What is said before the first `eof`. -/
theorem takeWhile_goesOn_eq {before behind : List Token} {stop : Token} (isEnd : stop.kind = .eof)
    (inside : ∀ t ∈ before, t.kind ≠ .eof) :
    ((before ++ stop :: behind).map (·.content)).takeWhile goesOn = before.map (·.content) := by
  rw [List.map_append, takeWhile_goesOn inside, List.map_cons,
    List.takeWhile_cons_of_neg (goesOn_end isEnd), List.append_nil]

/-- Tokens that say what is wanted. -/
theorem exists_map_content (contents : List (Kind × String)) :
    ∃ us : List Token, us.map (·.content) = contents := by
  refine ⟨contents.map fun content => ⟨content.1, content.2, .start⟩, ?_⟩
  rw [List.map_map]
  exact List.map_id contents

/-- The first `eof` of some tokens is where reading ends. -/
theorem exists_untilEnd {us : List Token} (ended : ∃ t ∈ us, t.kind = .eof) :
    ∃ before stop behind, us = before ++ stop :: behind ∧ stop.kind = .eof ∧
      (∀ t ∈ before, t.kind ≠ .eof) ∧ untilEnd us = (before, some stop) := by
  induction us with
  | nil =>
      obtain ⟨t, mem, -⟩ := ended
      exact absurd mem List.not_mem_nil
  | cons u us ih =>
      by_cases isEnd : u.kind = .eof
      · exact ⟨[], u, us, rfl, isEnd, fun t mem => absurd mem List.not_mem_nil, if_pos isEnd⟩
      · obtain ⟨t, mem, kind⟩ := ended
        have later : ∃ t ∈ us, t.kind = .eof :=
          ⟨t, (List.mem_cons.mp mem).resolve_left (fun eq => isEnd (eq ▸ kind)), kind⟩
        obtain ⟨before, stop, behind, rfl, kind, inside, found⟩ := ih later
        refine ⟨u :: before, stop, behind, rfl, kind, ?_, ?_⟩
        · exact List.forall_mem_cons.mpr ⟨isEnd, inside⟩
        · rw [untilEnd, if_neg isEnd, found]

/-- Of tokens that are a graph, those up to the first `eof` have been read. -/
theorem exists_graphOf_of_graph {us : List Token} {g : Graph} (read : graph us = .ok g) :
    ∃ before stop behind, us = before ++ stop :: behind ∧ stop.kind = .eof ∧
      (∀ t ∈ before, t.kind ≠ .eof) ∧ graphOf stop before = .ok g := by
  unfold graph at read
  split at read
  · cases read
  · next last isLast =>
      split at read
      · next isEnd =>
          obtain ⟨before, stop, behind, eq, kind, inside, found⟩ :=
            exists_untilEnd ⟨last, List.mem_of_getLast? isLast, isEnd⟩
          rw [found] at read
          exact ⟨before, stop, behind, eq, kind, inside, read⟩
      · cases read

/-- Tokens that are refused stay refused when others say the same. -/
theorem graphOf_ne_ok_of_content {stop stop' : Token} {ts us : List Token} {failure : Failure}
    (failed : graphOf stop ts = .error failure) (last : stop.content = stop'.content)
    (same : ts.map (·.content) = us.map (·.content)) (g : Graph) : graphOf stop' us ≠ .ok g := by
  intro read
  rcases graphOf_agrees last same with ⟨_, read', -⟩ | ⟨_, _, -, failed', -⟩
  · rw [failed] at read'
    cases read'
  · rw [read] at failed'
    cases failed'

/-- A workflow in front of an `eof`. -/
theorem graph_of_whole {before more : List Token} {stop : Token} {name : String} {body : Body}
    (isEnd : stop.kind = .eof) (inside : ∀ t ∈ before, t.kind ≠ .eof)
    (insideMore : ∀ t ∈ more, t.kind ≠ .eof) (whole : Whole (before ++ more) name body) :
    graph (before ++ (more ++ [stop])) = .ok (body.graph name) := by
  rw [← List.append_assoc, graph_concat isEnd, graphOf_of_whole stop whole]
  exact fun t mem => (List.mem_append.mp mem).elim (inside t) (insideMore t)

/-- **Failures name the first wrong token.**  When tokens that end with their only `eof` are no
workflow, the failure names one of them and tells its place.  The tokens before it begin a workflow,
but none begins with these and it, in whatever places. -/
theorem blames_first_wrong_token {stop : Token} {ts : List Token} (isEnd : stop.kind = .eof)
    (inside : ∀ t ∈ ts, t.kind ≠ .eof) {failure : Failure}
    (failed : graph (ts ++ [stop]) = .error failure) :
    ∃ k, (ts ++ [stop])[k]? = some failure.token ∧
      failure.toError.position? = some failure.token.position ∧
      (∃ more g, more ≠ [] ∧ graph ((ts ++ [stop]).take k ++ more) = .ok g) ∧
      ∀ us, ((ts ++ [stop]).take (k + 1)).map (·.content) <+: us.map (·.content) →
        ∀ g, graph us ≠ .ok g := by
  rw [graph_concat isEnd inside] at failed
  rcases graphOf_eq_error failed with
    ⟨before, behind, rfl, refused, more, insideMore, name, body, whole⟩ |
    ⟨token, more, insideMore, name, body, whole⟩
  · -- a token is blamed: whoever begins with it goes on behind it
    have split : before ++ failure.token :: behind ++ [stop] =
        before ++ [failure.token] ++ (behind ++ [stop]) := by simp
    have upTo : (before ++ failure.token :: behind ++ [stop]).take (before.length + 1) =
        before ++ [failure.token] := by
      rw [split]
      exact List.take_left' List.length_append
    have begins : before ++ [failure.token] <+: before ++ failure.token :: behind :=
      ⟨behind, by simp⟩
    refine ⟨before.length, by simp, rfl, ?_, fun us agrees g read => ?_⟩
    · rw [List.append_assoc, List.take_left]
      exact ⟨more ++ [stop], body.graph name, by simp, graph_of_whole isEnd
        (fun t mem => inside t (List.mem_append_left _ mem)) insideMore whole⟩
    · obtain ⟨before', stop', behind', rfl, isEnd', inside', read⟩ := exists_graphOf_of_graph read
      rw [upTo] at agrees
      obtain ⟨others, said⟩ := agrees
      have same := congrArg (List.takeWhile goesOn) said
      rw [takeWhile_goesOn fun t mem => inside t (begins.subset mem),
        takeWhile_goesOn_eq isEnd' inside'] at same
      obtain ⟨later, eq⟩ := exists_map_content (others.takeWhile goesOn)
      refine graphOf_ne_ok_of_content (refused stop' later) rfl ?_ g read
      rw [← same, ← eq]
      simp
  · -- the tokens run out: whoever begins with them and their end has ended there
    refine ⟨ts.length, by simp [token], rfl, ?_, fun us agrees g read => ?_⟩
    · rw [List.take_left]
      exact ⟨more ++ [stop], body.graph name, by simp, graph_of_whole isEnd inside insideMore whole⟩
    · obtain ⟨before', stop', behind', rfl, isEnd', inside', read⟩ := exists_graphOf_of_graph read
      rw [List.take_of_length_le (by simp), List.map_append] at agrees
      obtain ⟨others, said⟩ := agrees
      rw [List.append_assoc] at said
      have same : ts.map (·.content) = before'.map (·.content) := by
        rw [← takeWhile_goesOn_eq isEnd' inside', ← said, takeWhile_goesOn inside]
        exact (List.append_nil _).symm.trans
          (congrArg _ (List.takeWhile_cons_of_neg (goesOn_end isEnd)).symm)
      have last : stop.content = stop'.content := by
        rw [List.map_append, ← same] at said
        exact (List.cons.inj (List.append_cancel_left said)).1
      exact graphOf_ne_ok_of_content failed last same g read

/-- In a block inside, an assignment that has a bracket in the place of its sign. -/
def brokenTokens : List Token :=
  [spelled .digraph "digraph", spelled .identifier "g", spelled .lbrace "\x7b",
    spelled .subgraph "subgraph", spelled .lbrace "\x7b", spelled .identifier "a",
    spelled .arrow "->", spelled .identifier "b", spelled .identifier "style", spelled .dot ".",
    spelled .identifier "fill",
    spelled .lbracket "[", spelled .rbracket "]", spelled .rbrace "\x7d"]

/-- The bracket is blamed, and neither the missing brace behind it nor the point before it. -/
theorem brokenTokens_blames_bracket :
    ((spelled .eof "").kind = .eof ∧ (∀ t ∈ brokenTokens, t.kind ≠ .eof) ∧
      graph (brokenTokens ++ [spelled .eof ""]) =
        .error ⟨.expected .equals, spelled .lbracket "["⟩) ∧
      ∃ k, (brokenTokens ++ [spelled .eof ""])[k]? = some (spelled .lbracket "[") ∧
        (∃ more g, more ≠ [] ∧
          graph ((brokenTokens ++ [spelled .eof ""]).take k ++ more) = .ok g) ∧
        ∀ us, ((brokenTokens ++ [spelled .eof ""]).take (k + 1)).map (·.content) <+:
            us.map (·.content) → ∀ g, graph us ≠ .ok g := by
  have isEnd : (spelled .eof "").kind = .eof := rfl
  have inside : ∀ t ∈ brokenTokens, t.kind ≠ .eof := by decide +kernel
  have seen : (match graph (brokenTokens ++ [spelled .eof ""]) with
      | .ok _ => none
      | .error failure => some failure) = some ⟨.expected .equals, spelled .lbracket "["⟩ := by
    decide +kernel
  cases failed : graph (brokenTokens ++ [spelled .eof ""]) with
  | ok g =>
      rw [failed] at seen
      cases seen
  | error failure =>
      rw [failed] at seen
      obtain rfl := Option.some.inj seen
      obtain ⟨k, token, -, viable, refused⟩ := blames_first_wrong_token isEnd inside failed
      exact ⟨⟨isEnd, inside, rfl⟩, k, token, viable, refused⟩

end Workflow.Source
