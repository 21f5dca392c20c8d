/-!
# Scripts

Command lines that answer prompts are written in a small part of the shell's
language: simple commands with quoted words, variables and redirections, joined
by `;`, `&&`, `||` and `|`.

## Main Definitions

* `Word` — texts and variables that together make up words of a command.
* `Command`, `Step`, `Script` — the parts of a script.
* `Script.parse?` — the script of a text.

## Design Notes

This is the language of an emulator in the outer layer (`Shell.interpreter`),
which stands in for the shell of the system; no result is about it.

The scanner is a machine that is fed one character at a time, so reading a
script is a fold over its characters.  An operator waits for the next character
in a mode of its own, because it may turn out to be longer.
-/

namespace Workflow.Shell

/-- A part of a word. -/
inductive Piece where
  /-- Characters that stand for themselves. -/
  | text (cs : List Char)
  /-- The value of a variable, which is cut at blanks unless it is quoted. -/
  | value (name : String) (quoted : Bool)
  deriving DecidableEq, Repr

/-- A word as written. -/
abbrev Word := List Piece

/-- A word or an operator. -/
inductive Token where
  | word (w : Word)
  | operator (symbol : List Char)
  deriving DecidableEq, Repr

/-! ### The scanner -/

/-- What the next character is part of. -/
inductive Mode where
  /-- No quotes. -/
  | plain
  /-- The character behind a backslash. -/
  | escaped
  /-- Single quotes. -/
  | single
  /-- Double quotes. -/
  | double
  /-- The character behind a backslash in double quotes. -/
  | doubleEscaped
  /-- The character behind a dollar sign. -/
  | dollar (quoted : Bool)
  /-- The name of a variable. -/
  | name (quoted : Bool) (name : List Char)
  /-- The name of a variable in braces. -/
  | braced (quoted : Bool) (name : List Char)
  /-- An operator that may go on. -/
  | operator (symbol : List Char)
  /-- A comment. -/
  | comment
  deriving DecidableEq, Repr

/-- The state of the scanner. -/
structure Scanner where
  /-- What the next character is part of. -/
  mode : Mode
  /-- The word that is being read, its last piece first. -/
  word : Option (List Piece)
  /-- The tokens read so far, the last one first. -/
  tokens : List Token
  /-- Whether everything so far belongs to the language. -/
  sound : Bool

namespace Scanner

/-- Nothing read so far. -/
def start : Scanner := ⟨.plain, none, [], true⟩

/-- The scanner in another mode. -/
def within (s : Scanner) (mode : Mode) : Scanner := { s with mode }

/-- The scanner before something that is not of the language. -/
def reject (s : Scanner) : Scanner := { s with sound := false }

/-- Add a piece to the word. -/
def add (s : Scanner) (p : Piece) : Scanner := { s with word := some (p :: s.word.getD []) }

/-- Add a character to the word. -/
def push (s : Scanner) (c : Char) : Scanner :=
  match s.word with
  | some (.text cs :: pieces) => { s with word := some (.text (cs ++ [c]) :: pieces) }
  | _ => s.add (.text [c])

/-- End the word. -/
def endWord (s : Scanner) : Scanner :=
  match s.word with
  | some pieces => { s with word := none, tokens := .word pieces.reverse :: s.tokens }
  | none => s

/-- End an operator. -/
def endOperator (s : Scanner) (symbol : List Char) : Scanner :=
  { s with mode := .plain, tokens := .operator symbol :: s.tokens }

/-- Whether a character may stand in the name of a variable. -/
def isNameChar (c : Char) : Bool := c.isAlphanum || c == '_'

/-- Whether a character begins an operator. -/
def isOperatorChar (c : Char) : Bool := ";&|<>()\n".toList.contains c

/-- The operators of two characters. -/
def longOperators : List (List Char) :=
  ["&&", "||", ">>", ">&", "<&", ";;"].map String.toList

/-- Begin an operator.  Digits right before a redirection are its stream. -/
def openOperator (s : Scanner) (c : Char) : Scanner :=
  match s.word with
  | some [.text ds] =>
    if (c = '<' ∨ c = '>') ∧ ds.all Char.isDigit ∧ ds ≠ [] then
      { s with word := none, mode := .operator (ds ++ [c]) }
    else s.endWord.within (.operator [c])
  | _ => s.endWord.within (.operator [c])

/-- A character outside quotes. -/
def plainStep (s : Scanner) (c : Char) : Scanner :=
  if c = ' ' ∨ c = '\t' then s.endWord
  else if isOperatorChar c then s.openOperator c
  else if c = '\\' then s.within .escaped
  else if c = '\x27' then (s.add (.text [])).within .single
  else if c = '"' then (s.add (.text [])).within .double
  else if c = '$' then s.within (.dollar false)
  else if c = '\x60' then s.reject
  else if c = '#' ∧ s.word = none then s.within .comment
  else s.push c

/-- A character inside double quotes. -/
def doubleStep (s : Scanner) (c : Char) : Scanner :=
  if c = '"' then s.within .plain
  else if c = '\\' then s.within .doubleEscaped
  else if c = '$' then s.within (.dollar true)
  else if c = '\x60' then s.reject
  else s.push c

/-- The mode around a variable. -/
def around (quoted : Bool) : Mode := if quoted then .double else .plain

/-- A character behind something that has ended. -/
def resume (s : Scanner) (quoted : Bool) (c : Char) : Scanner :=
  if quoted then (s.within .double).doubleStep c else (s.within .plain).plainStep c

/-- Feed a character. -/
def step (s : Scanner) (c : Char) : Scanner :=
  match s.mode with
  | .plain => s.plainStep c
  | .escaped => if c = '\n' then s.within .plain else (s.push c).within .plain
  | .single => if c = '\x27' then s.within .plain else s.push c
  | .double => s.doubleStep c
  | .doubleEscaped =>
    if c = '\n' then s.within .double
    else if ['$', '\x60', '"', '\\'].contains c then (s.push c).within .double
    else ((s.push '\\').push c).within .double
  | .dollar quoted =>
    if c = '\x7b' then s.within (.braced quoted [])
    else if c = '?' ∨ c.isDigit then
      (s.add (.value (String.singleton c) quoted)).within (around quoted)
    else if isNameChar c then s.within (.name quoted [c])
    else if c = '(' then s.reject
    else (s.push '$').resume quoted c
  | .name quoted name =>
    if isNameChar c then s.within (.name quoted (name ++ [c]))
    else (s.add (.value (String.ofList name) quoted)).resume quoted c
  | .braced quoted name =>
    if c = '\x7d' then
      (s.add (.value (String.ofList name) quoted)).within (around quoted)
    else if isNameChar c ∨ c = '?' then s.within (.braced quoted (name ++ [c]))
    else s.reject
  | .operator symbol =>
    if longOperators.contains (symbol.dropWhile Char.isDigit ++ [c]) then
      s.endOperator (symbol ++ [c])
    else (s.endOperator symbol).plainStep c
  | .comment => if c = '\n' then (s.within .plain).plainStep c else s

/-- The tokens, when the text may end here. -/
def finish? (s : Scanner) : Option (List Token) :=
  let ended? : Option Scanner := match s.mode with
    | .plain | .comment => some s
    | .escaped => some (s.push '\\')
    | .dollar false => some (s.push '$')
    | .name false name => some (s.add (.value (String.ofList name) false))
    | .operator symbol => some (s.endOperator symbol)
    | _ => none
  if s.sound then ended?.map fun s => s.endWord.tokens.reverse else none

end Scanner

/-- The tokens of a text. -/
def scan? (cs : List Char) : Option (List Token) := (cs.foldl Scanner.step .start).finish?

/-! ### Scripts -/

/-- Where a redirected stream goes. -/
inductive Target where
  /-- To where another stream goes. -/
  | stream (number : Nat)
  /-- To a file. -/
  | file (w : Word)
  deriving DecidableEq, Repr

/-- A redirection of an output stream, or of the input. -/
inductive Redirection where
  | output (stream : Nat) (target : Target)
  | input (w : Word)
  deriving DecidableEq, Repr

/-- A simple command. -/
structure Command where
  /-- Its words, the name first. -/
  words : List Word
  /-- Its redirections from left to right. -/
  redirections : List Redirection
  deriving DecidableEq, Repr

/-- When a step is taken. -/
inductive Link where
  /-- Always. -/
  | always
  /-- After success. -/
  | onSuccess
  /-- After failure. -/
  | onFailure
  deriving DecidableEq, Repr

/-- Commands that read each other's output. -/
structure Step where
  /-- When the step is taken. -/
  link : Link
  /-- The commands, each fed by the one before. -/
  commands : List Command
  deriving DecidableEq, Repr

/-- Steps from left to right. -/
abbrev Script := List Step

/-- The link that an operator makes. -/
def link? (symbol : List Char) : Option Link :=
  if symbol = ";".toList ∨ symbol = "\n".toList ∨ symbol = "&".toList then some .always
  else if symbol = "&&".toList then some .onSuccess
  else if symbol = "||".toList then some .onFailure
  else none

/-- The stream number that a word is. -/
def streamOf? : Word → Option Nat
  | [.text [c]] => if c.isDigit then some (c.toNat - '0'.toNat) else none
  | _ => none

/-- The redirection of an operator and the word behind it. -/
def redirection? (symbol : List Char) (w : Word) : Option Redirection :=
  let ds := symbol.takeWhile Char.isDigit
  let stream : Nat := match ds with
    | c :: _ => c.toNat - '0'.toNat
    | [] => 1
  let arrow := symbol.dropWhile Char.isDigit
  if arrow = ">".toList ∨ arrow = ">>".toList then some (.output stream (.file w))
  else if arrow = ">&".toList then
    (streamOf? w).map fun number => .output stream (.stream number)
  else if arrow = "<".toList then some (.input w)
  else none

/-- The command of some tokens. -/
def command? : List Token → Option Command
  | [] => some ⟨[], []⟩
  | .word w :: more => (command? more).map fun c => { c with words := w :: c.words }
  | .operator symbol :: .word w :: more => do
    let r ← redirection? symbol w
    let c ← command? more
    return { c with redirections := r :: c.redirections }
  | _ => none

/-- Tokens cut at operators: the part before the first, and the parts behind each. -/
def cutAt {α : Type} (mark? : List Char → Option α) :
    List Token → List Token × List (α × List Token)
  | [] => ([], [])
  | t :: more =>
    let (first, parts) := cutAt mark? more
    match t with
    | .operator symbol =>
      match mark? symbol with
      | some mark => ([], (mark, first) :: parts)
      | none => (t :: first, parts)
    | .word _ => (t :: first, parts)

/-- The commands of a step. -/
def commands? (tokens : List Token) : Option (List Command) :=
  let (first, parts) := cutAt (fun symbol => if symbol = ['|'] then some () else none) tokens
  (first :: parts.map (·.2)).mapM fun part => if part = [] then none else command? part

/-- The script of a text.  Parts between separators may be empty. -/
def Script.parse? (text : String) : Option Script := do
  let (first, parts) := cutAt link? (← scan? text.toList)
  ((Link.always, first) :: parts).filterMapM fun (link, tokens) =>
    if tokens = [] then
      if link = .always then some none else none
    else (commands? tokens).map fun commands => some ⟨link, commands⟩

end Workflow.Shell
