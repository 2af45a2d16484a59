import Mathlib.Data.List.Basic

namespace Caplv.Shell

-- The characters of a word, each with whether it was quoted.
abbrev Word := List (Char × Bool)

-- A number right before a redirection is the descriptor it is about.
inductive Token where
  | word (chars : Word)
  | ioNumber (digits : Word)
  | operator (text : List Char)
deriving DecidableEq, Repr

-- Where the reader is: between or in words, in single quotes, after a backslash, or after
-- the first character of an operator.
inductive State where
  | plain (current : Option Word)
  | single (current : Word)
  | backslash (current : Option Word)
  | operator (first : Char)
deriving DecidableEq, Repr

def isBlank (c : Char) : Bool := c = ' ' || c = '\t'

def operatorChars : List Char := ['&', '|', ';', '<', '>', '(', ')', '\n']

def longOperators : List (List Char) :=
  [['&', '&'], ['|', '|'], [';', ';'], ['>', '>'], ['<', '&'], ['>', '&'], ['<', '>'], ['>', '|']]

def push (current : Option Word) (c : Char) (quoted : Bool) : Word := current.getD [] ++ [(c, quoted)]

def endWord : Option Word → List Token
  | none => []
  | some chars => [.word chars]

def endWordAt (c : Char) : Option Word → List Token
  | none => []
  | some chars =>
    if (c = '<' || c = '>') && chars ≠ [] && chars.all (fun d => d.1.isDigit && !d.2) then
      [.ioNumber chars]
    else [.word chars]

-- Double quotes and comments are not read.
def plainStep (current : Option Word) (c : Char) : Option (List Token × State) :=
  if c = '\'' then some ([], .single (current.getD []))
  else if c = '\\' then some ([], .backslash current)
  else if isBlank c then some (endWord current, .plain none)
  else if c = '"' || (c = '#' && current.isNone) then none
  else if operatorChars.contains c then some (endWordAt c current, .operator c)
  else some ([], .plain (some (push current c false)))

-- Token recognition of the POSIX shell, with quote removal for single quotes and backslashes.
-- An escaped newline joins two lines. Here-documents are not read.
def step : State → Char → Option (List Token × State)
  | .plain current, c => plainStep current c
  | .single current, c =>
    if c = '\'' then some ([], .plain (some current)) else some ([], .single (push current c true))
  | .backslash current, c =>
    if c = '\n' then some ([], .plain current) else some ([], .plain (some (push current c true)))
  | .operator first, c =>
    if first = '<' && c = '<' then none
    else if longOperators.contains [first, c] then some ([.operator [first, c]], .plain none)
    else (plainStep none c).map fun out => (.operator [first] :: out.1, out.2)

-- A text may not end inside quotes or after a backslash.
def finish : State → Option (List Token)
  | .plain current => some (endWord current)
  | .operator first => some [.operator [first]]
  | .single _ | .backslash _ => none

def read : State → List Char → Option (List Token)
  | state, [] => finish state
  | state, c :: rest => do
      let out ← step state c
      let more ← read out.2 rest
      pure (out.1 ++ more)

def tokens (text : String) : Option (List Token) := read (.plain none) text.toList

-- The tokens of a text without operators and expansions: one word after the other, with the
-- quotes removed.
def expansionChars : List Char := ['$', '`', '*', '?', '[', '~', '{', '!']

def Token.literal? : Token → Option String
  | .word chars =>
    if chars.any fun d => !d.2 && expansionChars.contains d.1 then none
    else some (String.ofList (chars.map Prod.fst))
  | _ => none

structure SimpleCommand where
  argv : List String := []
  redirects : List String := []
deriving DecidableEq, Repr

def separators : List (List Char) := [['&', '&'], ['|', '|'], [';'], ['|'], ['&'], ['\n']]

def parse (command : SimpleCommand) : List Token → Option (List SimpleCommand)
  | [] => some [command]
  | .ioNumber _ :: rest => parse command rest
  | .word chars :: rest => do
      let arg ← (Token.word chars).literal?
      parse { command with argv := command.argv ++ [arg] } rest
  | .operator ['>'] :: .word chars :: rest => do
      let target ← (Token.word chars).literal?
      parse { command with redirects := command.redirects ++ [target] } rest
  | .operator text :: rest =>
    if separators.contains text then (parse {} rest).map (command :: ·) else none

def commands (text : String) : Option (List SimpleCommand) := tokens text >>= parse {}

section Reading

variable {state : State} {current : Option Word} {rest : List Char}

theorem read_cons_of_step {c : Char} {out : List Token} {next : State}
    (hstep : step state c = some (out, next)) :
    read state (c :: rest) = (read next rest).map (out ++ ·) := by
  simp only [read, hstep, Option.bind_eq_bind, Option.bind_some]
  cases read next rest <;> rfl

theorem read_cons_of_silent {c : Char} {next : State} (hstep : step state c = some ([], next)) :
    read state (c :: rest) = read next rest := by
  rw [read_cons_of_step hstep]
  simp only [List.nil_append, Option.map_id_fun', id]

theorem step_blank_of_finish {out : List Token} (hfinish : finish state = some out) :
    step state ' ' = some (out, .plain none) := by
  cases state with
  | plain current =>
    obtain rfl := Option.some.inj hfinish
    simp [step, plainStep, isBlank]
  | operator first =>
    obtain rfl := Option.some.inj hfinish
    simp [step, plainStep, isBlank, longOperators, endWord]
  | single current => cases hfinish
  | backslash current => cases hfinish

-- A text that is read to its end is read the same way before a blank.
theorem read_append_blank {text : List Char} {out : List Token} (hread : read state text = some out) :
    read state (text ++ ' ' :: rest) = (read (.plain none) rest).map (out ++ ·) := by
  induction text generalizing state out with
  | nil => exact read_cons_of_step (step_blank_of_finish hread)
  | cons c text ih =>
    cases hstep : step state c with
    | none => simp [read, hstep] at hread
    | some found =>
      obtain ⟨first, next⟩ := found
      rw [read_cons_of_step hstep] at hread
      obtain ⟨more, hmore, rfl⟩ := Option.map_eq_some_iff.mp hread
      rw [List.cons_append, read_cons_of_step hstep, ih hmore, Option.map_map]
      simp only [Function.comp_def, List.append_assoc]

-- The word of a text all of whose characters are quoted, and of one without any quotes.
def quoted (s : String) : Token := .word (s.toList.map fun c => (c, true))

def unquoted (s : String) : Token := .word (s.toList.map fun c => (c, false))

def specialChars : List Char :=
  ['\'', '\\', ' ', '\t', '"', '#'] ++ operatorChars ++ expansionChars

def isPlain (s : String) : Bool := s.toList ≠ [] && s.toList.all fun c => !specialChars.contains c

theorem plainStep_of_not_special {c : Char} (hc : specialChars.contains c = false) :
    plainStep current c = some ([], .plain (some (push current c false))) := by
  simp [specialChars, operatorChars, expansionChars] at hc
  simp [plainStep, isBlank, operatorChars, hc]

theorem read_plain {chars : List Char} (hchars : ∀ c ∈ chars, specialChars.contains c = false)
    (word : Word) : read (.plain (some word)) chars =
      some [.word (word ++ chars.map fun c => (c, false))] := by
  induction chars generalizing word with
  | nil => rw [List.map_nil, List.append_nil]; rfl
  | cons c chars ih =>
    have hstep : step (.plain (some word)) c = some ([], .plain (some (push word c false))) :=
      plainStep_of_not_special (hchars c List.mem_cons_self)
    rw [read_cons_of_silent hstep, ih fun d hd => hchars d (List.mem_cons_of_mem _ hd), push,
      Option.getD_some, List.append_assoc]
    rfl

theorem tokens_plain {s : String} (hplain : isPlain s = true) : tokens s = some [unquoted s] := by
  simp only [isPlain, Bool.and_eq_true, decide_eq_true_eq, List.all_eq_true, Bool.not_eq_true'] at hplain
  obtain ⟨hne, hchars⟩ := hplain
  rw [tokens, unquoted]
  cases hs : s.toList with
  | nil => exact absurd hs hne
  | cons c chars =>
    rw [hs] at hchars
    have hstep : step (.plain none) c = some ([], .plain (some [(c, false)])) :=
      plainStep_of_not_special (hchars c List.mem_cons_self)
    rw [read_cons_of_silent hstep, read_plain fun d hd => hchars d (List.mem_cons_of_mem _ hd)]
    rfl

theorem tokens_append {head tail : String} {out more : List Token} (hhead : tokens head = some out)
    (htail : tokens tail = some more) : tokens (head ++ " " ++ tail) = some (out ++ more) := by
  have hchars : (head ++ " " ++ tail).toList = head.toList ++ ' ' :: tail.toList := by simp
  rw [tokens] at hhead htail ⊢
  rw [hchars, read_append_blank hhead, htail]
  rfl

end Reading

section Parsing

variable {command : SimpleCommand} {rest : List Token}

theorem literal?_quoted (s : String) : (quoted s).literal? = some s := by
  simp [quoted, Token.literal?, Function.comp_def]

theorem literal?_unquoted {s : String} (hplain : isPlain s = true) : (unquoted s).literal? = some s := by
  simp only [isPlain, Bool.and_eq_true, List.all_eq_true, Bool.not_eq_true'] at hplain
  have hnone : ∀ c ∈ s.toList, expansionChars.contains c = false := by
    intro c hc
    have hspecial := hplain.2 c hc
    simp [specialChars] at hspecial
    simp [hspecial]
  simp [unquoted, Token.literal?, Function.comp_def, List.any_map]
  simpa using hnone

theorem parse_word {token : Token} {s : String} (hs : token.literal? = some s) :
    parse command (token :: rest) = parse { command with argv := command.argv ++ [s] } rest := by
  cases token with
  | word chars => simp [parse, hs]
  | ioNumber digits => cases hs
  | operator text => cases hs

theorem parse_redirect {token : Token} {s : String} (hs : token.literal? = some s) :
    parse command (.operator ['>'] :: token :: rest) =
      parse { command with redirects := command.redirects ++ [s] } rest := by
  cases token with
  | word chars => simp [parse, hs]
  | ioNumber digits => cases hs
  | operator text => cases hs

theorem parse_quoted_args (args : List String) :
    parse command (args.map quoted ++ rest) = parse { command with argv := command.argv ++ args } rest := by
  induction args generalizing command with
  | nil => rw [List.append_nil, List.map_nil, List.nil_append]
  | cons arg args ih =>
    rw [List.map_cons, List.cons_append, parse_word (literal?_quoted arg), ih]
    simp only [List.append_assoc, List.singleton_append]

end Parsing

-- Reading the text, the shell has completed some commands and is at a further one.
def Reads (text : String) (done : List SimpleCommand) (command : SimpleCommand) : Prop :=
  ∃ out, tokens text = some out ∧
    ∀ rest, parse {} (out ++ rest) = (parse command rest).map (done ++ ·)

namespace Reads

variable {text : String} {done : List SimpleCommand} {command : SimpleCommand}

theorem commands (h : Reads text done command) : Shell.commands text = some (done ++ [command]) := by
  obtain ⟨out, hout, hparse⟩ := h
  have hall := hparse []
  rw [List.append_nil] at hall
  rw [Shell.commands, hout, Option.bind_eq_bind, Option.bind_some, hall]
  rfl

theorem append {tail : String} {more : List Token} {done' : List SimpleCommand}
    {command' : SimpleCommand} (h : Reads text done command) (hmore : tokens tail = some more)
    (hparse : ∀ rest, parse command (more ++ rest) = (parse command' rest).map (done' ++ ·)) :
    Reads (text ++ " " ++ tail) (done ++ done') command' := by
  obtain ⟨out, hout, hparsed⟩ := h
  refine ⟨out ++ more, tokens_append hout hmore, fun rest => ?_⟩
  rw [List.append_assoc, hparsed, hparse, Option.map_map]
  simp only [Function.comp_def, List.append_assoc]

theorem extend {tail : String} {more : List Token} {command' : SimpleCommand}
    (h : Reads text done command) (hmore : tokens tail = some more)
    (hparse : ∀ rest, parse command (more ++ rest) = parse command' rest) :
    Reads (text ++ " " ++ tail) done command' := by
  have hsame (rest : List Token) : parse command (more ++ rest) =
      (parse command' rest).map ([] ++ ·) := by
    simp [hparse]
  have happend := h.append hmore hsame
  rw [List.append_nil] at happend
  exact happend

theorem start (s : String) (hplain : isPlain s = true) : Reads s [] ⟨[s], []⟩ :=
  ⟨_, tokens_plain hplain, fun rest => by simp [parse_word (literal?_unquoted hplain)]⟩

theorem word (h : Reads text done command) (s : String) (hplain : isPlain s = true) :
    Reads (text ++ " " ++ s) done { command with argv := command.argv ++ [s] } :=
  h.extend (tokens_plain hplain) fun _ => parse_word (literal?_unquoted hplain)

theorem redirect {target s : String} {token : Token} (h : Reads text done command)
    (htarget : tokens target = some [token]) (hs : token.literal? = some s) :
    Reads (text ++ " " ++ (">" ++ " " ++ target)) done
      { command with redirects := command.redirects ++ [s] } := by
  have hop : tokens ">" = some [.operator ['>']] := by decide
  exact h.extend (tokens_append hop htarget) fun _ => parse_redirect hs

theorem and (h : Reads text done command) : Reads (text ++ " " ++ "&&") (done ++ [command]) {} := by
  have hop : tokens "&&" = some [.operator ['&', '&']] := by decide
  exact h.append hop fun rest => by simp [parse, separators]

theorem or (h : Reads text done command) : Reads (text ++ " " ++ "||") (done ++ [command]) {} := by
  have hop : tokens "||" = some [.operator ['|', '|']] := by decide
  exact h.append hop fun rest => by simp [parse, separators]

end Reads

end Caplv.Shell
