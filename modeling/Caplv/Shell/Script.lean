import Caplv.Shell.Lexer
import Caplv.Runes

namespace Caplv.Shell

open Text

-- The words of a command, and the files its standard output and standard error go to.
structure Simple where
  argv : List String := []
  stdout : Option String := none
  stderr : Option String := none
deriving DecidableEq, Repr

inductive Connector where
  | andIf
  | orIf
deriving DecidableEq, Repr

-- Commands joined by && and ||, which have the same precedence and associate to the left.
structure AndOr where
  first : Simple
  rest : List (Connector × Simple) := []
deriving DecidableEq, Repr

def connector? : List Char → Option Connector
  | ['&', '&'] => some .andIf
  | ['|', '|'] => some .orIf
  | _ => none

-- Of the descriptors only standard output and standard error can be redirected.
def parseList (command : Simple) : List Token → Option AndOr
  | [] => some ⟨command, []⟩
  | .word chars :: rest => do
      let arg ← (Token.word chars).literal?
      parseList { command with argv := command.argv ++ [arg] } rest
  | .ioNumber digits :: .operator ['>'] :: .word chars :: rest => do
      let target ← (Token.word chars).literal?
      if digits.map Prod.fst = ['2'] then parseList { command with stderr := some target } rest
      else none
  | .operator ['>'] :: .word chars :: rest => do
      let target ← (Token.word chars).literal?
      parseList { command with stdout := some target } rest
  | .operator text :: rest => do
      let connector ← connector? text
      let list ← parseList {} rest
      some ⟨command, (connector, list.first) :: list.rest⟩
  | _ => none

def script (text : String) : Option AndOr := tokens text >>= parseList {}

section Parsing

variable {command : Simple} {rest : List Token}

theorem parseList_word {token : Token} {s : String} (hs : token.literal? = some s) :
    parseList command (token :: rest) = parseList { command with argv := command.argv ++ [s] } rest := by
  cases token with
  | word chars => simp [parseList, hs]
  | ioNumber digits => cases hs
  | operator text => cases hs

@[simp] theorem parseList_nil : parseList command [] = some ⟨command, []⟩ := rfl

@[simp] theorem parseList_quoted (s : String) : parseList command (quoted s :: rest) =
    parseList { command with argv := command.argv ++ [s] } rest := parseList_word (literal?_quoted s)

theorem parseList_unquoted {s : String} (hplain : isPlain s = true) : parseList command (unquoted s :: rest) =
    parseList { command with argv := command.argv ++ [s] } rest := parseList_word (literal?_unquoted hplain)

theorem parseList_words (args : List String) : parseList command (args.map quoted ++ rest) =
    parseList { command with argv := command.argv ++ args } rest := by
  induction args generalizing command with
  | nil => rw [List.append_nil, List.map_nil, List.nil_append]
  | cons arg args ih =>
    rw [List.map_cons, List.cons_append, parseList_word (literal?_quoted arg), ih]
    simp only [List.append_assoc, List.singleton_append]

theorem parseList_stdout (s : String) : parseList command (.operator ['>'] :: quoted s :: rest) =
    parseList { command with stdout := some s } rest := by
  have hs := literal?_quoted s
  rw [quoted] at hs ⊢
  simp [parseList, hs]

theorem parseList_stdout_unquoted {s : String} (hplain : isPlain s = true) :
    parseList command (.operator ['>'] :: unquoted s :: rest) =
      parseList { command with stdout := some s } rest := by
  have hs := literal?_unquoted hplain
  rw [unquoted] at hs ⊢
  simp [parseList, hs]

theorem parseList_stderr_unquoted {s : String} (hplain : isPlain s = true) :
    parseList command (.ioNumber [('2', false)] :: .operator ['>'] :: unquoted s :: rest) =
      parseList { command with stderr := some s } rest := by
  have hs := literal?_unquoted hplain
  rw [unquoted] at hs ⊢
  simp [parseList, hs]

theorem parseList_and : parseList command (.operator ['&', '&'] :: rest) =
    (parseList {} rest).map fun list => ⟨command, (.andIf, list.first) :: list.rest⟩ := by
  rw [parseList]
  · cases parseList {} rest <;> rfl
  · simp

theorem parseList_or : parseList command (.operator ['|', '|'] :: rest) =
    (parseList {} rest).map fun list => ⟨command, (.orIf, list.first) :: list.rest⟩ := by
  rw [parseList]
  · cases parseList {} rest <;> rfl
  · simp

end Parsing

structure Outcome where
  succeeded : Bool
  stdout : Bytes := []
  stderr : String := ""
deriving DecidableEq

structure Runner (σ : Type) where
  exec : σ → List String → Bytes → Outcome × σ
  write : σ → String → Bytes → σ

variable {σ : Type} (runner : Runner σ)

def Simple.run (command : Simple) (state : σ) (stdin : Bytes) : Outcome × σ :=
  let ended := runner.exec state command.argv stdin
  let (outcome, after) :=
    match command.stdout with
    | none => ended
    | some path => ({ ended.1 with stdout := [] }, runner.write ended.2 path ended.1.stdout)
  match command.stderr with
  | none => (outcome, after)
  | some path =>
    ({ outcome with stderr := "" }, runner.write after path (GoString.encode outcome.stderr.toList))

def Connector.continues : Connector → Bool → Bool
  | .andIf, succeeded => succeeded
  | .orIf, succeeded => !succeeded

def Outcome.followedBy (first second : Outcome) : Outcome :=
  ⟨second.succeeded, first.stdout ++ second.stdout, first.stderr ++ second.stderr⟩

def continueWith (done : Outcome × σ) (next : Connector × Simple) : Outcome × σ :=
  if next.1.continues done.1.succeeded then
    let ended := next.2.run runner done.2 []
    (done.1.followedBy ended.1, ended.2)
  else done

-- The first command reads all of the input.
def AndOr.run (list : AndOr) (state : σ) (stdin : Bytes) : Outcome × σ :=
  list.rest.foldl (continueWith runner) (list.first.run runner state stdin)

end Caplv.Shell
