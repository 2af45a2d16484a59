import Caplv.Api.Meta

namespace Caplv.Libvirt

open Text Api

inductive ErrorCategory where
  | terminal
  | transient
  | notFound
deriving DecidableEq, Repr

-- A Go error value: a text, a text wrapped around an error with %w, a LibvirtError,
-- or an error of the Kubernetes client.
inductive GoError where
  | text (message : String)
  | wrap (message : String) (err : GoError)
  | libvirt (category : ErrorCategory) (op resource : String) (err : GoError)
  | api (err : ApiError)
deriving DecidableEq, Repr

namespace GoError

def message : GoError → String
  | .text message => message
  | .wrap message err => message ++ ": " ++ err.message
  | .libvirt _ op resource err => "libvirt " ++ op ++ " " ++ resource ++ ": " ++ err.message
  | .api err => err.message

-- errors.As for *LibvirtError: the category of the outermost one in the chain.
def libvirtCategory : GoError → Option ErrorCategory
  | .text _ => none
  | .wrap _ err => err.libvirtCategory
  | .libvirt category _ _ _ => some category
  | .api _ => none

def isNotFound (err : GoError) : Bool := err.libvirtCategory == some .notFound

def isTerminal (err : GoError) : Bool := err.libvirtCategory == some .terminal

end GoError

def virshCategory (stderr : String) : ErrorCategory :=
  let lower := toLower stderr
  if contains lower "not found" || contains lower "no domain" ||
      contains lower "failed to get domain" || contains lower "no storage vol" ||
      contains lower "storage volume not found" then .notFound
  else if contains lower "already exists" then .terminal
  else if contains lower "not authorized" || contains lower "permission denied" ||
      contains lower "authentication failed" then .terminal
  else .transient

def classifyVirshError (stderr op resource : String) : GoError :=
  .libvirt (virshCategory stderr) op resource (.text stderr)

theorem isNotFound_classifyVirshError (stderr op resource : String) :
    (classifyVirshError stderr op resource).isNotFound = (virshCategory stderr == .notFound) := by
  rw [classifyVirshError]
  generalize virshCategory stderr = category
  cases category <;> rfl

theorem isTerminal_classifyVirshError (stderr op resource : String) :
    (classifyVirshError stderr op resource).isTerminal = (virshCategory stderr == .terminal) := by
  rw [classifyVirshError]
  generalize virshCategory stderr = category
  cases category <;> rfl

section Categories

variable {stderr : String} (op resource : String)

theorem classify_notFound (h : virshCategory stderr = .notFound) :
    (classifyVirshError stderr op resource).isNotFound = true ∧
      (classifyVirshError stderr op resource).isTerminal = false := by
  rw [isNotFound_classifyVirshError, isTerminal_classifyVirshError, h]
  exact ⟨rfl, rfl⟩

theorem classify_terminal (h : virshCategory stderr = .terminal) :
    (classifyVirshError stderr op resource).isNotFound = false ∧
      (classifyVirshError stderr op resource).isTerminal = true := by
  rw [isNotFound_classifyVirshError, isTerminal_classifyVirshError, h]
  exact ⟨rfl, rfl⟩

theorem classify_transient (h : virshCategory stderr = .transient) :
    (classifyVirshError stderr op resource).isNotFound = false ∧
      (classifyVirshError stderr op resource).isTerminal = false := by
  rw [isNotFound_classifyVirshError, isTerminal_classifyVirshError, h]
  exact ⟨rfl, rfl⟩

end Categories

section Characters

-- The texts virshCategory looks for, as characters: the category of a literal is computed on
-- lists, without its encoding.
def absenceTexts : List (List Char) :=
  [['n', 'o', 't', ' ', 'f', 'o', 'u', 'n', 'd'], ['n', 'o', ' ', 'd', 'o', 'm', 'a', 'i', 'n'],
    ['f', 'a', 'i', 'l', 'e', 'd', ' ', 't', 'o', ' ', 'g', 'e', 't', ' ', 'd', 'o', 'm', 'a', 'i', 'n'],
    ['n', 'o', ' ', 's', 't', 'o', 'r', 'a', 'g', 'e', ' ', 'v', 'o', 'l'],
    ['s', 't', 'o', 'r', 'a', 'g', 'e', ' ', 'v', 'o', 'l', 'u', 'm', 'e', ' ', 'n', 'o', 't', ' ',
      'f', 'o', 'u', 'n', 'd']]

def refusalTexts : List (List Char) :=
  [['a', 'l', 'r', 'e', 'a', 'd', 'y', ' ', 'e', 'x', 'i', 's', 't', 's'],
    ['n', 'o', 't', ' ', 'a', 'u', 't', 'h', 'o', 'r', 'i', 'z', 'e', 'd'],
    ['p', 'e', 'r', 'm', 'i', 's', 's', 'i', 'o', 'n', ' ', 'd', 'e', 'n', 'i', 'e', 'd'],
    ['a', 'u', 't', 'h', 'e', 'n', 't', 'i', 'c', 'a', 't', 'i', 'o', 'n', ' ', 'f', 'a', 'i', 'l', 'e', 'd']]

theorem any_contains_ofList (chars : List Char) (parts : List (List Char)) :
    (parts.map String.ofList).any (contains (String.ofList chars)) = parts.any (containsChars chars) := by
  rw [List.any_map]
  congr 1
  funext part
  rw [Function.comp_apply, contains, String.toList_ofList, String.toList_ofList]

theorem virshCategory_eq (stderr : String) : virshCategory stderr =
    if (absenceTexts.map String.ofList).any (contains (toLower stderr)) then .notFound
    else if (refusalTexts.map String.ofList).any (contains (toLower stderr)) then .terminal
    else .transient := by
  have habsence : absenceTexts.map String.ofList =
      ["not found", "no domain", "failed to get domain", "no storage vol", "storage volume not found"] := rfl
  have hrefusal : refusalTexts.map String.ofList =
      ["already exists", "not authorized", "permission denied", "authentication failed"] := rfl
  rw [habsence, hrefusal, virshCategory]
  simp only [List.any_cons, List.any_nil, Bool.or_false, ← Bool.or_assoc]
  cases contains (toLower stderr) "already exists" with
  | false => simp only [Bool.false_or, Bool.false_eq_true, if_false]
  | true => simp only [Bool.true_or, if_true]

theorem virshCategory_ofList (chars : List Char) : virshCategory (String.ofList chars) =
    if absenceTexts.any (containsChars (chars.map lowerChar)) then .notFound
    else if refusalTexts.any (containsChars (chars.map lowerChar)) then .terminal
    else .transient := by
  have hlower : toLower (String.ofList chars) = String.ofList (chars.map lowerChar) := by
    rw [toLower, String.toList_ofList]
  rw [virshCategory_eq, hlower, any_contains_ofList, any_contains_ofList]

end Characters

-- The two messages of libvirt that decide how a deletion continues after a failed destroy.
example : virshCategory "error: failed to get domain 'ns-c-m'" = .notFound :=
  (virshCategory_ofList _).trans (by decide)

example : virshCategory "error: Requested operation is not valid: domain is not running" =
    .transient := (virshCategory_ofList _).trans (by decide)

end Caplv.Libvirt
