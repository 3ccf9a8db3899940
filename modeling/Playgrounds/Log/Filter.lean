import Playgrounds.Log.Line
import Playgrounds.Text.Blank
import Playgrounds.Text.Decimal

/-!
# Which log lines are written

A filter is a list of rules with commas between them. A rule is a level, a target, or a target with
a level; it says up to which level the lines of parts whose name begins with the target are written.

* `Filter.read` — reads a filter; a rule that is none makes it invalid.
* `Filter.shows` — whether a line is written: the rule with the longest target decides.
-/

namespace Playgrounds.Log

/-- A rule: lines up to a rank are written, none for zero. -/
structure Rule where
  /-- Where the rule applies; everywhere if there is none. -/
  target : Option String
  rank : Nat
  /-- Whether the rule applies only within some stretch of work, of which the service has none. -/
  isBound : Bool
deriving DecidableEq, Repr

/-- The rules of a filter. -/
abbrev Filter := List Rule

/-- Why a filter is invalid. -/
inductive FilterFault where
  | rule
  | level
deriving DecidableEq, Repr

/-- What is reported of an invalid filter. -/
def FilterFault.text : FilterFault → String
  | rule => "invalid filter directive"
  | level => "error parsing level filter: expected one of \"off\", \"error\", \"warn\", \"info\", "
      ++ "\"debug\", \"trace\", or a number 0-5"

namespace Filter

/-- The rank of the gravest lines only. -/
def errorRank : Nat := Level.error.rank

/-- The rank of all lines. -/
def everyRank : Nat := Level.trace.rank

/-- The rank that a level's name or number stands for. -/
def rank? (cs : List Char) : Option Nat :=
  let digits := match cs with
    | '+' :: ds => ds
    | ds => ds
  match Decimal.number? digits with
  | some n => if n ≤ everyRank then some n else none
  | none =>
    let name := String.ofList (cs.map Char.toLower)
    if name = "off" then some 0
    else if name = "" then some errorRank
    else ([.error, .warn, .info, .debug, .trace] : List Level).findSome? fun l =>
      if l.name.toLower = name then some l.rank else none

/-- What follows an equals sign. -/
def level? (cs : List Char) : Except FilterFault Nat :=
  if cs.isEmpty then .ok everyRank
  else
    match rank? cs with
    | some r => .ok r
    | none => .error .level

/-- A character with which a target may begin. -/
def beginsTarget (c : Char) : Bool :=
  c.isAlphanum || c = '-' || c = ':' || c = '_' || 0x80 ≤ c.toNat

/-- What follows a target that applies within some stretch of work only: the stretch in brackets,
and a level. -/
def boundRule (target : Option String) (cs : List Char) : Except FilterFault Rule :=
  let inner := cs.takeWhile (· ≠ ']')
  match cs.drop inner.length with
  | [']'] => .ok ⟨target, everyRank, true⟩
  | ']' :: '=' :: level => (level? level).map fun r => ⟨target, r, true⟩
  | _ => .error .rule

/-- Reads a rule. Its parts are counted off from the first character that is not blank, but taken
from the start of the text: a rule with blanks in front never selects what it seems to. -/
def rule (cs : List Char) : Except FilterFault Rule :=
  let shape := (Text.trimStart (Text.trimStart cs).reverse).reverse
  match shape with
  | [] => .error .rule
  | '[' :: rest => boundRule none rest
  | c :: _ =>
    if !beginsTarget c then .error .rule
    else
      let length := (shape.takeWhile fun c => !(c = '=' || c = '[')).length
      let target := some (String.ofList (cs.take length))
      match shape[length]? with
      | some '=' => (level? (cs.drop (length + 1))).map fun r => ⟨target, r, false⟩
      | some _ => boundRule target (cs.drop (length + 1))
      | none =>
        match rank? cs with
        | some r => .ok ⟨none, r, false⟩
        | none => .ok ⟨some (String.ofList cs), everyRank, false⟩

/-- The parts of a text between commas. -/
def parts (cs : List Char) : List (List Char) :=
  let (part, parts) := cs.foldr
    (fun c (part, parts) => if c = ',' then ([], part :: parts) else (c :: part, parts)) ([], [])
  part :: parts

/-- Reads a filter. One without rules lets only the gravest lines through. -/
def read (s : String) : Except FilterFault Filter :=
  match ((parts s.toList).filter (!·.isEmpty)).mapM rule with
  | .error e => .error e
  | .ok [] => .ok [⟨none, errorRank, false⟩]
  | .ok rules => .ok rules

/-- The filter that is used where another is invalid. -/
def fallback : Filter := [⟨none, Level.info.rank, false⟩]

/-- Whether a rule applies to a part of the service. -/
def applies (target : String) (r : Rule) : Bool :=
  !r.isBound && (r.target.getD "").toList.isPrefixOf target.toList

/-- The rule that decides: the one with the longest target, of two with the same the later. -/
def decisive (f : Filter) (target : String) : Option Rule :=
  (f.filter (applies target)).foldl (fun best r =>
    match best with
    | none => some r
    | some b => if (b.target.getD "").length ≤ (r.target.getD "").length then some r else some b)
    none

/-- Whether a line is written. -/
def shows (f : Filter) (l : Line) : Bool :=
  match f.decisive l.speaker.target with
  | some r => l.level.rank ≤ r.rank
  | none => false

end Filter

end Playgrounds.Log
