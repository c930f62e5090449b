import ModuleClosure.Closure.Memo
import ModuleClosure.Source

/-!
# Dependency closures

The closure of a description has the names it depends on through any number of steps, and the names
it suggests together with everything those need. Each needed module is asked of a source once and
resolved in turn; a name that is needed while it is being resolved is a cycle.
-/
namespace ModuleClosure

/-- How far a resolution has come. -/
structure Progress (σ : Type) where
  memo : Memo := {}
  notices : List Notice := []
  state : σ

/-- Why a resolution stops without a result. Only a failure is an answer; `tooDeep` says that the
allowed depth was not enough. -/
inductive Stop
  | failed (failure : Failure)
  | tooDeep
deriving DecidableEq, Repr

/-- The failure that is shown. -/
def Stop.failure : Stop → Failure
  | failed f => f
  | tooDeep => .internal "解析深度不足"

variable {σ : Type}

namespace Progress

def report (p : Progress σ) (notices : List Notice) : Progress σ :=
  { p with notices := p.notices ++ notices }

def settle (p : Progress σ) (d : Description) : Progress σ := { p with memo := p.memo.settle d }

def enter (p : Progress σ) (name : String) : Progress σ := { p with memo := p.memo.enter name }

def leave (p : Progress σ) (name : String) : Progress σ := { p with memo := p.memo.leave name }

/-- Notes that a name was asked for, and what came back with the answer. -/
def receive (p : Progress σ) (name : String) (reply : Reply σ) : Progress σ :=
  { memo := p.memo.request name, notices := p.notices ++ reply.notices, state := reply.state }

end Progress

namespace Description

/-- The names of all sets. -/
def union (sets : List NameSet) : NameSet := sets.foldl (· ∪ ·) ∅

/-- A description with what its dependencies and its suggestions, each with a closure of its own,
add to it. A name it depends on is no suggestion. -/
def closedOver (m : Description) (required suggested : List Description) : Description :=
  let depends := m.depends ∪ union (required.map (·.depends))
  let suggests := m.suggests ∪ union (suggested.map fun d => d.depends ∪ d.suggests)
  { m with depends, suggests := suggests.filter fun name => !depends.contains name }

/-- What there is to say about a dependency's version and the bound for it. -/
def boundNotices (m dependency : Description) : List Notice :=
  match m.bounds[dependency.name]?, dependency.version with
  | some b, some version =>
    match b.admits version with
    | .ok true => []
    | .ok false => [.boundUnmet m.name dependency.name version b]
    | .error fault => [.boundUnread m.name dependency.name fault]
  | _, _ => []

end Description

namespace Closure

/-- A step of a resolution that has a result of type `α`. -/
abbrev Step (σ α : Type) := Progress σ → Except Stop α × Progress σ

/-- The complete description of a name: from the memo, or asked of the source and resolved by
`nested`. It is also settled under the name it was asked for, if it declares another. -/
def demand (source : Source σ) (nested : Description → Step σ Description) (name : String) :
    Step σ Description := fun p =>
  match p.memo.get? name with
  | some d => (.ok d, p)
  | none =>
    if name ∈ p.memo.pending then (.error (.failed (.cycle (p.memo.cycleTo name))), p)
    else
      let reply := source.fetch name p.state
      let p := p.receive name reply
      match reply.outcome with
      | .error failure => (.error (.failed failure), p)
      | .ok found =>
        match nested found p with
        | (.error stop, p) => (.error stop, p)
        | (.ok resolved, p) =>
          let p := if resolved.name = name then p else p.settle { resolved with name }
          match p.memo.get? name with
          | some d => (.ok d, p)
          | none =>
            (.error (.failed (.internal ("模块 '" ++ name ++ "' 解析后未进入缓存"))), p)

/-- The complete descriptions of names, in order, each checked against the bounds of `m`. -/
def demandAll (source : Source σ) (nested : Description → Step σ Description) (m : Description) :
    List String → Step σ (List Description)
  | [], p => (.ok [], p)
  | name :: names, p =>
    match demand source nested name p with
    | (.error stop, p) => (.error stop, p)
    | (.ok d, p) =>
      match demandAll source nested m names (p.report (m.boundNotices d)) with
      | (.error stop, p) => (.error stop, p)
      | (.ok ds, p) => (.ok (d :: ds), p)

/-- Closes a description over its dependencies and then its suggestions, and settles it. -/
def close (source : Source σ) (nested : Description → Step σ Description) (m : Description) :
    Step σ Description := fun p =>
  let p := p.report [.closureBegun m.name m.depends.size m.suggests.size]
  match demandAll source nested m m.depends.toList p with
  | (.error stop, p) => (.error stop, p)
  | (.ok required, p) =>
    match demandAll source nested m m.suggests.toList p with
    | (.error stop, p) => (.error stop, p)
    | (.ok suggested, p) =>
      let r := m.closedOver required suggested
      (.ok r, (p.settle r).report [.closureDone r.name r.depends.size r.suggests.size])

/-- Resolves a description with at most `depth` resolutions inside one another. Its name is pending
while it is resolved, and must not be before. -/
def resolveWithin (source : Source σ) (depth : Nat) (m : Description) : Step σ Description :=
  fun p =>
    if m.name ∈ p.memo.pending then (.error (.failed (.cycle (p.memo.cycleTo m.name))), p)
    else
      match depth with
      | 0 => (.error .tooDeep, p)
      | depth + 1 =>
        let (outcome, p) := close source (resolveWithin source depth) m (p.enter m.name)
        (outcome, p.leave m.name)

/-- Resolves a description. Pending names differ from one another and are the root's name or
declared by the source, so the depth is enough. -/
def resolve (source : Source σ) (m : Description) : Step σ Description :=
  resolveWithin source (source.reach + 1) m

end Closure

/-- What a resolution is reported as: the complete description and the names asked for. -/
structure ClosureReport where
  module : Description
  requested : List String
deriving DecidableEq

def ClosureReport.of (module : Description) (memo : Memo) : ClosureReport :=
  ⟨module, memo.requested⟩

end ModuleClosure
