import LedgerQuery.Keyed
import LedgerQuery.Query.Error
import LedgerQuery.Query.Plan

/-!
# Names in a plan

A select list binds its aliases. A name used to order rows or to keep groups is an alias first and a
column second; both are compared in lower case.
-/

namespace LedgerQuery

namespace Query

/-- The name of the column that an entry of the select list gives; `*` gives none of its own. -/
def Selected.name? : Selected → Option String
  | .column name => some (Text.lower name)
  | .call c => some c.name
  | .star => none

def resolve (aliases : List (String × String)) (name : String) : String :=
  let key := Text.lower name
  (aliases.lookup key).getD key

/-- A plan with the names that its select list binds. -/
structure Scope where
  plan : Plan
  /-- The names of the selected columns, in order, without those of `*`. -/
  selected : List String
  /-- Aliases in lower case with the columns they stand for. -/
  aliases : List (String × String)

namespace Scope

def bindAliases (aliases : List (String × String)) :
    List SelectItem → Except Error (List (String × String))
  | [] => .ok aliases
  | item :: items =>
    match item.label, item.expr.name? with
    | some a, some column =>
      let key := Text.lower a
      if Keyed.has key aliases then .error (.ambiguousAlias a)
      else bindAliases (aliases ++ [(key, column)]) items
    | _, _ => bindAliases aliases items

/-- Reads the names in a plan. No two columns may share an alias. -/
def ofPlan (p : Plan) : Except Error Scope :=
  match bindAliases [] p.projection with
  | .ok aliases => .ok ⟨p, p.projection.filterMap fun item => item.expr.name?, aliases⟩
  | .error e => .error e

def groupBy (s : Scope) : Option (List String) := s.plan.groupBy.map (List.map Text.lower)

/-- Whether rows stand for groups: there is a list of columns to group by, or an aggregate is
selected. -/
def isGrouped (s : Scope) : Bool :=
  s.plan.groupBy.isSome || s.plan.projection.any fun item =>
    match item.expr with
    | .call _ => true
    | _ => false

def resolve (s : Scope) (name : String) : String := Query.resolve s.aliases name

/-- The selected columns, those of `*` after the others. -/
def selectedIn (s : Scope) (t : Table) : List String :=
  if s.plan.projection.any fun item => item.expr = .star then s.selected ++ t.columns
  else s.selected

end Scope

end Query

end LedgerQuery
