import RecordQuery.Query.Basic

/-!
# Queries as text

The conditions of a query in a line, nested queries in parentheses. A subquery is shown by its entity
type and conditions.
-/

namespace RecordQuery.Query

mutual

/-- The conditions of a query as text. -/
def text : Query → String
  | ⟨entries, _, _, _, _⟩ => entriesText entries

/-- Entries as text, the first without its connector. -/
def entriesText : List (Entry Query) → String
  | [] => ""
  | ⟨_, item⟩ :: rest => itemText item ++ moreText rest

/-- Entries as text, each after its connector. -/
def moreText : List (Entry Query) → String
  | [] => ""
  | ⟨connector, item⟩ :: rest => " " ++ connector.symbol ++ " " ++ itemText item ++ moreText rest

/-- An item as text. -/
def itemText : Item Query → String
  | .condition c => c.text
  | .subquery c => subqueryText c
  | .tree q => "(" ++ q.text ++ ")"

/-- A subquery condition as text. -/
def subqueryText : SubqueryCondition Query → String
  | ⟨field, operator, query, _⟩ =>
    if operator.isNullTest then field ++ " " ++ operator.symbol
    else
      field ++ " " ++ operator.symbol ++ " (SELECT FROM " ++
        (match query.entity with
        | some e => e.name
        | none => "?") ++
        (if query.entries.isEmpty then ")" else " WHERE " ++ query.text ++ ")")

end

end RecordQuery.Query
