import RecordQuery.Query.Basic

/-!
# Queries as JSON

The serialized form of a query, with all that is attached to it. The equality conditions, the
cancellation token and the marks for copying and for global conditions are left out.
-/

namespace RecordQuery.Query

mutual

/-- A query as JSON. -/
def toJson : Query → Json
  | ⟨entries, ⟨joins⟩, combines, summary, settings⟩ =>
    .object
      [("entries", .array (entriesToJson entries)),
       ("joins", .array (joinsToJson joins)),
       ("combines", .array (combinesToJson combines)),
       ("recurve", .ofOption Recurve.toJson settings.recurve),
       ("sorts", .ofList SortKey.toJson settings.sorts),
       ("query_fields", .ofStrings settings.queryFields),
       ("not_query_fields", .ofStrings settings.notQueryFields),
       ("paging", .ofOption Paging.toJson settings.paging),
       ("text", .ofOption QueryText.toJson settings.text),
       ("criteria_count", .ofNat summary.count),
       ("condition_fields", .ofStrings summary.fields),
       ("has_subquery", .bool summary.hasSubquery),
       ("has_join", .bool summary.hasJoin),
       ("has_recurve", .bool summary.hasRecurve),
       ("is_obsolete", .bool settings.obsolete),
       ("entity_type", .ofOption EntityType.toJson settings.entity)]

/-- Entries as JSON. -/
def entriesToJson : List (Entry Query) → List Json
  | [] => []
  | ⟨connector, item⟩ :: rest =>
    .object [("connector", .string connector.name), ("item", itemToJson item)] :: entriesToJson rest

/-- An item as JSON. -/
def itemToJson : Item Query → Json
  | .condition c => .object [("Criterion", c.toJson)]
  | .subquery c => .object [("Criterion", subqueryToJson c)]
  | .tree q => .object [("Query", q.toJson)]

/-- A subquery condition as JSON. -/
def subqueryToJson : SubqueryCondition Query → Json
  | ⟨field, operator, query, converter⟩ =>
    .object
      [("name", .string field), ("operator", .string operator.name), ("value", query.toJson),
       ("converter", .ofOption Converter.toJson converter)]

/-- Joins as JSON. -/
def joinsToJson : List (Join Query) → List Json
  | [] => []
  | ⟨ordinal, kind, operator, fields, target, filter⟩ :: rest =>
    .object
      [("sort", .ofNat ordinal), ("join_type", .string kind.name),
       ("operator", .string operator.name), ("fields", .ofList JoinField.toJson fields),
       ("target", target.toJson), ("filter", filterToJson filter)] :: joinsToJson rest

/-- The filter of a join as JSON. -/
def filterToJson : Option Query → Json
  | none => .null
  | some q => q.toJson

/-- Combinations as JSON. -/
def combinesToJson : List (Combine Query) → List Json
  | [] => []
  | ⟨kind, query⟩ :: rest =>
    .object [("combine_type", .string kind.name), ("query", query.toJson)] :: combinesToJson rest

end

end RecordQuery.Query
