import PropertyFilter.Compile
import PropertyFilter.Description
import PropertyFilter.Request
import PropertyFilter.Text.Quoted

/-!
# Resources and reports

A resource is a set of rows with filterable properties. Compiling a request for it yields a
query and a report on what became of every filter.

## Main definitions

* `Resource` — a name, a schema and a filter set
* `Report` — the query text, its parameters and the outcome of each filter
* `Resource.compile` — the draft and the report of a list of request pairs
-/

namespace PropertyFilter

/-- A set of rows with filterable properties. -/
structure Resource where
  /-- The name that requests use. -/
  name : String
  /-- Where the rows lie. -/
  schema : Schema
  /-- The filterable properties. -/
  filters : FilterSet

/-- What became of a request. -/
structure Report where
  /-- The resource that the request was for. -/
  resource : String
  /-- The query, with positional parameters. -/
  sql : String
  /-- The parameters, in the order of their positions. -/
  params : List BoundParam
  /-- What became of each filter. -/
  outcomes : SortedMap Outcome
  /-- What the client is told. -/
  notices : List Notice
  /-- The required properties that the request leaves out. -/
  missingRequired : List String

namespace Report

/-- A report as JSON. -/
def toJson (r : Report) : Json :=
  .object [("resource", .text r.resource), ("sql", .text r.sql),
    ("params", .array (r.params.map BoundParam.toJson)),
    ("outcomes", .object (r.outcomes.map Outcome.toJson).toList),
    ("notices", .array (r.notices.map Notice.toJson)),
    ("missing_required", .array (r.missingRequired.map Json.text))]

/-- The events that are logged with a report: one for all properties that are missing, and one
for each notice. -/
def warnings (r : Report) : List LogEvent :=
  let missing :=
    if r.missingRequired.isEmpty then []
    else [⟨.warn, "Required filters missing from request",
      [("resource", r.resource), ("properties", Text.quotedList r.missingRequired)]⟩]
  missing ++ r.notices.map fun n => ⟨.warn, n.message, [("kind", n.kind)]⟩

end Report

/-- The event that is logged where notices go to the operator. -/
def Notice.event (n : Notice) : LogEvent :=
  ⟨.info, n.message, [("kind", n.kind), ("context", Text.quotedPairs n.context)]⟩

/-- Compiles the filters of a request into a new query. -/
def Resource.compile (r : Resource) (pairs : List (String × String)) :
    Except FilterError (Draft × Report) :=
  let request := Request.ofPairs pairs
  let draft := Draft.new r.schema.table r.schema.tableAlias .postgres
  (r.filters.apply r.schema draft request).map fun (outcomes, draft) =>
    (draft, ⟨r.name, draft.query.toSql "*", draft.query.params, .ofList outcomes, draft.notices,
      r.filters.missing request⟩)

end PropertyFilter
