import PropertyFilter.FilterSet
import PropertyFilter.Plan
import PropertyFilter.Query
import PropertyFilter.Schema

/-!
# Compiling filters

From the values of a request to conditions of a query. What is decided about a filter depends
on the configuration, the schema, the engine and the values alone; the query under way only
supplies names and takes up the result.

## Main definitions

* `Property.plan` — the plan of one property's filter
* `FilterSet.judge` — what is decided about one filter
* `Draft` — a query under way, with its names and notices
* `FilterSet.compile` — adds one filter to a draft
* `FilterSet.filterProperty` — the same, with a notice if the input is refused
* `FilterSet.apply` — adds all filters of a request
* `FilterSet.missing` — the required properties that a request leaves out

## Main results

* `compile_eq_judge` — compiling is judging, and taking up an accepted plan
-/

namespace PropertyFilter

/-- What is decided about a filter. -/
inductive Verdict where
  | skipped (reason : SkipReason)
  | ignored (reason : IgnoredReason)
  /-- The filter is accepted; names of its parameters start with `seed`. -/
  | accepted (seed : String) (plan : Plan)

/-- A query under way. -/
structure Draft where
  /-- The query so far. -/
  query : Query
  /-- The source of parameter names. -/
  names : NameSource
  /-- What the client has been told so far. -/
  notices : List Notice

namespace Draft

/-- A draft of a query without conditions. -/
def new (table tableAlias : String) (backend : Backend) : Draft :=
  ⟨Query.new table tableAlias backend, .fresh, []⟩

/-- Fills a plan with new names and adds it to the query. -/
def takeUp (d : Draft) (seed : String) (plan : Plan) : Predicate × Draft :=
  let (names, source) := d.names.take seed plan.values.length
  let predicate := plan.fill names
  (predicate, { d with query := d.query.register predicate, names := source })

/-- Tells the client about the filter of a property if its input was refused. -/
def tell (d : Draft) (property : String) (o : Outcome) : Draft :=
  { d with notices := d.notices ++ (o.notice? property).toList }

end Draft

/-- The plan of a property's filter, or the reason why the input is refused: a strategy that is
not known comes before values that cannot be used. -/
def Property.plan (p : Property) (tableAlias : String) (value : RequestValue) :
    Except IgnoredReason Plan :=
  match p.strategy with
  | none => .error (.invalidStrategy p.strategyToken)
  | some strategy =>
    (TypedValues.ofScalars p.kind value.toList).bind
      (Plan.ofValues ⟨tableAlias ++ "." ++ p.path.column, p.path.key⟩ strategy)

namespace FilterSet

/-- What is decided about the filter of a property. The engine comes first, then whether there
is anything to filter, and then whether the values can be used. -/
def judge (s : FilterSet) (schema : Schema) (backend : Backend) (tableAlias : String)
    (property : String) (value : Option RequestValue) : Except FilterError Verdict :=
  if !backend.isJsonCapable then .error (.invalidPlatform backend)
  else
    match value with
    | none => .ok (.skipped .nullValue)
    | some value =>
      match s.get? property with
      | none => .ok (.skipped .propertyNotEnabled)
      | some p =>
        if !schema.isMapped p.path.column then .ok (.skipped .columnNotMapped)
        else if !schema.isJsonColumn p.path.column then .ok (.skipped .columnNotJson)
        else
          match p.plan tableAlias value with
          | .error reason => .ok (.ignored reason)
          | .ok plan => .ok (.accepted p.path.column plan)

/-- Adds the filter of a property to a draft. A filter that is not applied leaves it as it is. -/
def compile (s : FilterSet) (schema : Schema) (d : Draft) (property : String)
    (value : Option RequestValue) : Except FilterError (Outcome × Draft) :=
  match s.judge schema d.query.backend d.query.tableAlias property value with
  | .error e => .error e
  | .ok (.skipped reason) => .ok (.skipped reason, d)
  | .ok (.ignored reason) => .ok (.ignored reason, d)
  | .ok (.accepted seed plan) =>
    let (predicate, d) := d.takeUp seed plan
    .ok (.applied predicate, d)

/-- Adds the filter of a property to a draft, with a notice if its input is refused. -/
def filterProperty (s : FilterSet) (schema : Schema) (d : Draft) (property : String)
    (value : Option RequestValue) : Except FilterError (Outcome × Draft) :=
  (s.compile schema d property value).map fun (o, d) => (o, d.tell property o)

/-- Adds the filters of a list of values, in its order. -/
def applyEach (s : FilterSet) (schema : Schema) (d : Draft) :
    List (String × RequestValue) → Except FilterError (List (String × Outcome) × Draft)
  | [] => .ok ([], d)
  | (property, value) :: rest =>
    match s.filterProperty schema d property (some value) with
    | .error e => .error e
    | .ok (o, d) => (applyEach s schema d rest).map fun (os, d) => ((property, o) :: os, d)

/-- Adds all filters of a request to a draft, in the order of their names. -/
def apply (s : FilterSet) (schema : Schema) (d : Draft) (request : SortedMap RequestValue) :
    Except FilterError (List (String × Outcome) × Draft) :=
  s.applyEach schema d request.toList

/-- The required properties that a request leaves out, in the order of their names. -/
def missing (s : FilterSet) (request : SortedMap RequestValue) : List String :=
  (s.toList.filter fun p => p.required && !request.contains p.name).map (·.name)

variable {s : FilterSet} {schema : Schema} {d : Draft} {property : String}
  {value : Option RequestValue}

/-- Compiling is judging, and taking up an accepted plan. -/
theorem compile_eq_judge : s.compile schema d property value =
    (s.judge schema d.query.backend d.query.tableAlias property value).map fun
      | .skipped reason => (.skipped reason, d)
      | .ignored reason => (.ignored reason, d)
      | .accepted seed plan => (.applied (d.takeUp seed plan).1, (d.takeUp seed plan).2) := by
  unfold compile
  cases h : s.judge schema d.query.backend d.query.tableAlias property value with
  | error e => rfl
  | ok v => cases v <;> rfl

end FilterSet

end PropertyFilter
