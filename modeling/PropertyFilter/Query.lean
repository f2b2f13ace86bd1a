import PropertyFilter.Backend
import PropertyFilter.Parameter
import PropertyFilter.Query.Placeholder

/-!
# Queries

A query on one table, to which filters add conditions and parameters.

## Main definitions

* `Query` — the table, the conditions and the parameters so far
* `Query.add`, `Query.bind`, `Query.register` — adding to a query
* `Query.whereClause`, `Query.toSql` — the text of a query
-/

namespace PropertyFilter

/-- A query on one table. -/
structure Query where
  /-- The table. -/
  table : String
  /-- The name of the table inside the query. -/
  tableAlias : String
  /-- The engine that the query is meant for. -/
  backend : Backend
  /-- The conditions, all of which a row has to meet, with named parameters. -/
  predicates : List String
  /-- The parameters, in the order in which they are bound. -/
  params : List BoundParam

namespace Query

/-- A query without conditions. -/
def new (table tableAlias : String) (backend : Backend) : Query :=
  ⟨table, tableAlias, backend, [], []⟩

/-- Adds a condition. -/
def add (q : Query) (sql : String) : Query := { q with predicates := q.predicates ++ [sql] }

/-- Adds a parameter. -/
def bind (q : Query) (p : BoundParam) : Query := { q with params := q.params ++ [p] }

/-- Adds a condition together with its parameters. -/
def register (q : Query) (p : Predicate) : Query := p.params.foldl bind (q.add p.sql)

/-- All conditions, with named parameters. -/
def whereClause (q : Query) : Option String :=
  if q.predicates.isEmpty then none else some (String.intercalate " AND " q.predicates)

/-- The query as SQL text with positional parameters. -/
def toSql (q : Query) (select : String) : String :=
  let base := "SELECT " ++ select ++ " FROM " ++ q.table ++ " " ++ q.tableAlias
  match q.whereClause with
  | none => base
  | some clause => base ++ " WHERE " ++ Placeholder.render (q.params.map (·.name)) clause

variable {q : Query} {p : Predicate}

theorem register_eq : q.register p =
    { q with predicates := q.predicates ++ [p.sql], params := q.params ++ p.params } := by
  suffices h : ∀ (ps : List BoundParam) (q : Query), ps.foldl bind q =
      { q with params := q.params ++ ps } by
    simp [register, h, add]
  intro ps
  induction ps with
  | nil => simp
  | cons p ps ih => simp [ih, bind]

end Query

end PropertyFilter
