import PropertyFilter.Compile

/-!
# Filters as programs on a draft

Compiling filters step by step on one draft: names are drawn one at a time while conditions are
being written, and conditions and parameters are added one at a time. What a program has done to
the draft stays done, even if the program fails or turns the input down afterwards.

## Main definitions

* `Drafting` — a program that works on a draft and may fail
* `Drafting.perform` — what a program returns, and the draft that it leaves
* `Drafting.compile`, `Drafting.filterProperty`, `Drafting.apply` — the programs for one filter
  and for all filters of a request
-/

namespace PropertyFilter

/-- A program that works on a draft and may fail. -/
abbrev Drafting := ExceptT FilterError (StateM Draft)

namespace Drafting

/-- What a program returns, and the draft that it leaves. -/
def perform {α : Type} (program : Drafting α) (d : Draft) : Except FilterError α × Draft :=
  program.run.run d

/-! ### Steps -/

/-- Draws a new name. -/
def drawName (seed : String) : Drafting String := do
  let d ← get
  let (name, source) := d.names.next seed
  set { d with names := source }
  return name

/-- Draws a name for a value. -/
def drawParam (seed : String) (value : BoundValue) : Drafting BoundParam := do
  let name ← drawName seed
  return ⟨name, value⟩

/-- Adds a condition. -/
def addCondition (sql : String) : Drafting Unit :=
  modify fun d => { d with query := d.query.add sql }

/-- Adds a parameter. -/
def bindParam (p : BoundParam) : Drafting Unit :=
  modify fun d => { d with query := d.query.bind p }

/-- Adds a condition and then each of its parameters. -/
def register (p : Predicate) : Drafting Unit := do
  addCondition p.sql
  p.params.forM bindParam

/-- Tells the client something. -/
def notify (n : Notice) : Drafting Unit :=
  modify fun d => { d with notices := d.notices ++ [n] }

/-! ### Predicates -/

/-- One equality for each parameter. -/
def equalities (target : Plan.Target) (foldsCase castsSlot : Bool) (params : List BoundParam) :
    List (Comparison String) :=
  params.map fun p => ⟨target.column, target.key, foldsCase, .equal, castsSlot, p.name⟩

/-- The predicate for texts, or the reason why several of them are refused. -/
def ofStrings (target : Plan.Target) (strategy : Strategy) (seed : String) :
    List String → Drafting (Except IgnoredReason Predicate)
  | [s] => do
    let p ← drawParam seed (.text (Plan.operand strategy s))
    return .ok ⟨(strategy.condition target.column target.key p.name).sql Sql.slot, [p]⟩
  | ss =>
    match strategy.rule with
    | .exact => do
      let values := ss.map fun s => .text (Plan.operand strategy s)
      let params ← values.mapM (drawParam seed)
      let comparisons := equalities target (!strategy.caseSensitive) false params
      return .ok ⟨(Condition.anyOf comparisons).sql Sql.slot, params⟩
    | rule => return .error (.unsupportedMultiValueStrategy rule.token)

/-- The predicate for numbers. -/
def ofNumbers (target : Plan.Target) (seed : String) (values : List BoundValue) :
    Drafting Predicate := do
  let params ← values.mapM (drawParam seed)
  match equalities target false true params with
  | [c] => return ⟨(Condition.single c).sql Sql.slot, params⟩
  | cs => return ⟨(Condition.anyOf cs).sql Sql.slot, params⟩

/-- The predicate for a truth value. -/
def ofBool (target : Plan.Target) (seed : String) (value : Bool) : Drafting Predicate := do
  let p ← drawParam seed (.text (if value then "true" else "false"))
  return ⟨(Condition.anyOf (equalities target false false [p])).sql Sql.slot, [p]⟩

/-- The predicate for typed values, or the reason why they are refused. -/
def ofValues (target : Plan.Target) (strategy : Strategy) (seed : String) :
    TypedValues → Drafting (Except IgnoredReason Predicate)
  | .strings ss => ofStrings target strategy seed ss
  | .ints ns => return .ok (← ofNumbers target seed (ns.map .int))
  | .floats literals => return .ok (← ofNumbers target seed (literals.map .float))
  | .bool b => return .ok (← ofBool target seed b)

/-! ### Filters -/

/-- Adds the filter of a property whose column can be read. -/
def compileProperty (p : Property) (value : RequestValue) : Drafting Outcome :=
  match p.strategy with
  | none => return .ignored (.invalidStrategy p.strategyToken)
  | some strategy =>
    match TypedValues.ofScalars p.kind value.toList with
    | .error reason => return .ignored reason
    | .ok values => do
      let d ← get
      let target := ⟨d.query.tableAlias ++ "." ++ p.path.column, p.path.key⟩
      match ← ofValues target strategy p.path.column values with
      | .error reason => return .ignored reason
      | .ok predicate =>
        register predicate
        return .applied predicate

/-- Adds the filter of a property. -/
def compile (s : FilterSet) (schema : Schema) (property : String) (value : Option RequestValue) :
    Drafting Outcome := do
  let d ← get
  if !d.query.backend.isJsonCapable then throw (.invalidPlatform d.query.backend)
  else
    match value with
    | none => return .skipped .nullValue
    | some value =>
      match s.get? property with
      | none => return .skipped .propertyNotEnabled
      | some p =>
        if !schema.isMapped p.path.column then return .skipped .columnNotMapped
        else if !schema.isJsonColumn p.path.column then return .skipped .columnNotJson
        else compileProperty p value

/-- Adds the filter of a property, with a notice if its input is refused. -/
def filterProperty (s : FilterSet) (schema : Schema) (property : String)
    (value : Option RequestValue) : Drafting Outcome := do
  let o ← compile s schema property value
  match o with
  | .ignored reason => notify (reason.notice property)
  | _ => pure ()
  return o

/-- Adds the filters of a list of values, in its order. -/
def applyEach (s : FilterSet) (schema : Schema) (entries : List (String × RequestValue)) :
    Drafting (List (String × Outcome)) :=
  entries.mapM fun (property, value) => do
    let o ← filterProperty s schema property (some value)
    return (property, o)

/-- Adds all filters of a request, in the order of their names. -/
def apply (s : FilterSet) (schema : Schema) (request : SortedMap RequestValue) :
    Drafting (List (String × Outcome)) :=
  applyEach s schema request.toList

end Drafting

end PropertyFilter
