/-! TOML documents as values. No key is given twice, and a table is opened by one header only. -/

namespace Tagwire.Toml

inductive Value where
  | string (text : String)
  | integer (value : Int)
  | boolean (value : Bool)
  | float
  | moment
  | array (items : List Value)
  | table (entries : List (String × Value))
deriving Inhabited

def Value.get? (key : String) : List (String × Value) → Option Value
  | [] => none
  | e :: rest => if e.1 = key then some e.2 else get? key rest

inductive Origin where
  | implied
  | dotted
  | header
deriving DecidableEq

inductive Item where
  | value (v : Value)
  | table (origin : Origin) (entries : List (String × Item))
  | tables (elements : List Item)

namespace Item

mutual

def toValue : Item → Value
  | .value v => v
  | .table _ entries => .table (toEntries entries)
  | .tables elements => .array (toValues elements)

def toEntries : List (String × Item) → List (String × Value)
  | [] => []
  | (key, item) :: rest => (key, item.toValue) :: toEntries rest

def toValues : List Item → List Value
  | [] => []
  | item :: rest => item.toValue :: toValues rest

end

end Item

structure Table where
  origin : Origin
  entries : List (String × Item)

namespace Table

def root : Table :=
  ⟨.header, []⟩

def item (t : Table) : Item :=
  .table t.origin t.entries

def find? (t : Table) (key : String) : Option Item :=
  (t.entries.find? fun e => e.1 = key).map (·.2)

def put (t : Table) (key : String) (item : Item) : Table :=
  { t with entries := t.entries.filter (fun e => e.1 ≠ key) ++ [(key, item)] }

def ofItem? : Item → Option Table
  | .table origin entries => some ⟨origin, entries⟩
  | _ => none

/-- Changes the table at a path, making tables that are missing on the way. Within an array of
tables the way goes through the last one. -/
def alter (dotted : Bool) : List String → (Table → Option Table) → Table → Option Table
  | [], f, t => f t
  | key :: path, f, t =>
    match t.find? key with
    | none => do
      let made ← alter dotted path f ⟨if dotted then .dotted else .implied, []⟩
      return t.put key made.item
    | some (.value _) => none
    | some (.table origin entries) =>
      if dotted && origin == .header then none
      else do
        let changed ← alter dotted path f ⟨origin, entries⟩
        return t.put key changed.item
    | some (.tables elements) => do
      let last ← elements.getLast?.bind ofItem?
      let changed ← alter dotted path f last
      return t.put key (.tables (elements.dropLast ++ [changed.item]))

def define (path : List String) (key : String) (v : Value) (t : Table) : Option Table :=
  t.alter true path fun target =>
    if (target.origin == .dotted) == path.isEmpty || (target.find? key).isSome then none
    else some (target.put key (.value v))

def openTable (path : List String) (key : String) (t : Table) : Option Table :=
  t.alter false path fun parent =>
    match parent.find? key with
    | none => some (parent.put key (.table .header []))
    | some (.table .implied entries) => some (parent.put key (.table .header entries))
    | some _ => none

def openElement (path : List String) (key : String) (t : Table) : Option Table :=
  t.alter false path fun parent =>
    match parent.find? key with
    | none => some (parent.put key (.tables [.table .header []]))
    | some (.tables elements) => some (parent.put key (.tables (elements ++ [.table .header []])))
    | some _ => none

end Table

end Tagwire.Toml
