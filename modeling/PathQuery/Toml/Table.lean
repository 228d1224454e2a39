import PathQuery.Json.Basic

namespace PathQuery.Toml

/-- What stands under a key. A table is implied if only a longer key has mentioned it, and dotted if
a dotted key has made it. -/
inductive Item where
  | value (value : Json)
  | table (implied dotted : Bool) (items : List (String × Item))
  | tables (tables : List (List (String × Item)))

abbrev Items := List (String × Item)

namespace Items

def find? (key : String) (items : Items) : Option Item :=
  items.lookup key

/-- Puts an item under a key, in the place of what was there. -/
def put (key : String) (item : Item) (items : Items) : Items :=
  (key, item) :: items.filter (·.1 ≠ key)

/-- Changes the table at a path. Tables on the way are made as needed; of an array of tables the
last one is meant. `change` is told whether the table is a dotted one. -/
def modifyAt (dotted : Bool) (change : (isDotted : Bool) → Items → Option Items) :
    (path : List String) → (isDotted : Bool) → Items → Option Items
  | [], isDotted, items => change isDotted items
  | key :: path, _, items =>
    match items.find? key with
    | none => do
      let inner ← modifyAt dotted change path dotted []
      return items.put key (.table true dotted inner)
    | some (.value _) => none
    | some (.tables tables) =>
      match tables.getLast? with
      | none => none
      | some last => do
        let inner ← modifyAt dotted change path false last
        return items.put key (.tables (tables.dropLast ++ [inner]))
    | some (.table implied isDotted inner) =>
      if dotted && !implied then none
      else do
        let inner ← modifyAt dotted change path isDotted inner
        return items.put key (.table implied isDotted inner)

/-- Adds a value under a key, which may be dotted; a key counts once. -/
def addValue (path : List String) (key : String) (value : Json) (items : Items) : Option Items :=
  let insert := fun (isDotted : Bool) (items : Items) =>
    if isDotted == path.isEmpty || (items.find? key).isSome then none
    else some (items.put key (.value value))
  modifyAt true insert path false items

/-- Opens the table of a header: a new one, or one that was only implied so far. -/
def openTable (path : List String) (key : String) (items : Items) : Option Items :=
  let insert := fun (_ : Bool) (items : Items) =>
    match items.find? key with
    | none => some (items.put key (.table false false []))
    | some (.table true false inner) => some (items.put key (.table false false inner))
    | _ => none
  modifyAt false insert path false items

/-- Opens one more table of an array of tables. -/
def openNext (path : List String) (key : String) (items : Items) : Option Items :=
  let insert := fun (_ : Bool) (items : Items) =>
    match items.find? key with
    | none => some (items.put key (.tables [[]]))
    | some (.tables tables) => some (items.put key (.tables (tables ++ [[]])))
    | _ => none
  modifyAt false insert path false items

end Items

mutual

/-- The value of a finished item. -/
def Item.toJson : Item → Json
  | .value value => value
  | .table _ _ items => .object (toFields items)
  | .tables tables => .array (toArray tables)

def toFields : List (String × Item) → Json.Fields
  | [] => []
  | (key, item) :: rest => Json.Fields.insert key item.toJson (toFields rest)

def toArray : List (List (String × Item)) → List Json
  | [] => []
  | items :: rest => .object (toFields items) :: toArray rest

end

end PathQuery.Toml
