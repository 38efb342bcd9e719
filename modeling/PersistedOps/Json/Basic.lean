import PersistedOps.Number.Shortest
import PersistedOps.Text.JsonQuoted

/-!
JSON values that keep the order of keys and tell whole numbers from numbers with a fraction or an
exponent.
-/

namespace PersistedOps

inductive Json where
  | null
  | bool (b : Bool)
  | int (n : Int)
  | float (x : Binary64)
  | str (s : String)
  | arr (items : List Json)
  | obj (fields : List (String × Json))
deriving Inhabited, Repr

namespace Json

/-- Puts a pair into a list of pairs: a known key keeps its place and takes the new value. -/
def put {α : Type} (fields : List (String × α)) (key : String) (value : α) : List (String × α) :=
  match fields with
  | [] => [(key, value)]
  | (k, v) :: rest => if k = key then (k, value) :: rest else (k, v) :: put rest key value

def get? : Json → String → Option Json
  | obj fields, key => fields.lookup key
  | _, _ => none

def str? : Json → Option String
  | str s => some s
  | _ => none

def arr? : Json → Option (List Json)
  | arr items => some items
  | _ => none

mutual

/-- Compact text with only what JSON requires escaped. -/
def render : Json → String
  | null => "null"
  | bool b => if b then "true" else "false"
  | int n => toString n
  | float x => x.text
  | str s => JsonQuoted.unicode s
  | arr items => "[" ++ String.intercalate "," (renderItems items) ++ "]"
  | obj fields => "\x7b" ++ String.intercalate "," (renderFields fields) ++ "\x7d"

def renderItems : List Json → List String
  | [] => []
  | v :: rest => render v :: renderItems rest

def renderFields : List (String × Json) → List String
  | [] => []
  | (key, v) :: rest => (JsonQuoted.unicode key ++ ":" ++ render v) :: renderFields rest

end

end Json

end PersistedOps
