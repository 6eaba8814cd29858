import DumpLens.Json.Basic

/-! What of a value others get to see. -/

namespace DumpLens.Json

/-- How the keys of private entries start. -/
def privateMark : CodePoints := .ofText "_sa".toList

/-- Whether a key is that of a private entry. -/
def isPrivate (key : CodePoints) : Bool :=
  privateMark.isPrefixOf key

mutual

/-- A value without its private entries, at any depth. -/
def visible : Json → Json
  | array items => array (visibleItems items)
  | object entries => object (visibleEntries entries)
  | value => value

def visibleItems : List Json → List Json
  | [] => []
  | item :: rest => visible item :: visibleItems rest

def visibleEntries : JsonEntries → JsonEntries
  | [] => []
  | (key, value) :: rest =>
    if isPrivate key then visibleEntries rest else (key, visible value) :: visibleEntries rest

end

example : (visible (.array [record [("a", .null), ("_saw", .null)]])).text =
    "[\x7b\"a\":null\x7d]".toList := by decide +kernel

end DumpLens.Json
