import GuestRuntime.Library.Disk

/-!
The scripted installations, by the names of their directories: `full` has every symbol, `no-` and a
list lacks those on it, and three directories hold something that is no library. Not every list has
a directory: what is lacking is one symbol or a whole group, named in the group's order.
-/

namespace GuestRuntime.Library

/-- Every symbol a scripted library can have. -/
def allSymbols : List String := depthSymbol :: requiredSymbols

/-- The directories that hold no library that loads. -/
def duds : List String := ["garbage", "empty", "dir"]

/-- The symbols that can be lacking together, each group in the order of its directory's name. -/
def groups : List (List String) :=
  [[depthSymbol, "R_CStackLimit"], ["R_gc", "R_GlobalEnv"], ["Rf_protect", "Rf_allocVector"],
    ["R_ParseVector", "Rf_xlength"], ["Rf_endEmbeddedR", "TYPEOF", "R_NilValue"],
    ["STRING_ELT", "R_tryEval", "SET_STRING_ELT"]]

/-- What a directory can be named for lacking: one symbol, or a group. -/
def lacks : List (List String) := allSymbols.map (fun s => [s]) ++ groups

/-- The symbols a directory's name says its library lacks. -/
def lacking? (name : String) : Option (List String) :=
  match name.toList with
  | 'n' :: 'o' :: '-' :: r =>
    let symbols := (r.splitOn ',').map String.ofList
    if lacks.contains symbols then some symbols else none
  | _ => if name = "full" then some [] else none

def directory? (name : String) : Option Directory :=
  match lacking? name with
  | some lacking => some (.installation lacking)
  | none => if duds.contains name then some .other else none

/-- The working directory of the scripted installations, one image prepared. -/
def scriptedDisk (prepared : Option (String × Scripted.Image)) : Disk :=
  { directory := directory?, images := prepared.toList }

end GuestRuntime.Library
