/-!
# Names of create functions

A library exports its create function under a name made from the library's
own file name: without directories, without one leading "lib", without
anything from the first dot on, and with underscores for dashes.
-/

namespace VmBridge

/-- The symbol that every library may export. -/
def defaultSymbol : String := "qrvmc_create"

/-- The beginning of a symbol that is made for one library. -/
def symbolStart : String := "qrvmc_create_"

/-- The part of a path after its last slash. -/
def fileName (path : List Char) : List Char :=
  (path.reverse.takeWhile (· ≠ '/')).reverse

/-- A name without one leading "lib". -/
def withoutLib : List Char → List Char
  | 'l' :: 'i' :: 'b' :: rest => rest
  | name => name

/-- The part of a name before its first dot. -/
def stem (name : List Char) : List Char := name.takeWhile (· ≠ '.')

/-- A name with underscores for dashes. -/
def withUnderscores (name : List Char) : List Char :=
  name.map fun character => if character = '-' then '_' else character

/-- The own part of the symbol that a library at a path exports. -/
def libraryName (path : List Char) : List Char :=
  withUnderscores (stem (withoutLib (fileName path)))

/-- The name of the create function that is looked up first. -/
def createSymbol (path : String) : String :=
  symbolStart ++ String.ofList (libraryName path.toList)

end VmBridge
