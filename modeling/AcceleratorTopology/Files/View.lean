/-!
# Views of a file system

What can be seen of a file system: the entries of a directory, the file or directory that a path
leads to once all links are followed, and the content of a file. Names are bytes; a path is the
list of its names from the root.
-/

namespace AcceleratorTopology.Files

/-- The name of a file or directory. -/
abbrev Name := List UInt8

/-- The names on the way from the root. -/
abbrev Path := List Name

/-- The byte between names in a written path. -/
def slash : UInt8 := 0x2F

/-- The path that is written with slashes between names. A name is empty where slashes follow each
other and after a slash at the end: it stands for the directory that it is looked up in, so what
comes before it must be a directory. -/
def pathOf : List UInt8 → Path
  | [] => [[]]
  | byte :: bytes =>
    if byte = slash then [] :: pathOf bytes
    else
      match pathOf bytes with
      | [] => [[byte]]
      | name :: names => (byte :: name) :: names

/-- Why something cannot be seen. -/
inductive FileError where
  | notFound
  | notADirectory
  | isADirectory
  | tooManyLinks
  | other (reason : String)
  deriving DecidableEq, Repr

/-- The text of an error. -/
def FileError.message : FileError → String
  | notFound => "No such file or directory (os error 2)"
  | notADirectory => "Not a directory (os error 20)"
  | isADirectory => "Is a directory (os error 21)"
  | tooManyLinks => "Too many levels of symbolic links (os error 40)"
  | other reason => reason

/-- What can be seen of a file system. -/
structure View where
  /-- The entries of a directory in the order in which the system lists them; listing may fail
  part-way. -/
  list : Path → Except FileError (List (Except FileError Name))
  /-- The path without links to where a path leads. -/
  resolve : Path → Except FileError Path
  /-- The content of a file. -/
  read : Path → Except FileError (List UInt8)

end AcceleratorTopology.Files
