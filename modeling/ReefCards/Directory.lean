import ReefCards.Text.Basic

/-!
# Directories

The files of a directory and their content. A path is taken from the directory itself, so it may
begin with steps that stay there, and it names a file only by its last part.
-/

namespace ReefCards

/-- The files of a directory by name, with their content. -/
structure Directory where
  files : List (Text × Text) := []

namespace Directory

/-- Whether a part of a path before the last stays in the directory. -/
def staysHere (part : Text) : Bool := part = [] || part = ['.']

/-- The name of the file in the directory that a path leads to. A path from the root, or through
another directory, leads to none. -/
def fileName? (path : Text) : Option Text :=
  let parts := path.splitOnP (· = '/')
  if path.head? = some '/' || !parts.dropLast.all staysHere then none else parts.getLast?

/-- The content of the file that a path leads to. -/
def read? (directory : Directory) (path : Text) : Option Text :=
  (fileName? path).bind fun name => List.lookup name directory.files

end Directory
end ReefCards
