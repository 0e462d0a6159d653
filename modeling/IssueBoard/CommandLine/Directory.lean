import IssueBoard.Text.Lines
import IssueBoard.Text.Quoted

/-!
# Directories

The files that a run can see: a directory of text files, by their paths. A file is written only
where its directory is there already.
-/

namespace IssueBoard.CommandLine

/-- Why a file cannot be read or written. -/
inductive FileFault where
  | missing
  | isDirectory
  /-- A part of the path that should be a directory is a file. -/
  | notDirectory
  /-- The path, or a name in it, is too long. -/
  | nameTooLong
  deriving DecidableEq

/-- What is wrong with the file at a path. -/
def FileFault.message (fault : FileFault) (path : String) : String :=
  let reason := match fault with
    | .missing => "[Errno 2] No such file or directory"
    | .isDirectory => "[Errno 21] Is a directory"
    | .notDirectory => "[Errno 20] Not a directory"
    | .nameTooLong => "[Errno 36] File name too long"
  reason ++ ": " ++ Text.quoted path

/-- The names of a path between its slashes, from the name `open`, reversed, on. -/
def namesFrom (name : List Char) : List Char → List (List Char)
  | [] => [name.reverse]
  | c :: rest => if c == '/' then name.reverse :: namesFrom [] rest else namesFrom (c :: name) rest

/-- A path without what makes no difference: slashes that repeat or end it, and single dots. -/
def normalPath (path : String) : String :=
  let cs := path.toList
  let slashes := cs.takeWhile (· == '/')
  let root := if slashes.length = 2 then "//" else if slashes.isEmpty then "" else "/"
  let names := (namesFrom [] cs).filter fun name => !name.isEmpty && name != ['.']
  let normal := root ++ "/".intercalate (names.map String.ofList)
  if normal.isEmpty then "." else normal

/-- Text files by their paths, and the paths of directories that are there besides those of the
files. -/
structure Directory where
  files : List (String × String) := []
  folders : List String := []
  deriving DecidableEq

namespace Directory

/-- Whether one path leads through another. -/
def leadsThrough (path around : String) : Bool := (around.toList ++ ['/']).isPrefixOf path.toList

/-- Whether there is a directory at a path. -/
def hasDirectory (directory : Directory) (path : String) : Bool :=
  [".", "..", "/", "//"].contains path || directory.folders.contains path
    || directory.files.any fun (name, _) => leadsThrough name path

/-- Whether a path leads through a file. -/
def isBlocked (directory : Directory) (path : String) : Bool :=
  directory.files.any fun (name, _) => leadsThrough path name

/-- The number of bytes that a name in a path may have. -/
def nameLimit : Nat := 255

/-- The number of bytes that a path may have. -/
def pathLimit : Nat := 4095

/-- Whether the names that lead on from a place, which is written before them, come to one that is
too long. Names behind something that is no directory are not looked at. -/
def meetsLongName (directory : Directory) (before : String) : List String → Bool
  | [] => false
  | name :: rest =>
    nameLimit < name.utf8ByteSize
      || (directory.hasDirectory (before ++ name)
        && directory.meetsLongName (before ++ name ++ "/") rest)

/-- Whether a path is too long, or has a name that is. -/
def isTooLong (directory : Directory) (path : String) : Bool :=
  let root := String.ofList (path.toList.takeWhile (· == '/'))
  let names := namesFrom [] (path.toList.dropWhile (· == '/'))
  pathLimit < path.utf8ByteSize || directory.meetsLongName root (names.map String.ofList)

/-- The text of a file; every kind of line break is read as a line feed. -/
def read (directory : Directory) (path : String) : Except FileFault String :=
  match directory.files.lookup path with
  | some text => .ok (String.ofList (Text.unifyBreaks text.toList))
  | none =>
    if directory.isTooLong path then .error .nameTooLong
    else if directory.hasDirectory path then .error .isDirectory
    else if directory.isBlocked path then .error .notDirectory
    else .error .missing

/-- The directory in which a path lies. -/
def parent (path : String) : String :=
  match (path.toList.reverse.dropWhile (· != '/')).drop 1 with
  | [] => "."
  | around => String.ofList around.reverse

/-- Puts a text into a file, in place of what it holds. -/
def put (name text : String) : List (String × String) → List (String × String)
  | [] => [(name, text)]
  | (known, old) :: rest =>
    if known == name then (known, text) :: rest else (known, old) :: put name text rest

/-- The directory after a text is written to a file. -/
def write (directory : Directory) (path text : String) : Except FileFault Directory :=
  if directory.isTooLong path then .error .nameTooLong
  else if directory.hasDirectory path then .error .isDirectory
  else if directory.isBlocked path then .error .notDirectory
  else if directory.hasDirectory (parent path) then
    .ok { directory with files := put path text directory.files }
  else .error .missing

/-- The files that one directory has and another has not, or with another text. -/
def changes (after before : Directory) : List (String × String) :=
  after.files.filter fun (name, text) => before.files.lookup name != some text

end Directory

end IssueBoard.CommandLine
