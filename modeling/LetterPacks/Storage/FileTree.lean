import LetterPacks.Text.Split

/-!
# File trees

A file tree holds text files and directories, and one of the directories is the home in which
relative paths start.  A path is followed from part to part: `.` and an empty part stay where they
are and demand a directory, `..` goes up, and at the top it stays there.

A name has at most 255 bytes, and a path fewer than 4096.
-/

namespace LetterPacks

inductive FileFault where
  | missing
  | isDirectory
  | notDirectory
  | nameTooLong
  | other (detail : String)
deriving DecidableEq, Repr

def FileFault.message : FileFault → String
  | .missing => "No such file or directory (os error 2)"
  | .isDirectory => "Is a directory (os error 21)"
  | .notDirectory => "Not a directory (os error 20)"
  | .nameTooLong => "File name too long (os error 36)"
  | .other detail => detail

inductive FileEntry where
  | file (text : String)
  | directory
deriving DecidableEq, Repr

abbrev Place : Type := List String

/-- Text files and directories with their places.  The directories above a listed one need not be
listed. -/
structure FileTree where
  home : Place
  files : List (Place × String)
  directories : List Place

namespace FileTree

def defaultHome : Place := ["tmp", "letters"]

def topDirectories : List String :=
  ["bin", "boot", "dev", "etc", "home", "lib", "media", "mnt", "opt", "proc", "root", "run", "sbin",
    "srv", "sys", "tmp", "usr", "var"]

def emptyFile : Place := ["dev", "null"]

/-- The place of a path in a directory.  `.` and empty parts do not count. -/
def placeIn (directory : Place) (path : String) : Place :=
  directory ++ (Text.split '/' path).filter fun part => part != "" && part != "."

def ofFiles (files : List (String × String)) (directories : List String) : FileTree where
  home := defaultHome
  files := files.map fun file => (placeIn defaultHome file.1, file.2)
  directories := directories.map (placeIn defaultHome)

/-- Whether a place is a directory or lies above one or above a file. -/
def isDirectory (tree : FileTree) (place : Place) : Bool :=
  topDirectories.any (fun name => place.isPrefixOf [name]) || place.isPrefixOf tree.home ||
    tree.directories.any place.isPrefixOf || tree.files.any fun file => place.isPrefixOf file.1

def entry? (tree : FileTree) (place : Place) : Option FileEntry :=
  if place = emptyFile then some (.file "")
  else
    match tree.files.lookup place with
    | some text => some (.file text)
    | none => if tree.isDirectory place then some .directory else none

def isLongName (name : String) : Bool :=
  255 < name.utf8ByteSize

def look (tree : FileTree) (place : Place) : Except FileFault FileEntry :=
  if place.getLast?.any isLongName then .error .nameTooLong
  else
    match tree.entry? place with
    | some entry => .ok entry
    | none => .error .missing

def follow (tree : FileTree) (place : Place) : List String → Except FileFault Place
  | [] => .ok place
  | part :: parts =>
      match tree.look place with
      | .error fault => .error fault
      | .ok (.file _) => .error .notDirectory
      | .ok .directory =>
          if part = "" ∨ part = "." then tree.follow place parts
          else if part = ".." then tree.follow place.dropLast parts
          else tree.follow (place ++ [part]) parts

def start (tree : FileTree) (path : String) : Except FileFault Place :=
  if 4096 ≤ path.utf8ByteSize then .error .nameTooLong
  else
    match path.toList with
    | [] => .error .missing
    | '/' :: _ => .ok []
    | _ => .ok tree.home

def find (tree : FileTree) (path : String) : Except FileFault FileEntry := do
  let place ← tree.follow (← tree.start path) (Text.split '/' path)
  tree.look place

def isFile (tree : FileTree) (path : String) : Bool :=
  match tree.find path with
  | .ok (.file _) => true
  | _ => false

def read (tree : FileTree) (path : String) : Except FileFault String :=
  match tree.find path with
  | .ok (.file text) => .ok text
  | .ok .directory => .error .isDirectory
  | .error fault => .error fault

/-- The tree with a text in the file at the end of a path.  The file need not be there before, but
its directory must, and no slash may follow its name. -/
def write (tree : FileTree) (path text : String) : Except FileFault FileTree := do
  let parts := Text.split '/' path
  let named := (parts.reverse.dropWhile (· = "")).reverse
  let place ← tree.follow (← tree.start path) named
  if named.length < parts.length then .error .isDirectory
  else
    match tree.look place with
    | .ok .directory => .error .isDirectory
    | .ok (.file _) | .error .missing => .ok { tree with files := (place, text) :: tree.files }
    | .error fault => .error fault

end FileTree

end LetterPacks
