import TokenLedger.Bytes
import TokenLedger.Path

/-!
# Files

What reading a file can give, and files held in memory: texts under relative paths, in which a
look-up moves part by part from the directory everything stands in. A directory exists as long as
a file lies below it. Of what lies around them only some directories and files that every system has
are known, by their places below the root, which a look-up also reaches by going up often enough.
-/

namespace TokenLedger

/-- Why the text of a file cannot be had. -/
inductive ReadFailure where
  /-- Nothing is there. -/
  | notFound
  /-- A part of the path on the way is a file. -/
  | notDirectory
  /-- A directory is there. -/
  | isDirectory
  /-- The path, or a part of it, is longer than any file's. -/
  | nameTooLong
  /-- The path holds a character that no file's does. -/
  | nulInPath
  /-- The bytes of the file are no text. -/
  | notText
  /-- Anything else, in the system's words. -/
  | other (reason : String)
  deriving DecidableEq

namespace ReadFailure

/-- What the system says. -/
def message : ReadFailure → String
  | .notFound => "No such file or directory (os error 2)"
  | .notDirectory => "Not a directory (os error 20)"
  | .isDirectory => "Is a directory (os error 21)"
  | .nameTooLong => "File name too long (os error 36)"
  | .nulInPath => "file name contained an unexpected NUL byte"
  | .notText => "stream did not contain valid UTF-8"
  | .other reason => reason

/-- Whether the failure says that there is nothing under the path. -/
def isAbsent : ReadFailure → Bool
  | .notFound | .notDirectory | .nameTooLong | .nulInPath => true
  | .isDirectory | .notText | .other _ => false

end ReadFailure

/-- What reading a file gives. -/
abbrev FileRead := Except ReadFailure String

/-- Texts of files under the parts of their paths. -/
structure FileTree where
  /-- The files. -/
  files : List (List String × String)

namespace FileTree

/-- The tree of files given by paths and texts. -/
def ofList (files : List (String × String)) : FileTree :=
  ⟨files.map fun file => (Path.parts file.1, file.2)⟩

/-- The text of the file at a place. -/
def textAt? (tree : FileTree) (place : List String) : Option String :=
  (tree.files.find? fun file => file.1 = place).map Prod.snd

/-- Whether a place is a directory: the one everything stands in, or one above a file. -/
def isDirectory (tree : FileTree) (place : List String) : Bool :=
  place.isEmpty || tree.files.any fun file => place.isPrefixOf file.1 && file.1 ≠ place

/-- The directories outside the tree that are known to be there, by their parts from the root. -/
def systemDirectories : List (List String) :=
  [[], ["bin"], ["dev"], ["etc"], ["home"], ["lib"], ["media"], ["mnt"], ["opt"], ["proc"],
    ["proc", "self"], ["root"], ["run"], ["sbin"], ["srv"], ["sys"], ["tmp"], ["usr"],
    ["usr", "bin"], ["usr", "lib"], ["usr", "local"], ["usr", "sbin"], ["usr", "share"], ["var"],
    ["var", "lib"], ["var", "log"], ["var", "tmp"]]

/-- The files outside the tree that are known to be there. Of their texts it is only known that none
is a document. -/
def systemFiles : List (List String × String) :=
  [(["dev", "null"], ""), (["etc", "group"], "root:x:0:\n"),
    (["etc", "hosts"], "127.0.0.1 localhost\n"), (["etc", "passwd"], "root:x:0:0::/root:/bin/sh\n")]

/-- How far the directory everything stands in is below the root. -/
def depth : Nat := 2

/-- Where a look-up has arrived. -/
inductive Place where
  /-- In a directory of the tree. -/
  | directory (place : List String)
  /-- At a file. -/
  | file (text : String)
  /-- In a directory so many levels above the tree, of which nothing else is known. -/
  | above (levels : Nat)
  /-- In a directory given by its parts from the root. -/
  | outside (place : List String)

/-- Where a part of a path leads that is not the name for the directory above. -/
def enter (tree : FileTree) (name : String) : Place → Except ReadFailure Place
  | .file _ => .error .notDirectory
  | .above _ => .error .notFound
  | .outside place =>
    let next := place ++ [name]
    if systemDirectories.contains next then .ok (.outside next)
    else
      match systemFiles.lookup next with
      | some text => .ok (.file text)
      | none => .error .notFound
  | .directory place =>
    let next := place ++ [name]
    if tree.isDirectory next then .ok (.directory next)
    else
      match tree.textAt? next with
      | some text => .ok (.file text)
      | none => .error .notFound

/-- The directory above one that is so many levels above the tree. -/
def climb (levels : Nat) : Place :=
  if levels + 1 < depth then .above (levels + 1) else .outside []

/-- The directory above. The root is its own. -/
def leave : Place → Except ReadFailure Place
  | .file _ => .error .notDirectory
  | .above levels => .ok (climb levels)
  | .outside place => .ok (.outside place.dropLast)
  | .directory place => .ok (if place.isEmpty then climb 0 else .directory place.dropLast)

/-- One part of a path. A file has no parts below it, however long their names are. -/
def move (tree : FileTree) (place : Place) (part : String) : Except ReadFailure Place :=
  if part = ".." then leave place
  else
    match place with
    | .file _ => .error .notDirectory
    | place =>
      if Path.maxPartLength < Bytes.textLength part then .error .nameTooLong
      else tree.enter part place

/-- Where the parts of a path lead. -/
def follow (tree : FileTree) : Place → List String → Except ReadFailure Place
  | place, [] => .ok place
  | place, part :: rest =>
    match tree.move place part with
    | .ok next => tree.follow next rest
    | .error failure => .error failure

/-- Whether a path can only name a directory. -/
def namesDirectory (path : String) : Bool :=
  Path.endsInSlash path || path.toList.reverse.take 2 = ['.', '/']

/-- Reads the file of a path. -/
def read (tree : FileTree) (path : String) : FileRead :=
  if path.toList.contains '\x00' then .error .nulInPath
  else if path.isEmpty then .error .notFound
  else if Path.maxLength < Bytes.textLength path then .error .nameTooLong
  else
    let start := if Path.isAbsolute path then .outside [] else .directory []
    match tree.follow start (Path.parts path) with
    | .error failure => .error failure
    | .ok (.file text) => if namesDirectory path then .error .notDirectory else .ok text
    | .ok _ => .error .isDirectory

end FileTree

end TokenLedger
