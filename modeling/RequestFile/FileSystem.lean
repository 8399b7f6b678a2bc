import RequestFile.Text.Quoted

/-!
This module contains paths and the files that they lead to, as far as reading is concerned.
-/

namespace RequestFile

inductive FileFault where
  | missing
  | isDirectory
  | notDirectory
  | tooLong
  | nullInPath
  deriving DecidableEq, Repr

namespace FileFault

def message (path : String) : FileFault → String
  | missing => "[Errno 2] No such file or directory: " ++ Text.Quoted.text path
  | isDirectory => "[Errno 21] Is a directory: " ++ Text.Quoted.text path
  | notDirectory => "[Errno 20] Not a directory: " ++ Text.Quoted.text path
  | tooLong => "[Errno 36] File name too long: " ++ Text.Quoted.text path
  | nullInPath => "embedded null byte"

end FileFault

abbrev FileSystem := String → Except FileFault (List UInt8)

namespace Path

def names (path : String) : List String :=
  (path.splitOn "/").filter fun name => name != "" && name != "."

def root (path : String) : String :=
  match path.toList.takeWhile (· == '/') with
  | [] => ""
  | ['/', '/'] => "//"
  | _ => "/"

def normalize (path : String) : String :=
  let spelled := root path ++ String.intercalate "/" (names path)
  if spelled = "" then "." else spelled

def endsInDirectory (path : String) : Bool :=
  match (path.splitOn "/").getLast? with
  | some name => name == "" || name == "." || name == ".."
  | none => true

def fault? (path : String) : Option FileFault :=
  -- Whatever files there are, these paths lead nowhere.
  if path.toList.contains '\x00' then some .nullInPath
  else if 4096 ≤ path.utf8ByteSize then some .tooLong
  else if path = "" then some .missing
  else none

def isLongName (name : String) : Bool :=
  255 < name.utf8ByteSize

end Path

inductive FileTree where
  | file (bytes : List UInt8)
  | directory (entries : List (String × FileTree))

namespace FileTree

def child? (name : String) : List (String × FileTree) → Option FileTree
  | [] => none
  | (n, tree) :: rest => if n = name then some tree else child? name rest

def put (tree : FileTree) : List String → List (String × FileTree) → List (String × FileTree)
  | [], entries => entries
  | name :: path, entries =>
    let inner :=
      match child? name entries with
      | some (directory inner) => inner
      | _ => []
    let new := if path.isEmpty then tree else directory (put tree path inner)
    if (child? name entries).isSome then
      entries.map fun (n, old) => if n = name then (n, new) else (n, old)
    else
      entries ++ [(name, new)]

def follow (here : FileTree) (above : List FileTree) : List String → Except FileFault FileTree
  | [] => .ok here
  | name :: path =>
    match here with
    | file _ => .error .notDirectory
    | directory entries =>
      if name = ".." then
        match above with
        | [] => follow (directory []) [] path
        | parent :: above => follow parent above path
      else
        match child? name entries with
        | none => .error (if Path.isLongName name then .tooLong else .missing)
        | some next => follow next (here :: above) path

/--
Read files below a working directory. An absolute path leads nowhere but to the root directory.
-/
def fileSystem (entries : List (String × FileTree)) : FileSystem := fun path =>
  let start := if Path.root path = "" then directory entries else directory []
  match Path.fault? path with
  | some fault => .error fault
  | none =>
    match follow start [] (Path.names path) with
    | .error fault => .error fault
    | .ok (directory _) => .error .isDirectory
    | .ok (file bytes) => if Path.endsInDirectory path then .error .notDirectory else .ok bytes

end FileTree

end RequestFile
