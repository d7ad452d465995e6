import RouteParams.Text.Quoted

/-!
Files of a working directory. A path is brought to a normal form before it is used: components that
stand for the place where they are, repeated slashes and a slash at the end say nothing.
-/
namespace RouteParams.CommandLine

inductive FileError where
  | missing (path : String)
  | denied (path : String)
  | notDirectory (path : String)
  | isDirectory (path : String)
  | nameTooLong (path : String)
  | nullCharacter
  deriving DecidableEq

namespace FileError

def message : FileError → String
  | .missing path => "[Errno 2] No such file or directory: " ++ Text.quoted path
  | .denied path => "[Errno 13] Permission denied: " ++ Text.quoted path
  | .notDirectory path => "[Errno 20] Not a directory: " ++ Text.quoted path
  | .isDirectory path => "[Errno 21] Is a directory: " ++ Text.quoted path
  | .nameTooLong path => "[Errno 36] File name too long: " ++ Text.quoted path
  | .nullCharacter => "embedded null byte"

end FileError

namespace Path

def components (path : List Char) : List (List Char) :=
  (path.splitOn '/').filter fun part => !part.isEmpty && part != ['.']

/-- The slashes at the front of an absolute path. Exactly two of them are kept as they are. -/
def leadingSlashes (path : List Char) : List Char :=
  match path.takeWhile (· == '/') with
  | [] => []
  | ['/', '/'] => ['/', '/']
  | _ => ['/']

/-- The normal form of a path. The empty path is the working directory. -/
def normalize (path : String) : String :=
  let chars := path.toList
  let front := leadingSlashes chars
  match front, components chars with
  | [], [] => "."
  | front, parts => String.ofList (front ++ List.intercalate ['/'] parts)

end Path

structure Directory where
  files : List (String × List UInt8)

namespace Directory

def parts (path : String) : List String :=
  (Path.components path.toList).map String.ofList

def file? (directory : Directory) (place : List String) : Option (List UInt8) :=
  (directory.files.find? fun file => parts file.1 == place).map Prod.snd

def isDirectory (directory : Directory) (place : List String) : Bool :=
  place.isEmpty || directory.files.any fun file =>
    place.isPrefixOf (parts file.1) && parts file.1 != place

/-- The longest component and the longest path in octets. -/
def longestName : Nat := 255

def longestPath : Nat := 4095

/-- Nothing is known of what lies outside the working directory but that the directories on the way
to it exist. -/
def outside (path : String) (parts : List String) : FileError :=
  match parts.dropWhile (· == "..") with
  | [] => .isDirectory path
  | part :: _ => if longestName < part.utf8ByteSize then .nameTooLong path else .missing path

def follow (directory : Directory) (path : String) (place : List String) :
    List String → Except FileError (List UInt8)
  | [] => .error (.isDirectory path)
  | part :: rest =>
    if part = ".." then
      if place.isEmpty then .error (outside path rest)
      else follow directory path place.dropLast rest
    else if longestName < part.utf8ByteSize then .error (.nameTooLong path)
    else
      let next := place ++ [part]
      match directory.file? next with
      | some content => if rest.isEmpty then .ok content else .error (.notDirectory path)
      | none =>
        if directory.isDirectory next then follow directory path next rest
        else .error (.missing path)

def read (directory : Directory) (path : String) : Except FileError (List UInt8) :=
  let normal := Path.normalize path
  if path.toList.contains '\x00' then .error .nullCharacter
  else if longestPath < normal.utf8ByteSize then .error (.nameTooLong normal)
  else if normal.toList.head? = some '/' then .error (outside normal (parts normal))
  else follow directory normal [] (parts normal)

end Directory
end RouteParams.CommandLine
