import BuildLauncher.Text.Quoted

/-!
# What can go wrong with files

A fault is what the system answers. An error is a fault with the path it is about, or a reason found
before the system was asked.
-/
namespace BuildLauncher.Files

/-- What the system refuses, by its numbers. -/
inductive Fault
  | notFound
  | badFormat
  | accessDenied
  | alreadyExists
  | notDirectory
  | nameTooLong
  | tooManyLinks
deriving DecidableEq, Repr

namespace Fault

def code : Fault → Nat
  | .notFound => 2
  | .badFormat => 8
  | .accessDenied => 13
  | .alreadyExists => 17
  | .notDirectory => 20
  | .nameTooLong => 36
  | .tooManyLinks => 40

def reason : Fault → String
  | .notFound => "No such file or directory"
  | .badFormat => "Exec format error"
  | .accessDenied => "Permission denied"
  | .alreadyExists => "File exists"
  | .notDirectory => "Not a directory"
  | .nameTooLong => "File name too long"
  | .tooManyLinks => "Too many levels of symbolic links"

end Fault

/-- The object of a refused request. -/
inductive Subject
  | nothing
  | named (text : String)
  | directory (text : String)
deriving DecidableEq, Repr

def Subject.text : Subject → String
  | .nothing => ""
  | .named text => ": " ++ Text.quoted text
  | .directory text => ": PosixPath(" ++ Text.quoted text ++ ")"

/-- Why an operation on files gives no result. -/
inductive Error
  | refused (fault : Fault) (subject : Subject)
  | linkLoop (path : String)
  | nulCharacter
  | noHome
deriving DecidableEq, Repr

def Error.message : Error → String
  | .refused fault subject =>
    "[Errno " ++ toString fault.code ++ "] " ++ fault.reason ++ subject.text
  | .linkLoop path => "Symlink loop from " ++ Text.quoted path
  | .nulCharacter => "embedded null byte"
  | .noHome => "Could not determine home directory."

end BuildLauncher.Files
