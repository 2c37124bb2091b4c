/-!
Failures of the file system, told apart by their kind and shown by a text of their own.
-/
set_option autoImplicit false

namespace Companion

-- What kind of failure it is; the other kinds arise outside the file system.
inductive IoError.Kind
  | notFound
  | alreadyExists
  | notADirectory
  | isADirectory
  | invalidData
  | invalidInput
  | other (name : String)
deriving DecidableEq

structure IoError where
  kind : IoError.Kind
  text : String
deriving DecidableEq

namespace IoError

def notFound : IoError := ⟨.notFound, "No such file or directory (os error 2)"⟩

def alreadyExists : IoError := ⟨.alreadyExists, "File exists (os error 17)"⟩

def notADirectory : IoError := ⟨.notADirectory, "Not a directory (os error 20)"⟩

def isADirectory : IoError := ⟨.isADirectory, "Is a directory (os error 21)"⟩

def invalidData : IoError := ⟨.invalidData, "stream did not contain valid UTF-8"⟩

def invalidInput : IoError := ⟨.invalidInput, "file name contained an unexpected NUL byte"⟩

end IoError
end Companion
