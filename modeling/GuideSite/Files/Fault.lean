import GuideSite.Text.Quoted

/-!
# Faults of the file tree

Why a path could not be read, created or written.
-/

namespace GuideSite

/-- What stands in the way of a file operation. -/
inductive FileObstacle
  /-- A name of the path holds the null character, which no name can. -/
  | nullCharacter
  | missing
  | exists
  | notDirectory
  | isDirectory
  /-- A name of the path, or the path as a whole, has more bytes than there may be. -/
  | nameTooLong
  deriving DecidableEq, Repr

/-- The words for an obstacle, after its number if it has one. -/
def FileObstacle.text : FileObstacle → String
  | .nullCharacter => "embedded null byte"
  | .missing => "[Errno 2] No such file or directory"
  | .exists => "[Errno 17] File exists"
  | .notDirectory => "[Errno 20] Not a directory"
  | .isDirectory => "[Errno 21] Is a directory"
  | .nameTooLong => "[Errno 36] File name too long"

/-- An obstacle met at a path. -/
structure FileFault where
  obstacle : FileObstacle
  path : String
  deriving DecidableEq, Repr

/-- What a file fault says. -/
def FileFault.message (f : FileFault) : String :=
  if f.obstacle = .nullCharacter then f.obstacle.text else f.obstacle.text ++ ": " ++ Text.quoted f.path

end GuideSite
