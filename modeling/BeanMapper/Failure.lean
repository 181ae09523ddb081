import BeanMapper.Config
import BeanMapper.FileSystem.State
import BeanMapper.Insertion
import BeanMapper.Json.Decode
import BeanMapper.Locate

/-!
# Failures — why a run ends without a result
-/

namespace BeanMapper

/-- Why a run ends without a result. -/
inductive Failure where
  /-- There is nothing to generate at the cursor. -/
  | abort (reason : Abort)
  /-- A file cannot be read or written. -/
  | file (error : FileError)
  /-- A configuration file does not hold a configuration. -/
  | unreadableConfig (path : String) (problem : Json.Problem)
  /-- A setting breaks its rule. -/
  | invalidConfig (fault : Config.Fault)
  /-- The snippet cannot be inserted. -/
  | insertion (error : InsertionError)

/-- The words for a failure, given the words for a text that does not hold what is expected. -/
def Failure.messageWith (detail : Json.Problem → String) : Failure → String
  | .abort reason => "Generation aborted: " ++ reason.userMessage
  | .file error => "IO error: " ++ error.message
  | .unreadableConfig path problem =>
      "Configuration error: Failed to parse " ++ path ++ ": " ++ detail problem
  | .invalidConfig fault => "Configuration error: " ++ fault.message
  | .insertion error => "Edit error: " ++ error.message

/-- The words for a failure. -/
def Failure.message (f : Failure) : String := f.messageWith Json.Problem.message

end BeanMapper
