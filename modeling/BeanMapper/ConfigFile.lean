import BeanMapper.Failure
import BeanMapper.Schema.Config

/-!
# Configuration files — finding, reading and writing settings

    The settings for a file are in the nearest directory at or above it, as
    far as the spelling of its path goes, that holds a configuration file.  A
    file is taken only if its settings are valid.
-/

namespace BeanMapper.ConfigFile

/-- The name that a configuration file is made with. -/
def preferredName : String := ".o2ox.json"

/-- The names of configuration files; in one directory the first one is preferred. -/
def names : List String := [preferredName, "o2ox.json"]

/-- The configuration file in a directory. -/
def inDirectory? (fs : FileSystem) (directory : String) : Option String :=
  (names.map (Path.join directory)).find? fs.isFile

/-- The nearest configuration file for a file or a directory. -/
def find? (fs : FileSystem) (start : String) : Option String :=
  let first := if fs.isFile start then Path.parent? start else some start
  first.bind fun directory => (Path.ancestors directory).findSome? (inDirectory? fs)

/-- The settings that a text holds, if they are valid. -/
def parse (path text : String) : Except Failure Config :=
  match Json.Decode.text Schema.config text with
  | .error problem => .error (.unreadableConfig path problem)
  | .ok config =>
      match config.fault? with
      | some fault => .error (.invalidConfig fault)
      | none => .ok { config with loadedFrom := some path }

/-- Reads the settings in the file at a path. -/
def load (fs : FileSystem) (path : String) : Except Failure Config :=
  match fs.read path with
  | .error e => .error (.file e)
  | .ok text => parse path text

/-- The settings for a file or a directory; without a configuration file they are the default. -/
def discover (fs : FileSystem) (start : String) : Except Failure Config :=
  match find? fs start with
  | some path => load fs path
  | none => .ok Config.default

/-- The text of a configuration file. -/
def text (config : Config) : String := (Schema.ofConfig config).text

/-- Writes settings to the file at a path. -/
def save (fs : FileSystem) (path : String) (config : Config) : Except Failure FileSystem :=
  match fs.write path (text config) with
  | .error e => .error (.file e)
  | .ok fs => .ok fs

end BeanMapper.ConfigFile
