import SnippetPage.Config.File
import SnippetPage.Text.Pieces

/-!
# Where settings are kept

The files and directories that hold settings, among the files that exist. A path is the list of its
names from the root.
-/

namespace SnippetPage

abbrev Path := List String

def Path.text (p : Path) : String :=
  String.join (p.map fun name => "/" ++ name)

/-- Follows a path from a directory. Two dots lead up, and one dot or nothing leads nowhere. -/
def Path.follow (start : Path) (s : String) : Path :=
  (Text.pieces '/' s).foldl
    (fun p name =>
      if name = "" ∨ name = "." then p else if name = ".." then p.dropLast else p ++ [name])
    start

/-- The files that exist. The directories are those of the files and those that are made. -/
structure Files where
  /-- The files with their text; there is none for a file that is no text. -/
  files : List (Path × Option String) := []

namespace Files

def isFile (fs : Files) (p : Path) : Bool :=
  fs.files.any (·.1 == p)

def text? (fs : Files) (p : Path) : Option String :=
  ((fs.files.find? (·.1 == p)).map Prod.snd).join

/-- Whether a directory can be made with all directories above it: no file is in the way. -/
def canMake (fs : Files) (p : Path) : Bool :=
  (List.range (p.length + 1)).all fun n => !fs.isFile (p.take n)

end Files

structure Surroundings where
  files : Files := {}
  /-- The directory that relative paths start from. -/
  here : Path
  home : Path
  /-- Where the user keeps settings, if that is set. -/
  configHome : Option String := none
  /-- Where the user keeps data that can be lost, if that is set. -/
  cacheHome : Option String := none

namespace Surroundings

def programName : String := "snippet-detail"

def settingsName : String := ".snippet-detail.toml"

/-- A directory of the program in a base directory that may be set, and is set only by an absolute
path. -/
def directory (base : Option String) (preset : Path) : String :=
  let base := match base with
    | some s => if s.startsWith "/" then s else preset.text
    | none => preset.text
  (if base.endsWith "/" then base else base ++ "/") ++ programName

def make (s : Surroundings) (dir : String) : Except String String :=
  if s.files.canMake (Path.follow [] dir) then .ok dir else .error ("Could not create " ++ dir)

def configDirectory (s : Surroundings) : Except String String :=
  s.make (directory s.configHome (s.home ++ [".config"]))

def cacheDirectory (s : Surroundings) : Except String String :=
  s.make (directory s.cacheHome (s.home ++ [".cache"]))

/-- The files that the search for settings depends on: those it looks into, and those that may be in
the way of the directory for settings. -/
def searched (s : Surroundings) : List Path :=
  let dir := Path.follow [] (directory s.configHome (s.home ++ [".config"]))
  [s.here ++ [settingsName], s.home ++ [settingsName], dir ++ ["config.toml"]] ++
    (List.range (dir.length + 1)).map dir.take

/-- The settings file that is found first: here, at home or in the directory for settings. -/
def settingsText? (s : Surroundings) : Option String :=
  s.files.text? (s.here ++ [settingsName]) <|>
    s.files.text? (s.home ++ [settingsName]) <|>
    match s.configDirectory with
    | .ok dir => s.files.text? (Path.follow [] dir ++ ["config.toml"])
    | .error _ => none

/-- The settings that are found, or the defaults. -/
def settings (s : Surroundings) : Config :=
  (s.settingsText?.bind Config.read?).getD {}

def resolve (s : Surroundings) (path : String) : Path :=
  Path.follow (if path.startsWith "/" then [] else s.here) path

/-- The settings of a given file, or what is wrong with it. -/
def settingsAt (s : Surroundings) (path : String) : Except String Config :=
  match s.files.text? (s.resolve path) with
  | none => .error ("Could not read config file " ++ path)
  | some source =>
    match Config.read? source with
    | some config => .ok config
    | none => .error ("Could not parse config file " ++ path)

end Surroundings

end SnippetPage
