import FormCapture.Files
import FormCapture.Settings.Basic

/-! # The settings file

Which file the settings are read from. A file named on the command line has to be there; without one,
the first that is there of `usualPaths` is read, and none is needed. A file that is there but cannot be
read is an error, whichever it is. -/

namespace FormCapture.Settings

def under (directory name : Text) : Text :=
  if directory.isEmpty || directory.getLast? = some '/' then directory ++ name
  else directory ++ '/' :: name

/-- Where a settings file is looked for, under the working directory, under the home directory if
there is one, and under the system's own. -/
def usualPaths (home : Option Text) : List Text :=
  ["mimewire.ini".toList, "mimewire.conf".toList] ++
    (home.map fun h => under h ".config/mimewire/config.ini".toList).toList ++
    ["/etc/mimewire/config.ini".toList]

def locate (options : Options) (files : Files) (home : Option Text) :
    Except Error (Option (Text × Entry)) :=
  match options.configFile with
  | some path =>
    match files path with
    | some entry => .ok (some (path, entry))
    | none => .error (.invalidConfiguration
        ("Config file specified but not found: " ++ String.ofList path))
  | none => .ok ((usualPaths home).findSome? fun path => (files path).map fun e => (path, e))

def readEntry (path : Text) (entry : Entry) : Except Error Ini :=
  match entry.text with
  | .ok t => Ini.ofText t
  | .error fault => .error (.invalidConfiguration
      ("cannot read " ++ String.ofList path ++ ": " ++ fault.message))

def load (options : Options) (files : Files) (home : Option Text) : Except Error Settings := do
  match ← locate options files home with
  | some (path, entry) => ofSources options (← readEntry path entry)
  | none => ofSources options Ini.empty

end FormCapture.Settings
