import EdgeProxy.File.Tree
/-!
Finding the settings file: in a directory or the nearest one above it.
-/

namespace EdgeProxy.Settings

def fileName : String := "homeroute.yml"

def maxDirectories : Nat := 20

/-- Search a directory and those above it. -/
def locateFrom (files : Files) (directory : Path) : Nat → Option Path
  | 0 => none
  | left + 1 =>
    let candidate := directory.child fileName
    if files.isFile candidate then some candidate
    else if directory.parts.isEmpty then none
    else locateFrom files directory.parent left

/-- The settings file that is in force in a directory. -/
def locate (files : Files) (directory : Path) : Option Path :=
  locateFrom files directory.resolve maxDirectories

end EdgeProxy.Settings
