import SecretScan.Config.Basic
import SecretScan.Path

/-!
# Options of a scan

What a scan leaves out and how it shows what it finds. Exclusions are matched against the key of
a path: the path relative to the root of the scan, with a slash in front, and one behind if it is
a folder.
-/

namespace SecretScan

/-- The options of a scan. -/
structure ScanOptions where
  verify : Bool := false
  mask : Bool := false
  exclusions : Exclusions := {}
  maxFileSize : Nat := ({} : Limits).maxFileSize
  maxOpenFiles : Nat := ({} : Limits).maxOpenFiles
  maxPendingLines : Nat := ({} : Limits).maxPendingLines
  deriving DecidableEq, Repr

/-- The options that a configuration gives. -/
def ScanOptions.ofConfig (c : Config) (verify mask : Bool) : ScanOptions where
  verify := verify
  mask := mask
  exclusions := c.exclusions
  maxFileSize := c.limits.maxFileSize
  maxOpenFiles := c.limits.maxOpenFiles
  maxPendingLines := c.limits.maxPendingLines

namespace Exclusions

/-- The key of a path below a root. Backslashes count as slashes. -/
def keyOf (root path : String) (isFolder : Bool) : String :=
  let relative := (Path.dropBase? root path).getD path
  let key := '/' :: (Text.replaceChar '\\' '/' relative.toList).dropWhile (· == '/')
  String.ofList (if isFolder && key.getLast? != some '/' then key ++ ['/'] else key)

/-- Does a text contain one of the excluded paths? Empty ones exclude nothing. -/
def containsPath (e : Exclusions) (text : String) : Bool :=
  e.paths.any fun p => p ≠ "" && Text.occurs p text

/-- Is the path with this key excluded? -/
def excludes (e : Exclusions) (key : String) : Bool :=
  e.containsPath key ||
    e.extensions.any fun x => x ≠ "" && Text.endsWith x.toList key.toList

end Exclusions

end SecretScan
